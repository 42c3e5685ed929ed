import KubeOps.Execution.Run

/-! Calls on one operation, one after the other. Every call is given the run the
journal holds, and an exception ends the call but keeps what it has written. -/
namespace KubeOps.Execution

open KubeOps.Foundation KubeOps.Models KubeOps.Policy KubeOps.Actions

inductive Call where
  | authorize (policy : ExecutionPolicy) (context : RuntimeContext)
  | addApproval (approval : ApprovalRecord)
  | run (policy : ExecutionPolicy) (context : RuntimeContext)
      (verificationConditions : Option (List VerificationCondition)) (rollbackOnFailure : Bool)
  | cancel (reason : String)
  | pause (reason : String)
  | resume (policy : ExecutionPolicy) (context : RuntimeContext)
      (verificationConditions : Option (List VerificationCondition))
  | rollback (context : RuntimeContext)
  | reconcileExternalReceipts (receipts : List ActionReceipt)
      (currentActionIds : Option (List String))
  | verifyExternal (context : RuntimeContext)
      (verificationConditions : Option (List VerificationCondition))

namespace Call

def authority : Call → Option (ExecutionPolicy × RuntimeContext)
  | .authorize policy context | .run policy context _ _ | .resume policy context _ =>
    some (policy, context)
  | _ => none

def receipts : Call → List ActionReceipt
  | .reconcileExternalReceipts receipts _ => receipts
  | _ => []

def perform (runtime : OperationRuntime) (operation : OperationRun) : Call → Runtime OperationRun
  | .authorize policy context => runtime.authorize operation policy context
  | .addApproval approval => runtime.addApproval operation approval
  | .run policy context conditions rollbackOnFailure =>
    runtime.run operation policy context conditions rollbackOnFailure
  | .cancel reason => runtime.cancel operation reason
  | .pause reason => runtime.pause operation reason
  | .resume policy context conditions =>
    runtime.resume operation.operationId policy context conditions
  | .rollback context => runtime.rollback operation context
  | .reconcileExternalReceipts receipts currentActionIds =>
    runtime.reconcileExternalReceipts operation receipts currentActionIds
  | .verifyExternal context conditions => runtime.verifyExternal operation context conditions

end Call

namespace OperationRuntime

/-- The arguments of `create`. -/
structure Creation where
  environmentId : String
  plan : RecoveryPlan
  mode : OperationMode
  approvals : List ApprovalRecord

def created (runtime : OperationRuntime) (creation : Creation) : Trace Effect :=
  ((runtime.create creation.environmentId creation.plan creation.mode creation.approvals).exec
    (Trace.start Effect)).2

def step (runtime : OperationRuntime) (trace : Trace Effect) (call : Call) : Trace Effect :=
  match latest trace.log with
  | some operation => ((call.perform runtime operation).exec trace).2
  | none => trace

def session (runtime : OperationRuntime) (creation : Creation) (calls : List Call) : Trace Effect :=
  calls.foldl runtime.step (runtime.created creation)

end OperationRuntime

open OperationRuntime (Creation)

/-- `later` has the plan and receipts of `earlier`. -/
structure Updates (earlier later : OperationRun) : Prop where
  operationId : later.operationId = earlier.operationId
  mode : later.mode = earlier.mode
  actions : later.plan.actions.map ActionInstance.unmarked =
    earlier.plan.actions.map ActionInstance.unmarked
  receipted : later.actionReceipts = earlier.actionReceipts

theorem Extends.updates {earlier later : OperationRun} {events : List OperationEvent}
    (h : Extends earlier later [] events) : Updates earlier later where
  operationId := h.operationId
  mode := h.mode
  actions := h.actions
  receipted := by rw [h.receipted, List.append_nil]

/-- `later` has the plan of `earlier` and its receipts merged with `receipts`. -/
structure Reconciles (earlier later : OperationRun) (receipts : List ActionReceipt) : Prop where
  operationId : later.operationId = earlier.operationId
  mode : later.mode = earlier.mode
  actions : later.plan.actions.map ActionInstance.unmarked =
    earlier.plan.actions.map ActionInstance.unmarked
  receipted : later.actionReceipts =
    OperationRuntime.mergeReceipts earlier.actionReceipts receipts

theorem mem_mergeReceipts {own external : List ActionReceipt} {receipt : ActionReceipt}
    (h : receipt ∈ OperationRuntime.mergeReceipts own external) :
    receipt ∈ own ∨ receipt ∈ external := by
  rw [OperationRuntime.mergeReceipts, List.mem_insertionSort, Dict.mem_values] at h
  obtain ⟨key, hentry⟩ := h
  obtain ⟨found, hfound, heq⟩ := List.mem_map.mp (Dict.mem_of_mem_ofList hentry)
  rw [← (Prod.mk.inj heq).2]
  exact List.mem_append.mp hfound

def AlreadyProjected (runtime : OperationRuntime) (operation : OperationRun)
    (receipts : List ActionReceipt) (currentActionIds : Option (List String)) : Prop :=
  let merged := OperationRuntime.mergeReceipts operation.actionReceipts receipts
  let latestByAction := Dict.ofList (merged.map fun receipt => (receipt.actionId, receipt))
  let current := sortedSet (currentActionIds.getD [])
  let actions := operation.plan.actions.map fun action =>
    { action with status :=
        OperationRuntime.projectedStatus action current (latestByAction.get? action.actionId) }
  operation.metadata.get? "external_projection_hash" = some (.str
    (runtime.projectionHash merged current (OperationRuntime.reconciledStatus actions)))

instance (runtime : OperationRuntime) (operation : OperationRun) (receipts : List ActionReceipt)
    (currentActionIds : Option (List String)) :
    Decidable (AlreadyProjected runtime operation receipts currentActionIds) :=
  inferInstanceAs (Decidable (_ = some (Json.str _)))

theorem receiptIds_mergeReceipts {own external : List ActionReceipt} {receiptId : String} :
    receiptId ∈ (OperationRuntime.mergeReceipts own external).map ActionReceipt.receiptId ↔
      receiptId ∈ own.map ActionReceipt.receiptId ∨ receiptId ∈ external.map ActionReceipt.receiptId := by
  -- The dictionary keeps every receipt under its own id.
  have hkeyed : ∀ entry ∈ (Dict.ofList ((own ++ external).map fun receipt =>
      (receipt.receiptId, receipt))).entries, entry.1 = entry.2.receiptId := by
    intro entry hentry
    obtain ⟨receipt, -, rfl⟩ := List.mem_map.mp (Dict.mem_of_mem_ofList hentry)
    rfl
  have hkeys : receiptId ∈ (Dict.ofList ((own ++ external).map fun receipt =>
      (receipt.receiptId, receipt))).keys ↔ receiptId ∈ own.map ActionReceipt.receiptId ∨
        receiptId ∈ external.map ActionReceipt.receiptId := by
    simp [Function.comp_def]
  rw [← hkeys, Dict.mem_keys]
  simp only [OperationRuntime.mergeReceipts, List.mem_map, List.mem_insertionSort, Dict.mem_values]
  constructor
  · rintro ⟨receipt, ⟨key, hentry⟩, rfl⟩
    exact ⟨receipt, hkeyed _ hentry ▸ hentry⟩
  · rintro ⟨receipt, hentry⟩
    exact ⟨receipt, ⟨receiptId, hentry⟩, (hkeyed _ hentry).symm⟩

/-- What one call given `given` may add to the log `base`. -/
inductive CallSegment (runtime : OperationRuntime) (base : Log) (given : OperationRun) :
    Call → Log → Prop where
  | idle (call : Call) : CallSegment runtime base given call []
  | updates (call : Call) (later : OperationRun) (hauthority : call.authority = none)
      (h : Updates given later) : CallSegment runtime base given call [.saved later]
  | reconciles (receipts : List ActionReceipt) (currentActionIds : Option (List String))
      (later : OperationRun) (h : Reconciles given later receipts) :
      CallSegment runtime base given (.reconcileExternalReceipts receipts currentActionIds)
        [.saved later]
  | runs (call : Call) (policy : ExecutionPolicy) (context : RuntimeContext) (segment : Log)
      (hauthority : call.authority = some (policy, context))
      (h : Monitored (RunPermits runtime given policy context base) segment) :
      CallSegment runtime base given call segment
  | resumes (policy : ExecutionPolicy) (context : RuntimeContext)
      (conditions : Option (List VerificationCondition)) (started : OperationRun)
      (event : OperationEvent) (segment : Log) (hstarted : Extends given started [] [event])
      (h : Monitored (RunPermits runtime started policy context (base ++ [.saved started])) segment) :
      CallSegment runtime base given (.resume policy context conditions) (.saved started :: segment)
  | rollsBack (context : RuntimeContext) (segment : Log)
      (h : Monitored (RollbackPermits runtime given context base) segment) :
      CallSegment runtime base given (.rollback context) segment

section Rules

variable {runtime : OperationRuntime} {given operation : OperationRun} {base : Log}
  {order : List String}

theorem validate_eq_ok {python : Python} {loaded : OperationRun}
    (h : operation.validate python = .ok loaded) :
    loaded = operation ∧ operation.plan.Accepted python := by
  unfold OperationRun.validate at h
  obtain ⟨_, hplan, h⟩ := except_bind_eq_ok h
  obtain ⟨_, -, h⟩ := except_bind_eq_ok h
  exact ⟨(Except.ok.inj h).symm, hplan⟩

theorem eq_of_readBack {python : Python} {codec : JsonCodec OperationRun} {loaded : OperationRun}
    (h : FileOperationStore.readBack codec python operation = .ok loaded) : loaded = operation := by
  rw [FileOperationStore.readBack_eq] at h
  exact (validate_eq_ok h).1

theorem content_latest {log : Log} (h : latest log = some operation) :
    FileOperationStore.content log (FileOperationStore.pathFor operation.operationId) =
      some operation := by
  obtain ⟨earlier, hruns⟩ := List.getLast?_eq_some_iff.mp h
  simp [FileOperationStore.content, hruns]

theorem load_content_rule {operationId : String} {failed : PyError → Log → Prop}
    (hcontent : FileOperationStore.content base (FileOperationStore.pathFor operationId) = some given)
    (hfailed : ∀ error, failed error base) :
    Triple (fun log => log = base) (FileOperationStore.load runtime.codec runtime.python operationId)
      (fun loaded log => loaded = given ∧ log = base) failed := by
  rintro trace rfl
  rw [FileOperationStore.load, Program.exec_consult, hcontent]
  dsimp only
  cases hread : FileOperationStore.readBack runtime.codec runtime.python given with
  | ok loaded => exact ⟨eq_of_readBack hread, rfl⟩
  | error error => exact hfailed error

theorem load_rule (hlatest : latest base = some given) :
    Triple (fun log => log = base)
      (FileOperationStore.load runtime.codec runtime.python given.operationId)
      (fun loaded log => loaded = given ∧ log = base) (fun _ log => log = base) :=
  load_content_rule (content_latest hlatest) fun _ => rfl

theorem updates_rule {call : Call} {later : OperationRun} (hauthority : call.authority = none)
    (h : Updates given later) :
    Triple (fun log => log = base) (do FileOperationStore.save later; return later)
      (fun _ => After base (CallSegment runtime base given call))
      (fun _ => After base (CallSegment runtime base given call)) := by
  refine OperationRuntime.saved_rule ?_
  rintro log rfl
  exact ⟨_, rfl, .updates call later hauthority h⟩

theorem idle_rule {call : Call} {error : PyError} :
    Triple (fun log => log = base) (Program.raise error : Runtime OperationRun)
      (fun _ => After base (CallSegment runtime base given call))
      (fun _ => After base (CallSegment runtime base given call)) := by
  refine Triple.raise ?_
  rintro log rfl
  exact After.start (.idle call)

theorem reconcile_rule {receipts : List ActionReceipt} {currentActionIds : Option (List String)} :
    Triple (fun log => log = base)
      (runtime.reconcileExternalReceipts given receipts currentActionIds)
      (fun _ => After base (CallSegment runtime base given
        (.reconcileExternalReceipts receipts currentActionIds)))
      (fun _ => After base (CallSegment runtime base given
        (.reconcileExternalReceipts receipts currentActionIds))) := by
  have hproject : ∀ actions status current hash,
      actions.map ActionInstance.unmarked = given.plan.actions.map ActionInstance.unmarked →
      Triple (fun log => log = base)
        (OperationRuntime.reconcileExternalReceipts.project runtime given
          (OperationRuntime.mergeReceipts given.actionReceipts receipts) current actions status hash)
        (fun _ => After base (CallSegment runtime base given
          (.reconcileExternalReceipts receipts currentActionIds)))
        (fun _ => After base (CallSegment runtime base given
          (.reconcileExternalReceipts receipts currentActionIds))) := by
    intro actions status current hash hactions
    unfold OperationRuntime.reconcileExternalReceipts.project OperationRuntime.utcNowIso
    refine Triple.bind_tick fun now => OperationRuntime.bind_event fun event _ _ => ?_
    refine OperationRuntime.saved_rule ?_
    rintro log rfl
    exact ⟨_, rfl, .reconciles receipts currentActionIds _ ⟨rfl, rfl, hactions, rfl⟩⟩
  unfold OperationRuntime.reconcileExternalReceipts
  dsimp only
  split
  · refine Triple.ite (fun _ => Triple.pure ?_) fun _ => hproject _ _ _ _ ?_
    · rintro log rfl
      exact After.start (.idle _)
    · simp [Function.comp_def, ActionInstance.unmarked]
  · refine hproject _ _ _ _ ?_
    simp [Function.comp_def, ActionInstance.unmarked]

variable (runtime) in
theorem perform_rule (hplan : given.plan.DependencyOrder order) (hlatest : latest base = some given)
    (call : Call) :
    Triple (fun log => log = base) (call.perform runtime given)
      (fun _ => After base (CallSegment runtime base given call))
      (fun _ => After base (CallSegment runtime base given call)) := by
  cases call with
  | authorize policy context =>
    exact Triple.weaken (authorize_rule runtime given policy context base) (fun _ h => h)
      (fun _ _ h => h.mono fun segment hsegment =>
        .runs _ policy context segment rfl hsegment.monitored)
      fun _ _ h => h.mono fun segment hsegment => .runs _ policy context segment rfl hsegment
  | run policy context conditions rollbackOnFailure =>
    exact Triple.weaken (run_rule runtime policy context base hplan conditions rollbackOnFailure) (fun _ h => h)
      (fun _ _ h => h.mono fun segment hsegment => .runs _ policy context segment rfl hsegment)
      fun _ _ h => h.mono fun segment hsegment => .runs _ policy context segment rfl hsegment
  | addApproval approval =>
    simp only [Call.perform, OperationRuntime.addApproval]
    refine Triple.ite (fun _ => idle_rule) fun _ => ?_
    refine OperationRuntime.bind_noted fun later event hnext _ _ => updates_rule rfl ?_
    exact { hnext.updates with }
  | cancel reason =>
    simp only [Call.perform, OperationRuntime.cancel, OperationRuntime.utcNowIso]
    refine Triple.ite (fun _ => idle_rule) fun _ => Triple.bind_tick fun completedAtIso => ?_
    refine OperationRuntime.bind_noted fun later event hnext _ _ => updates_rule rfl ?_
    exact { hnext.updates with }
  | pause reason =>
    simp only [Call.perform, OperationRuntime.pause]
    refine Triple.ite (fun _ => idle_rule) fun _ => ?_
    refine OperationRuntime.bind_noted fun later event hnext _ _ => updates_rule rfl ?_
    exact { hnext.updates with }
  | resume policy context conditions =>
    simp only [Call.perform, OperationRuntime.resume]
    refine Triple.bind (Triple.weaken (load_rule hlatest) (fun _ h => h) (fun _ _ h => h)
      fun _ _ h => h ▸ After.start (.idle _)) fun loaded => ?_
    refine Triple.assuming (fun _ h => h.1) fun hloaded => ?_
    subst hloaded
    refine Triple.weaken (Triple.ite
      (fun _ => idle_rule) fun _ => ?_) (fun _ h => h.2) (fun _ _ h => h) fun _ _ h => h
    refine OperationRuntime.bind_noted fun later event hnext _ _ => ?_
    have hstarted : Extends loaded { later with
        status := .created, pauseReason := none, failureReason := none } [] [event] := { hnext with }
    refine Triple.bind_record
      (m := fun log => log = base ++ [.saved { later with
        status := .created, pauseReason := none, failureReason := none }]) (fun _ h => h ▸ rfl) ?_
    refine Triple.weaken (run_rule runtime policy context _ (hplan.of_unmarked hstarted.actions)
      conditions true) (fun _ h => h) ?_ ?_
    · rintro _ log ⟨segment, rfl, hsegment⟩
      exact ⟨_, List.append_assoc .., .resumes policy context conditions _ event segment hstarted
        hsegment⟩
    · rintro _ log ⟨segment, rfl, hsegment⟩
      exact ⟨_, List.append_assoc .., .resumes policy context conditions _ event segment hstarted
        hsegment⟩
  | rollback context =>
    refine Triple.weaken (rollback_rule given base fun _ _ h => h) ?_
      (fun _ _ h => h.mono fun segment hsegment => .rollsBack context segment hsegment.1)
      fun _ _ h => h.mono fun segment hsegment => .rollsBack context segment hsegment
    rintro log rfl
    exact After.start ⟨Monitored.nil, Progress.refl⟩
  | reconcileExternalReceipts receipts currentActionIds => exact reconcile_rule
  | verifyExternal context conditions =>
    simp only [Call.perform, OperationRuntime.verifyExternal, OperationRuntime.utcNowIso]
    refine Triple.ite (fun _ => idle_rule) fun _ => ?_
    refine Triple.bind (evaluateConditions_rule fun _ log h => h ▸ After.start (.idle _))
      fun results => Triple.bind_tick fun now => ?_
    refine OperationRuntime.bind_event fun event _ _ => updates_rule rfl ?_
    exact ⟨rfl, rfl, rfl, rfl⟩

/-- A plan with the actions of `plan`, their marks aside. -/
def SameActions (plan : RecoveryPlan) (operation : OperationRun) : Prop :=
  operation.plan.actions.map ActionInstance.unmarked = plan.actions.map ActionInstance.unmarked

theorem CallSegment.saved_sameActions {call : Call} {segment : Log} {later : OperationRun}
    (h : CallSegment runtime base given call segment) (hmem : .saved later ∈ segment) :
    SameActions given.plan later := by
  cases h with
  | idle => cases hmem
  | updates _ _ hauthority hupdates =>
    obtain rfl := Effect.saved.inj (List.mem_singleton.mp hmem)
    exact hupdates.actions
  | reconciles receipts currentActionIds _ hreconciles =>
    obtain rfl := Effect.saved.inj (List.mem_singleton.mp hmem)
    exact hreconciles.actions
  | runs _ policy context _ hauthority hmonitored =>
    obtain ⟨before, -, ⟨receipts, events, hextends, -⟩, -⟩ := hmonitored.permits_of_mem hmem
    exact hextends.actions
  | resumes policy context conditions started event segment hstarted hmonitored =>
    rcases List.mem_cons.mp hmem with heq | hmem
    · obtain rfl := Effect.saved.inj heq
      exact hstarted.actions
    · obtain ⟨before, -, ⟨receipts, events, hextends, -⟩, -⟩ := hmonitored.permits_of_mem hmem
      exact hextends.actions.trans hstarted.actions
  | rollsBack context _ hmonitored =>
    obtain ⟨before, -, ⟨receipts, events, hextends, -⟩, -⟩ := hmonitored.permits_of_mem hmem
    exact hextends.actions

end Rules

section Sessions

variable {runtime : OperationRuntime} {creation : Creation}

/-- What `create` writes first. -/
structure Begins (creation : Creation) (operation : OperationRun) : Prop where
  actions : operation.plan.actions = creation.plan.actions
  unreceipted : operation.actionReceipts = []
  mode : operation.mode = creation.mode

theorem create_rule (runtime : OperationRuntime) (creation : Creation) (base : Log) :
    Triple (fun log => log = base)
      (runtime.create creation.environmentId creation.plan creation.mode creation.approvals)
      (fun operation log => (Begins creation operation ∧ operation.startedAtIso = none ∧
        let segment := Text.lastSegment creation.plan.planId ':'
        operation.operationId = s!"operation:{creation.environmentId}:{segment}") ∧
        log = base ++ [.saved operation])
      (fun _ log => log = base) := by
  unfold OperationRuntime.create OperationRuntime.utcNowIso OperationRuntime.validateInstance
  refine Triple.bind (m := fun _ log => log = base) ?_ fun _ => ?_
  · exact Triple.weaken (Triple.mapM (i := fun _ _ log => log = base) fun done action results _ =>
      Triple.attempt (fun _ _ _ h => h) fun _ _ _ h => h) (fun _ h => h) (fun _ _ h => h)
      fun _ _ h => h
  · refine Triple.bind_tick fun now => OperationRuntime.bind_event fun event _ _ => ?_
    refine Triple.bind_attempt (fun _ _ => ?_) fun _ _ _ h => h
    refine OperationRuntime.saved_rule ?_
    rintro log rfl
    exact ⟨⟨⟨rfl, rfl, rfl⟩, rfl, rfl⟩, rfl⟩

theorem created_log (runtime : OperationRuntime) (creation : Creation) :
    (runtime.created creation).log = [] ∨
      ∃ operation, Begins creation operation ∧ (runtime.created creation).log = [.saved operation] := by
  have hout := create_rule runtime creation [] (Trace.start Effect) rfl
  unfold OperationRuntime.created
  revert hout
  rcases (runtime.create creation.environmentId creation.plan creation.mode
    creation.approvals).exec (Trace.start Effect) with ⟨result, reached⟩
  cases result with
  | ok operation => exact fun hout => Or.inr ⟨operation, hout.1.1, hout.2⟩
  | error error => exact Or.inl

theorem mem_of_latest {log : Log} {operation : OperationRun} (h : latest log = some operation) :
    .saved operation ∈ log :=
  mem_savedRuns.mp (List.mem_of_getLast? h)

theorem session_concat (runtime : OperationRuntime) (creation : Creation) (calls : List Call)
    (call : Call) :
    runtime.session creation (calls ++ [call]) = runtime.step (runtime.session creation calls) call :=
  List.foldl_concat ..

def Advances (runtime : OperationRuntime) (creation : Creation) (calls : List Call) (call : Call)
    (segment : Log) : Prop :=
  (runtime.session creation (calls ++ [call])).log =
      (runtime.session creation calls).log ++ segment ∧
    (segment = [] ∨ ∃ given, latest (runtime.session creation calls).log = some given ∧
      SameActions creation.plan given ∧
      CallSegment runtime (runtime.session creation calls).log given call segment)

theorem advances_of_saved (hplan : creation.plan.Accepted runtime.python) {calls : List Call}
    (hsaved : ∀ operation, .saved operation ∈ (runtime.session creation calls).log →
      SameActions creation.plan operation) (call : Call) :
    ∃ segment, Advances runtime creation calls call segment := by
  unfold Advances
  rw [session_concat, OperationRuntime.step]
  cases hlatest : latest (runtime.session creation calls).log with
  | none => exact ⟨[], (List.append_nil _).symm, Or.inl rfl⟩
  | some given =>
    have hsame := hsaved given (mem_of_latest hlatest)
    obtain ⟨order, horder⟩ := hplan.exists_order
    have hout := perform_rule runtime (horder.of_unmarked hsame) hlatest
      call (runtime.session creation calls) rfl
    dsimp only
    revert hout
    rcases (call.perform runtime given).exec (runtime.session creation calls) with ⟨result, reached⟩
    cases result with
    | ok value => exact fun ⟨segment, hlog, h⟩ => ⟨segment, hlog, Or.inr ⟨given, rfl, hsame, h⟩⟩
    | error error => exact fun ⟨segment, hlog, h⟩ => ⟨segment, hlog, Or.inr ⟨given, rfl, hsame, h⟩⟩

theorem session_sameActions (hplan : creation.plan.Accepted runtime.python) (calls : List Call) :
    ∀ operation, .saved operation ∈ (runtime.session creation calls).log →
      SameActions creation.plan operation := by
  induction calls using List.reverseRecOn with
  | nil =>
    intro operation hmem
    change _ ∈ (runtime.created creation).log at hmem
    rcases created_log runtime creation with hlog | ⟨begun, hbegun, hlog⟩
    · rw [hlog] at hmem
      cases hmem
    · rw [hlog] at hmem
      obtain rfl := Effect.saved.inj (List.mem_singleton.mp hmem)
      exact congrArg _ hbegun.actions
  | append_singleton calls call ih =>
    intro operation hmem
    obtain ⟨segment, hlog, hsegment⟩ := advances_of_saved hplan ih call
    rw [hlog, List.mem_append] at hmem
    rcases hmem with hold | hnew
    · exact ih operation hold
    · rcases hsegment with rfl | ⟨given, hlatest, hsame, hcall⟩
      · cases hnew
      · exact (hcall.saved_sameActions hnew).trans hsame

theorem session_advances (hplan : creation.plan.Accepted runtime.python) (calls : List Call)
    (call : Call) : ∃ segment, Advances runtime creation calls call segment :=
  advances_of_saved hplan (session_sameActions hplan calls) call

theorem session_prefix (hplan : creation.plan.Accepted runtime.python) (done rest : List Call) :
    (runtime.session creation done).log <+: (runtime.session creation (done ++ rest)).log := by
  induction rest using List.reverseRecOn with
  | nil => rw [List.append_nil]
  | append_singleton rest call ih =>
    obtain ⟨segment, hlog, -⟩ := session_advances hplan (done ++ rest) call
    rw [← List.append_assoc, hlog]
    exact ih.trans (List.prefix_append _ _)

theorem holds_of_perform {holds : Log → Prop} {calls : List Call} {call : Call} {given : OperationRun}
    {segment : Log} (hlatest : latest (runtime.session creation calls).log = some given)
    (hlog : (runtime.session creation (calls ++ [call])).log =
      (runtime.session creation calls).log ++ segment)
    (h : Triple (fun log => log = (runtime.session creation calls).log) (call.perform runtime given)
      (fun _ => After (runtime.session creation calls).log holds)
      (fun _ => After (runtime.session creation calls).log holds)) : holds segment := by
  have hout := h (runtime.session creation calls) rfl
  rw [session_concat, OperationRuntime.step, hlatest] at hlog
  dsimp only at hlog
  revert hlog hout
  rcases (call.perform runtime given).exec (runtime.session creation calls) with ⟨result, reached⟩
  cases result <;>
  · rintro hlog ⟨found, hfound, hholds⟩
    obtain rfl : found = segment := List.append_cancel_left (hfound.symm.trans hlog)
    exact hholds

end Sessions

end KubeOps.Execution
