import KubeOps.Execution.FailureBehavior
import KubeOps.Execution.Invariant

/-! What a rollback certifies. A compensation that fails is recorded like one that succeeds and
the certificate is issued all the same; one that raises ends the rollback. -/
namespace KubeOps.Execution

open KubeOps.Foundation KubeOps.Models KubeOps.Policy KubeOps.Actions
open OperationRuntime (attempts executorFor rollbackAction rollbackStatus markActions)

section Executors

variable (operation : OperationRun) (executor : ActionExecutor) (action : ActionInstance)
  (definition : ActionTypeDefinition) (context : ExecutionContext)

def asked (attempt : Nat) (trace : Trace Effect) : Trace Effect :=
  ⟨trace.log ++ [.invoked operation executor.executorId action context attempt], trace.ticks⟩

/-- The executor raises nothing and ends with this status, when it is asked at most so many
times from this attempt on, and again only after a failure. -/
inductive EndsWith : Nat → Nat → Trace Effect → ReceiptStatus → Prop
  | succeeded {remaining attempt : Nat} {trace : Trace Effect} {outcome : ExecutorOutcome}
      (answered : executor.execute (asked operation executor action context attempt trace) action definition
        context attempt = .ok outcome)
      (successful : outcome.status.successful = true) :
      EndsWith (remaining + 1) attempt trace outcome.status
  | spent {attempt : Nat} {trace : Trace Effect} {outcome : ExecutorOutcome}
      (answered : executor.execute (asked operation executor action context attempt trace) action definition
        context attempt = .ok outcome)
      (failed : outcome.status.successful = false) : EndsWith 1 attempt trace outcome.status
  | again {remaining attempt : Nat} {trace : Trace Effect} {outcome : ExecutorOutcome} {status : ReceiptStatus}
      (answered : executor.execute (asked operation executor action context attempt trace) action definition
        context attempt = .ok outcome)
      (failed : outcome.status.successful = false)
      (later : EndsWith (remaining + 1) (attempt + 1) (asked operation executor action context attempt trace)
        status) : EndsWith (remaining + 2) attempt trace status

variable {operation executor action definition context} {status : ReceiptStatus}

theorem attempts_answered {outcome : ExecutorOutcome} {attempt : Nat} {trace : Trace Effect}
    (answered : executor.execute (asked operation executor action context attempt trace) action definition
      context attempt = .ok outcome) (remaining : Nat) (last : Option ActionReceipt) :
    (attempts operation executor action definition context (remaining + 1) attempt last).exec trace =
      if outcome.status.successful then
        (.ok (executor.receipt action context attempt outcome),
          asked operation executor action context attempt trace)
      else (attempts operation executor action definition context remaining (attempt + 1)
        (some (executor.receipt action context attempt outcome))).exec
          (asked operation executor action context attempt trace) := by
  rw [attempts, Program.exec_bind, Program.exec_record]
  dsimp only
  rw [Program.exec_bind, Program.exec_consult, ← asked, answered]
  dsimp only
  rw [show (executor.receipt action context attempt outcome).status = outcome.status from rfl]
  split
  · rfl
  · rfl

theorem attempts_raised {error : PyError} {attempt : Nat} {trace : Trace Effect}
    (answered : executor.execute (asked operation executor action context attempt trace) action definition
      context attempt = .error error) (remaining : Nat) (last : Option ActionReceipt) :
    (attempts operation executor action definition context (remaining + 1) attempt last).exec trace =
      (.error error, asked operation executor action context attempt trace) := by
  rw [attempts, Program.exec_bind, Program.exec_record]
  dsimp only
  rw [Program.exec_bind, Program.exec_consult, ← asked, answered]

theorem attempts_ok_iff {attempt : Nat} {trace : Trace Effect} {last : Option ActionReceipt}
    {remaining : Nat} :
    EndsWith operation executor action definition context (remaining + 1) attempt trace status ↔
      ∃ receipt reached, (attempts operation executor action definition context (remaining + 1) attempt
        last).exec trace = (.ok receipt, reached) ∧
          receipt.status = status := by
  induction remaining generalizing attempt trace last with
  | zero =>
    constructor
    · intro h
      cases h with
      | succeeded answered successful =>
        exact ⟨_, _, (attempts_answered answered _ _).trans (if_pos successful), rfl⟩
      | spent answered failed =>
        exact ⟨_, _, (attempts_answered answered _ _).trans (if_neg (by simp [failed])), rfl⟩
    · rintro ⟨receipt, reached, hexec, rfl⟩
      cases hanswer : executor.execute (asked operation executor action context attempt trace) action definition
        context attempt with
      | error error =>
        rw [attempts_raised hanswer] at hexec
        cases hexec
      | ok outcome =>
        rw [attempts_answered hanswer] at hexec
        split at hexec
        · next hsuccessful =>
          cases hexec
          exact .succeeded hanswer hsuccessful
        · next hfailed =>
          cases hexec
          exact .spent hanswer (Bool.eq_false_of_not_eq_true hfailed)
  | succ remaining ih =>
    constructor
    · intro h
      cases h with
      | succeeded answered successful =>
        exact ⟨_, _, (attempts_answered answered _ _).trans (if_pos successful), rfl⟩
      | again answered failed later =>
        obtain ⟨receipt, reached, hexec, hstatus⟩ := ih.mp later
        refine ⟨receipt, reached, ?_, hstatus⟩
        rw [attempts_answered answered, if_neg (by simp [failed]), hexec]
    · rintro ⟨receipt, reached, hexec, hstatus⟩
      cases hanswer : executor.execute (asked operation executor action context attempt trace) action definition
        context attempt with
      | error error =>
        rw [attempts_raised hanswer] at hexec
        cases hexec
      | ok outcome =>
        rw [attempts_answered hanswer] at hexec
        split at hexec
        · next hsuccessful =>
          cases hexec
          rw [← hstatus]
          exact .succeeded hanswer hsuccessful
        · next hfailed =>
          have hlater := ih.mpr ⟨receipt, reached, hexec, hstatus⟩
          exact .again hanswer (Bool.eq_false_of_not_eq_true hfailed) hlater

end Executors

section Compensations

variable {runtime : OperationRuntime} {context : RuntimeContext} {operation later : OperationRun}
  {receipt : ActionReceipt} {compensation : ActionInstance} {trace reached : Trace Effect}
  {status : ReceiptStatus}

/-- The action is valid, its mode is supported, its executor is registered and ends with this status. -/
structure CarriedOut (runtime : OperationRuntime) (context : RuntimeContext) (operation : OperationRun)
    (action : ActionInstance) (trace : Trace Effect) (status : ReceiptStatus)
    (definition : ActionTypeDefinition) (executor : ActionExecutor) : Prop where
  valid : runtime.actions.validateInstance runtime.python action = .ok definition
  supported : effectiveMode operation context = "dry_run" ∨
    effectiveMode operation context ∈ definition.supportedModes.map SupportedMode.text
  registered : runtime.executors.get runtime.python (executorFor operation context definition) = .ok executor
  ends : EndsWith operation executor action definition context.executionContext definition.maxAttempts 1 trace
    status

theorem executeAction_ok_iff {action : ActionInstance} :
    (∃ definition executor, CarriedOut runtime context operation action trace status definition executor) ↔
      ∃ receipt reached,
        (runtime.executeAction operation action context).exec trace = (.ok receipt, reached) ∧
          receipt.status = status := by
  unfold OperationRuntime.executeAction OperationRuntime.validateInstance
  constructor
  · rintro ⟨definition, executor, hvalid, hsupported, hregistered, hends⟩
    rw [Program.exec_bind, Program.exec_attempt, hvalid]
    dsimp only
    rw [if_neg (fun h => hsupported.elim h.1 h.2), Program.exec_bind, Program.exec_attempt, hregistered]
    dsimp only
    cases hattempts : definition.maxAttempts with
    | zero =>
      rw [hattempts] at hends
      cases hends
    | succ remaining =>
      rw [hattempts] at hends
      exact attempts_ok_iff.mp hends
  · rintro ⟨receipt, reached, hexec, hstatus⟩
    obtain ⟨definition, between, hvalid, hexec⟩ := Program.exec_bind_ok hexec
    obtain ⟨hfound, rfl⟩ := Prod.mk.inj hvalid
    dsimp only at hexec
    split at hexec
    · cases hexec
    next hsupported =>
    obtain ⟨executor, between, hregistered, hexec⟩ := Program.exec_bind_ok hexec
    obtain ⟨hexecutor, rfl⟩ := Prod.mk.inj hregistered
    refine ⟨definition, executor, hfound, ?_, hexecutor, ?_⟩
    · rw [not_and_or, not_not, not_not] at hsupported
      exact hsupported
    · cases hattempts : definition.maxAttempts with
      | zero =>
        rw [hattempts] at hexec
        cases hexec
      | succ remaining =>
        rw [hattempts] at hexec
        exact attempts_ok_iff.mpr ⟨receipt, reached, hexec, hstatus⟩

/-- How a completed action is to be undone. -/
inductive Remedy where
  | nothing
  | action (compensation : ActionInstance)
  | unresolved

def remedyOf (catalog : ActionCatalog) (original : ActionInstance) : Remedy :=
  match catalog.get original.actionTypeId with
  | .error _ => .unresolved
  | .ok definition =>
    match definition.rollbackActionTypeId.filter (· ≠ "") with
    | none => .nothing
    | some rollbackActionTypeId =>
      match catalog.get rollbackActionTypeId with
      | .error _ => .unresolved
      | .ok rollbackDefinition => .action (rollbackAction original rollbackDefinition)

def remedy (catalog : ActionCatalog) (operation : OperationRun) (receipt : ActionReceipt) : Remedy :=
  ((operation.plan.actions.find? fun action => action.actionId = receipt.actionId).map
    (remedyOf catalog)).getD .unresolved

theorem remedy_congr {catalog : ActionCatalog} (h : later.plan.actions.map ActionInstance.unmarked =
    operation.plan.actions.map ActionInstance.unmarked) (receipt : ActionReceipt) :
    remedy catalog later receipt = remedy catalog operation receipt := by
  have hfind : ∀ actions : List ActionInstance,
      (actions.find? fun action => action.actionId = receipt.actionId).map (remedyOf catalog) =
        ((actions.map ActionInstance.unmarked).find? fun action => action.actionId = receipt.actionId).map
          (remedyOf catalog) := by
    intro actions
    rw [List.find?_map, Option.map_map]
    rfl
  rw [remedy, remedy, hfind later.plan.actions, hfind operation.plan.actions, h]

variable (runtime context) in
theorem rollbackOne_cases (operation : OperationRun) (receipt : ActionReceipt) :
    (remedy runtime.actions operation receipt = .nothing ∧
      runtime.rollbackOne context operation receipt = pure operation) ∨
    (∃ compensation, remedy runtime.actions operation receipt = .action compensation ∧
      runtime.rollbackOne context operation receipt =
        runtime.executeAction operation compensation context >>= fun rollbackReceipt =>
          runtime.appendReceipt operation { rollbackReceipt with status := rollbackStatus rollbackReceipt }) ∨
    (remedy runtime.actions operation receipt = .unresolved ∧
      ∃ error, runtime.rollbackOne context operation receipt = Program.raise error) := by
  unfold OperationRuntime.rollbackOne remedy remedyOf
  cases operation.plan.actions.find? fun action => action.actionId = receipt.actionId with
  | none => exact .inr (.inr ⟨rfl, _, rfl⟩)
  | some original =>
    rw [Option.map_some, Option.getD_some]
    dsimp only
    cases runtime.actions.get original.actionTypeId with
    | error error => exact .inr (.inr ⟨rfl, error, rfl⟩)
    | ok definition =>
      dsimp only
      rw [show ∀ next : ActionTypeDefinition → Runtime OperationRun,
        (Program.attempt (.ok definition) >>= next) = next definition from fun _ => rfl]
      cases definition.rollbackActionTypeId.filter (· ≠ "") with
      | none => exact .inl ⟨rfl, rfl⟩
      | some rollbackActionTypeId =>
        dsimp only
        cases runtime.actions.get rollbackActionTypeId with
        | error error => exact .inr (.inr ⟨rfl, error, rfl⟩)
        | ok rollbackDefinition => exact .inr (.inl ⟨_, rfl, rfl⟩)

theorem rollbackOne_nothing (h : remedy runtime.actions operation receipt = .nothing) :
    runtime.rollbackOne context operation receipt = pure operation := by
  rcases rollbackOne_cases runtime context operation receipt with
    ⟨-, heq⟩ | ⟨_, hother, -⟩ | ⟨hother, -⟩
  · exact heq
  · cases h.symm.trans hother
  · cases h.symm.trans hother

theorem rollbackOne_action (h : remedy runtime.actions operation receipt = .action compensation) :
    runtime.rollbackOne context operation receipt =
      runtime.executeAction operation compensation context >>= fun rollbackReceipt =>
        runtime.appendReceipt operation { rollbackReceipt with status := rollbackStatus rollbackReceipt } := by
  rcases rollbackOne_cases runtime context operation receipt with
    ⟨hother, -⟩ | ⟨_, hother, heq⟩ | ⟨hother, -⟩
  · cases h.symm.trans hother
  · cases h.symm.trans hother
    exact heq
  · cases h.symm.trans hother

theorem resolved_of_returns
    (hexec : (runtime.rollbackOne context operation receipt).exec trace = (.ok later, reached)) :
    remedy runtime.actions operation receipt ≠ .unresolved := by
  intro h
  rcases rollbackOne_cases runtime context operation receipt with
    ⟨hother, -⟩ | ⟨_, hother, -⟩ | ⟨-, error, heq⟩
  · cases h.symm.trans hother
  · cases h.symm.trans hother
  · rw [heq] at hexec
    cases hexec

theorem appendReceipt_extends : Returns (runtime.appendReceipt operation receipt)
    fun later => ∃ event, Extends operation later [receipt] [event] := by
  refine appendReceipt_appends.mono fun later hlater => ?_
  obtain ⟨updatedAtIso, event, rfl⟩ := hlater
  exact ⟨event, rfl, rfl, rfl, markActions_unmarked _ _ _, rfl, rfl⟩

theorem appendReceipt_total (runtime : OperationRuntime) (operation : OperationRun) (receipt : ActionReceipt)
    (trace : Trace Effect) : ∃ later reached,
      (runtime.appendReceipt operation receipt).exec trace = (.ok later, reached) :=
  ⟨_, _, rfl⟩

/-- What a rollback does before the first turn. -/
def rollbackBegun (runtime : OperationRuntime) (context : RuntimeContext) (operation : OperationRun) :
    Runtime OperationRun := do
  Program.record (.rollingBack operation context.executionContext)
  let operation ← runtime.noted operation "rollback.started" "Rollback started" none ∅
  return { operation with status := .rollingBack }

def turns (runtime : OperationRuntime) (context : RuntimeContext) (operation : OperationRun)
    (receipts : List ActionReceipt) : Runtime OperationRun :=
  rollbackBegun runtime context operation >>= receipts.foldlM (runtime.rollbackOne context)

/-- What it does after the last one. -/
def rollbackCertified (runtime : OperationRuntime) (operation : OperationRun) : Runtime OperationRun := do
  let certificate : RecoveryCertificate := {
    certificateId := s!"rollback:{operation.operationId}"
    operationId := some operation.operationId
    incidentId := operation.plan.incidentId
    planId := operation.plan.planId
    status := .rollbackCompleted
    actionReceiptIds := operation.actionReceipts.map ActionReceipt.receiptId
    residualRisks := ["original target invariants were not restored"] }
  let completedAtIso ← runtime.utcNowIso
  let operation ← runtime.noted operation "rollback.completed" "Rollback completed" none ∅
  let operation := { operation with
    status := .failed, recoveryCertificate := some certificate, completedAtIso := some completedAtIso }
  FileOperationStore.save operation
  return operation

theorem rollback_eq : runtime.rollback operation context =
    turns runtime context operation (completedReceipts operation) >>= rollbackCertified runtime := by
  rw [turns, bind_assoc]
  rfl

theorem turns_concat (receipts : List ActionReceipt) : turns runtime context operation (receipts ++ [receipt]) =
    turns runtime context operation receipts >>= fun rolled => runtime.rollbackOne context rolled receipt := by
  rw [turns, turns, bind_assoc]
  congr 1
  funext started
  rw [List.foldlM_append]
  congr 1
  funext rolled
  rw [List.foldlM_cons]
  exact bind_pure _

theorem rollbackOne_extends : Returns (runtime.rollbackOne context operation receipt)
    fun later => ∃ receipts events, Extends operation later receipts events := by
  rcases rollbackOne_cases runtime context operation receipt with
    ⟨-, heq⟩ | ⟨_, -, heq⟩ | ⟨-, _, heq⟩
  · rw [heq]
    exact Returns.pure ⟨_, _, Extends.refl operation⟩
  · rw [heq]
    refine Returns.bind_any fun rollbackReceipt => appendReceipt_extends.mono fun later h => ?_
    obtain ⟨event, hextends⟩ := h
    exact ⟨_, _, hextends⟩
  · rw [heq]
    exact Returns.raise _

theorem rollbackBegun_extends : Returns (rollbackBegun runtime context operation)
    fun started => ∃ event, Extends operation started [] [event] := by
  unfold rollbackBegun
  refine Returns.bind_any fun _ => Returns.bind noted_returns fun noted hnoted => Returns.pure ?_
  obtain ⟨updatedAtIso, event, -, -, rfl⟩ := hnoted
  exact ⟨event, rfl, rfl, rfl, rfl, (List.append_nil _).symm, rfl⟩

theorem turns_extends (receipts : List ActionReceipt) : Returns (turns runtime context operation receipts)
    fun rolled => ∃ receipts events, Extends operation rolled receipts events := by
  induction receipts using List.reverseRecOn with
  | nil =>
    refine Returns.bind rollbackBegun_extends fun started h => Returns.pure ?_
    obtain ⟨event, hextends⟩ := h
    exact ⟨_, _, hextends⟩
  | append_singleton receipts receipt ih =>
    rw [turns_concat]
    refine Returns.bind ih fun rolled h => rollbackOne_extends.mono fun later hlater => ?_
    obtain ⟨earlier, recorded, hearlier⟩ := h
    obtain ⟨added, noted, hadded⟩ := hlater
    exact ⟨_, _, hearlier.trans hadded⟩

structure Turn (runtime : OperationRuntime) (context : RuntimeContext) (operation : OperationRun)
    (begun : Trace Effect) (done : List ActionReceipt) (receipt : ActionReceipt) (rolled : OperationRun)
    (trace : Trace Effect) : Prop where
  next : done ++ [receipt] <+: completedReceipts operation
  executed : (turns runtime context operation done).exec begun = (.ok rolled, trace)

/-- The receipts that the rollback of `operation` has added. -/
def addedReceipts (operation later : OperationRun) : List ActionReceipt :=
  later.actionReceipts.drop operation.actionReceipts.length

theorem addedReceipts_of_extends {receipts : List ActionReceipt} {events : List OperationEvent}
    (h : Extends operation later receipts events) : addedReceipts operation later = receipts := by
  rw [addedReceipts, h.receipted, List.drop_left]

theorem executeAction_actionId {action : ActionInstance} :
    Returns (runtime.executeAction operation action context)
      fun receipt => receipt.actionId = action.actionId :=
  Returns.of_rule (OperationRuntime.executeAction_rule (fun _ _ _ _ => trivial) fun _ _ _ => trivial)

theorem rollbackStatus_eq_rolledBack {rollbackReceipt : ActionReceipt} :
    rollbackStatus rollbackReceipt = .rolledBack ↔ rollbackReceipt.status = .completed := by
  unfold rollbackStatus
  split
  · next h => exact iff_of_true rfl h
  · next h => exact iff_of_false nofun h

theorem CarriedOut.rollbackOne {definition : ActionTypeDefinition} {executor : ActionExecutor}
    (h : CarriedOut runtime context operation compensation trace status definition executor)
    (hremedy : remedy runtime.actions operation receipt = .action compensation) :
    ∃ later reached added events,
      (runtime.rollbackOne context operation receipt).exec trace = (.ok later, reached) ∧
      Extends operation later [added] events ∧ added.actionId = compensation.actionId ∧
      (added.status = .rolledBack ↔ status = .completed) := by
  obtain ⟨rollbackReceipt, between, hexec, hstatus⟩ := executeAction_ok_iff.mp ⟨definition, executor, h⟩
  have hactionId : rollbackReceipt.actionId = compensation.actionId := executeAction_actionId.apply hexec
  let added := { rollbackReceipt with status := rollbackStatus rollbackReceipt }
  obtain ⟨later, reached, hlater⟩ := appendReceipt_total runtime operation added between
  obtain ⟨event, hextends⟩ := appendReceipt_extends.apply hlater
  refine ⟨later, reached, added, [event], ?_, hextends, hactionId, ?_⟩
  · rw [rollbackOne_action hremedy, Program.exec_bind, hexec]
    exact hlater
  · rw [← hstatus]
    exact rollbackStatus_eq_rolledBack

theorem rollbackOne_carriedOut (hremedy : remedy runtime.actions operation receipt = .action compensation)
    (hexec : (runtime.rollbackOne context operation receipt).exec trace = (.ok later, reached)) :
    ∃ status definition executor,
      CarriedOut runtime context operation compensation trace status definition executor := by
  rw [rollbackOne_action hremedy] at hexec
  obtain ⟨rollbackReceipt, between, hexecuted, -⟩ := Program.exec_bind_ok hexec
  exact ⟨rollbackReceipt.status, executeAction_ok_iff.mpr ⟨rollbackReceipt, between, hexecuted, rfl⟩⟩

end Compensations

section Rollbacks

variable {runtime : OperationRuntime} {context : RuntimeContext} {operation rolled final : OperationRun}
  {begun trace reached : Trace Effect} {receipt : ActionReceipt} {compensation : ActionInstance}
  {done rest : List ActionReceipt}

theorem Turn.remedy_eq (h : Turn runtime context operation begun done receipt rolled trace)
    (other : ActionReceipt) :
    remedy runtime.actions rolled other = remedy runtime.actions operation other := by
  obtain ⟨receipts, events, hextends⟩ := (turns_extends done).apply h.executed
  exact remedy_congr hextends.actions other

theorem turns_concat_ok (h : (turns runtime context operation (done ++ [receipt])).exec begun =
    (.ok final, reached)) : ∃ rolled trace,
      (turns runtime context operation done).exec begun = (.ok rolled, trace) ∧
      (runtime.rollbackOne context rolled receipt).exec trace = (.ok final, reached) := by
  rw [turns_concat] at h
  exact Program.exec_bind_ok h

theorem turns_append_ok (h : (turns runtime context operation (done ++ rest)).exec begun =
    (.ok final, reached)) : ∃ rolled trace, (turns runtime context operation done).exec begun =
      (.ok rolled, trace) ∧ rolled.actionReceipts <+: final.actionReceipts := by
  induction rest using List.reverseRecOn generalizing final reached with
  | nil =>
    rw [List.append_nil] at h
    exact ⟨final, reached, h, List.prefix_refl _⟩
  | append_singleton rest receipt ih =>
    rw [← List.append_assoc] at h
    obtain ⟨between, middle, hbetween, hturn⟩ := turns_concat_ok h
    obtain ⟨rolled, trace, hrolled, hkept⟩ := ih hbetween
    obtain ⟨receipts, events, hextends⟩ := rollbackOne_extends.apply hturn
    refine ⟨rolled, trace, hrolled, hkept.trans ?_⟩
    rw [hextends.receipted]
    exact List.prefix_append _ _

theorem rollback_ok_iff : (runtime.rollback operation context).exec begun = (.ok final, reached) ↔
    ∃ rolled trace, (turns runtime context operation (completedReceipts operation)).exec begun =
      (.ok rolled, trace) ∧ (rollbackCertified runtime rolled).exec trace = (.ok final, reached) := by
  rw [rollback_eq]
  constructor
  · exact Program.exec_bind_ok
  · rintro ⟨rolled, trace, hturns, hcertified⟩
    rw [Program.exec_bind, hturns]
    exact hcertified

theorem rollbackCertified_ok (runtime : OperationRuntime) (rolled : OperationRun) (trace : Trace Effect) :
    ∃ final reached, (rollbackCertified runtime rolled).exec trace = (.ok final, reached) ∧
      final.actionReceipts = rolled.actionReceipts ∧ final.status = .failed ∧
      certificateStatus final = some .rollbackCompleted :=
  ⟨_, _, rfl, rfl, rfl, rfl⟩

/-- What a rollback tells is true: it certifies its completion only if all that it has added was
rolled back, the turn of an action with a compensation in the catalog records one, and the operation
that is left can be resumed. -/
structure TellsTruth (runtime : OperationRuntime) (context : RuntimeContext) (operation : OperationRun)
    (begun : Trace Effect) : Prop where
  certified : ∀ final reached, (runtime.rollback operation context).exec begun = (.ok final, reached) →
    certificateStatus final = some .rollbackCompleted →
      ∀ receipt ∈ addedReceipts operation final, receipt.status = .rolledBack
  unbroken : ∀ done receipt rolled trace compensation,
    Turn runtime context operation begun done receipt rolled trace →
    remedy runtime.actions operation receipt = .action compensation →
      ∃ later reached added,
        (runtime.rollbackOne context rolled receipt).exec trace = (.ok later, reached) ∧
          later.actionReceipts = rolled.actionReceipts ++ [added] ∧
          added.actionId = compensation.actionId
  left : ∀ final reached, (runtime.rollback operation context).exec begun = (.ok final, reached) →
    OperationRuntime.resumable final.status = true

def CarriesOut (runtime : OperationRuntime) (context : RuntimeContext) (operation : OperationRun)
    (begun : Trace Effect) (accepted : ReceiptStatus → Prop) : Prop :=
  ∀ done receipt rolled trace compensation, Turn runtime context operation begun done receipt rolled trace →
    remedy runtime.actions operation receipt = .action compensation → ∃ status definition executor,
      accepted status ∧ CarriedOut runtime context rolled compensation trace status definition executor

/-- For every completed action it is known how it is to be undone. -/
def Resolved (runtime : OperationRuntime) (operation : OperationRun) : Prop :=
  ∀ receipt ∈ completedReceipts operation, remedy runtime.actions operation receipt ≠ .unresolved

theorem CarriesOut.turns_ok (h : CarriesOut runtime context operation begun fun _ => True)
    (hresolved : Resolved runtime operation) (hdone : done <+: completedReceipts operation) :
    ∃ rolled trace, (turns runtime context operation done).exec begun = (.ok rolled, trace) := by
  induction done using List.reverseRecOn with
  | nil => exact ⟨_, _, rfl⟩
  | append_singleton done receipt ih =>
    obtain ⟨rolled, trace, hturns⟩ := ih ((List.prefix_append done _).trans hdone)
    have hturn : Turn runtime context operation begun done receipt rolled trace := ⟨hdone, hturns⟩
    rw [turns_concat, Program.exec_bind, hturns]
    cases hremedy : remedy runtime.actions operation receipt with
    | nothing =>
      rw [← hturn.remedy_eq] at hremedy
      dsimp only
      rw [rollbackOne_nothing hremedy]
      exact ⟨_, _, rfl⟩
    | action compensation =>
      obtain ⟨status, definition, executor, -, hcarried⟩ := h _ _ _ _ _ hturn hremedy
      rw [← hturn.remedy_eq] at hremedy
      obtain ⟨later, reached, added, events, hexec, -⟩ := hcarried.rollbackOne hremedy
      exact ⟨later, reached, hexec⟩
    | unresolved =>
      have hmem := hdone.subset (List.mem_append_right _ (List.mem_singleton_self receipt))
      exact absurd hremedy (hresolved receipt hmem)

theorem resolved_of_turns (hturns : (turns runtime context operation done).exec begun = (.ok rolled, trace)) :
    ∀ receipt ∈ done, remedy runtime.actions operation receipt ≠ .unresolved := by
  induction done using List.reverseRecOn generalizing rolled trace with
  | nil => exact fun receipt h => absurd h List.not_mem_nil
  | append_singleton done last ih =>
    obtain ⟨between, middle, hbetween, hturn⟩ := turns_concat_ok hturns
    intro receipt hmem
    rcases List.mem_append.mp hmem with hearlier | hlast
    · exact ih hbetween receipt hearlier
    · obtain rfl := List.mem_singleton.mp hlast
      obtain ⟨receipts, events, hextends⟩ := (turns_extends done).apply hbetween
      rw [← remedy_congr hextends.actions]
      exact resolved_of_returns hturn

theorem CarriesOut.rolledBack (h : CarriesOut runtime context operation begun (· = .completed))
    (hdone : done <+: completedReceipts operation)
    (hturns : (turns runtime context operation done).exec begun = (.ok rolled, trace)) :
    ∀ receipt ∈ addedReceipts operation rolled, receipt.status = .rolledBack := by
  induction done using List.reverseRecOn generalizing rolled trace with
  | nil =>
    obtain ⟨started, between, hbegun, hnone⟩ := Program.exec_bind_ok hturns
    cases hnone
    obtain ⟨event, hextends⟩ := rollbackBegun_extends.apply hbegun
    rw [addedReceipts_of_extends hextends]
    exact fun receipt hmem => absurd hmem List.not_mem_nil
  | append_singleton done receipt ih =>
    obtain ⟨between, middle, hbetween, hexec⟩ := turns_concat_ok hturns
    have hturn : Turn runtime context operation begun done receipt between middle := ⟨hdone, hbetween⟩
    have hearlier := ih ((List.prefix_append done _).trans hdone) hbetween
    obtain ⟨receipts, events, hextends⟩ := (turns_extends done).apply hbetween
    rw [addedReceipts_of_extends hextends] at hearlier
    cases hremedy : remedy runtime.actions operation receipt with
    | nothing =>
      rw [← hturn.remedy_eq] at hremedy
      rw [rollbackOne_nothing hremedy] at hexec
      cases hexec
      rwa [addedReceipts_of_extends hextends]
    | action compensation =>
      obtain ⟨status, definition, executor, rfl, hcarried⟩ := h _ _ _ _ _ hturn hremedy
      rw [← hturn.remedy_eq] at hremedy
      obtain ⟨later, reached, added, more, hlater, hadded, -, hstatus⟩ := hcarried.rollbackOne hremedy
      cases hlater.symm.trans hexec
      rw [addedReceipts_of_extends (hextends.trans hadded)]
      intro recorded hmem
      rcases List.mem_append.mp hmem with hold | hnew
      · exact hearlier recorded hold
      · rw [List.mem_singleton.mp hnew]
        exact hstatus.mpr rfl
    | unresolved =>
      rw [← hturn.remedy_eq] at hremedy
      exact absurd hremedy (resolved_of_returns hexec)

/-- Whether all compensations are carried out decides the truth of a rollback, and whether all
are completed, unless it cannot come to its end. -/
theorem tellsTruth_iff (runtime : OperationRuntime) (context : RuntimeContext) (operation : OperationRun)
    (begun : Trace Effect) : TellsTruth runtime context operation begun ↔
      CarriesOut runtime context operation begun (fun _ => True) ∧
      (Resolved runtime operation → CarriesOut runtime context operation begun (· = .completed)) := by
  constructor
  · intro h
    have hcarries : CarriesOut runtime context operation begun fun _ => True := by
      intro done receipt rolled trace compensation hturn hremedy
      obtain ⟨later, reached, added, hexec, -⟩ := h.unbroken _ _ _ _ _ hturn hremedy
      rw [← hturn.remedy_eq] at hremedy
      obtain ⟨status, definition, executor, hcarried⟩ := rollbackOne_carriedOut hremedy hexec
      exact ⟨status, definition, executor, trivial, hcarried⟩
    refine ⟨hcarries, fun hresolved => ?_⟩
    intro done receipt rolled trace compensation hturn hremedy
    obtain ⟨status, definition, executor, -, hcarried⟩ := hcarries _ _ _ _ _ hturn hremedy
    refine ⟨status, definition, executor, ?_, hcarried⟩
    rw [← hturn.remedy_eq] at hremedy
    obtain ⟨later, between, added, events, hexec, hadded, -, hstatus⟩ := hcarried.rollbackOne hremedy
    -- the rollback comes to its end, with the receipt of this turn among those it has added
    obtain ⟨last, ended, hlast⟩ := hcarries.turns_ok hresolved (List.prefix_refl _)
    obtain ⟨final, reached, hfinal, hreceipts, -, hcertified⟩ := rollbackCertified_ok runtime last ended
    have hall := h.certified final reached (rollback_ok_iff.mpr ⟨last, ended, hlast, hfinal⟩) hcertified
    obtain ⟨rest, hrest⟩ := hturn.next
    rw [← hrest] at hlast
    obtain ⟨after, middle, hafter, hkept⟩ := turns_append_ok hlast
    rw [turns_concat, Program.exec_bind, hturn.executed] at hafter
    cases hexec.symm.trans hafter
    obtain ⟨receipts, recorded, hextends⟩ := (turns_extends done).apply hturn.executed
    rw [← hreceipts, (hextends.trans hadded).receipted] at hkept
    obtain ⟨more, hmore⟩ := hkept
    refine hstatus.mp (hall added ?_)
    rw [addedReceipts, ← hmore, List.append_assoc, List.drop_left]
    exact List.mem_append_left _ (List.mem_append_right _ (List.mem_singleton_self added))
  · intro h
    refine ⟨fun final reached hexec _ => ?_, fun done receipt rolled trace compensation hturn hremedy => ?_,
      fun final reached hexec => ?_⟩
    · obtain ⟨rolled, trace, hturns, hcertified⟩ := rollback_ok_iff.mp hexec
      obtain ⟨sealed, ended, hsealed, hreceipts, -⟩ := rollbackCertified_ok runtime rolled trace
      cases hsealed.symm.trans hcertified
      rw [addedReceipts, hreceipts]
      exact (h.2 (resolved_of_turns hturns)).rolledBack (List.prefix_refl _) hturns
    · obtain ⟨status, definition, executor, -, hcarried⟩ := h.1 _ _ _ _ _ hturn hremedy
      rw [← hturn.remedy_eq] at hremedy
      obtain ⟨later, reached, added, events, hlater, hadded, hid, -⟩ := hcarried.rollbackOne hremedy
      exact ⟨later, reached, added, hlater, hadded.receipted, hid⟩
    · obtain ⟨rolled, trace, hturns, hcertified⟩ := rollback_ok_iff.mp hexec
      obtain ⟨sealed, ended, hsealed, -, hstatus, -⟩ := rollbackCertified_ok runtime rolled trace
      cases hsealed.symm.trans hcertified
      rw [hstatus]
      rfl

end Rollbacks

section Examples

open DockerHost

def refusingDocker : ActionExecutor where
  executorId := "docker.cli"
  execute trace action _ context attempt := .ok {
    receiptId := s!"receipt:{context.operationId}:{action.actionId}:{attempt}"
    status := .failed
    startedAtIso := clock.utcNowIso trace.ticks
    completedAtIso := clock.utcNowIso trace.ticks
    exitCode := some 1 }

def refusingRuntime : OperationRuntime :=
  { DockerHost.runtime with
    executors := ⟨DockerHost.runtime.executors.items.set refusingDocker.executorId refusingDocker⟩ }

/-- The run most recently written, once a started container has been rolled back live. -/
def startedThenReversed (runtime : OperationRuntime) : Option OperationRun :=
  latest (runtime.session (creation [startContainer "db"])
    [.run DockerHost.policy DockerHost.context none true, .rollback liveContext]).log

/-- The completion of a rollback is certified although its one compensation has failed, and where
the executor of the compensation is missing the operation stays completed. -/
theorem refused_compensation_certified :
    ((startedThenReversed refusingRuntime).any fun operation =>
      certificateStatus operation = some .rollbackCompleted ∧
      operation.actionReceipts.map ActionReceipt.status = [.completed, .failed]) = true ∧
    ((startedThenReversed DockerHost.runtime).any fun operation =>
      operation.status = .completed ∧ ¬ OperationRuntime.resumable operation.status ∧
      operation.actionReceipts.map ActionReceipt.status = [.completed]) = true := by
  decide +kernel

end Examples

end KubeOps.Execution
