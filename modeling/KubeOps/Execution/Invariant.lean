import KubeOps.Execution.ReceiptIds

/-! One invariant for whatever a run does. The invariant is kept for every phase
a run goes through, and what each step may change is said here once. -/
namespace KubeOps.Execution

open KubeOps.Foundation KubeOps.Models KubeOps.Policy KubeOps.Actions
open OperationRuntime (LoopState LoopExit)

/-- Between two actions, with an action begun, in the rollback of what `found`
has completed, where the receipts in `done` have been dealt with, or at the end. -/
inductive Phase where
  | idle
  | performing (action : ActionInstance)
  | rolling (found : OperationRun) (done : List ActionReceipt)
  | ended (found : OperationRun)

def MarkedBy (receipts : List ActionReceipt) (action : ActionInstance) : Prop :=
  ∃ receipt ∈ receipts, receipt.actionId = action.actionId ∧ receipt.status = .rolledBack

/-- `later` is `earlier` with these receipts and checkpoints appended. Times, events
and the current actions may differ, and the status marks, but an action is marked
`rolled_back` only by a receipt. -/
structure Grows (earlier later : OperationRun) (receipts : List ActionReceipt)
    (checkpoints : List ExecutionCheckpoint) : Prop where
  operationId : later.operationId = earlier.operationId
  approvals : later.approvals = earlier.approvals
  actions : later.plan.actions.map ActionInstance.unmarked =
    earlier.plan.actions.map ActionInstance.unmarked
  receipted : later.actionReceipts = earlier.actionReceipts ++ receipts
  checkpointed : later.checkpoints = earlier.checkpoints ++ checkpoints
  results : later.verificationResults = earlier.verificationResults
  certificate : later.recoveryCertificate = earlier.recoveryCertificate
  marks : ∀ action ∈ later.plan.actions, action.status = .rolledBack →
    MarkedBy receipts action ∨ (∀ receipt ∈ receipts, receipt.actionId ≠ action.actionId) ∧
      ∃ original ∈ earlier.plan.actions, original.actionId = action.actionId ∧
        original.status = .rolledBack

/-- `later` is `earlier` sealed: its verification and certificate are new. -/
structure Seals (earlier later : OperationRun) (certificateId : String) : Prop where
  operationId : later.operationId = earlier.operationId
  approvals : later.approvals = earlier.approvals
  plan : later.plan = earlier.plan
  receipted : later.actionReceipts = earlier.actionReceipts
  checkpointed : later.checkpoints = earlier.checkpoints
  certified : later.recoveryCertificate.map RecoveryCertificate.certificateId = some certificateId

/-- The completed receipts of `operation`, the latest first. -/
def completedReceipts (operation : OperationRun) : List ActionReceipt :=
  (operation.actionReceipts.filter fun receipt => receipt.status = .completed).reverse

/-- The entry announces no step. -/
def Effect.isPlain : Effect → Bool
  | .started .. | .rollingBack .. => false
  | _ => true

def Reversible (catalog : ActionCatalog) (action : ActionInstance) : Prop :=
  ∃ definition rollbackActionTypeId rollbackDefinition,
    catalog.get action.actionTypeId = .ok definition ∧
    definition.rollbackActionTypeId.filter (· ≠ "") = some rollbackActionTypeId ∧
    catalog.get rollbackActionTypeId = .ok rollbackDefinition

/-- `compensation` is the receipt of a compensation run for `receipt`. -/
structure CompensationFor (catalog : ActionCatalog) (context : ExecutionContext)
    (operation : OperationRun) (receipt compensation : ActionReceipt) : Prop where
  planned : ∃ original ∈ operation.plan.actions, original.actionId = receipt.actionId ∧
    Reversible catalog original
  actionId : compensation.actionId = s!"rollback:{receipt.actionId}"
  minted : Mints operation.operationId context compensation.actionId compensation.receiptId
  status : compensation.status = .rolledBack ∨ compensation.status = .failed

/-- What an invariant over the steps of a run has to survive, where a rollback
is a step only if the run may make one. -/
structure RunInvariant (catalog : ActionCatalog) (context : RuntimeContext) (mayRollBack : Bool)
    (i : Phase → OperationRun → Log → Prop) : Prop where
  quiet : ∀ {phase operation later log}, Grows operation later [] [] → i phase operation log →
    i phase later log
  plain : ∀ {phase operation log} effect, effect.isPlain = true →
    effect.savedRun = none ∨ effect = .saved operation →
    i phase operation log → i phase operation (log ++ [effect])
  started : ∀ {operation log} action, i .idle operation log →
    i (.performing action) operation (log ++ [.started operation action])
  checkpointed : ∀ {action operation later checkpoint log},
    checkpoint.checkpointId = s!"checkpoint:{operation.operationId}:{operation.checkpoints.length}" →
    Grows operation later [] [checkpoint] → i (.performing action) operation log →
    i (.performing action) later log
  received : ∀ {action operation later receipt log},
    Stamped operation.operationId context.executionContext action receipt →
    Grows operation later [receipt] [] → i (.performing action) operation log →
    i .idle later (log ++ [.saved later])
  rolling : ∀ {operation log}, mayRollBack = true → i .idle operation log →
    i (.rolling operation []) operation (log ++ [.rollingBack operation context.executionContext])
  passed : ∀ {found done receipt operation log}, done ++ [receipt] <+: completedReceipts found →
    i (.rolling found done) operation log → i (.rolling found (done ++ [receipt])) operation log
  compensated : ∀ {found done receipt compensation operation later log},
    done ++ [receipt] <+: completedReceipts found →
    CompensationFor catalog context.executionContext operation receipt compensation →
    Grows operation later [compensation] [] → i (.rolling found done) operation log →
    i (.rolling found (done ++ [receipt])) later (log ++ [.saved later])
  rolledBack : ∀ {found operation later log}, Seals operation later s!"rollback:{operation.operationId}" →
    later.verificationResults = operation.verificationResults →
    i (.rolling found (completedReceipts found)) operation log → i (.ended found) later log
  sealed : ∀ {operation later log}, Seals operation later
      s!"recovery:{operation.operationId}:{operation.events.length}" →
    i .idle operation log → i (.ended operation) later log

/-- The invariant holds in some phase: what is known when an exception ends the run. -/
def Somewhere (i : Phase → OperationRun → Log → Prop) (log : Log) : Prop :=
  ∃ phase operation, i phase operation log

/-- The invariant holds of `operation` in some phase. -/
def Holds (i : Phase → OperationRun → Log → Prop) (operation : OperationRun) (log : Log) : Prop :=
  ∃ phase, i phase operation log

namespace Grows

variable {earlier later : OperationRun}

theorem noted (operation : OperationRun) (updatedAtIso : String) (event : OperationEvent) :
    Grows operation { operation with updatedAtIso, events := operation.events ++ [event] } [] [] where
  operationId := rfl
  approvals := rfl
  actions := rfl
  receipted := (List.append_nil _).symm
  checkpointed := (List.append_nil _).symm
  results := rfl
  certificate := rfl
  marks := fun action hmem hstatus =>
    Or.inr ⟨fun _ hnone => absurd hnone List.not_mem_nil, action, hmem, rfl, hstatus⟩

theorem marks_of_unreceipted {actions others : List ActionInstance}
    (h : ∀ action ∈ others, action.status = .rolledBack → action ∈ actions) :
    ∀ action ∈ others, action.status = .rolledBack → MarkedBy [] action ∨
      (∀ receipt ∈ ([] : List ActionReceipt), receipt.actionId ≠ action.actionId) ∧
        ∃ original ∈ actions, original.actionId = action.actionId ∧ original.status = .rolledBack :=
  fun action hmem hstatus => Or.inr ⟨fun _ hnone => absurd hnone List.not_mem_nil, action,
    h action hmem hstatus, rfl, hstatus⟩

end Grows

theorem mem_markActions {actions : List ActionInstance} {actionId : String} {status : ActionStatus}
    {action : ActionInstance} (h : action ∈ OperationRuntime.markActions actions actionId status) :
    action.actionId = actionId ∧ action.status = status ∨
      action.actionId ≠ actionId ∧ action ∈ actions := by
  obtain ⟨original, horiginal, heq⟩ := List.mem_map.mp h
  by_cases hid : original.actionId = actionId
  · rw [if_pos hid] at heq
    subst heq
    exact Or.inl ⟨hid, rfl⟩
  · rw [if_neg hid] at heq
    subst heq
    exact Or.inr ⟨hid, horiginal⟩

theorem status_of_mapM_markAction {decisionByAction : Dict String PolicyDecision}
    {actions marked : List ActionInstance}
    (h : actions.mapM (OperationRuntime.markAction decisionByAction) = .ok marked) :
    ∀ action ∈ marked, action.status ≠ .rolledBack := by
  intro action hmem
  obtain ⟨original, -, hmarked⟩ := mem_of_mapM h hmem
  exact (markAction_ok hmarked).2

namespace OperationRuntime

section Updates

variable {runtime : OperationRuntime} {operation : OperationRun} {α : Type} {pre : Log → Prop}
  {post : α → Log → Prop} {failed : PyError → Log → Prop}

theorem bind_event_any {operationId : String} {sequence : Nat} {eventType title : String}
    {actionId : Option String} {details : JsonObject} {next : OperationEvent → Runtime α}
    (h : ∀ event, Triple pre (next event) post failed) :
    Triple pre (runtime.event operationId sequence eventType title actionId details >>= next) post
      failed :=
  bind_event fun event _ _ => h event

theorem bind_noted_eq {eventType title : String} {actionId : Option String} {details : JsonObject}
    {next : OperationRun → Runtime α}
    (h : ∀ updatedAtIso event, Triple pre
      (next { operation with updatedAtIso, events := operation.events ++ [event] }) post failed) :
    Triple pre (runtime.noted operation eventType title actionId details >>= next) post failed := by
  refine Triple.bind (m := fun later log => (∃ updatedAtIso event,
    later = { operation with updatedAtIso, events := operation.events ++ [event] }) ∧ pre log) ?_ ?_
  · unfold noted utcNowIso
    refine Triple.bind_tick fun updatedAtIso => bind_event_any fun event => ?_
    exact Triple.pure fun log hpre => ⟨⟨updatedAtIso, event, rfl⟩, hpre⟩
  · rintro later trace ⟨⟨updatedAtIso, event, rfl⟩, hpre⟩
    exact h updatedAtIso event trace hpre

end Updates

end OperationRuntime

namespace RunInvariant

variable {runtime : OperationRuntime} {context : RuntimeContext} {policy : ExecutionPolicy}
  {i : Phase → OperationRun → Log → Prop} {phase : Phase} {operation later found : OperationRun}
  {state : LoopState} {action : ActionInstance} {receipt : ActionReceipt} {log : Log}
  {mayRollBack : Bool}

theorem somewhere (_ : RunInvariant runtime.actions context mayRollBack i) (_ : PyError) (log : Log)
    (h : i phase operation log) : Somewhere i log := ⟨phase, operation, h⟩

theorem saved (h : RunInvariant runtime.actions context mayRollBack i) (hnext : Grows operation later [] [])
    (hi : i phase operation log) : i phase later (log ++ [.saved later]) :=
  h.plain _ rfl (Or.inr rfl) (h.quiet hnext hi)

theorem decide_rule (h : RunInvariant runtime.actions context mayRollBack i) {policyContext : PolicyContext} :
    Triple (i phase operation) (runtime.decide operation policy policyContext action)
      (fun _ => i phase operation) (fun _ => Somewhere i) := by
  unfold OperationRuntime.decide OperationRuntime.validateInstance OperationRuntime.utcNowIso
  refine Triple.bind_attempt (fun definition _ => ?_) fun error _ => h.somewhere error
  refine Triple.bind_tick fun now => Triple.bind_tick fun evaluatedAtIso => ?_
  refine Triple.bind_attempt (fun decision _ => ?_) fun error _ => h.somewhere error
  exact Triple.bind_record (fun log hi => h.plain _ rfl (Or.inl rfl) hi) (Triple.pure fun _ hi => hi)

theorem authorize_rule (h : RunInvariant runtime.actions context mayRollBack i) :
    Triple (i .idle operation) (runtime.authorize operation policy context)
      (fun later => i .idle later) (fun _ => Somewhere i) := by
  unfold OperationRuntime.authorize
  refine Triple.bind (m := fun _ => i .idle operation) ?_ fun decisions => ?_
  · exact Triple.mapM (i := fun _ _ => i .idle operation) fun done action results _ => h.decide_rule
  · refine Triple.bind_attempt (fun marked hmarked => ?_) fun error _ => h.somewhere error
    refine OperationRuntime.bind_noted_eq fun updatedAtIso event => ?_
    refine OperationRuntime.saved_rule fun log => h.saved ?_
    exact { Grows.noted operation updatedAtIso event with
      actions := mapM_markAction_unmarked hmarked
      marks := fun action hmem hstatus =>
        absurd hstatus (status_of_mapM_markAction hmarked action hmem) }

theorem startAction_rule (h : RunInvariant runtime.actions context mayRollBack i) {actionId : String} :
    Triple (i phase operation) (runtime.startAction operation actionId)
      (fun later => i phase later) (fun _ => Somewhere i) := by
  unfold OperationRuntime.startAction OperationRuntime.utcNowIso
  refine OperationRuntime.bind_event_any fun event => Triple.bind_tick fun updatedAtIso => ?_
  refine OperationRuntime.saved_rule fun log => h.saved ?_
  refine { Grows.noted operation updatedAtIso event with
    actions := markActions_unmarked _ _ _
    marks := Grows.marks_of_unreceipted fun action hmem hstatus => ?_ }
  rcases mem_markActions hmem with ⟨-, hrunning⟩ | ⟨-, hold⟩
  · rw [hrunning] at hstatus
    cases hstatus
  · exact hold

theorem checkpointIfRequired_rule (h : RunInvariant runtime.actions context mayRollBack i)
    {decision : PolicyDecision} :
    Triple (i (.performing action) operation)
      (runtime.checkpointIfRequired context operation decision)
      (fun later => i (.performing action) later) (fun _ => Somewhere i) := by
  unfold OperationRuntime.checkpointIfRequired
  refine Triple.ite (fun _ => ?_) fun _ => Triple.pure fun _ hi => hi
  refine Triple.bind_consult (fun world => ?_) h.somewhere
  unfold OperationRuntime.checkpoint OperationRuntime.utcNowIso
  refine Triple.bind_tick fun createdAtIso => OperationRuntime.bind_event_any fun event => ?_
  refine Triple.bind_tick fun updatedAtIso => OperationRuntime.saved_rule fun log hi => ?_
  have hnext : ∀ checkpoint : ExecutionCheckpoint, Grows operation { operation with
      checkpoints := operation.checkpoints ++ [checkpoint]
      events := operation.events ++ [event]
      updatedAtIso } [] [checkpoint] := fun checkpoint =>
    ⟨rfl, rfl, rfl, (List.append_nil _).symm, rfl, rfl, rfl,
      Grows.marks_of_unreceipted fun _ hmem _ => hmem⟩
  exact h.plain _ rfl (Or.inr rfl) (h.checkpointed rfl (hnext _) hi)

theorem appendReceipt_rule {pre : Log → Prop} {next : Phase}
    (hreceived : ∀ later log, Grows operation later [receipt] [] → pre log →
      i next later (log ++ [.saved later])) :
    Triple pre (runtime.appendReceipt operation receipt) (fun later => i next later)
      (fun _ => Somewhere i) := by
  unfold OperationRuntime.appendReceipt
  refine OperationRuntime.bind_noted_eq fun updatedAtIso event => ?_
  refine OperationRuntime.saved_rule fun log hpre => hreceived _ _ ?_ hpre
  refine ⟨rfl, rfl, markActions_unmarked _ _ _, rfl, (List.append_nil _).symm, rfl, rfl, ?_⟩
  intro action hmem hstatus
  rcases mem_markActions hmem with ⟨hid, hmark⟩ | ⟨hother, hold⟩
  · refine Or.inl ⟨receipt, List.mem_singleton_self _, hid.symm, ?_⟩
    rw [hmark] at hstatus
    cases hreceipt : receipt.status <;> simp [hreceipt] at hstatus ⊢
  · refine Or.inr ⟨fun found hfound => ?_, action, hold, rfl, hstatus⟩
    rw [List.mem_singleton.mp hfound]
    exact Ne.symm hother

theorem fail_rule (h : RunInvariant runtime.actions context mayRollBack i) {reason : String} :
    Triple (i phase operation) (runtime.fail operation reason)
      (fun later => i phase later) (fun _ => Somewhere i) := by
  unfold OperationRuntime.fail
  refine OperationRuntime.bind_noted_eq fun updatedAtIso event => Triple.pure fun log => h.quiet ?_
  exact { Grows.noted operation updatedAtIso event with }

def reached : LoopExit → OperationRun
  | .left state => state.operation
  | .paused operation => operation

theorem settle_rule (h : RunInvariant runtime.actions context mayRollBack i)
    (hstate : state.operation = operation) :
    Triple (i .idle operation) (runtime.settle state action receipt)
      (fun exit => i .idle (reached exit)) (fun _ => Somewhere i) := by
  subst hstate
  unfold OperationRuntime.settle
  refine Triple.ite (fun _ => Triple.pure fun _ hi => hi) fun _ => ?_
  refine Triple.ite (fun _ => Triple.pure fun _ hi => hi) fun _ => ?_
  refine Triple.ite (fun _ => ?_) fun _ => Triple.ite (fun _ => ?_) fun _ => ?_
  · refine OperationRuntime.bind_noted_eq fun updatedAtIso event => ?_
    refine Triple.bind_record (fun log hi => h.saved (Grows.noted _ _ _) hi) ?_
    exact Triple.pure fun _ hi => hi
  · refine OperationRuntime.bind_noted_eq fun updatedAtIso event => ?_
    refine Triple.bind_record (fun log hi => h.saved ?_ hi) (Triple.pure fun _ hi => hi)
    exact { Grows.noted state.operation updatedAtIso event with }
  · exact Triple.bind h.fail_rule fun failed => Triple.pure fun _ hi => hi

theorem iterate_rule (h : RunInvariant runtime.actions context mayRollBack i)
    (hexecutors : runtime.executors.Conventional)
    (hstate : state.operation = operation) :
    Triple (i .idle operation) (runtime.iterate context state)
      (fun exit => i .idle (reached exit)) (fun _ => Somewhere i) := by
  subst hstate
  unfold OperationRuntime.iterate
  split
  · refine Triple.bind_record (fun log hi => h.plain _ rfl (Or.inl rfl) hi) ?_
    exact Triple.bind h.fail_rule fun failed => Triple.pure fun _ hi => hi
  · rename_i action _
    split
    · exact Triple.raise fun log hi => h.somewhere .stopIteration log hi
    · refine Triple.bind_record (fun log hi => h.started action hi) ?_
      refine Triple.bind h.startAction_rule fun running => ?_
      refine Triple.bind h.checkpointIfRequired_rule fun checked => ?_
      refine Triple.bind (m := fun receipt log =>
        Stamped checked.operationId context.executionContext action receipt ∧
          i (.performing action) checked log) ?_ fun receipt => ?_
      · refine Triple.weaken ((OperationRuntime.perform_rule (fun executorId attempt log hi =>
          h.plain _ rfl (Or.inl rfl) hi) h.somewhere).and (perform_stamped hexecutors))
          (fun log hi => ⟨hi, trivial⟩) (fun receipt log hi => ⟨hi.2, hi.1.2⟩)
          fun error log hi => hi.1
      · refine Triple.bind (appendReceipt_rule fun later log hnext hi =>
          h.received hi.1 hnext hi.2) fun received => h.settle_rule rfl

theorem runLoop_rule (h : RunInvariant runtime.actions context mayRollBack i)
    (hexecutors : runtime.executors.Conventional)
    (rounds : Nat) (hstate : state.operation = operation) :
    Triple (i .idle operation) (runtime.runLoop context rounds state)
      (fun exit => i .idle (reached exit)) (fun _ => Somewhere i) := by
  induction rounds generalizing state operation with
  | zero =>
    refine Triple.bind_record (fun log hi => h.plain _ rfl (Or.inl rfl) hi) ?_
    exact Triple.raise fun log hi => h.somewhere .diverged log hi
  | succ rounds ih =>
    unfold OperationRuntime.runLoop
    refine Triple.ite (fun _ => Triple.pure fun _ hi => ?_) fun _ => ?_
    · rw [← hstate] at hi
      exact hi
    refine Triple.bind (h.iterate_rule hexecutors hstate) fun exit => ?_
    cases exit with
    | left next => exact ih rfl
    | paused operation => exact Triple.pure fun _ hi => hi

theorem rollbackOne_rule (h : RunInvariant runtime.actions context mayRollBack i)
    (hexecutors : runtime.executors.Conventional)
    {done : List ActionReceipt} (hdone : done ++ [receipt] <+: completedReceipts found) :
    Triple (i (.rolling found done) operation) (runtime.rollbackOne context operation receipt)
      (fun later => i (.rolling found (done ++ [receipt])) later) (fun _ => Somewhere i) := by
  unfold OperationRuntime.rollbackOne
  split
  · exact Triple.raise (h.somewhere PyError.stopIteration)
  · rename_i original horiginal
    have hid : original.actionId = receipt.actionId := by simpa using List.find?_some horiginal
    refine Triple.bind_attempt (fun definition hdefinition => ?_) fun error _ => h.somewhere error
    split
    · exact Triple.pure fun log hi => h.passed hdone hi
    · rename_i rollbackActionTypeId htype
      refine Triple.bind_attempt (fun rollbackDefinition htarget => ?_) fun error _ => h.somewhere error
      refine Triple.bind (m := fun rollbackReceipt log =>
        CompensationFor runtime.actions context.executionContext operation receipt { rollbackReceipt with
          status := OperationRuntime.rollbackStatus rollbackReceipt } ∧
        i (.rolling found done) operation log) ?_ fun rollbackReceipt => ?_
      · refine Triple.weaken ((OperationRuntime.executeAction_rule (fun executorId attempt log hi =>
          h.plain _ rfl (Or.inl rfl) hi) h.somewhere).and (executeAction_stamped hexecutors))
          (fun log hi => ⟨hi, trivial⟩) (fun rollbackReceipt log hi => ⟨?_, hi.1.2⟩)
          fun error log hi => hi.1
        obtain ⟨-, hstamped⟩ := hi
        have haction : rollbackReceipt.actionId = s!"rollback:{receipt.actionId}" := by
          rw [hstamped.actionId, ← hid]
          rfl
        refine ⟨⟨original, List.mem_of_find?_eq_some horiginal, hid, ?_⟩, haction, ?_, ?_⟩
        · exact ⟨definition, rollbackActionTypeId, rollbackDefinition, hdefinition, htype, htarget⟩
        · change Mints _ _ rollbackReceipt.actionId rollbackReceipt.receiptId
          rw [hstamped.actionId]
          exact hstamped.minted
        · dsimp only [OperationRuntime.rollbackStatus]
          split
          · exact Or.inl rfl
          · exact Or.inr rfl
      · exact appendReceipt_rule fun later log hnext hi => h.compensated hdone hi.1 hnext hi.2

theorem rollback_rule (h : RunInvariant runtime.actions context true i)
    (hexecutors : runtime.executors.Conventional) :
    Triple (i .idle operation) (runtime.rollback operation context) (fun later => Holds i later)
      (fun _ => Somewhere i) := by
  unfold OperationRuntime.rollback OperationRuntime.utcNowIso
  refine Triple.bind_record (fun log hi => h.rolling rfl hi) ?_
  refine OperationRuntime.bind_noted_eq fun updatedAtIso event => ?_
  have hstarted : Grows operation { operation with
      status := .rollingBack, updatedAtIso, events := operation.events ++ [event] } [] [] :=
    { Grows.noted operation updatedAtIso event with }
  refine Triple.bind (m := fun later => i (.rolling operation (completedReceipts operation)) later)
    ?_ fun rolled => ?_
  · refine Triple.weaken (Triple.foldlM (i := fun done later => i (.rolling operation done) later)
      (f := fun _ => Somewhere i) fun done receipt later hdone => h.rollbackOne_rule hexecutors hdone)
      (fun log hi => h.quiet hstarted hi) (fun _ _ hi => hi) fun _ _ hi => hi
  · refine Triple.bind_tick fun completedAtIso => ?_
    refine OperationRuntime.bind_noted_eq fun finishedAtIso finish => ?_
    refine OperationRuntime.saved_rule fun log hi =>
      ⟨.ended operation, h.plain _ rfl (Or.inr rfl) ?_⟩
    refine h.rolledBack (?_ : Seals rolled _ _) rfl hi
    exact ⟨rfl, rfl, rfl, rfl, rfl, rfl⟩

theorem sealRun_rule (h : RunInvariant runtime.actions context mayRollBack i)
    {conditions : Option (List VerificationCondition)} :
    Triple (i .idle operation) (runtime.sealRun operation context conditions)
      (fun later => Holds i later) (fun _ => Somewhere i) := by
  unfold OperationRuntime.sealRun OperationRuntime.utcNowIso
  refine OperationRuntime.bind_noted_eq fun updatedAtIso event => ?_
  refine Triple.bind (evaluateConditions_rule h.somewhere) fun results => ?_
  refine Triple.bind_tick fun completedAtIso => ?_
  refine OperationRuntime.bind_noted_eq fun sealedAtIso finish => ?_
  have hverifying : Grows operation { operation with
      status := .verifying, updatedAtIso, events := operation.events ++ [event] } [] [] :=
    { Grows.noted operation updatedAtIso event with }
  refine OperationRuntime.saved_rule fun log hi => ?_
  have hseal := fun later hseals => h.plain (.saved later) rfl (Or.inr rfl)
    (h.sealed hseals (h.quiet hverifying hi))
  exact ⟨_, hseal _ ⟨rfl, rfl, rfl, rfl, rfl, rfl⟩⟩

theorem run_rule {rollbackOnFailure : Bool} (h : RunInvariant runtime.actions context rollbackOnFailure i)
    (hexecutors : runtime.executors.Conventional)
    {conditions : Option (List VerificationCondition)} :
    Triple (i .idle operation)
      (runtime.run operation policy context conditions rollbackOnFailure)
      (fun later => Holds i later) (fun _ => Somewhere i) := by
  unfold OperationRuntime.run OperationRuntime.utcNowIso
  refine Triple.bind h.authorize_rule fun authorized => ?_
  refine Triple.ite (fun _ => Triple.pure fun _ hi => ⟨_, hi⟩) fun _ => ?_
  refine Triple.bind_tick fun now => OperationRuntime.bind_event_any fun event => ?_
  refine Triple.bind_record (fun log hi => h.saved ?_ hi) ?_
  · exact { Grows.noted authorized now event with }
  refine Triple.bind (h.runLoop_rule hexecutors _ rfl) fun exit => ?_
  cases exit with
  | paused operation => exact Triple.pure fun _ hi => ⟨_, hi⟩
  | left state =>
    refine Triple.ite (fun _ => ?_) fun _ => h.sealRun_rule
    refine Triple.bind (m := fun later => Holds i later) ?_ fun rolled => ?_
    · unfold OperationRuntime.rollbackIfAsked
      refine Triple.ite (fun hasked => ?_) fun _ => Triple.pure fun _ hi => ⟨_, hi⟩
      obtain ⟨rfl, -⟩ := hasked
      exact h.rollback_rule hexecutors
    · refine OperationRuntime.saved_rule fun log hi => ?_
      obtain ⟨phase, hi⟩ := hi
      exact ⟨phase, h.plain _ rfl (Or.inr rfl) hi⟩

end RunInvariant

def Call.execution : Call → Option (RuntimeContext × Bool)
  | .run _ context _ rollbackOnFailure => some (context, rollbackOnFailure)
  | .resume _ context _ => some (context, true)
  | .rollback context => some (context, true)
  | _ => none

theorem RunInvariant.perform_rule {runtime : OperationRuntime} {context : RuntimeContext}
    {mayRollBack : Bool} {i : Phase → OperationRun → Log → Prop} {given : OperationRun} {base : Log}
    {call : Call} (h : RunInvariant runtime.actions context mayRollBack i)
    (hexecutors : runtime.executors.Conventional)
    (hlatest : latest base = some given) (hexecution : call.execution = some (context, mayRollBack))
    (hstart : i .idle given base) :
    Triple (fun log => log = base) (call.perform runtime given) (fun _ => Somewhere i)
      (fun _ => Somewhere i) := by
  have hsomewhere : ∀ (later : OperationRun) log, Holds i later log → Somewhere i log :=
    fun later log ⟨phase, hi⟩ => ⟨phase, later, hi⟩
  have hidle : ∀ log, log = base → Somewhere i log := fun log hlog => hlog ▸ ⟨_, _, hstart⟩
  cases call with
  | run policy usedContext conditions rollbackOnFailure =>
    obtain ⟨rfl, rfl⟩ := Prod.mk.inj (Option.some.inj hexecution)
    exact Triple.weaken (h.run_rule hexecutors) (fun log hlog => hlog ▸ hstart) hsomewhere
      fun _ _ hi => hi
  | resume policy usedContext conditions =>
    obtain ⟨rfl, rfl⟩ := Prod.mk.inj (Option.some.inj hexecution)
    simp only [Call.perform, OperationRuntime.resume]
    refine Triple.bind (Triple.weaken (load_rule hlatest) (fun _ hlog => hlog) (fun _ _ hlog => hlog)
      fun _ log hlog => hidle log hlog) fun loaded => ?_
    refine Triple.assuming (fun _ hlog => hlog.1) fun hloaded => ?_
    subst hloaded
    refine Triple.ite (fun _ => Triple.raise fun log hlog => hidle log hlog.2) fun _ => ?_
    refine OperationRuntime.bind_noted_eq fun updatedAtIso event => ?_
    refine Triple.bind_record (fun log hlog => h.saved ?_ (hlog.2 ▸ hstart))
      (Triple.weaken (h.run_rule hexecutors) (fun _ hi => hi) hsomewhere fun _ _ hi => hi)
    exact { Grows.noted loaded updatedAtIso event with }
  | rollback usedContext =>
    obtain ⟨rfl, rfl⟩ := Prod.mk.inj (Option.some.inj hexecution)
    exact Triple.weaken (h.rollback_rule hexecutors) (fun log hlog => hlog ▸ hstart) hsomewhere
      fun _ _ hi => hi
  | _ => cases hexecution

end KubeOps.Execution
