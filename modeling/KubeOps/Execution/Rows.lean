import KubeOps.Execution.ReceiptIds
import KubeOps.Execution.Invariant
import KubeOps.Invariants.Engine

/-! The rows that a finished or interrupted run is stored in. The ids of five of the tables are unique over
all operations, and each is made up where its record is made: only some of them name the operation. Every
call keeps an operation in rows of its own, as long as what it is given is its own. -/
namespace KubeOps.Execution

open KubeOps.Foundation KubeOps.Models KubeOps.Policy KubeOps.Actions KubeOps.Discovery KubeOps.Invariants
open KubeOps.Verification (VerificationEngine)
open OperationRuntime (Creation LoopState LoopExit startLoop)

section Engine

/-- `_subject`: the entity that the predicate names. -/
def subjectOf (predicate : Predicate) : String :=
  let named := match predicate with
    | .fieldEquals entityId _ _ | .fieldNotEquals entityId _ _ | .fieldExists entityId _ _ |
      .fieldGte entityId _ _ | .fieldLte entityId _ _ | .fieldsEqual entityId _ _ _ |
      .relatedCountGte entityId _ _ _ _ _ => entityId
    | .allOf _ | .anyOf _ | .not _ => ""
  if named = "" then "environment" else named

def invariantOf (condition : VerificationCondition) : InvariantDefinition where
  invariantId := condition.conditionId
  title := condition.title
  family := .recoverability
  subjectId := subjectOf condition.predicate
  predicate := condition.predicate
  temporal := condition.temporal

def resultOf (dumped : Value → Json) (atSeconds : Nat) (evaluation : InvariantEvaluation) :
    VerificationResult where
  resultId := s!"verification:{evaluation.invariantId}:{atSeconds}"
  conditionId := evaluation.invariantId
  status := evaluation.status
  evaluatedAtSeconds := atSeconds
  explanation := evaluation.explanation
  evidenceIds := evaluation.evidenceEntityIds
  actualValue := dumped evaluation.actualValue

/-- The engine as the runtime calls it: without a second or a history. -/
def invariantEngine (texts : ValueTexts) (dumped : Value → Json) : VerificationEngine where
  evaluate conditions world relationships := do
    let evaluations ← evaluateAll texts (conditions.map invariantOf)
      (Dict.ofList (world.map fun entry => (entry.1, valueOfJson entry.2))) 0 none (some relationships)
    return evaluations.map (resultOf dumped 0)

end Engine

section Tables

/-- The tables whose ids are unique over all operations. -/
inductive RowTable where
  | approval | receipt | checkpoint | verification | certificate
deriving DecidableEq, Repr

structure Row where
  table : RowTable
  rowId : String
  operationId : String
deriving DecidableEq, Repr

/-- The rows of these tables that an operation is stored in, in the order in which they are created. -/
def rowsOf (operation : OperationRun) : List Row :=
  let row table rowId := Row.mk table rowId operation.operationId
  operation.approvals.map (fun approval => row .approval approval.approvalId) ++
    operation.actionReceipts.map (fun receipt => row .receipt receipt.receiptId) ++
    operation.checkpoints.map (fun checkpoint => row .checkpoint checkpoint.checkpointId) ++
    operation.verificationResults.map (fun result => row .verification result.resultId) ++
    operation.recoveryCertificate.toList.map fun certificate => row .certificate certificate.certificateId

def Row.Clashes (row other : Row) : Prop := row.table = other.table ∧ row.rowId = other.rowId

instance (row other : Row) : Decidable (row.Clashes other) := inferInstanceAs (Decidable (_ ∧ _))

def createRow (stored : List Row) (row : Row) : Except Row (List Row) :=
  if ∃ other ∈ stored, row.Clashes other then .error row else .ok (stored ++ [row])

/-- `_persist_operation`: the rows of the operation are replaced, or nothing changes. -/
def persistOperation (stored : List Row) (operation : OperationRun) : Except Row (List Row) :=
  (rowsOf operation).foldlM createRow (stored.filter fun row => row.operationId ≠ operation.operationId)

/-- What is stored after these operations have been persisted, where one that is refused changes nothing. -/
def persistAll (operations : List OperationRun) : List Row :=
  operations.foldl (fun stored operation => (persistOperation stored operation).toOption.getD stored) []

def BlockedByOther (stored : List Row) (operation : OperationRun) : Prop :=
  ∃ row ∈ rowsOf operation, ∃ other ∈ stored, other.operationId ≠ operation.operationId ∧ row.Clashes other

end Tables

section Holdings

/-- What the rows of an operation are made up of. -/
structure Holding where
  operationId : String
  conditionIds : List String
  approvalIds : List String

/-- The ids that the code makes up for an operation. -/
def Holding.Mints (holding : Holding) : RowTable → String → Prop
  | .approval, rowId => rowId ∈ holding.approvalIds
  | .receipt, rowId => ∃ actionId mark, Unbroken ':' mark ∧ rowId = receiptId holding.operationId actionId mark
  | .checkpoint, rowId => ∃ number : Nat, rowId = s!"checkpoint:{holding.operationId}:{number}"
  | .verification, rowId => ∃ conditionId ∈ holding.conditionIds, rowId = s!"verification:{conditionId}:{0}"
  | .certificate, rowId => rowId = s!"rollback:{holding.operationId}" ∨
      ∃ number : Nat, rowId = s!"recovery:{holding.operationId}:{number}"

structure Held (holding : Holding) (operation : OperationRun) : Prop where
  operationId : operation.operationId = holding.operationId
  planned : ∀ condition ∈ operation.plan.verificationConditions, condition.conditionId ∈ holding.conditionIds
  approvals : ∀ approval ∈ operation.approvals, holding.Mints .approval approval.approvalId
  receipts : ∀ receipt ∈ operation.actionReceipts, holding.Mints .receipt receipt.receiptId
  checkpoints : ∀ checkpoint ∈ operation.checkpoints, holding.Mints .checkpoint checkpoint.checkpointId
  results : ∀ result ∈ operation.verificationResults, holding.Mints .verification result.resultId
  certificate : ∀ certificate ∈ operation.recoveryCertificate.toList,
    holding.Mints .certificate certificate.certificateId

def Keeps (holding : Holding) (log : Log) : Prop := ∀ operation, .saved operation ∈ log → Held holding operation

variable {holding : Holding} {operation later : OperationRun} {log : Log} {entry : Effect}

theorem Held.of_rows (h : Held holding operation) {row : Row} (hrow : row ∈ rowsOf operation) :
    row.operationId = holding.operationId ∧ holding.Mints row.table row.rowId := by
  simp only [rowsOf, List.mem_append, List.mem_map] at hrow
  rcases hrow with (((⟨approval, hmem, rfl⟩ | ⟨receipt, hmem, rfl⟩) | ⟨checkpoint, hmem, rfl⟩) |
    ⟨result, hmem, rfl⟩) | ⟨certificate, hmem, rfl⟩
  · exact ⟨h.operationId, h.approvals approval hmem⟩
  · exact ⟨h.operationId, h.receipts receipt hmem⟩
  · exact ⟨h.operationId, h.checkpoints checkpoint hmem⟩
  · exact ⟨h.operationId, h.results result hmem⟩
  · exact ⟨h.operationId, h.certificate certificate hmem⟩

theorem Keeps.concat (h : Keeps holding log) (hentry : entry.savedRun = none) :
    Keeps holding (log ++ [entry]) := by
  intro operation hmem
  rcases List.mem_append.mp hmem with hold | hnew
  · exact h operation hold
  · rw [← List.mem_singleton.mp hnew] at hentry
    cases hentry

theorem Keeps.saved (h : Keeps holding log) (hlater : Held holding later) :
    Keeps holding (log ++ [.saved later]) := by
  intro operation hmem
  rcases List.mem_append.mp hmem with hold | hnew
  · exact h operation hold
  · obtain rfl := Effect.saved.inj (List.mem_singleton.mp hnew)
    exact hlater

theorem Held.received (h : Held holding operation) {receipt : ActionReceipt}
    (hreceipt : holding.Mints .receipt receipt.receiptId) {receipts : List ActionReceipt}
    (hsame : receipts = operation.actionReceipts ++ [receipt]) :
    ∀ other ∈ receipts, holding.Mints .receipt other.receiptId := by
  intro other hmem
  rw [hsame, List.mem_append, List.mem_singleton] at hmem
  rcases hmem with hold | rfl
  · exact h.receipts other hold
  · exact hreceipt

theorem Held.minted (h : Held holding operation) {context : ExecutionContext}
    (hcontext : context.operationId = holding.operationId) {actionId rowId : String}
    (hmints : Mints operation.operationId context actionId rowId) : holding.Mints .receipt rowId := by
  obtain ⟨mark, hmark, rfl⟩ := hmints.exists_mark
  refine ⟨actionId, mark, hmark, ?_⟩
  rw [h.operationId, hcontext, ite_self]

end Holdings

section Steps

variable {runtime : OperationRuntime} {holding : Holding} {operation : OperationRun} {context : RuntimeContext}
variable {action : ActionInstance} {receipt : ActionReceipt} {state : LoopState} {policy : ExecutionPolicy}
variable {texts : ValueTexts} {dumped : Value → Json} {conditions : List VerificationCondition}

abbrev StaysHeld (holding : Holding) (program : Runtime OperationRun) : Prop :=
  Triple (Keeps holding) program (fun later log => Held holding later ∧
    Keeps holding log) fun _ => Keeps holding

theorem keeps_failed (_ : PyError) (log : Log) (h : Keeps holding log) : Keeps holding log := h

theorem save_held {later : OperationRun} (hlater : Held holding later) :
    StaysHeld holding (do FileOperationStore.save later; return later) :=
  OperationRuntime.saved_rule fun _ h => ⟨hlater, h.saved hlater⟩

theorem decide_keeps {policyContext : PolicyContext} :
    Triple (Keeps holding) (runtime.decide operation policy policyContext action) (fun _ => Keeps holding)
      fun _ => Keeps holding := by
  unfold OperationRuntime.decide OperationRuntime.validateInstance OperationRuntime.utcNowIso
  refine Triple.bind_attempt (fun definition _ => ?_) fun error _ => keeps_failed error
  refine Triple.bind_tick fun now => Triple.bind_tick fun evaluatedAtIso => ?_
  refine Triple.bind_attempt (fun decision _ => ?_) fun error _ => keeps_failed error
  exact Triple.bind_record (m := Keeps holding) (fun log h => h.concat rfl) (Triple.pure fun log h => h)

theorem authorize_held (h : Held holding operation) :
    StaysHeld holding (runtime.authorize operation policy context) := by
  unfold OperationRuntime.authorize
  refine Triple.bind (m := fun _ => Keeps holding)
    (Triple.mapM (i := fun _ _ => Keeps holding) fun _ _ _ _ => decide_keeps) fun decisions => ?_
  refine Triple.bind_attempt (fun marked _ => ?_) fun error _ => keeps_failed error
  refine OperationRuntime.bind_noted_eq fun updatedAtIso event => save_held ?_
  exact { h with }

theorem startAction_held (h : Held holding operation) {actionId : String} :
    StaysHeld holding (runtime.startAction operation actionId) := by
  unfold OperationRuntime.startAction OperationRuntime.utcNowIso
  refine OperationRuntime.bind_event_any fun event => Triple.bind_tick fun updatedAtIso => save_held ?_
  exact { h with }

theorem checkpointIfRequired_held (h : Held holding operation) {decision : PolicyDecision} :
    StaysHeld holding (runtime.checkpointIfRequired context operation decision) := by
  unfold OperationRuntime.checkpointIfRequired
  refine Triple.ite (fun _ => ?_) fun _ => Triple.pure fun log hlog => ⟨h, hlog⟩
  refine Triple.bind_consult (fun world => ?_) keeps_failed
  unfold OperationRuntime.checkpoint OperationRuntime.utcNowIso
  refine Triple.bind_tick fun createdAtIso => OperationRuntime.bind_event_any fun event => ?_
  refine Triple.bind_tick fun updatedAtIso => save_held { h with checkpoints := ?_ }
  intro checkpoint hmem
  rcases List.mem_append.mp hmem with hold | hnew
  · exact h.checkpoints checkpoint hold
  · rw [List.mem_singleton.mp hnew]
    refine ⟨operation.checkpoints.length, ?_⟩
    rw [← h.operationId]

theorem appendReceipt_held (h : Held holding operation) (hreceipt : holding.Mints .receipt receipt.receiptId) :
    StaysHeld holding (runtime.appendReceipt operation receipt) := by
  unfold OperationRuntime.appendReceipt
  refine OperationRuntime.bind_noted_eq fun updatedAtIso event => save_held ?_
  exact { h with receipts := h.received hreceipt rfl }

theorem fail_held (h : Held holding operation) {reason : String} :
    StaysHeld holding (runtime.fail operation reason) := by
  unfold OperationRuntime.fail
  refine OperationRuntime.bind_noted_eq fun updatedAtIso event => Triple.pure fun log hlog => ⟨?_, hlog⟩
  exact { h with }

theorem certificate_of_some {found : Option RecoveryCertificate} {certificate : RecoveryCertificate}
    (hfound : found = some certificate) (hminted : holding.Mints .certificate certificate.certificateId) :
    ∀ other ∈ found.toList, holding.Mints .certificate other.certificateId := by
  intro other hmem
  rw [hfound, Option.toList_some, List.mem_singleton] at hmem
  rwa [hmem]

theorem bind_held {α β : Type} {first : Runtime β} {next : β → Runtime α} {m : β → Prop} {post : α → Log → Prop}
    (hfirst : Triple (Keeps holding) first (fun value log => m value ∧ Keeps holding log) fun _ =>
      Keeps holding)
    (hnext : ∀ value, m value → Triple (Keeps holding) (next value) post fun _ => Keeps holding) :
    Triple (Keeps holding) (first >>= next) post fun _ => Keeps holding :=
  Triple.bind hfirst fun value trace h => hnext value h.1 trace h.2

theorem executeAction_minted (h : Held holding operation) (hexecutors : runtime.executors.Conventional)
    (hcontext : context.executionContext.operationId = holding.operationId) :
    Triple (Keeps holding) (runtime.executeAction operation action context)
      (fun receipt log => holding.Mints .receipt receipt.receiptId ∧ Keeps holding log) fun _ =>
        Keeps holding :=
  Triple.weaken
    ((OperationRuntime.executeAction_rule (fun _ _ _ hlog => Keeps.concat hlog rfl) keeps_failed).and
    (executeAction_stamped hexecutors)) (fun _ hlog => ⟨hlog, trivial⟩)
    (fun _ _ hpost => ⟨h.minted hcontext hpost.2.minted, hpost.1.2⟩) fun _ _ hlog => hlog.1

theorem perform_minted (h : Held holding operation) (hexecutors : runtime.executors.Conventional)
    (hcontext : context.executionContext.operationId = holding.operationId) {successfulKeys : List String} :
    Triple (Keeps holding) (runtime.perform context operation successfulKeys action)
      (fun receipt log => holding.Mints .receipt receipt.receiptId ∧ Keeps holding log) fun _ =>
        Keeps holding :=
  Triple.weaken ((OperationRuntime.perform_rule (fun _ _ _ hlog => Keeps.concat hlog rfl) keeps_failed).and
    (perform_stamped hexecutors)) (fun _ hlog => ⟨hlog, trivial⟩)
    (fun _ _ hpost => ⟨h.minted hcontext hpost.2.minted, hpost.1.2⟩) fun _ _ hlog => hlog.1

abbrev ExitsHeld (holding : Holding) (program : Runtime LoopExit) : Prop :=
  Triple (Keeps holding) program (fun exit log => Held holding (RunInvariant.reached exit) ∧ Keeps holding log)
    fun _ => Keeps holding

theorem settle_held (h : Held holding state.operation) :
    ExitsHeld holding (runtime.settle state action receipt) := by
  unfold OperationRuntime.settle
  refine Triple.ite (fun _ => Triple.pure fun log hlog => ⟨h, hlog⟩) fun _ => ?_
  refine Triple.ite (fun _ => Triple.pure fun log hlog => ⟨h, hlog⟩) fun _ => ?_
  refine Triple.ite (fun _ => ?_) fun _ => Triple.ite (fun _ => ?_) fun _ => ?_
  · refine OperationRuntime.bind_noted_eq fun updatedAtIso event => ?_
    exact Triple.bind_record (m := Keeps holding) (fun log hlog => hlog.saved { h with })
      (Triple.pure fun log hlog => ⟨{ h with }, hlog⟩)
  · refine OperationRuntime.bind_noted_eq fun updatedAtIso event => ?_
    exact Triple.bind_record (m := Keeps holding) (fun log hlog => hlog.saved { h with })
      (Triple.pure fun log hlog => ⟨{ h with }, hlog⟩)
  · exact Triple.bind (fail_held h) fun failed => Triple.pure fun log hlog => hlog

theorem iterate_held (h : Held holding state.operation) (hexecutors : runtime.executors.Conventional)
    (hcontext : context.executionContext.operationId = holding.operationId) :
    ExitsHeld holding (runtime.iterate context state) := by
  unfold OperationRuntime.iterate
  split
  · refine Triple.bind_record (m := Keeps holding) (fun log hlog => hlog.concat rfl) ?_
    exact Triple.bind (fail_held h) fun failed => Triple.pure fun log hlog => hlog
  · split
    · exact Triple.raise fun log hlog => hlog
    refine Triple.bind_record (m := Keeps holding) (fun log hlog => hlog.concat rfl) ?_
    refine bind_held (startAction_held h) fun running hrunning => ?_
    refine bind_held (checkpointIfRequired_held hrunning) fun checked hchecked => ?_
    refine bind_held (perform_minted hchecked hexecutors hcontext) fun receipt hreceipt => ?_
    exact bind_held (appendReceipt_held hchecked hreceipt) fun received hreceived => settle_held hreceived

theorem runLoop_held (h : Held holding state.operation) (hexecutors : runtime.executors.Conventional)
    (hcontext : context.executionContext.operationId = holding.operationId) (rounds : Nat) :
    ExitsHeld holding (runtime.runLoop context rounds state) := by
  induction rounds generalizing state with
  | zero =>
    exact Triple.bind_record (m := Keeps holding) (fun log hlog => hlog.concat rfl)
      (Triple.raise fun log hlog => hlog)
  | succ rounds ih =>
    unfold OperationRuntime.runLoop
    refine Triple.ite (fun _ => Triple.pure fun log hlog => ⟨h, hlog⟩) fun _ => ?_
    refine bind_held (iterate_held h hexecutors hcontext) fun exit hexit => ?_
    cases exit with
    | left next => exact ih hexit
    | paused operation => exact Triple.pure fun log hlog => ⟨hexit, hlog⟩

theorem rollbackOne_held (h : Held holding operation) (hexecutors : runtime.executors.Conventional)
    (hcontext : context.executionContext.operationId = holding.operationId) :
    StaysHeld holding (runtime.rollbackOne context operation receipt) := by
  unfold OperationRuntime.rollbackOne
  split
  · exact Triple.raise fun log hlog => hlog
  · refine Triple.bind_attempt (fun definition _ => ?_) fun error _ => keeps_failed error
    split
    · exact Triple.pure fun log hlog => ⟨h, hlog⟩
    · refine Triple.bind_attempt (fun rollbackDefinition _ => ?_) fun error _ => keeps_failed error
      refine bind_held (executeAction_minted h hexecutors hcontext) fun rollbackReceipt hreceipt => ?_
      exact appendReceipt_held h hreceipt

theorem rollback_held (h : Held holding operation) (hexecutors : runtime.executors.Conventional)
    (hcontext : context.executionContext.operationId = holding.operationId) :
    StaysHeld holding (runtime.rollback operation context) := by
  unfold OperationRuntime.rollback OperationRuntime.utcNowIso
  refine Triple.bind_record (m := Keeps holding) (fun log hlog => hlog.concat rfl) ?_
  refine OperationRuntime.bind_noted_eq fun updatedAtIso event => ?_
  refine bind_held (m := Held holding) ?_ fun rolled hrolled => ?_
  · refine Triple.weaken (Triple.foldlM (i := fun _ later log => Held holding later ∧ Keeps holding log)
      (f := fun _ => Keeps holding) ?_) (fun log hlog => ⟨{ h with }, hlog⟩)
        (fun _ _ hlog => hlog) fun _ _ hlog => hlog
    intro done receipt later _ trace hlog
    exact rollbackOne_held hlog.1 hexecutors hcontext trace hlog.2
  · refine Triple.bind_tick fun completedAtIso => ?_
    refine OperationRuntime.bind_noted_eq fun finishedAtIso finish => save_held ?_
    refine { hrolled with certificate := certificate_of_some rfl (Or.inl ?_) }
    exact congrArg (fun operationId => s!"rollback:{operationId}") hrolled.operationId

theorem invariantEngine_mints {world : WorldState} {relationships : List Relationship}
    {results : List VerificationResult} (hconditions : ∀ condition ∈ conditions,
      condition.conditionId ∈ holding.conditionIds)
    (h : (invariantEngine texts dumped).evaluate conditions world relationships = .ok results) :
    ∀ result ∈ results, holding.Mints .verification result.resultId := by
  obtain ⟨evaluations, hevaluations, hresults⟩ := except_bind_eq_ok h
  obtain rfl := Except.ok.inj hresults
  intro result hmem
  obtain ⟨evaluation, hevaluation, rfl⟩ := List.mem_map.mp hmem
  obtain ⟨definition, hdefinition, hmade⟩ := mem_of_mapM hevaluations hevaluation
  obtain ⟨condition, hcondition, rfl⟩ := List.mem_map.mp hdefinition
  refine ⟨condition.conditionId, hconditions condition hcondition, ?_⟩
  rw [Invariants.validate_eq_ok hmade]
  rfl

theorem evaluateConditions_mints (hengine : runtime.verification = invariantEngine texts dumped)
    (hconditions : ∀ condition ∈ conditions, condition.conditionId ∈ holding.conditionIds) :
    Triple (Keeps holding) (runtime.evaluateConditions conditions context)
      (fun results log => (∀ result ∈ results, holding.Mints .verification result.resultId) ∧ Keeps holding log)
      fun _ => Keeps holding := by
  unfold OperationRuntime.evaluateConditions
  refine Triple.ite (fun _ => Triple.pure fun log hlog =>
    ⟨fun _ hmem => absurd hmem List.not_mem_nil, hlog⟩) fun _ => ?_
  refine Triple.bind_consult (fun world => ?_) keeps_failed
  refine Triple.bind_consult (fun relationships => ?_) keeps_failed
  refine Triple.attempt (fun results hresults log hlog => ⟨?_, hlog⟩) fun error _ => keeps_failed error
  rw [hengine] at hresults
  exact invariantEngine_mints hconditions hresults

theorem Held.asked (h : Held holding operation) {given : Option (List VerificationCondition)}
    (hgiven : ∀ condition ∈ given.getD [], condition.conditionId ∈ holding.conditionIds) :
    ∀ condition ∈ given.getD operation.plan.verificationConditions,
      condition.conditionId ∈ holding.conditionIds := by
  cases given with
  | none => exact h.planned
  | some list => exact hgiven

theorem sealRun_held (h : Held holding operation) (hengine : runtime.verification =
    invariantEngine texts dumped)
    {given : Option (List VerificationCondition)}
    (hgiven : ∀ condition ∈ given.getD [], condition.conditionId ∈ holding.conditionIds) :
    StaysHeld holding (runtime.sealRun operation context given) := by
  unfold OperationRuntime.sealRun OperationRuntime.utcNowIso
  refine OperationRuntime.bind_noted_eq fun updatedAtIso event => ?_
  refine bind_held (evaluateConditions_mints hengine (h.asked hgiven)) fun results hresults => ?_
  refine Triple.bind_tick fun completedAtIso => ?_
  refine OperationRuntime.bind_noted_eq fun sealedAtIso finish => save_held ?_
  have hid := congrArg (fun operationId => s!"recovery:{operationId}:{(operation.events ++ [event]).length}")
    h.operationId
  exact { h with results := hresults, certificate := certificate_of_some rfl (Or.inr ⟨_, hid⟩) }

theorem run_held (h : Held holding operation) (hexecutors : runtime.executors.Conventional)
    (hcontext : context.executionContext.operationId = holding.operationId)
    (hengine : runtime.verification = invariantEngine texts dumped)
    {given : Option (List VerificationCondition)}
    (hgiven : ∀ condition ∈ given.getD [], condition.conditionId ∈ holding.conditionIds)
    {rollbackOnFailure : Bool} :
    StaysHeld holding (runtime.run operation policy context given rollbackOnFailure) := by
  unfold OperationRuntime.run OperationRuntime.utcNowIso
  refine bind_held (authorize_held h) fun authorized hauthorized => ?_
  refine Triple.ite (fun _ => Triple.pure fun log hlog => ⟨hauthorized, hlog⟩) fun _ => ?_
  refine Triple.bind_tick fun now => OperationRuntime.bind_event_any fun event => ?_
  refine Triple.bind_record (m := Keeps holding) (fun log hlog => hlog.saved { hauthorized with }) ?_
  refine bind_held (runLoop_held { hauthorized with } hexecutors hcontext _) fun exit hexit => ?_
  cases exit with
  | paused operation => exact Triple.pure fun log hlog => ⟨hexit, hlog⟩
  | left state =>
    refine Triple.ite (fun _ => ?_) fun _ => sealRun_held hexit hengine hgiven
    refine bind_held (m := Held holding) ?_ fun rolled hrolled => save_held hrolled
    unfold OperationRuntime.rollbackIfAsked
    exact Triple.ite (fun _ => rollback_held hexit hexecutors hcontext) fun _ =>
      Triple.pure fun log hlog => ⟨hexit, hlog⟩

theorem cancel_held (h : Held holding operation) {reason : String} :
    StaysHeld holding (runtime.cancel operation reason) := by
  unfold OperationRuntime.cancel OperationRuntime.utcNowIso
  refine Triple.ite (fun _ => Triple.raise fun log hlog => hlog) fun _ =>
    Triple.bind_tick fun completedAtIso => ?_
  exact OperationRuntime.bind_noted_eq fun updatedAtIso event => save_held { h with }

theorem pause_held (h : Held holding operation) {reason : String} :
    StaysHeld holding (runtime.pause operation reason) := by
  unfold OperationRuntime.pause
  refine Triple.ite (fun _ => Triple.raise fun log hlog => hlog) fun _ => ?_
  exact OperationRuntime.bind_noted_eq fun updatedAtIso event => save_held { h with }

theorem addApproval_held (h : Held holding operation) {approval : ApprovalRecord}
    (happroval : approval.approvalId ∈ holding.approvalIds) :
    StaysHeld holding (runtime.addApproval operation approval) := by
  unfold OperationRuntime.addApproval
  refine Triple.ite (fun _ => Triple.raise fun log hlog => hlog) fun _ => ?_
  refine OperationRuntime.bind_noted_eq fun updatedAtIso event => save_held { h with approvals := ?_ }
  intro found hmem
  rcases List.mem_append.mp hmem with hold | hnew
  · exact h.approvals found hold
  · rw [List.mem_singleton.mp hnew]
    exact happroval

theorem reconcileExternalReceipts_held (h : Held holding operation) {receipts : List ActionReceipt}
    (htold : ∀ receipt ∈ receipts, holding.Mints .receipt receipt.receiptId)
    {currentActionIds : Option (List String)} :
    StaysHeld holding (runtime.reconcileExternalReceipts operation receipts currentActionIds) := by
  have hproject : ∀ current actions status hash, StaysHeld holding
      (OperationRuntime.reconcileExternalReceipts.project runtime operation
        (OperationRuntime.mergeReceipts operation.actionReceipts receipts) current actions status hash) := by
    intro current actions status hash
    unfold OperationRuntime.reconcileExternalReceipts.project OperationRuntime.utcNowIso
    refine Triple.bind_tick fun now => OperationRuntime.bind_event_any fun event => save_held ?_
    refine { h with receipts := fun receipt hmem => ?_ }
    rcases mem_mergeReceipts hmem with hown | hexternal
    · exact h.receipts receipt hown
    · exact htold receipt hexternal
  unfold OperationRuntime.reconcileExternalReceipts
  dsimp only
  split
  · exact Triple.ite (fun _ => Triple.pure fun log hlog => ⟨h, hlog⟩) fun _ => hproject _ _ _ _
  · exact hproject _ _ _ _

theorem verifyExternal_held (h : Held holding operation)
    (hengine : runtime.verification = invariantEngine texts dumped)
    {given : Option (List VerificationCondition)}
    (hgiven : ∀ condition ∈ given.getD [], condition.conditionId ∈ holding.conditionIds) :
    StaysHeld holding (runtime.verifyExternal operation context given) := by
  unfold OperationRuntime.verifyExternal OperationRuntime.utcNowIso
  refine Triple.ite (fun _ => Triple.raise fun log hlog => hlog) fun _ => ?_
  refine bind_held (evaluateConditions_mints hengine (h.asked hgiven)) fun results hresults => ?_
  refine Triple.bind_tick fun now => OperationRuntime.bind_event_any fun event => save_held ?_
  have hid := congrArg (fun operationId => s!"recovery:{operationId}:{operation.events.length}") h.operationId
  exact { h with results := hresults, certificate := certificate_of_some rfl (Or.inr ⟨_, hid⟩) }

end Steps

section Calls

def Call.conditions : Call → List VerificationCondition
  | .run _ _ conditions _ | .resume _ _ conditions | .verifyExternal _ conditions => conditions.getD []
  | _ => []

def Call.approvals : Call → List ApprovalRecord
  | .addApproval approval => [approval]
  | _ => []

/-- The id that `create` makes up. -/
def OperationRuntime.Creation.operationId (creation : Creation) : String :=
  let segment := Text.lastSegment creation.plan.planId ':'
  s!"operation:{creation.environmentId}:{segment}"

structure Call.Own (holding : Holding) (call : Call) : Prop where
  approvals : ∀ approval ∈ call.approvals, approval.approvalId ∈ holding.approvalIds
  conditions : ∀ condition ∈ call.conditions, condition.conditionId ∈ holding.conditionIds
  contexts : ∀ context mayRollBack, call.execution = some (context, mayRollBack) →
    context.executionContext.operationId = holding.operationId
  receipts : ∀ receipt ∈ call.receipts, holding.Mints .receipt receipt.receiptId

variable {runtime : OperationRuntime} {holding : Holding} {creation : Creation}
  {calls : List Call} {call : Call}
variable {texts : ValueTexts} {dumped : Value → Json} {given : OperationRun} {base : Log}

theorem create_held (hid : holding.operationId = creation.operationId)
    (hconditions : ∀ condition ∈ creation.plan.verificationConditions,
      condition.conditionId ∈ holding.conditionIds)
    (happrovals : ∀ approval ∈ creation.approvals, approval.approvalId ∈ holding.approvalIds) :
    StaysHeld holding
      (runtime.create creation.environmentId creation.plan creation.mode creation.approvals) := by
  unfold OperationRuntime.create OperationRuntime.utcNowIso OperationRuntime.validateInstance
  refine Triple.bind (m := fun _ => Keeps holding) (Triple.mapM (i := fun _ _ => Keeps holding)
    fun _ _ _ _ => Triple.attempt (fun _ _ _ hlog => hlog) fun error _ => keeps_failed error) fun _ => ?_
  refine Triple.bind_tick fun now => OperationRuntime.bind_event_any fun event => ?_
  refine Triple.bind_attempt (fun _ _ => save_held ?_) fun error _ => keeps_failed error
  exact {
    operationId := hid.symm
    planned := hconditions
    approvals := happrovals
    receipts := fun _ hmem => absurd hmem List.not_mem_nil
    checkpoints := fun _ hmem => absurd hmem List.not_mem_nil
    results := fun _ hmem => absurd hmem List.not_mem_nil
    certificate := fun _ hmem => absurd hmem List.not_mem_nil }

theorem resume_held (hexecutors : runtime.executors.Conventional)
    (hengine : runtime.verification = invariantEngine texts dumped) (hlatest : latest base = some given)
    (h : Held holding given) (hkeeps : Keeps holding base) {policy : ExecutionPolicy} {context : RuntimeContext}
    {asked : Option (List VerificationCondition)} (hown : (Call.resume policy context asked).Own holding) :
    Triple (fun log => log = base) (runtime.resume given.operationId policy context asked)
      (fun later log => Held holding later ∧ Keeps holding log) fun _ => Keeps holding := by
  unfold OperationRuntime.resume
  refine Triple.bind (Triple.weaken (load_rule hlatest) (fun _ hlog => hlog) (fun _ _ hlog => hlog)
    fun _ log hlog => hlog ▸ hkeeps) fun loaded => ?_
  refine Triple.assuming (fun _ hlog => hlog.1) fun hloaded => ?_
  subst hloaded
  refine Triple.weaken (?_ : StaysHeld holding _) (fun log hlog => hlog.2 ▸ hkeeps) (fun _ _ hpost => hpost)
    fun _ _ hlog => hlog
  refine Triple.ite (fun _ => Triple.raise fun log hlog => hlog) fun _ => ?_
  refine OperationRuntime.bind_noted_eq fun updatedAtIso event => ?_
  have hresumed : Held holding { loaded with
      status := .created, updatedAtIso, events := loaded.events ++ [event], pauseReason := none
      failureReason := none } := { h with }
  refine Triple.bind_record (m := Keeps holding) (fun log hlog => hlog.saved hresumed) ?_
  exact run_held hresumed hexecutors (hown.contexts _ _ rfl) hengine hown.conditions

theorem perform_held (hexecutors : runtime.executors.Conventional)
    (hengine : runtime.verification = invariantEngine texts dumped) (hlatest : latest base = some given)
    (h : Held holding given) (hkeeps : Keeps holding base) (hown : call.Own holding) :
    Triple (fun log => log = base) (call.perform runtime given)
      (fun later log => Held holding later ∧ Keeps holding log) fun _ => Keeps holding := by
  have hcall : StaysHeld holding (call.perform runtime given) →
      Triple (fun log => log = base) (call.perform runtime given)
        (fun later log => Held holding later ∧ Keeps holding log) fun _ => Keeps holding := fun hstays =>
    Triple.weaken hstays (fun _ hlog => hlog ▸ hkeeps) (fun _ _ hpost => hpost) fun _ _ hlog => hlog
  cases call with
  | authorize policy context => exact hcall (authorize_held h)
  | addApproval approval => exact hcall (addApproval_held h (hown.approvals approval List.mem_cons_self))
  | run policy context conditions rollbackOnFailure =>
    exact hcall (run_held h hexecutors (hown.contexts _ _ rfl) hengine hown.conditions)
  | cancel reason => exact hcall (cancel_held h)
  | pause reason => exact hcall (pause_held h)
  | rollback context => exact hcall (rollback_held h hexecutors (hown.contexts _ _ rfl))
  | reconcileExternalReceipts receipts currentActionIds =>
    exact hcall (reconcileExternalReceipts_held h hown.receipts)
  | verifyExternal context conditions => exact hcall (verifyExternal_held h hengine hown.conditions)
  | resume policy context conditions => exact resume_held hexecutors hengine hlatest h hkeeps hown

theorem session_keeps (hexecutors : runtime.executors.Conventional)
    (hengine : runtime.verification = invariantEngine texts dumped)
    (hcreated : StaysHeld holding
      (runtime.create creation.environmentId creation.plan creation.mode creation.approvals))
    (hown : ∀ call ∈ calls, call.Own holding) : Keeps holding (runtime.session creation calls).log := by
  induction calls using List.reverseRecOn with
  | nil =>
    have hstart := hcreated (Trace.start Effect) fun operation hmem => absurd hmem List.not_mem_nil
    change Keeps holding (runtime.created creation).log
    unfold OperationRuntime.created
    rcases hexec : (runtime.create creation.environmentId creation.plan creation.mode creation.approvals).exec
      (Trace.start Effect) with ⟨result, reached⟩
    rw [hexec] at hstart
    cases result with
    | ok operation => exact hstart.2
    | error error => exact hstart
  | append_singleton calls call ih =>
    have hkeeps := ih fun other hmem => hown other (List.mem_append_left _ hmem)
    rw [session_concat]
    unfold OperationRuntime.step
    cases hlatest : latest (runtime.session creation calls).log with
    | none => exact hkeeps
    | some given =>
      have hperform := perform_held hexecutors hengine hlatest (hkeeps given (mem_of_latest hlatest)) hkeeps
        (hown call (List.mem_append_right _ List.mem_cons_self)) (runtime.session creation calls) rfl
      dsimp only
      rcases hexec : (call.perform runtime given).exec (runtime.session creation calls) with ⟨result, reached⟩
      rw [hexec] at hperform
      cases result with
      | ok operation => exact hperform.2
      | error error => exact hperform

end Calls

end KubeOps.Execution
