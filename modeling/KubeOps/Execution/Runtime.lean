import KubeOps.Execution.Executors
import KubeOps.Models.Verification

/-! The operation runtime. Each function reads and writes the operation exactly
as the source does; journal writes, policy evaluations and executor invocations
are entries of the log, in the order in which they happen. -/
namespace KubeOps.Execution

open KubeOps.Foundation KubeOps.Models KubeOps.Policy KubeOps.Actions KubeOps.Verification

structure Clock where
  utcNowIso : Nat → String
  /-- `datetime.now(timezone.utc)`, in microseconds. -/
  now : Nat → Int

structure OperationRuntime where
  actions : ActionCatalog
  executors : ExecutorRegistry
  verification : VerificationEngine
  codec : JsonCodec OperationRun
  python : Python
  clock : Clock

structure RuntimeContext where
  policyContext : PolicyContext
  executionContext : ExecutionContext
  worldProvider : Trace Effect → Except PyError WorldState
  relationshipsProvider : Trace Effect → Except PyError (List Relationship)

/-- `"dry_run" if operation.mode == "dry_run" else context.execution_context.mode` -/
def effectiveMode (operation : OperationRun) (context : RuntimeContext) : String :=
  if operation.mode = .dryRun then "dry_run" else context.executionContext.mode

namespace OperationRuntime

open FileOperationStore

variable (runtime : OperationRuntime)

def utcNowIso : Runtime String := Program.tick runtime.clock.utcNowIso

def validateInstance (action : ActionInstance) : Runtime ActionTypeDefinition :=
  Program.attempt (runtime.actions.validateInstance runtime.python action)

def event (operationId : String) (sequence : Nat) (eventType title : String)
    (actionId : Option String) (details : JsonObject) : Runtime OperationEvent := do
  let occurredAtIso ← runtime.utcNowIso
  return { sequence, operationId, eventType, occurredAtIso, title, actionId, details }

/-- The update every step makes: a new `updated_at_iso` and one more event. -/
def noted (operation : OperationRun) (eventType title : String) (actionId : Option String)
    (details : JsonObject) : Runtime OperationRun := do
  let updatedAtIso ← runtime.utcNowIso
  let event ← runtime.event operation.operationId operation.events.length eventType title actionId
    details
  return { operation with updatedAtIso, events := operation.events ++ [event] }

def create (environmentId : String) (plan : RecoveryPlan) (mode : OperationMode)
    (approvals : List ApprovalRecord) : Runtime OperationRun := do
  let _ ← plan.actions.mapM runtime.validateInstance
  let now ← runtime.utcNowIso
  let segment := Text.lastSegment plan.planId ':'
  let operationId := s!"operation:{environmentId}:{segment}"
  let event ← runtime.event operationId 0 "operation.created" "Operation created" none ∅
  let operation : OperationRun := {
    operationId, environmentId
    operationType := plan.operationType
    objectiveId := plan.objectiveId
    status := .created
    mode
    plan := { plan with mode := mode.planMode }
    approvals
    createdAtIso := now
    updatedAtIso := now
    events := [event] }
  Program.attempt (operation.validateReceipts runtime.python)
  save operation
  return operation

/-- One element of the `decisions` comprehension. -/
def decide (operation : OperationRun) (policy : ExecutionPolicy) (context : PolicyContext)
    (action : ActionInstance) : Runtime PolicyDecision := do
  let definition ← runtime.validateInstance action
  let now ← Program.tick runtime.clock.now
  let evaluatedAtIso ← runtime.utcNowIso
  let decision ← Program.attempt
    (evaluate runtime.python now action definition policy context operation.approvals evaluatedAtIso)
  Program.record (.evaluated action definition policy context operation.approvals decision)
  return decision

def outcomeStatus : PolicyOutcome → ActionStatus
  | .allow => .authorized
  | .approvalRequired => .approvalRequired
  | .deny => .blocked

def markAction (decisionByAction : Dict String PolicyDecision) (action : ActionInstance) :
    Except PyError ActionInstance :=
  match decisionByAction.get? action.actionId with
  | some decision => .ok { action with status := outcomeStatus decision.outcome }
  | none => .error (.keyError action.actionId)

def authorizationStatus (denied pending : List PolicyDecision) : OperationStatus :=
  if denied ≠ [] then .blocked else if pending ≠ [] then .awaitingApproval else .authorized

def authorizationTitle (denied pending : List PolicyDecision) : String :=
  if denied ≠ [] then s!"Authorization denied for {denied.length} action(s)"
  else if pending ≠ [] then s!"Awaiting approval for {pending.length} action(s)"
  else "All planned actions authorized"

def authorize (operation : OperationRun) (policy : ExecutionPolicy) (context : RuntimeContext) :
    Runtime OperationRun := do
  let policyContext := { context.policyContext with executionMode := effectiveMode operation context }
  let decisions ← operation.plan.actions.mapM (runtime.decide operation policy policyContext)
  let denied := decisions.filter fun decision => decision.outcome = .deny
  let pending := decisions.filter fun decision => decision.outcome = .approvalRequired
  let decisionByAction := Dict.ofList (decisions.map fun decision => (decision.actionId, decision))
  let authorizedActions ← Program.attempt (operation.plan.actions.mapM (markAction decisionByAction))
  let operation ← runtime.noted operation "operation.authorization_evaluated"
    (authorizationTitle denied pending) none
    (Dict.ofList [("decision_count", .int decisions.length)])
  let operation := { operation with
    status := authorizationStatus denied pending
    plan := { operation.plan with actions := authorizedActions }
    policyDecisions := decisions }
  save operation
  return operation

section Reconcile

def receiptOrder (left right : ActionReceipt) : Prop :=
  left.startedAtIso < right.startedAtIso ∨
    left.startedAtIso = right.startedAtIso ∧ left.receiptId ≤ right.receiptId

instance : DecidableRel receiptOrder := fun _ _ => by
  unfold receiptOrder
  infer_instance

def mergeReceipts (own external : List ActionReceipt) : List ActionReceipt :=
  (Dict.ofList ((own ++ external).map fun receipt => (receipt.receiptId, receipt))).values.insertionSort
    receiptOrder

def projectedStatus (action : ActionInstance) (current : List String) :
    Option ActionReceipt → ActionStatus
  | receipt =>
    if action.actionId ∈ current then .running
    else match receipt.map ActionReceipt.status with
      | none => if action.status = .approvalRequired ∨ action.status = .blocked then action.status
        else .authorized
      | some .completed | some .alreadySatisfied => .completed
      | some .skipped => .skipped
      | some .rolledBack => .rolledBack
      | some .failed => .failed

def terminalAction : ActionStatus → Bool
  | .completed | .skipped | .rolledBack | .failed => true
  | _ => false

def failedRequired (actions : List ActionInstance) : List ActionInstance :=
  actions.filter fun action => action.status = .failed ∧ ¬ action.isOptional

def reconciledStatus (actions : List ActionInstance) : OperationStatus :=
  if failedRequired actions ≠ [] then .failed
  else if actions.all fun action => terminalAction action.status then .verifying
  else .running

def reconciledReason (actions : List ActionInstance) : Option String :=
  if failedRequired actions ≠ [] then
    some s!"{(failedRequired actions).length} distributed action(s) failed"
  else none

def projectionHash (merged : List ActionReceipt) (current : List String)
    (status : OperationStatus) : String :=
  runtime.python.sha256 (runtime.python.dumps (.dict [
    ("receipt_ids", Json.strings (merged.map ActionReceipt.receiptId)),
    ("current_action_ids", Json.strings current),
    ("status", .str status.text)]))

def reconcileExternalReceipts (operation : OperationRun) (receipts : List ActionReceipt)
    (currentActionIds : Option (List String)) : Runtime OperationRun := do
  let merged := mergeReceipts operation.actionReceipts receipts
  let latestByAction := Dict.ofList (merged.map fun receipt => (receipt.actionId, receipt))
  let current := sortedSet (currentActionIds.getD [])
  let actions := operation.plan.actions.map fun action =>
    { action with status := projectedStatus action current (latestByAction.get? action.actionId) }
  let status := reconciledStatus actions
  let hash := runtime.projectionHash merged current status
  match operation.metadata.get? "external_projection_hash" with
  | some (.str recorded) => if recorded =
      hash then return operation else project merged current actions status hash
  | _ => project merged current actions status hash
where
  project (merged : List ActionReceipt) (current : List String) (actions : List ActionInstance)
      (status : OperationStatus) (hash : String) : Runtime OperationRun := do
    let now ← runtime.utcNowIso
    let event ← runtime.event operation.operationId operation.events.length
      "operation.distributed_reconciled" s!"Distributed execution reconciled as {status.text}" none
      (Dict.ofList [("receipt_count", .int merged.length), ("current_action_ids", Json.strings current)])
    let updated := { operation with
      status
      plan := { operation.plan with actions }
      actionReceipts := merged
      currentActionIds := current
      startedAtIso := operation.startedAtIso.orElse fun _ => some now
      completedAtIso := if status = .failed then some now else none
      failureReason := reconciledReason actions
      updatedAtIso := now
      events := operation.events ++ [event]
      metadata := operation.metadata.set "external_projection_hash" (.str hash) }
    save updated
    return updated

end Reconcile

def certificateFor (operation : OperationRun) (results : List VerificationResult)
    (status : CertificateStatus) (residualRisks : List String) (metadata : JsonObject) :
    RecoveryCertificate where
  certificateId := s!"recovery:{operation.operationId}:{operation.events.length}"
  operationId := some operation.operationId
  incidentId := operation.plan.incidentId
  planId := operation.plan.planId
  status := status
  restoredInvariantIds :=
    (results.filter fun result => result.status = .healthy).map VerificationResult.conditionId
  unresolvedInvariantIds :=
    (results.filter fun result => result.status ≠ .healthy).map VerificationResult.conditionId
  actionReceiptIds := operation.actionReceipts.map ActionReceipt.receiptId
  verificationResultIds := results.map VerificationResult.resultId
  residualRisks := residualRisks
  metadata := metadata

/-- `verification.evaluate(...) if conditions else []` -/
def evaluateConditions (conditions : List VerificationCondition) (context : RuntimeContext) :
    Runtime (List VerificationResult) :=
  if conditions = [] then return []
  else do
    let world ← Program.consult context.worldProvider
    let relationships ← Program.consult context.relationshipsProvider
    Program.attempt (runtime.verification.evaluate conditions world relationships)

def verifyExternal (operation : OperationRun) (context : RuntimeContext)
    (verificationConditions : Option (List VerificationCondition)) : Runtime OperationRun := do
  if operation.status ≠ .verifying then
    Program.raise (.valueError s!"operation cannot be verified from {operation.status.text}")
  else
    let conditions := verificationConditions.getD operation.plan.verificationConditions
    let results ← runtime.evaluateConditions conditions context
    let isProtected := protectedViolation conditions results
    let success := (conditions = [] ∨ successful conditions results) ∧ ¬ isProtected
    let liveVerified := context.executionContext.mode = "live"
    let status := if success then
      if liveVerified then CertificateStatus.recovered else .partiallyRecovered
      else .recoveryFailed
    let certificate := certificateFor operation results status
      ((if liveVerified then [] else ["verification did not observe a live environment"]) ++
        if success then [] else ["verification failed"])
      (Dict.ofList [("dry_run", .bool (operation.mode = .dryRun)), ("simulated", .bool ¬ liveVerified),
        ("protected_violation", .bool isProtected), ("distributed_execution", .bool true)])
    let now ← runtime.utcNowIso
    let event ← runtime.event operation.operationId operation.events.length "operation.sealed"
      s!"Distributed operation sealed as {certificate.status.text}" none ∅
    let final := { operation with
      status := if success then .completed else .failed
      verificationResults := results
      recoveryCertificate := some certificate
      currentActionIds := []
      completedAtIso := some now
      updatedAtIso := now
      events := operation.events ++ [event] }
    save final
    return final

def addApproval (operation : OperationRun) (approval : ApprovalRecord) : Runtime OperationRun := do
  if approval.operationId ≠ operation.operationId then
    Program.raise (.valueError "approval belongs to a different operation")
  else
    let operation ← runtime.noted operation "approval.recorded"
      s!"Approval {approval.decision.text} by {approval.approverId}" approval.actionId ∅
    let operation := { operation with approvals := operation.approvals ++ [approval] }
    save operation
    return operation

section Steps

def executorFor (operation : OperationRun) (context : RuntimeContext)
    (definition : ActionTypeDefinition) : String :=
  if operation.mode = .dryRun then "dry_run"
  else if context.executionContext.mode = "simulation" then "simulation"
  else definition.executorId

/-- The loop over `range(attempt, max_attempts + 1)`, with what is left of it. -/
def attempts (operation : OperationRun) (executor : ActionExecutor) (action : ActionInstance)
    (definition : ActionTypeDefinition) (context : ExecutionContext) :
    Nat → Nat → Option ActionReceipt → Runtime ActionReceipt
  | 0, _, some last => return last
  | 0, _, none => Program.raise .assertionError
  | remaining + 1, attempt, _ => do
    Program.record (.invoked operation executor.executorId action context attempt)
    let outcome ← Program.consult fun trace => executor.execute trace action definition context attempt
    let receipt := executor.receipt action context attempt outcome
    if receipt.status.successful then return receipt
    else attempts operation executor action definition context remaining (attempt + 1) (some receipt)

def executeAction (operation : OperationRun) (action : ActionInstance) (context : RuntimeContext) :
    Runtime ActionReceipt := do
  let definition ← runtime.validateInstance action
  let mode := effectiveMode operation context
  if mode ≠ "dry_run" ∧ mode ∉ definition.supportedModes.map SupportedMode.text then
    Program.raise
      (.permissionError
        s!"action {action.actionId} does not support execution mode {runtime.python.repr (Json.str mode)}")
  else
    let executor ← Program.attempt
      (runtime.executors.get runtime.python (executorFor operation context definition))
    attempts operation executor action definition context.executionContext definition.maxAttempts 1
      none

def receiptEvent : ReceiptStatus → String × ActionStatus
  | .rolledBack => ("action.rolled_back", .rolledBack)
  | .completed | .alreadySatisfied => ("action.completed", .completed)
  | .skipped => ("action.completed", .skipped)
  | .failed => ("action.failed", .failed)

def markActions (actions : List ActionInstance) (actionId : String) (status : ActionStatus) :
    List ActionInstance :=
  actions.map fun action => if action.actionId = actionId then { action with status } else action

def appendReceipt (operation : OperationRun) (receipt : ActionReceipt) : Runtime OperationRun := do
  let (eventType, actionStatus) := receiptEvent receipt.status
  let operation ← runtime.noted operation eventType s!"{receipt.actionId}: {receipt.status.text}"
    (some receipt.actionId)
    (Dict.ofList [("receipt_id", .str receipt.receiptId), ("executor_id", .str receipt.executorId)])
  let operation := { operation with
    plan := { operation.plan with
      actions := markActions operation.plan.actions receipt.actionId actionStatus }
    actionReceipts := operation.actionReceipts ++ [receipt]
    currentActionIds := operation.currentActionIds.filter (· ≠ receipt.actionId) }
  save operation
  return operation

/-- `_set_action_status(operation, action_id, "running", current=True)`, its only use. -/
def startAction (operation : OperationRun) (actionId : String) : Runtime OperationRun := do
  let event ← runtime.event operation.operationId operation.events.length "action.started"
    s!"Action {actionId} started" (some actionId) ∅
  let updatedAtIso ← runtime.utcNowIso
  let operation := { operation with
    plan := { operation.plan with actions := markActions operation.plan.actions actionId .running }
    currentActionIds := [actionId]
    updatedAtIso
    events := operation.events ++ [event] }
  save operation
  return operation

def checkpoint (operation : OperationRun) (world : WorldState) : Runtime OperationRun := do
  let completedActionIds := (operation.actionReceipts.filter fun receipt =>
    receipt.status.successful).map ActionReceipt.actionId
  let createdAtIso ← runtime.utcNowIso
  let checkpoint : ExecutionCheckpoint := {
    checkpointId := s!"checkpoint:{operation.operationId}:{operation.checkpoints.length}"
    operationId := operation.operationId
    createdAtIso, completedActionIds
    pendingActionIds := operation.plan.actionIds.filter (· ∉ completedActionIds)
    worldState := world
    stateHash := runtime.python.sha256 (runtime.python.dumps (.dict world)) }
  let event ← runtime.event operation.operationId operation.events.length "checkpoint.created"
    "Execution checkpoint created" none
    (Dict.ofList [("checkpoint_id", .str checkpoint.checkpointId)])
  let updatedAtIso ← runtime.utcNowIso
  let operation := { operation with
    checkpoints := operation.checkpoints ++ [checkpoint]
    events := operation.events ++ [event]
    updatedAtIso }
  save operation
  return operation

/-- `if decision.requires_checkpoint: operation = self._checkpoint(...)` -/
def checkpointIfRequired (context : RuntimeContext) (operation : OperationRun)
    (decision : PolicyDecision) : Runtime OperationRun :=
  if decision.requiresCheckpoint then do
    let world ← Program.consult context.worldProvider
    runtime.checkpoint operation world
  else return operation

def alreadySatisfied (operation : OperationRun) (action : ActionInstance) :
    Runtime ActionReceipt := do
  let now ← runtime.utcNowIso
  return {
    receiptId := s!"receipt:{operation.operationId}:{action.actionId}:idempotent"
    operationId := operation.operationId
    actionId := action.actionId
    actionTypeId := action.actionTypeId
    executorId := "idempotency_guard"
    status := .alreadySatisfied
    startedAtIso := now
    completedAtIso := now
    stdout := "matching idempotency key already completed"
    idempotencyKey := action.idempotencyKey }

/-- The failure is not written here; the caller saves the run. -/
def fail (operation : OperationRun) (reason : String) : Runtime OperationRun := do
  let operation ← runtime.noted operation "operation.failed" reason none ∅
  return { operation with status := .failed, failureReason := some reason }

end Steps

section Rollback

/-- The compensating action compiled for a completed one. -/
def rollbackAction (original : ActionInstance) (definition : ActionTypeDefinition) :
    ActionInstance where
  actionId := s!"rollback:{original.actionId}"
  actionTypeId := definition.actionTypeId
  title :=
    let named := if original.title = "" then original.actionTypeId else original.title
    s!"Rollback {named}"
  targetIds := original.targetIds
  parameters := original.parameters
  risk := definition.defaultRisk
  status := .authorized
  idempotencyKey :=
    (original.idempotencyKey.filter (· ≠ "")).map fun key => s!"rollback:{key}"
  metadata := Dict.ofList [("rollback_of", .str original.actionId)]

def rollbackStatus (receipt : ActionReceipt) : ReceiptStatus :=
  if receipt.status = .completed then .rolledBack else .failed

/-- One round of the loop over the completed receipts, latest first. -/
def rollbackOne (context : RuntimeContext) (operation : OperationRun) (receipt : ActionReceipt) :
    Runtime OperationRun :=
  match operation.plan.actions.find? fun action => action.actionId = receipt.actionId with
  | none => Program.raise .stopIteration
  | some original => do
    let definition ← Program.attempt (runtime.actions.get original.actionTypeId)
    match definition.rollbackActionTypeId.filter (· ≠ "") with
    | none => return operation
    | some rollbackActionTypeId =>
      let rollbackDefinition ← Program.attempt (runtime.actions.get rollbackActionTypeId)
      let rollbackReceipt ← runtime.executeAction operation
        (rollbackAction original rollbackDefinition) context
      runtime.appendReceipt operation
        { rollbackReceipt with status := rollbackStatus rollbackReceipt }

def rollback (operation : OperationRun) (context : RuntimeContext) : Runtime OperationRun := do
  Program.record (.rollingBack operation context.executionContext)
  let operation ← runtime.noted operation "rollback.started" "Rollback started" none ∅
  let operation := { operation with status := .rollingBack }
  let completed := operation.actionReceipts.filter fun receipt => receipt.status = .completed
  let operation ← completed.reverse.foldlM (runtime.rollbackOne context) operation
  let certificate : RecoveryCertificate := {
    certificateId := s!"rollback:{operation.operationId}"
    operationId := some operation.operationId
    incidentId := operation.plan.incidentId
    planId := operation.plan.planId
    status := .rollbackCompleted
    actionReceiptIds := operation.actionReceipts.map ActionReceipt.receiptId
    residualRisks := ["original target invariants were not restored"] }
  let completedAtIso ← runtime.utcNowIso
  let operation ← runtime.noted operation "rollback.completed" "Rollback completed" none ∅
  let operation := { operation with
    status := .failed, recoveryCertificate := some certificate, completedAtIso := some completedAtIso }
  save operation
  return operation

end Rollback

section Run

/-- The locals of `run`'s loop. -/
structure LoopState where
  operation : OperationRun
  completedIds : List String
  successfulKeys : List String
  pending : Dict String ActionInstance
  failed : Bool
  failureBehavior : String

/-- How the loop, or one round of it, ends: with its locals, or by returning a paused run. -/
inductive LoopExit where
  | left (state : LoopState)
  | paused (operation : OperationRun)

def LoopState.ready (state : LoopState) : List ActionInstance :=
  state.pending.values.filter fun action =>
    ∀ dependency ∈ action.dependsOnActionIds, dependency ∈ state.completedIds

/-- `sorted(ready, key=lambda item: item.action_id)[0]` -/
def firstReady (ready : List ActionInstance) : Option ActionInstance :=
  (ready.insertionSort fun left right => left.actionId ≤ right.actionId).head?

/-- `str(action.metadata.get("on_failure", failure_behavior))` -/
def onFailure (action : ActionInstance) (failureBehavior : String) : String :=
  match action.metadata.get? "on_failure" with
  | some value => runtime.python.str value
  | none => failureBehavior

def keyList (key : Option String) : List String := (key.filter (· ≠ "")).toList

def settle (state : LoopState) (action : ActionInstance) (receipt : ActionReceipt) :
    Runtime LoopExit :=
  if receipt.status.successful then
    return .left { state with
      completedIds := state.completedIds ++ [action.actionId]
      successfulKeys := state.successfulKeys ++ keyList receipt.idempotencyKey }
  else if action.isOptional then
    return .left { state with completedIds := state.completedIds ++ [action.actionId] }
  else
    let failureBehavior := runtime.onFailure action state.failureBehavior
    if failureBehavior = "continue" then do
      let operation ← runtime.noted state.operation "action.failure_tolerated"
        s!"Continuing after failed action {action.actionId}" (some action.actionId) ∅
      save operation
      return .left { state with
        operation, failureBehavior, completedIds := state.completedIds ++ [action.actionId] }
    else if failureBehavior = "pause" then do
      let operation ← runtime.noted state.operation "operation.paused"
        s!"Paused after failed action {action.actionId}" (some action.actionId) ∅
      let operation := { operation with
        status := .paused
        pauseReason := some s!"action {action.actionId} failed"
        failureReason := some s!"action {action.actionId} failed" }
      save operation
      return .paused operation
    else do
      let operation ← runtime.fail state.operation s!"action {action.actionId} failed"
      return .left { state with operation, failureBehavior, failed := true }

def perform (context : RuntimeContext) (operation : OperationRun) (successfulKeys : List String)
    (action : ActionInstance) : Runtime ActionReceipt :=
  if ∃ key ∈ keyList action.idempotencyKey, key ∈ successfulKeys then
    runtime.alreadySatisfied operation action
  else runtime.executeAction operation action context

def iterate (context : RuntimeContext) (state : LoopState) : Runtime LoopExit :=
  match firstReady state.ready with
  | none => do
    Program.record (.blocked state.operation)
    let operation ← runtime.fail state.operation
      "no executable actions remain; dependency graph is blocked"
    return .left { state with operation, failed := true }
  | some action =>
    match state.operation.policyDecisions.find? fun decision => decision.actionId = action.actionId with
    | none => Program.raise .stopIteration
    | some decision => do
      Program.record (.started state.operation action)
      let operation ← runtime.startAction state.operation action.actionId
      let operation ← runtime.checkpointIfRequired context operation decision
      let receipt ← runtime.perform context operation state.successfulKeys action
      let operation ← runtime.appendReceipt operation receipt
      runtime.settle { state with operation, pending := state.pending.erase action.actionId } action
        receipt

/-- `while pending and not failed`, cut off after the given number of rounds. -/
def runLoop (context : RuntimeContext) : Nat → LoopState → Runtime LoopExit
  | 0, state => do
    Program.record (.cutOff state.operation)
    Program.raise .diverged
  | rounds + 1, state =>
    if state.pending.entries = [] ∨ state.failed then return .left state
    else do
      match ← runtime.iterate context state with
      | .left next => runLoop context rounds next
      | .paused operation => return .paused operation

def startLoop (operation : OperationRun) (rollbackOnFailure : Bool) : LoopState :=
  let completedIds := (operation.actionReceipts.filter fun receipt =>
    receipt.status.successful).map ActionReceipt.actionId
  { operation, completedIds
    successfulKeys := (operation.actionReceipts.filter fun receipt =>
      receipt.status = .completed ∨ receipt.status = .alreadySatisfied).flatMap fun receipt =>
        keyList receipt.idempotencyKey
    pending := Dict.ofList ((operation.plan.actions.filter (·.actionId ∉ completedIds)).map
      fun action => (action.actionId, action))
    failed := false
    failureBehavior := if rollbackOnFailure then "rollback" else "stop" }

/-- `if rollback_on_failure and failure_behavior == "rollback"` -/
def rollbackIfAsked (context : RuntimeContext) (state : LoopState) (rollbackOnFailure : Bool) :
    Runtime OperationRun :=
  if rollbackOnFailure ∧ state.failureBehavior = "rollback" then
    runtime.rollback state.operation context
  else return state.operation

def sealRun (operation : OperationRun) (context : RuntimeContext)
    (verificationConditions : Option (List VerificationCondition)) : Runtime OperationRun := do
  let operation ← runtime.noted operation "verification.started" "Post-action verification started"
    none ∅
  let operation := { operation with status := .verifying }
  let conditions := verificationConditions.getD operation.plan.verificationConditions
  let results ← runtime.evaluateConditions conditions context
  let dryRun := operation.mode = .dryRun
  let simulated := context.executionContext.mode = "simulation"
  let isProtected := protectedViolation conditions results
  let success := ((dryRun ∧ conditions = []) ∨ successful conditions results) ∧ ¬ isProtected
  let status := if dryRun ∨ simulated then CertificateStatus.partiallyRecovered
    else if success then .recovered else .recoveryFailed
  let certificate := certificateFor operation results status
    ((if dryRun then ["dry run did not mutate the environment"] else []) ++
      (if simulated then ["simulation did not verify the live environment"] else []) ++
      if success then [] else ["verification failed"])
    (Dict.ofList [("dry_run", .bool dryRun), ("simulated", .bool simulated),
      ("protected_violation", .bool isProtected)])
  let completedAtIso ← runtime.utcNowIso
  let operation ← runtime.noted operation "operation.sealed"
    s!"Operation sealed as {certificate.status.text}" none ∅
  let operation := { operation with
    status := if success ∨ dryRun then .completed else .failed
    verificationResults := results
    recoveryCertificate := some certificate
    completedAtIso := some completedAtIso }
  save operation
  return operation

def run (operation : OperationRun) (policy : ExecutionPolicy) (context : RuntimeContext)
    (verificationConditions : Option (List VerificationCondition)) (rollbackOnFailure : Bool) :
    Runtime OperationRun := do
  let operation ← runtime.authorize operation policy context
  if operation.status ≠ .authorized then return operation
  else
    let now ← runtime.utcNowIso
    let event ← runtime.event operation.operationId operation.events.length "operation.started"
      "Execution started" none ∅
    let operation := { operation with
      status := .running
      startedAtIso := operation.startedAtIso.orElse fun _ => some now
      updatedAtIso := now
      events := operation.events ++ [event] }
    save operation
    let start := startLoop operation rollbackOnFailure
    match ← runtime.runLoop context (start.pending.size + 1) start with
    | .paused operation => return operation
    | .left state =>
      if state.failed then
        let operation ← runtime.rollbackIfAsked context state rollbackOnFailure
        save operation
        return operation
      else runtime.sealRun state.operation context verificationConditions

end Run

def cancel (operation : OperationRun) (reason : String) : Runtime OperationRun := do
  if operation.status = .completed ∨ operation.status = .cancelled then
    Program.raise (.valueError s!"operation cannot be cancelled from {operation.status.text}")
  else
    let completedAtIso ← runtime.utcNowIso
    let operation ← runtime.noted operation "operation.cancelled" reason none ∅
    let operation := { operation with
      status := .cancelled
      pauseReason := none
      failureReason := some reason
      completedAtIso := some completedAtIso
      currentActionIds := [] }
    save operation
    return operation

def pause (operation : OperationRun) (reason : String) : Runtime OperationRun := do
  if operation.status ≠ .running ∧ operation.status ≠ .authorized ∧
      operation.status ≠ .awaitingApproval then
    Program.raise (.valueError s!"operation cannot be paused from {operation.status.text}")
  else
    let operation ← runtime.noted operation "operation.paused" reason none ∅
    let operation := { operation with status := .paused, pauseReason := some reason }
    save operation
    return operation

def resumable : OperationStatus → Bool
  | .paused | .failed | .awaitingApproval | .authorized | .running => true
  | _ => false

def resume (operationId : String) (policy : ExecutionPolicy) (context : RuntimeContext)
    (verificationConditions : Option (List VerificationCondition)) : Runtime OperationRun := do
  let operation ← load runtime.codec runtime.python operationId
  if ¬ resumable operation.status then
    Program.raise (.valueError s!"operation cannot resume from {operation.status.text}")
  else
    let operation ← runtime.noted operation "operation.resumed"
      "Operation resumed from durable journal" none ∅
    let operation := { operation with status := .created, pauseReason := none, failureReason := none }
    save operation
    runtime.run operation policy context verificationConditions true

end OperationRuntime

end KubeOps.Execution
