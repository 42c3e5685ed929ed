import KubeOps.Models.Planning

/-! The operation aggregate: approvals, receipts, events, checkpoints and the
run itself, with the validator applied whenever a run is read back. -/
namespace KubeOps.Models

open KubeOps.Foundation

inductive OperationStatus where
  | created
  | planning
  | awaitingApproval
  | authorized
  | running
  | paused
  | verifying
  | rollingBack
  | completed
  | failed
  | cancelled
  | blocked
deriving DecidableEq, Repr

def OperationStatus.text : OperationStatus → String
  | .created => "created"
  | .planning => "planning"
  | .awaitingApproval => "awaiting_approval"
  | .authorized => "authorized"
  | .running => "running"
  | .paused => "paused"
  | .verifying => "verifying"
  | .rollingBack => "rolling_back"
  | .completed => "completed"
  | .failed => "failed"
  | .cancelled => "cancelled"
  | .blocked => "blocked"

inductive ReceiptStatus where
  | completed | failed | skipped | alreadySatisfied | rolledBack
deriving DecidableEq, Repr

def ReceiptStatus.text : ReceiptStatus → String
  | .completed => "completed"
  | .failed => "failed"
  | .skipped => "skipped"
  | .alreadySatisfied => "already_satisfied"
  | .rolledBack => "rolled_back"

/-- `status in {"completed", "already_satisfied", "skipped"}` -/
def ReceiptStatus.successful : ReceiptStatus → Bool
  | .completed | .alreadySatisfied | .skipped => true
  | .failed | .rolledBack => false

inductive ApprovalVerdict where
  | approve | reject
deriving DecidableEq, Repr

def ApprovalVerdict.text : ApprovalVerdict → String
  | .approve => "approve"
  | .reject => "reject"

structure ApprovalRecord where
  approvalId : String
  operationId : String
  actionId : Option String := none
  approverId : String
  decision : ApprovalVerdict
  grantedAtIso : String
  expiresAtIso : Option String := none
deriving DecidableEq, Repr

structure ActionReceipt where
  receiptId : String
  operationId : String
  actionId : String
  actionTypeId : String
  executorId : String
  status : ReceiptStatus
  attempt : Nat := 1
  startedAtIso : String
  completedAtIso : String
  exitCode : Option Int := none
  stdout : String := ""
  stderr : String := ""
  observedEffects : List String := []
  idempotencyKey : Option String := none
  metadata : JsonObject := ∅

structure OperationEvent where
  sequence : Nat
  operationId : String
  eventType : String
  occurredAtIso : String
  title : String
  actionId : Option String := none
  details : JsonObject := ∅

structure ExecutionCheckpoint where
  checkpointId : String
  operationId : String
  createdAtIso : String
  completedActionIds : List String
  pendingActionIds : List String
  worldState : WorldState
  stateHash : String

inductive OperationMode where
  | dryRun | guardedExecution
deriving DecidableEq, Repr

def OperationMode.planMode : OperationMode → PlanMode
  | .dryRun => .dryRun
  | .guardedExecution => .guardedExecution

structure OperationRun where
  operationId : String
  environmentId : String
  operationType : OperationType
  objectiveId : String
  status : OperationStatus := .created
  mode : OperationMode := .dryRun
  plan : RecoveryPlan
  policyDecisions : List PolicyDecision := []
  approvals : List ApprovalRecord := []
  actionReceipts : List ActionReceipt := []
  verificationResults : List VerificationResult := []
  recoveryCertificate : Option RecoveryCertificate := none
  events : List OperationEvent := []
  checkpoints : List ExecutionCheckpoint := []
  currentActionIds : List String := []
  createdAtIso : String
  updatedAtIso : String
  startedAtIso : Option String := none
  completedAtIso : Option String := none
  pauseReason : Option String := none
  failureReason : Option String := none
  metadata : JsonObject := ∅

namespace OperationRun

def validateReceipts (python : Python) (operation : OperationRun) : Except PyError Unit :=
  let unknown := (operation.actionReceipts.map ActionReceipt.actionId).filter
    (· ∉ operation.plan.actionIds)
  if unknown ≠ [] then
    .error (.validationError
      s!"operation receipts reference unknown actions: {python.repr (Json.strings (sortedSet unknown))}")
  else .ok ()

def validate (python : Python) (operation : OperationRun) : Except PyError OperationRun := do
  operation.plan.validateActionGraph python
  operation.validateReceipts python
  return operation

end OperationRun

/-- JSON text of a model, as pydantic writes and reads it. Reading restores the
fields; the model's own validators run on them afterwards. -/
structure JsonCodec (α : Type) where
  Document : Type
  modelDumpJson : α → Document
  readFields : Document → Option α
  roundTrip : ∀ value, readFields (modelDumpJson value) = some value

end KubeOps.Models
