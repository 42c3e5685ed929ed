import KubeOps.Foundation.Table
import KubeOps.Models.Executor
import KubeOps.Models.Operation

/-! The rows executor agents share: tasks, leases, receipts and operations, and the rows
of the agents, which keep the columns an agent is looked up by beside its document.
Columns nothing here reads are left out; timestamps are in microseconds. -/
namespace KubeOps.ControlPlane

open KubeOps.Foundation KubeOps.Models

/-- A stored task document: the fields of the model and any entries beside them. -/
structure TaskPayload where
  fields : ExecutionTask
  extra : JsonObject := ∅

/-- `ExecutionTask.model_validate(payload)`; unknown fields are forbidden. -/
def TaskPayload.modelValidate (payload : TaskPayload) : Except PyError ExecutionTask :=
  if payload.extra.keys = [] then .ok payload.fields
  else .error (.validationError "Extra inputs are not permitted")

theorem modelValidate_eq_ok {payload : TaskPayload} {model : ExecutionTask}
    (h : payload.modelValidate = .ok model) : model = payload.fields := by
  unfold TaskPayload.modelValidate at h
  split at h
  · exact (Except.ok.inj h).symm
  · cases h

theorem TaskPayload.validates_iff (payload : TaskPayload) :
    (∃ model, payload.modelValidate = .ok model) ↔ payload.extra.keys = [] := by
  unfold TaskPayload.modelValidate
  split <;> simp [*]

def TaskPayload.withEntry (payload : TaskPayload) (key : String) (value : Json) : TaskPayload :=
  { payload with extra := payload.extra.set key value }

/-- `{**payload, "status": ..., "updated_at_iso": ...}` -/
def TaskPayload.marked (payload : TaskPayload) (status : TaskStatus) (updatedAtIso : String) :
    TaskPayload :=
  { payload with fields := { payload.fields with status := status, updatedAtIso := updatedAtIso } }

structure ExecutionTaskRecord where
  taskId : String
  operationId : String
  /-- The primary key of the environment, as `task.environment_id` reads it. -/
  environmentId : Int
  actionId : String
  actionTypeId : String
  executorId : String
  status : TaskStatus
  priority : Int := 0
  assignedAgent : Option String := none
  payload : TaskPayload
  createdAt : Int
  updatedAt : Int

structure TaskLeaseRecord where
  leaseId : String
  taskId : String
  agentId : String
  status : LeaseStatus
  nonceHash : String
  acquiredAt : Int
  expiresAt : Int
  heartbeatAt : Int

structure ActionReceiptRecord where
  operationId : String
  startedAt : Int
  payload : ActionReceipt

def ActionReceiptRecord.receiptId (row : ActionReceiptRecord) : String := row.payload.receiptId

structure ExecutorAgentRecord where
  agentId : String
  capabilities : List String := []
  supportedExecutorIds : List String := []
  environmentIds : List String := []
  maxConcurrency : Nat := 1
  leaseTtlSeconds : Int := 60

structure Database where
  tasks : Table String ExecutionTaskRecord ExecutionTaskRecord.taskId
  leases : Table String TaskLeaseRecord TaskLeaseRecord.leaseId
  receipts : Table String ActionReceiptRecord ActionReceiptRecord.receiptId
  /-- The payload of each operation, by its id. -/
  operations : Table String OperationRun OperationRun.operationId

namespace Database

variable (database : Database)

/-- `task.save(update_fields=["status", "updated_at", "payload"])` -/
def saveTask (task : ExecutionTaskRecord) : Database :=
  { database with
    tasks := database.tasks.update task.taskId
      (fun row => { row with
        status := task.status, payload := task.payload, updatedAt := task.updatedAt })
      fun _ => rfl }

/-- `task.save(update_fields=["status", "assigned_agent", "payload", "updated_at"])` -/
def saveAssignedTask (task : ExecutionTaskRecord) : Database :=
  { database with
    tasks := database.tasks.update task.taskId
      (fun row => { row with
        status := task.status, assignedAgent := task.assignedAgent, payload := task.payload
        updatedAt := task.updatedAt })
      fun _ => rfl }

/-- `lease.save(update_fields=["status", "heartbeat_at"])` -/
def saveLease (lease : TaskLeaseRecord) : Database :=
  { database with
    leases := database.leases.update lease.leaseId
      (fun row => { row with status := lease.status, heartbeatAt := lease.heartbeatAt })
      fun _ => rfl }

/-- `ActionReceiptRecord.objects.update_or_create(receipt_id=...)` -/
def putReceipt (row : ActionReceiptRecord) : Database :=
  { database with receipts := database.receipts.put row }

def tasksOf (operationId : String) : List ExecutionTaskRecord :=
  database.tasks.rows.filter fun task => task.operationId = operationId

/-- `order_by("started_at", "receipt_id")` -/
def receiptsOf (operationId : String) : List ActionReceipt :=
  ((database.receipts.rows.filter fun row => row.operationId = operationId).insertionSort
    fun left right => left.startedAt < right.startedAt ∨
      left.startedAt = right.startedAt ∧ left.receiptId ≤ right.receiptId).map
    ActionReceiptRecord.payload

end Database

/-- A stored agent document: the fields of the model and any entries beside them. -/
structure AgentPayload where
  fields : ExecutorAgentDefinition
  extra : JsonObject := ∅

/-- `ExecutorAgentDefinition.model_validate(payload)`; unknown fields are forbidden. -/
def AgentPayload.modelValidate (payload : AgentPayload) : Except PyError ExecutorAgentDefinition :=
  if payload.extra.keys = [] then .ok payload.fields
  else .error (.validationError "Extra inputs are not permitted")

theorem AgentPayload.validates_iff (payload : AgentPayload) :
    (∃ definition, payload.modelValidate = .ok definition) ↔ payload.extra.keys = [] := by
  unfold AgentPayload.modelValidate
  split <;> simp [*]

/-- A row of `ExecutorAgentRecord`. The tenant is named by its texts. -/
structure AgentRow where
  agentId : String
  organizationId : String
  workspaceId : String
  status : AgentStatus
  capabilities : List String := []
  supportedExecutorIds : List String := []
  environmentIds : List String := []
  maxConcurrency : Nat := 1
  lastHeartbeatAt : Option Int := none
  publicIdentity : Option String := none
  payload : AgentPayload

/-- The columns `update_or_create` writes for a definition. -/
def AgentRow.ofDefinition (definition : ExecutorAgentDefinition) (lastHeartbeatAt : Option Int) :
    AgentRow where
  agentId := definition.agentId
  organizationId := definition.organizationId
  workspaceId := definition.workspaceId
  status := definition.status
  capabilities := sortedSet definition.capabilities
  supportedExecutorIds := sortedSet definition.supportedExecutorIds
  environmentIds := sortedSet definition.environmentIds
  maxConcurrency := definition.maxConcurrency
  lastHeartbeatAt := lastHeartbeatAt
  publicIdentity := definition.publicIdentity
  payload := { fields := definition }

def AgentRow.record (row : AgentRow) : ExecutorAgentRecord where
  agentId := row.agentId
  capabilities := row.capabilities
  supportedExecutorIds := row.supportedExecutorIds
  environmentIds := row.environmentIds
  maxConcurrency := row.maxConcurrency
  leaseTtlSeconds := row.payload.fields.leaseTtlSeconds

/-- The options of `run_executor_agent`, with the lists split. -/
structure AgentOptions where
  agentId : String
  organizationId : String
  workspaceId : String
  capabilities : List String := ["executor.claim", "executor.complete"]
  executors : List String := ["dry_run", "simulation", "builtin.wait"]
  environments : List String := []
  maxConcurrency : Nat := 1

namespace AgentOptions

variable (options : AgentOptions)

/-- The definition `_register_agent` makes. -/
def definition (nowIso : String) : ExecutorAgentDefinition where
  agentId := options.agentId
  organizationId := options.organizationId
  workspaceId := options.workspaceId
  status := .online
  capabilities := options.capabilities
  supportedExecutorIds := options.executors
  environmentIds := options.environments
  maxConcurrency := options.maxConcurrency
  publicIdentity := some s!"django-agent:{options.agentId}"
  lastHeartbeatAtIso := some nowIso

def row (nowIso : String) (now : Int) : AgentRow :=
  AgentRow.ofDefinition (options.definition nowIso) (some now)

end AgentOptions

end KubeOps.ControlPlane
