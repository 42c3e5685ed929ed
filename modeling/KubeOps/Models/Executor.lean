import KubeOps.Models.Python

/-! Executor agents, the tasks they are given and the leases they hold. The end
of a lease is kept as the instant its text denotes. -/
namespace KubeOps.Models

open KubeOps.Foundation

inductive AgentStatus where
  | registering | online | degraded | draining | offline | revoked
deriving DecidableEq, Repr

inductive TaskStatus where
  | queued | leased | running | completed | failed | cancelled | expired
deriving DecidableEq, Repr

def TaskStatus.text : TaskStatus → String
  | .queued => "queued"
  | .leased => "leased"
  | .running => "running"
  | .completed => "completed"
  | .failed => "failed"
  | .cancelled => "cancelled"
  | .expired => "expired"

inductive LeaseStatus where
  | active | released | expired | revoked
deriving DecidableEq, Repr

structure ExecutorAgentDefinition where
  agentId : String
  organizationId : String
  workspaceId : String
  status : AgentStatus := .registering
  capabilities : List String := []
  supportedExecutorIds : List String := []
  environmentIds : List String := []
  maxConcurrency : Nat := 1
  leaseTtlSeconds : Nat := 60
  publicIdentity : Option String := none
  lastHeartbeatAtIso : Option String := none
  metadata : JsonObject := ∅

structure ExecutorHeartbeat where
  agentId : String
  occurredAtIso : String
  status : AgentStatus
  activeTaskIds : List String := []
  availableCapacity : Nat := 0
  capabilities : List String := []
  diagnostics : List (String × Json) := []

structure ExecutionTask where
  taskId : String
  organizationId : String
  workspaceId : String
  environmentId : String
  executorId : String
  requiredCapabilities : List String := []
  status : TaskStatus := .queued
  attempt : Nat := 1
  maxAttempts : Nat := 1
  attempt_le : attempt ≤ maxAttempts := by decide
  notBeforeIso : Option String := none
  deadlineIso : Option String := none
  assignedAgentId : Option String := none
  payload : JsonObject := ∅
  payloadHash : String
  updatedAtIso : String
  metadata : JsonObject := ∅

structure TaskLease where
  leaseId : String
  taskId : String
  agentId : String
  status : LeaseStatus := .active
  acquiredAtIso : String
  expiresAt : Int
  heartbeatAtIso : String
  nonce : String

inductive DispatchOutcome where
  | assigned | queued | blocked | rejected
deriving DecidableEq, Repr

structure DispatchDecision where
  decisionId : String
  taskId : String
  outcome : DispatchOutcome
  agentId : Option String := none
  candidateAgentIds : List String := []
  reasons : List String := []
  evaluatedAtIso : String

end KubeOps.Models
