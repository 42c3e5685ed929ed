import KubeOps.ControlPlane.ExecutorAgent
import KubeOps.Execution.DockerHost

/-! Executor agents that start containers: an operation of the docker-host pack
with one queued task for each container, and the statements of an agent's turn. -/
namespace KubeOps.ControlPlane.DockerFleet

open KubeOps.Foundation KubeOps.Models KubeOps.Execution
open KubeOps.Execution.DockerHost (clock createdRun startContainer)

def midnight : Int := 1767225600000000

def midnightIso : String := "2026-01-01T00:00:00Z"

def python : Python :=
  { Python.plain with
    fromIsoFormat := fun text =>
      if text = "2026-01-01T00:00:00+00:00" then some ⟨midnight, some 0⟩ else none }

def runtime : OperationRuntime := { DockerHost.runtime with python := python }

inductive Worker where
  | first | second
deriving DecidableEq, Repr

def Worker.agentId : Worker → String
  | .first => "executor-1"
  | .second => "executor-2"

def Worker.agent (worker : Worker) : ExecutorAgentRecord where
  agentId := worker.agentId
  capabilities := ["docker.container.start"]
  supportedExecutorIds := ["simulation"]

def operation (containers : List String) : OperationRun := createdRun (containers.map startContainer)

def task (containers : List String) (container : String) : ExecutionTaskRecord where
  taskId := s!"task:{container}"
  operationId := (operation containers).operationId
  environmentId := 1
  actionId := (startContainer container).actionId
  actionTypeId := (startContainer container).actionTypeId
  executorId := "simulation"
  status := .queued
  payload := { fields := {
    taskId := s!"task:{container}"
    organizationId := "default"
    workspaceId := "default"
    environmentId := "local"
    executorId := "simulation"
    maxAttempts := 2
    payloadHash := ""
    updatedAtIso := midnightIso } }
  createdAt := midnight
  updatedAt := midnight

def plane (containers : List String) : Plane Worker where
  database := {
    tasks := containers.foldl (fun tasks container => tasks.put (task containers container)) .empty
    leases := .empty
    receipts := .empty
    operations := Table.empty.put (operation containers) }
  processes worker := ⟨worker.agent, .stopped⟩

theorem plane_stopped (containers : List String) (worker : Worker) :
    ((plane containers).processes worker).phase = .stopped := rfl

section Schedules

def reconciliation : List Statement :=
  [.refreshOperation, .readReceipts, .reconcile (Trace.start _), .listPending, .persist]

/-- A worker starts, finds no lease to expire and claims a task, with the given
number of tasks queued. -/
def claiming (worker : Worker) (queued : Nat) (now : Int) : List Statement :=
  [.register worker.agent, .expireStaleLeases [] now, .countLeases, .listQueued] ++
    List.replicate queued (.cancelBlocked now) ++
    [.claim [] now worker.agentId worker.agentId] ++ reconciliation

def receipt (containers : List String) (container : String) : ActionReceipt where
  receiptId := s!"receipt:{(operation containers).operationId}:{(startContainer container).actionId}:1"
  operationId := (operation containers).operationId
  actionId := (startContainer container).actionId
  actionTypeId := (startContainer container).actionTypeId
  executorId := "simulation"
  status := .completed
  startedAtIso := midnightIso
  completedAtIso := midnightIso
  stdout := "simulated action completed"

def writingBack (now : Int) : List Statement := [.releaseLease now, .finishTask now]

def turn (worker : Worker) (statements : List Statement) : List (Worker × Statement) :=
  statements.map fun statement => (worker, statement)

def performed (containers : List String) (schedule : List (Worker × Statement)) :
    List (Transition (Plane Worker) (Worker × Statement)) :=
  (history (step runtime) (plane containers) schedule).getD []

theorem run_performed (containers : List String) (schedule : List (Worker × Statement))
    (check : List (Transition (Plane Worker) (Worker × Statement)) → Bool)
    (h : (history (step runtime) (plane containers) schedule).any check = true) :
    ∃ reached, Run (step runtime) (plane containers) (performed containers schedule) reached ∧
      check (performed containers schedule) = true :=
  Run.of_any h

end Schedules

end KubeOps.ControlPlane.DockerFleet
