import KubeOps.Models.Executor

/-! The capability-aware dispatcher. Each operation returns its answer or
exception together with the dispatcher it leaves behind; instants are in
microseconds, and the ids drawn from `uuid4` are arguments. -/
namespace KubeOps.Distributed

open KubeOps.Foundation KubeOps.Models

structure DistributedDispatcher where
  agents : Dict String ExecutorAgentDefinition
  tasks : Dict String ExecutionTask
  leases : Dict String TaskLease

namespace DistributedDispatcher

def empty : DistributedDispatcher := ⟨∅, ∅, ∅⟩

/-- An answer or an exception, and the dispatcher reached. -/
abbrev Outcome (α : Type) := Except PyError α × DistributedDispatcher

variable (python : Python) (dispatcher : DistributedDispatcher)

def keyError (key : String) : PyError := .keyError (python.repr (.str key))

def identity (agent : ExecutorAgentDefinition) : String × String × Option String :=
  (agent.organizationId, agent.workspaceId, agent.publicIdentity)

def registerAgent (agent : ExecutorAgentDefinition) : Outcome Unit :=
  match dispatcher.agents.get? agent.agentId with
  | some existing =>
    if identity existing ≠ identity agent then
      (.error (.valueError
        s!"agent {python.repr (.str agent.agentId)} is already registered with a different tenant or public identity"),
        dispatcher)
    else store
  | none => store
where
  store := (.ok (), { dispatcher with agents := dispatcher.agents.set agent.agentId agent })

def heartbeat (heartbeat : ExecutorHeartbeat) : Outcome ExecutorAgentDefinition :=
  match dispatcher.agents.get? heartbeat.agentId with
  | none => (.error (keyError python heartbeat.agentId), dispatcher)
  | some agent =>
    let metadata := agent.metadata
      |>.set "available_capacity" (.int heartbeat.availableCapacity)
      |>.set "active_task_ids" (Json.strings heartbeat.activeTaskIds)
      |>.set "heartbeat_diagnostics" (.dict heartbeat.diagnostics)
    let updated := { agent with
      status := heartbeat.status
      lastHeartbeatAtIso := some heartbeat.occurredAtIso
      capabilities := agent.capabilities ∪ heartbeat.capabilities
      metadata := metadata }
    (.ok updated, { dispatcher with agents := dispatcher.agents.set agent.agentId updated })

def enqueue (task : ExecutionTask) : Outcome Unit :=
  match dispatcher.tasks.get? task.taskId with
  | some existing =>
    if existing.payloadHash ≠ task.payloadHash then
      (.error (.valueError s!"task {python.repr (.str task.taskId)} already exists with different content"),
        dispatcher)
    else (.ok (), dispatcher)
  | none => (.ok (), { dispatcher with tasks := dispatcher.tasks.set task.taskId task })

def activeCount (agentId : String) (now : Int) : Nat :=
  (dispatcher.leases.values.filter fun lease =>
    lease.agentId = agentId ∧ lease.status = .active ∧ now < lease.expiresAt).length

def availableCapacity (agent : ExecutorAgentDefinition) (now : Int) : Except PyError Int := do
  let configured ← ((agent.metadata.get? "available_capacity").getD (.int agent.maxConcurrency)).toInt
    python
  return max 0 (min configured (max 0 (agent.maxConcurrency - dispatcher.activeCount agent.agentId now)))

/-- The checks before the capacity is computed. -/
def compatible (task : ExecutionTask) (agent : ExecutorAgentDefinition) : Bool :=
  agent.status = .online ∧
    (task.workspaceId = agent.workspaceId ∧ task.organizationId = agent.organizationId) ∧
    (agent.environmentIds = [] ∨ task.environmentId ∈ agent.environmentIds) ∧
    task.executorId ∈ agent.supportedExecutorIds ∧
    ∀ capability ∈ task.requiredCapabilities, capability ∈ agent.capabilities

def candidates (task : ExecutionTask) (now : Int) : Except PyError (List ExecutorAgentDefinition) := do
  let found ← dispatcher.agents.values.filterM fun agent =>
    if compatible task agent then do
      let capacity ← dispatcher.availableCapacity python agent now
      return decide (0 < capacity)
    else return false
  return found.insertionSort fun left right =>
    dispatcher.activeCount left.agentId now < dispatcher.activeCount right.agentId now ∨
      dispatcher.activeCount left.agentId now = dispatcher.activeCount right.agentId now ∧
        left.agentId ≤ right.agentId

/-- The values one call of `dispatch` draws from `uuid4`. -/
structure Generated where
  decision : String
  lease : String
  nonce : String

def Generated.leaseId (generated : Generated) : String := s!"lease:{generated.lease}"

def marked (task : ExecutionTask) (status : TaskStatus) (updatedAtIso : String) : ExecutionTask :=
  { task with status := status, updatedAtIso := updatedAtIso }

def assigned (task : ExecutionTask) (agentId updatedAtIso : String) : ExecutionTask :=
  { task with
    status := .leased
    assignedAgentId := some agentId
    updatedAtIso := updatedAtIso }

def newLease (generated : Generated) (taskId : String) (agent : ExecutorAgentDefinition) (now : Int) :
    TaskLease where
  leaseId := generated.leaseId
  taskId := taskId
  agentId := agent.agentId
  acquiredAtIso := python.isoFormat now
  expiresAt := now + agent.leaseTtlSeconds * 1000000
  heartbeatAtIso := python.isoFormat now
  nonce := generated.nonce

/-- `task.not_before_iso and _parse_iso(task.not_before_iso) > now`, and likewise the deadline. -/
def instantOf (text : Option String) : Except PyError (Option Int) :=
  match text.filter (· ≠ "") with
  | some text => (python.parseIso text).map some
  | none => .ok none

def dispatch (generated : Generated) (taskId : String) (now : Int) :
    Outcome (DispatchDecision × Option TaskLease) :=
  let decision (outcome : DispatchOutcome) (reason : String) : DispatchDecision := {
    decisionId := s!"dispatch:{generated.decision}"
    taskId := taskId
    outcome := outcome
    reasons := [reason]
    evaluatedAtIso := python.isoFormat now }
  match dispatcher.tasks.get? taskId with
  | none => (.error (keyError python taskId), dispatcher)
  | some task =>
    if task.status ≠ .queued then
      (.ok (decision .rejected s!"task is {task.status.text}, not queued", none), dispatcher)
    else
    match instantOf python task.notBeforeIso with
    | .error error => (.error error, dispatcher)
    | .ok notBefore =>
    if notBefore.any (now < ·) then
      (.ok (decision .queued "task not-before time has not elapsed", none), dispatcher)
    else
    match instantOf python task.deadlineIso with
    | .error error => (.error error, dispatcher)
    | .ok deadline =>
    if deadline.any (· ≤ now) then
      (.ok (decision .rejected "task deadline has elapsed", none),
        { dispatcher with
          tasks := dispatcher.tasks.set taskId (marked task .expired (python.isoFormat now)) })
    else
    match dispatcher.candidates python task now with
    | .error error => (.error error, dispatcher)
    | .ok [] =>
      (.ok (decision .queued
        "no online executor satisfies workspace, environment, capability, executor, and capacity requirements", none),
        dispatcher)
    | .ok (agent :: others) =>
      let lease := newLease python generated taskId agent now
      let selected := decision .assigned "selected least-loaded compatible online executor"
      let selected := { selected with
        agentId := some agent.agentId
        candidateAgentIds := (agent :: others).map ExecutorAgentDefinition.agentId }
      (.ok (selected, some lease),
        { dispatcher with
          leases := dispatcher.leases.set lease.leaseId lease
          tasks := dispatcher.tasks.set taskId
            (assigned task agent.agentId (python.isoFormat now)) })

/-- The task of an expired lease goes back to the queue while it has attempts left. -/
def requeued (task : ExecutionTask) (updatedAtIso : String) : ExecutionTask :=
  { task with
    status := if task.attempt < task.maxAttempts then .queued else .expired
    attempt := min task.maxAttempts (task.attempt + 1)
    attempt_le := Nat.min_le_left _ _
    assignedAgentId := none
    updatedAtIso := updatedAtIso }

def expireLease (lease : TaskLease) : TaskLease := { lease with status := .expired }

/-- The loop over `list(self.leases.items())`. -/
def expireEach (now : Int) :
    List (String × TaskLease) → List String → DistributedDispatcher → Outcome (List String)
  | [], expired, dispatcher => (.ok expired, dispatcher)
  | (leaseId, lease) :: rest, expired, dispatcher =>
    if lease.status = .active ∧ lease.expiresAt ≤ now then
      let dispatcher := { dispatcher with
        leases := dispatcher.leases.set leaseId (expireLease lease) }
      match dispatcher.tasks.get? lease.taskId with
      | none => (.error (keyError python lease.taskId), dispatcher)
      | some task =>
        expireEach now rest (expired ++ [leaseId]) { dispatcher with
          tasks := dispatcher.tasks.set task.taskId (requeued task (python.isoFormat now)) }
    else expireEach now rest expired dispatcher

def expire (now : Int) : Outcome (List String) :=
  expireEach python now dispatcher.leases.entries [] dispatcher

/-- A lease found expired expires every other lease that is due as well. -/
def activeLease (leaseId nonce : String) (now : Int) : Outcome TaskLease :=
  match dispatcher.leases.get? leaseId with
  | none => (.error (keyError python leaseId), dispatcher)
  | some lease =>
    if lease.nonce ≠ nonce ∨ lease.status ≠ .active then
      (.error (.valueError "lease is not active or nonce does not match"), dispatcher)
    else if lease.expiresAt ≤ now then
      match dispatcher.expire python now with
      | (.ok _, reached) => (.error (.valueError "lease has expired"), reached)
      | (.error error, reached) => (.error error, reached)
    else (.ok lease, dispatcher)

def renew (leaseId nonce : String) (now : Int) : Outcome TaskLease :=
  match dispatcher.activeLease python leaseId nonce now with
  | (.error error, reached) => (.error error, reached)
  | (.ok lease, reached) =>
    match reached.agents.get? lease.agentId with
    | none => (.error (keyError python lease.agentId), reached)
    | some agent =>
      let renewed := { lease with
        heartbeatAtIso := python.isoFormat now
        expiresAt := now + agent.leaseTtlSeconds * 1000000 }
      (.ok renewed, { reached with leases := reached.leases.set leaseId renewed })

def complete (leaseId nonce : String) (success : Bool) (now : Int) : Outcome ExecutionTask :=
  match dispatcher.activeLease python leaseId nonce now with
  | (.error error, reached) => (.error error, reached)
  | (.ok lease, reached) =>
    let released := { lease with
      status := .released
      heartbeatAtIso := python.isoFormat now }
    let reached := { reached with leases := reached.leases.set leaseId released }
    match reached.tasks.get? lease.taskId with
    | none => (.error (keyError python lease.taskId), reached)
    | some task =>
      let finished := marked task (if success then .completed else .failed)
        (python.isoFormat now)
      (.ok finished, { reached with tasks := reached.tasks.set finished.taskId finished })

end DistributedDispatcher

end KubeOps.Distributed
