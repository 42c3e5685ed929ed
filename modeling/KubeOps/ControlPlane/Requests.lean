import KubeOps.ControlPlane.Records
import KubeOps.ControlPlane.ExecutorAgent
import KubeOps.Distributed.Changes

/-! The requests an executor agent makes: it registers, sends heartbeats, claims a
task and completes it. A request reads and writes its rows in one step; the
tenant of a task is the one its document names. -/
namespace KubeOps.ControlPlane

open KubeOps.Foundation KubeOps.Models KubeOps.Distributed
open KubeOps.Distributed.DistributedDispatcher (Generated)

abbrev AgentTable := Table String AgentRow AgentRow.agentId

/-- What a request is answered with. -/
inductive Reply where
  | detail (code : Nat) (text : String)
  | agent (code : Nat) (payload : AgentPayload)
  | decision (code : Nat) (decision : DispatchDecision) (lease : Option TaskLease)
  | task (payload : TaskPayload)
  | doesNotExist (model : String)
  | raised (error : PyError)

/-- The white space of `str.strip`. -/
def Text.isSpace (c : Char) : Bool :=
  c.toNat ∈ [0x20, 0x85, 0xa0, 0x1680, 0x2028, 0x2029, 0x202f, 0x205f, 0x3000] ∨
    (0x9 ≤ c.toNat ∧ c.toNat ≤ 0xd) ∨ (0x1c ≤ c.toNat ∧ c.toNat ≤ 0x1f) ∨
    (0x2000 ≤ c.toNat ∧ c.toNat ≤ 0x200a)

/-- `text.strip()` -/
def Text.strip (text : String) : String :=
  String.ofList ((text.toList.dropWhile isSpace).reverse.dropWhile isSpace).reverse

section Registration

/-- `agent.save(update_fields=["status", "last_heartbeat_at", "payload", "updated_at"])` -/
def AgentTable.save (agents : AgentTable) (row : AgentRow) : AgentTable :=
  agents.update row.agentId
    (fun stored => { stored with
      status := row.status, lastHeartbeatAt := row.lastHeartbeatAt, payload := row.payload })
    fun _ => rfl

theorem AgentTable.get?_save (agents : AgentTable) (row : AgentRow) (agentId : String) :
    (agents.save row).get? agentId =
      if agentId = row.agentId then (agents.get? row.agentId).map fun stored => { stored with
        status := row.status, lastHeartbeatAt := row.lastHeartbeatAt, payload := row.payload }
      else agents.get? agentId := by
  simp only [AgentTable.save, Table.get?_update]

theorem AgentTable.put_stored {agents : AgentTable} (row : AgentRow) (agentId : String) (found : AgentRow)
    (h : agents.get? agentId = some found) : ∃ found, (agents.put row).get? agentId = some found := by
  rw [Table.get?_put]
  split
  · exact ⟨row, rfl⟩
  · exact ⟨found, h⟩

theorem AgentTable.save_stored {agents : AgentTable} (row : AgentRow) (agentId : String) (found : AgentRow)
    (h : agents.get? agentId = some found) : ∃ found, (agents.save row).get? agentId = some found := by
  rw [AgentTable.get?_save]
  split
  · rename_i heq
    rw [← heq, h]
    exact ⟨_, rfl⟩
  · exact ⟨found, h⟩

/-- The row belongs to a different tenant or public identity. -/
def AgentRow.boundElsewhere (existing : AgentRow) (definition : ExecutorAgentDefinition) : Bool :=
  existing.organizationId ≠ definition.organizationId ∨
    existing.workspaceId ≠ definition.workspaceId ∨
    existing.publicIdentity ≠ definition.publicIdentity

/-- A registration with the scope of its headers, and what the rows of tenants and
environments say of its definition. -/
structure AgentRequest where
  definition : ExecutorAgentDefinition
  organizationId : String
  workspaceId : String
  superuser : Bool := false
  tenantExists : Bool := true
  foreignEnvironment : Bool := false

/-- `ExecutorAgentListView.post`. -/
def AgentRequest.post (python : Python) (agents : AgentTable) (request : AgentRequest) :
    Reply × AgentTable :=
  let definition := request.definition
  if ¬ request.superuser ∧ (definition.organizationId ≠ request.organizationId ∨
      definition.workspaceId ≠ request.workspaceId) then
    (.detail 403 "payload organization/workspace does not match the authorized request scope", agents)
  else if ¬ request.tenantExists then (.doesNotExist "WorkspaceRecord", agents)
  else if definition.environmentIds ≠ [] ∧ request.foreignEnvironment then
    (.detail 422 "agent environment scope mismatch", agents)
  else
    let existing := agents.get? definition.agentId
    if existing.any (·.boundElsewhere definition) then
      (.detail 409 "agent identity is already bound to a different tenant or public identity", agents)
    else match DistributedDispatcher.instantOf python definition.lastHeartbeatAtIso with
      | .error error => (.raised error, agents)
      | .ok lastHeartbeatAt =>
        let row := AgentRow.ofDefinition definition lastHeartbeatAt
        (.agent (if existing.isSome then 200 else 201) row.payload, agents.put row)

/-- `ExecutorHeartbeatView.post`. -/
def postHeartbeat (python : Python) (agents : AgentTable) (heartbeat : ExecutorHeartbeat) :
    Reply × AgentTable :=
  match agents.get? heartbeat.agentId with
  | none => (.doesNotExist "ExecutorAgentRecord", agents)
  | some agent =>
    match python.parseIso heartbeat.occurredAtIso with
    | .error error => (.raised error, agents)
    | .ok occurredAt =>
      let capabilities := sortedSet (agent.capabilities ++ heartbeat.capabilities)
      let payload : AgentPayload := {
        fields := { agent.payload.fields with
          status := heartbeat.status
          lastHeartbeatAtIso := some heartbeat.occurredAtIso
          capabilities := capabilities }
        extra := agent.payload.extra
          |>.set "available_capacity" (.int heartbeat.availableCapacity)
          |>.set "active_task_ids" (Json.strings heartbeat.activeTaskIds)
          |>.set "heartbeat_diagnostics" (.dict heartbeat.diagnostics) }
      (.agent 200 payload, agents.put { agent with
        status := heartbeat.status
        lastHeartbeatAt := some occurredAt
        capabilities := capabilities
        payload := payload })

/-- `_register_agent`; a row bound to another tenant or identity ends the command. -/
def AgentOptions.register (options : AgentOptions) (agents : AgentTable) (nowIso : String) (now : Int) :
    Option (AgentRow × AgentTable) :=
  let row := options.row nowIso now
  if (agents.get? options.agentId).any (·.boundElsewhere (options.definition nowIso)) then none
  else some (row, agents.put row)

/-- The row `_heartbeat` makes of the one the command keeps. -/
def AgentRow.beat (python : Python) (database : Database) (row : AgentRow) (now : Int) : AgentRow :=
  let active := (database.leases.rows.filter fun lease =>
      lease.agentId = row.agentId ∧ lease.status = .active).insertionSort
    fun left right => right.acquiredAt ≤ left.acquiredAt
  { row with
    status := .online
    lastHeartbeatAt := some now
    payload := {
      fields := { row.payload.fields with
        status := .online
        lastHeartbeatAtIso := some (python.isoFormat now) }
      extra := row.payload.extra
        |>.set "available_capacity" (.int (max 0 ((row.maxConcurrency : Int) - active.length)))
        |>.set "active_task_ids" (Json.strings (active.map TaskLeaseRecord.taskId)) } }

def AgentRow.offline (row : AgentRow) (nowIso : String) (now : Int) : AgentRow :=
  { row with
    status := .offline
    lastHeartbeatAt := some now
    payload := { row.payload with
      fields := { row.payload.fields with
        status := .offline
        lastHeartbeatAtIso := some nowIso } } }

end Registration

section Tasks

variable (python : Python) (database : Database)

def activeLeases (taskId : String) : List (TaskLeaseRecord × ExecutionTaskRecord) :=
  ((database.leases.rows.filter fun lease =>
      lease.taskId = taskId ∧ lease.status = .active).insertionSort
    fun left right => right.acquiredAt ≤ left.acquiredAt).filterMap fun lease =>
    (database.tasks.get? lease.taskId).map fun task => (lease, task)

structure ClaimRequest where
  taskId : String
  data : JsonObject
  organizationId : String
  workspaceId : String

def ClaimRequest.agentId (request : ClaimRequest) : String :=
  Text.strip (python.str ((request.data.get? "agent_id").getD (.str "")))

def decideClaim (agent : AgentRow) (task : ExecutionTaskRecord) (generated : Generated) (now : Int) :
    Except PyError (DispatchDecision × Option (TaskLease × ExecutionTask)) := do
  let definition ← agent.payload.modelValidate
  let model ← task.payload.modelValidate
  let registered := DistributedDispatcher.empty.registerAgent python definition
  registered.1
  let enqueued := registered.2.enqueue python model
  enqueued.1
  match enqueued.2.dispatch python generated task.taskId now with
  | (.error error, _) => throw error
  | (.ok (decision, none), _) => return (decision, none)
  | (.ok (decision, some lease), dispatcher) =>
    match dispatcher.tasks.get? task.taskId with
    | some leased => return (decision, some (lease, leased))
    | none => throw (DistributedDispatcher.keyError python task.taskId)

def leasedTask (task : ExecutionTaskRecord) (agentId : String) (leased : ExecutionTask)
    (updatedAt : Int) : ExecutionTaskRecord :=
  { task with
    status := leased.status
    assignedAgent := some agentId
    payload := { fields := leased }
    updatedAt := updatedAt }

def leaseRecord (taskId agentId : String) (lease : TaskLease) (acquiredAt heartbeatAt : Int) :
    TaskLeaseRecord where
  leaseId := lease.leaseId
  taskId := taskId
  agentId := agentId
  status := lease.status
  nonceHash := python.sha256 lease.nonce
  acquiredAt := acquiredAt
  expiresAt := lease.expiresAt
  heartbeatAt := heartbeatAt

def writeClaim (task : ExecutionTaskRecord) (agentId : String) (lease : TaskLease)
    (leased : ExecutionTask) : Except PyError Database := do
  let updatedAt ← python.parseIso leased.updatedAtIso
  let database := database.saveAssignedTask (leasedTask task agentId leased updatedAt)
  let acquiredAt ← python.parseIso lease.acquiredAtIso
  let heartbeatAt ← python.parseIso lease.heartbeatAtIso
  let row := leaseRecord python task.taskId agentId lease acquiredAt heartbeatAt
  match database.leases.get? row.leaseId with
  | some _ => throw .integrityError
  | none => return { database with leases := database.leases.put row }

/-- `ExecutionTaskClaimView.post`. -/
def ClaimRequest.post (agents : AgentTable) (request : ClaimRequest) (generated : Generated)
    (now : Int) : Reply × Database :=
  let agentId := request.agentId python
  if agentId = "" then (.detail 422 "agent_id is required", database)
  else match database.tasks.get? request.taskId with
  | none => (.doesNotExist "ExecutionTaskRecord", database)
  | some task =>
    let fields := task.payload.fields
    if fields.organizationId ≠ request.organizationId ∨ fields.workspaceId ≠ request.workspaceId then
      (.detail 403 "task scope mismatch", database)
    else if activeLeases database request.taskId ≠ [] then
      (.detail 409 "task already has an active lease", database)
    else match (agents.get? agentId).filter fun agent =>
        agent.organizationId = fields.organizationId ∧ agent.workspaceId = fields.workspaceId with
    | none => (.doesNotExist "ExecutorAgentRecord", database)
    | some agent =>
      match decideClaim python agent task generated now with
      | .error error => (.raised error, database)
      | .ok (decision, none) => (.decision 409 decision none, database)
      | .ok (decision, some (lease, leased)) =>
        match writeClaim python database task agent.agentId lease leased with
        | .error error => (.raised error, database)
        | .ok reached => (.decision 200 decision (some lease), reached)

/-- The task of a lease as `ExecutionTaskCompleteView` writes it. -/
def completedTask (task : ExecutionTaskRecord) (success : Bool) (now : Int) : ExecutionTaskRecord :=
  let status : TaskStatus := if success then .completed else .failed
  { task with
    status := status
    payload := task.payload.marked status (python.isoFormat now)
    updatedAt := now }

/-- `ExecutionTaskCompleteView.post`. A lease found overdue is expired by itself. -/
def postCompletion (taskId : String) (data : JsonObject) (now : Int) : Reply × Database :=
  match (activeLeases database taskId).head? with
  | none => (.detail 409 "no active lease", database)
  | some (lease, task) =>
    match (data.get? "nonce").getD (.str "") with
    | .str nonce =>
      if python.sha256 nonce ≠ lease.nonceHash then (.detail 403 "invalid lease nonce", database)
      else if lease.expiresAt ≤ now then
        (.detail 409 "lease has expired",
          database.saveLease { lease with status := .expired, heartbeatAt := now })
      else
        let success := ((data.get? "success").getD (.bool false)).truthy
        let task := completedTask python task success now
        let database := database.saveLease { lease with status := .released, heartbeatAt := now }
        (.task task.payload, database.saveTask task)
    | value => (.raised (.attributeError s!"'{value.typeName}' object has no attribute 'encode'"), database)

end Tasks

section Answers

variable {python : Python} {database reached : Database} {agents : AgentTable}

theorem mem_activeLeases {taskId : String} {entry : TaskLeaseRecord × ExecutionTaskRecord} :
    entry ∈ activeLeases database taskId ↔
      (database.leases.get? entry.1.leaseId = some entry.1 ∧ entry.1.taskId = taskId ∧
        entry.1.status = .active) ∧ database.tasks.get? entry.1.taskId = some entry.2 := by
  rw [activeLeases, List.mem_filterMap]
  constructor
  · rintro ⟨lease, hlease, hentry⟩
    obtain ⟨task, htask, rfl⟩ := Option.map_eq_some_iff.mp hentry
    rw [List.mem_insertionSort, List.mem_filter, Table.mem_rows, decide_eq_true_eq] at hlease
    exact ⟨hlease, htask⟩
  · rintro ⟨hlease, htask⟩
    refine ⟨entry.1, ?_, by rw [htask, Option.map_some]⟩
    rw [List.mem_insertionSort, List.mem_filter, Table.mem_rows, decide_eq_true_eq]
    exact hlease

theorem AgentRequest.post_cases (request : AgentRequest) :
    (request.post python agents).2 = agents ∨ ∃ lastHeartbeatAt,
      (request.post python agents).2 =
        agents.put (AgentRow.ofDefinition request.definition lastHeartbeatAt) := by
  unfold AgentRequest.post
  dsimp only
  split
  · exact .inl rfl
  · split
    · exact .inl rfl
    · split
      · exact .inl rfl
      · split
        · exact .inl rfl
        · split
          · exact .inl rfl
          · exact .inr ⟨_, rfl⟩

theorem register_eq {options : AgentOptions} {agents reached : AgentTable} {nowIso : String} {now : Int}
    {row : AgentRow} (h : options.register agents nowIso now = some (row, reached)) :
    row = options.row nowIso now ∧ reached = agents.put row := by
  unfold AgentOptions.register at h
  dsimp only at h
  split at h
  · cases h
  · cases h
    exact ⟨rfl, rfl⟩

theorem postHeartbeat_cases (python : Python) (agents : AgentTable) (beat : ExecutorHeartbeat) :
    ((agents.get? beat.agentId).isSome && (python.parseIso beat.occurredAtIso).isOk) = false ∧
        (ControlPlane.postHeartbeat python agents beat).2 = agents ∨
      ((agents.get? beat.agentId).isSome && (python.parseIso beat.occurredAtIso).isOk) = true ∧
        ∃ row, row.payload.extra.keys ≠ [] ∧
          (ControlPlane.postHeartbeat python agents beat).2 = agents.put row := by
  unfold ControlPlane.postHeartbeat
  split
  · rename_i hnone
    rw [hnone]
    exact .inl ⟨rfl, rfl⟩
  · rename_i agent hagent
    rw [hagent]
    split
    · rename_i hparse
      rw [hparse]
      exact .inl ⟨rfl, rfl⟩
    · rename_i hparse
      rw [hparse]
      refine .inr ⟨rfl, _, ?_, rfl⟩
      exact Dict.keys_set_ne_nil _ _

/-- The rows a claim writes: a queued task goes to an agent under a new lease. -/
structure Claimed (database : Database) (task : ExecutionTaskRecord) (lease : TaskLeaseRecord)
    (leased : ExecutionTaskRecord) (reached : Database) : Prop where
  stored : database.tasks.get? task.taskId = some task
  fresh : database.leases.get? lease.leaseId = none
  active : lease.status = .active
  named : lease.taskId = task.taskId
  same : leased.taskId = task.taskId
  tasks : reached.tasks = (database.saveAssignedTask leased).tasks
  leases : reached.leases = database.leases.put lease

def nonceOf (data : JsonObject) : Option String :=
  match (data.get? "nonce").getD (.str "") with
  | .str nonce => some nonce
  | _ => none

theorem postCompletion_cases (taskId : String) (data : JsonObject) (now : Int) :
    (postCompletion python database taskId data now).2 = database ∨
      ∃ lease task nonce, (lease, task) ∈ (activeLeases database taskId).head? ∧
        nonceOf data = some nonce ∧ python.sha256 nonce = lease.nonceHash ∧
        ((lease.expiresAt ≤ now ∧ (postCompletion python database taskId data now).2 =
            database.saveLease { lease with status := .expired, heartbeatAt := now }) ∨
          (now < lease.expiresAt ∧ ∃ success, (postCompletion python database taskId data now).2 =
            (database.saveLease { lease with status := .released, heartbeatAt := now }).saveTask
              (completedTask python task success now))) := by
  unfold postCompletion nonceOf
  split
  · exact .inl rfl
  · rename_i lease task hhead
    split
    · rename_i nonce _
      split
      · exact .inl rfl
      · rename_i hnonce
        refine .inr ⟨lease, task, nonce, hhead, rfl, not_ne_iff.mp hnonce, ?_⟩
        split
        · rename_i hoverdue
          exact .inl ⟨hoverdue, rfl⟩
        · rename_i hintime
          exact .inr ⟨not_le.mp hintime, _, rfl⟩
    · exact .inl rfl

end Answers

end KubeOps.ControlPlane
