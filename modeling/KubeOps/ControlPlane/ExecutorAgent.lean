import KubeOps.ControlPlane.Records
import KubeOps.Execution.Session
import KubeOps.Foundation.Interleaving

/-! Executor agents as processes over one database. Every statement block of
the command that reads or writes rows is one step; what an agent holds in
memory between two of them is its phase. Clock readings and random values are
arguments of the steps, and so is the answer of the executor. -/
namespace KubeOps.ControlPlane

open KubeOps.Foundation KubeOps.Models KubeOps.Execution

section Sweep

variable (python : Python) (database : Database)

/-- Active leases due with their tasks, the most recently acquired first; rows
locked by another transaction are passed over. -/
def dueLeases (locked : List String) (now : Int) : List (TaskLeaseRecord × ExecutionTaskRecord) :=
  ((database.leases.rows.filter fun lease =>
      lease.status = .active ∧ lease.expiresAt ≤ now ∧ lease.leaseId ∉ locked).insertionSort
    fun left right => right.acquiredAt ≤ left.acquiredAt).filterMap fun lease =>
    (database.tasks.get? lease.taskId).map fun task => (lease, task)

def requeuedTask (task : ExecutionTaskRecord) (model : ExecutionTask)
    (h : model.attempt + 1 ≤ model.maxAttempts) (now : Int) : ExecutionTaskRecord :=
  { task with
    status := .queued
    assignedAgent := none
    payload := { fields := { model with
      status := .queued
      attempt := model.attempt + 1
      attempt_le := h
      assignedAgentId := none
      updatedAtIso := python.isoFormat now } }
    updatedAt := now }

def exhaustedTask (task : ExecutionTaskRecord) (model : ExecutionTask) (now : Int) :
    ExecutionTaskRecord :=
  { task with
    status := .failed
    payload := { fields := { model with
      status := .failed
      updatedAtIso := python.isoFormat now
      metadata := model.metadata.set "failure_reason" (.str "executor lease expired") } }
    updatedAt := now }

def leaseExpiredReceipt (task : ExecutionTaskRecord) (lease : TaskLeaseRecord) (attempt : Nat)
    (now : Int) : ActionReceipt where
  receiptId := s!"receipt:{task.operationId}:{task.actionId}:{attempt}:lease-expired"
  operationId := task.operationId
  actionId := task.actionId
  actionTypeId := task.actionTypeId
  executorId := task.executorId
  status := .failed
  attempt := attempt
  startedAtIso := python.isoFormat lease.acquiredAt
  completedAtIso := python.isoFormat now
  stderr := "executor lease expired"
  metadata := Dict.ofList [("lease_id", .str lease.leaseId)]

def expireLease (now : Int) (lease : TaskLeaseRecord) (task : ExecutionTaskRecord) :
    Except PyError Database := do
  let database := database.saveLease { lease with status := .expired, heartbeatAt := now }
  let model ← task.payload.modelValidate
  if h : model.attempt + 1 ≤ model.maxAttempts then
    return database.saveAssignedTask (requeuedTask python task model h now)
  else
    let failure := leaseExpiredReceipt python task lease model.attempt now
    let database := database.putReceipt ⟨task.operationId, lease.acquiredAt, failure⟩
    return database.saveAssignedTask (exhaustedTask python task model now)

def expireStaleLeases (locked : List String) (now : Int) :
    Except PyError (Database × List String) := do
  let due := dueLeases database locked now
  let reached ← due.foldlM (fun database entry => expireLease python database now entry.1 entry.2)
    database
  return (reached, (due.map fun entry => entry.2.operationId).dedup)

variable {python database} {reached : Database} {locked affected : List String} {now : Int}

theorem expireLease_cases {lease : TaskLeaseRecord} {task : ExecutionTaskRecord}
    (h : expireLease python database now lease task = .ok reached) :
    ∃ model, task.payload.modelValidate = .ok model ∧
      ((∃ hattempt, reached =
          (database.saveLease { lease with status := .expired, heartbeatAt := now }).saveAssignedTask
            (requeuedTask python task model hattempt now)) ∨
        (¬ model.attempt + 1 ≤ model.maxAttempts ∧ reached =
          ((database.saveLease { lease with status := .expired, heartbeatAt := now }).putReceipt
            ⟨task.operationId, lease.acquiredAt,
              leaseExpiredReceipt python task lease model.attempt now⟩).saveAssignedTask
                (exhaustedTask python task model now))) := by
  obtain ⟨model, hmodel, h⟩ := except_bind_eq_ok h
  refine ⟨model, hmodel, ?_⟩
  split at h
  · rename_i hattempt
    cases h
    exact .inl ⟨hattempt, rfl⟩
  · rename_i hattempt
    cases h
    exact .inr ⟨hattempt, rfl⟩

theorem expireStaleLeases_ok
    (h : expireStaleLeases python database locked now = .ok (reached, affected)) :
    (dueLeases database locked now).foldlM
      (fun database entry => expireLease python database now entry.1 entry.2) database =
        .ok reached := by
  obtain ⟨final, hall, h⟩ := except_bind_eq_ok h
  cases h
  exact hall

theorem mem_dueLeases {entry : TaskLeaseRecord × ExecutionTaskRecord}
    (h : entry ∈ dueLeases database locked now) :
    (database.leases.get? entry.1.leaseId = some entry.1 ∧ entry.1.status = .active) ∧
      database.tasks.get? entry.1.taskId = some entry.2 := by
  unfold dueLeases at h
  obtain ⟨lease, hlease, hentry⟩ := List.mem_filterMap.mp h
  obtain ⟨task, htask, rfl⟩ := Option.map_eq_some_iff.mp hentry
  rw [List.mem_insertionSort, List.mem_filter, Table.mem_rows, decide_eq_true_eq] at hlease
  exact ⟨⟨hlease.1, hlease.2.1⟩, htask⟩

end Sweep

section Claim

variable (database : Database) (agent : ExecutorAgentRecord)

def activeCount : Nat :=
  (database.leases.rows.filter fun lease =>
    lease.agentId = agent.agentId ∧ lease.status = .active).length

def dependencies (task : ExecutionTaskRecord) : List String :=
  ((task.payload.fields.payload.get? "depends_on_action_ids").getD (.list [])).stringItems

def completedActionIds (operationId : String) : List String :=
  ((database.tasksOf operationId).filter fun task => task.status = .completed).map
    ExecutionTaskRecord.actionId

/-- The environments of an agent are texts, the one of a task is a primary key. -/
def matchesTask (task : ExecutionTaskRecord) : Bool :=
  task.executorId ∈ agent.supportedExecutorIds ∧
    (agent.environmentIds = [] ∨
      (agent.environmentIds.any fun text => (Json.str text).pyEq (.int task.environmentId)) = true) ∧
    (∀ capability ∈ task.payload.fields.requiredCapabilities, capability ∈ agent.capabilities) ∧
    ∀ actionId ∈ dependencies task, actionId ∈ completedActionIds database task.operationId

/-- `order_by("-priority", "created_at")` -/
def claimable (locked : List String) : List ExecutionTaskRecord :=
  (database.tasks.rows.filter fun task => task.status = .queued ∧ task.taskId ∉ locked).insertionSort
    fun left right => right.priority < left.priority ∨
      left.priority = right.priority ∧ left.createdAt ≤ right.createdAt

def commandTimeoutSeconds (python : Python) (task : ExecutionTaskRecord) : Except PyError Int :=
  (((task.payload.fields.payload.get? "execution_context").bind
    (Json.entry? "command_timeout_seconds")).getD (.int 120)).toInt python

structure Assignment where
  task : ExecutionTaskRecord
  lease : TaskLeaseRecord
  nonce : String

def leaseFor (python : Python) (task : ExecutionTaskRecord) (timeoutSeconds now : Int)
    (random nonce : String) : TaskLeaseRecord where
  leaseId := s!"lease:{task.taskId}:{random}"
  taskId := task.taskId
  agentId := agent.agentId
  status := .active
  nonceHash := python.sha256 nonce
  acquiredAt := now
  expiresAt := now + max agent.leaseTtlSeconds (timeoutSeconds + 30) * 1000000
  heartbeatAt := now

def runningTask (python : Python) (task : ExecutionTaskRecord) (now : Int) : ExecutionTaskRecord :=
  { task with
    status := .running
    assignedAgent := some agent.agentId
    payload := { task.payload with fields := { task.payload.fields with
      status := .running
      assignedAgentId := some agent.agentId
      updatedAtIso := python.isoFormat now } }
    updatedAt := now }

/-- The transaction of `_process_one`; a lease id in use violates its constraint. -/
def claim (python : Python) (locked : List String) (now : Int) (random nonce : String) :
    Except PyError (Option (Database × Assignment)) :=
  match (claimable database locked).find? (matchesTask database agent) with
  | none => .ok none
  | some task => do
    let timeoutSeconds ← commandTimeoutSeconds python task
    let lease := leaseFor agent python task timeoutSeconds now random nonce
    let task := runningTask agent python task now
    match database.leases.get? lease.leaseId with
    | some _ => .error .integrityError
    | none =>
      let database := { database with leases := database.leases.put lease }
      return some (database.saveAssignedTask task, ⟨task, lease, nonce⟩)

variable {database agent} {task : ExecutionTaskRecord} {locked : List String}

theorem mem_claimable : task ∈ claimable database locked ↔
    database.tasks.get? task.taskId = some task ∧ task.status = .queued ∧ task.taskId ∉ locked := by
  rw [claimable, List.mem_insertionSort, List.mem_filter, Table.mem_rows, decide_eq_true_eq]

theorem claim_eq_some {python : Python} {now : Int} {random nonce : String} {reached : Database}
    {assignment : Assignment}
    (h : claim database agent python locked now random nonce = .ok (some (reached, assignment))) :
    ∃ task timeoutSeconds, database.tasks.get? task.taskId = some task ∧ task.status = .queued ∧
      matchesTask database agent task = true ∧ commandTimeoutSeconds python task = .ok timeoutSeconds ∧
      database.leases.get? assignment.lease.leaseId = none ∧
      assignment = ⟨runningTask agent python task now,
        leaseFor agent python task timeoutSeconds now random nonce, nonce⟩ ∧
      reached = { database with leases := database.leases.put assignment.lease }.saveAssignedTask
        assignment.task := by
  unfold claim at h
  split at h
  · cases h
  · rename_i task hfound
    obtain ⟨hstored, hqueued, -⟩ := mem_claimable.mp (List.mem_of_find?_eq_some hfound)
    obtain ⟨timeoutSeconds, htimeout, h⟩ := except_bind_eq_ok h
    dsimp only at h
    split at h
    · cases h
    · rename_i hfresh
      cases h
      exact ⟨task, timeoutSeconds, hstored, hqueued, List.find?_some hfound, htimeout, hfresh, rfl, rfl⟩

end Claim

section Cancel

variable (python : Python) (database : Database)

def cancelledTask (task : ExecutionTaskRecord) (now : Int) (reason : String) : ExecutionTaskRecord :=
  { task with
    status := .cancelled
    updatedAt := now
    payload := (task.payload.marked .cancelled (python.isoFormat now)).withEntry
      "cancellation_reason" (.str reason) }

def dependencyFailed (task : ExecutionTaskRecord) : Bool :=
  (database.tasksOf task.operationId).any fun other =>
    other.actionId ∈ dependencies task ∧ (other.status = .failed ∨ other.status = .cancelled)

def operationTerminal (status : Option OperationStatus) : Bool :=
  status = some .failed ∨ status = some .cancelled ∨ status = some .completed

/-- One turn of the loop of `_cancel_blocked_tasks`. -/
def cancelIfBlocked (task : ExecutionTaskRecord) (status : Option OperationStatus) (now : Int) :
    Database :=
  if dependencyFailed database task then
    database.saveTask (cancelledTask python task now "dependency failed")
  else if operationTerminal status then
    database.saveTask (cancelledTask python task now "operation is terminal")
  else database

def queuedWithStatus : List (ExecutionTaskRecord × Option OperationStatus) :=
  (database.tasks.rows.filter fun task => task.status = .queued).map fun task =>
    (task, (database.operations.get? task.operationId).map OperationRun.status)

end Cancel

section Execute

variable (python : Python) (database : Database)

def attemptFailedReceipt (assignment : Assignment) (nowIso error : String) : ActionReceipt where
  receiptId :=
    s!"receipt:{assignment.task.operationId}:{assignment.task.actionId}:{assignment.task.payload.fields.attempt}:failed"
  operationId := assignment.task.operationId
  actionId := assignment.task.actionId
  actionTypeId := assignment.task.actionTypeId
  executorId := assignment.task.executorId
  status := .failed
  attempt := assignment.task.payload.fields.attempt
  startedAtIso := nowIso
  completedAtIso := nowIso
  stderr := error
  metadata := Dict.ofList
    [("distributed_task_id", .str assignment.task.taskId), ("agent_id", .str assignment.lease.agentId)]

def Assignment.nonceVerified (assignment : Assignment) : Bool :=
  python.sha256 assignment.nonce = assignment.lease.nonceHash

def receiptRow (operationId : String) (receipt : ActionReceipt) :
    Except PyError ActionReceiptRecord := do
  let startedAt ← python.parseIso receipt.startedAtIso
  let _ ← python.parseIso receipt.completedAtIso
  return ⟨operationId, startedAt, receipt⟩

/-- The `try` block with its handler. Whatever the checks and the executor come
to is the answer: a receipt, or the text of an exception. -/
def executeTask (assignment : Assignment) (answer : Except String ActionReceipt) (nowIso : String)
    (now : Int) : Database × Assignment × Bool :=
  let answer := if assignment.nonceVerified python then answer
    else .error "PermissionError: task lease nonce verification failed"
  match answer with
  | .ok receipt =>
    match receiptRow python assignment.task.operationId receipt with
    | .ok row => (database.putReceipt row, assignment, receipt.status.successful)
    | .error error => failed error.describe
  | .error error => failed error
where
  failed (error : String) : Database × Assignment × Bool :=
    let receipt := attemptFailedReceipt assignment nowIso error
    (database.putReceipt ⟨assignment.task.operationId, now, receipt⟩,
      { assignment with task := { assignment.task with
          payload := assignment.task.payload.withEntry "executor_error" (.str error) } },
      false)

def finishedTask (assignment : Assignment) (success : Bool) (now : Int) : ExecutionTaskRecord :=
  let status : TaskStatus := if success then .completed else .failed
  { assignment.task with
    status := status
    updatedAt := now
    payload := (assignment.task.payload.marked status (python.isoFormat now)).withEntry
      "lease_nonce_verified" (.bool (assignment.nonceVerified python)) }

variable {python database} {operationId : String}

theorem receiptRow_ok {receipt : ActionReceipt} {row : ActionReceiptRecord}
    (h : receiptRow python operationId receipt = .ok row) :
    row.operationId = operationId ∧ row.payload = receipt := by
  obtain ⟨startedAt, -, h⟩ := except_bind_eq_ok h
  obtain ⟨completedAt, -, h⟩ := except_bind_eq_ok h
  cases h
  exact ⟨rfl, rfl⟩

/-- Whatever the answer, one receipt of the task's operation is written and the
agent keeps its task and lease. -/
theorem executeTask_cases (assignment : Assignment) (answer : Except String ActionReceipt)
    (nowIso : String) (now : Int) :
    ∃ row executed success, executeTask python database assignment answer nowIso now =
        (database.putReceipt row, executed, success) ∧
      row.operationId = assignment.task.operationId ∧
      executed.task.operationId = assignment.task.operationId ∧ executed.lease = assignment.lease ∧
      executed.task.taskId = assignment.task.taskId := by
  unfold executeTask executeTask.failed
  dsimp only
  split
  · split
    · rename_i hrow
      exact ⟨_, _, _, rfl, (receiptRow_ok hrow).1, rfl, rfl, rfl⟩
    · exact ⟨_, _, _, rfl, rfl, rfl, rfl, rfl⟩
  · exact ⟨_, _, _, rfl, rfl, rfl, rfl, rfl⟩

end Execute

section Reconcile

def runningActionIds (database : Database) (operationId : String) : List String :=
  ((database.tasksOf operationId).filter fun task => task.status = .running).map
    ExecutionTaskRecord.actionId

/-- `_persist_operation`: the receipts of the operation are deleted and created
again from the model. `none` is an exception; the transaction is undone. -/
def persistOperation (python : Python) (database : Database) (operation : OperationRun) :
    Option Database := do
  let created ← (operation.actionReceipts.mapM (receiptRow python operation.operationId)).toOption
  let kept := database.receipts.filter fun row => row.operationId ≠ operation.operationId
  let receipts ← kept.bulkCreate created
  return { database with receipts := receipts, operations := database.operations.put operation }

/-- What `_reconcile_operation` has read and what it made of it. -/
structure Projection where
  operation : OperationRun
  receipts : List ActionReceipt
  current : List String
  reconciled : OperationRun

end Reconcile

section Process

/-- The next statement of an agent, with what it holds in memory. -/
inductive Phase where
  | stopped
  | idle
  | sweeping (affected : List String)
  | admitted
  | culling (queued : List (ExecutionTaskRecord × Option OperationStatus))
  | assigned (assignment : Assignment)
  | executed (assignment : Assignment) (success : Bool)
  | released (assignment : Assignment) (success : Bool)
  | reconciling (operationId : String) (next : Phase)
  | refreshed (operation : OperationRun) (next : Phase)
  | gathered (operation : OperationRun) (receipts : List ActionReceipt) (next : Phase)
  | projected (projection : Projection) (next : Phase)
  | cancelling (projection : Projection) (pending : List ExecutionTaskRecord) (next : Phase)

/-- Between two turns of its loop. -/
def Phase.isIdle : Phase → Bool
  | .idle => true
  | _ => false

structure Process where
  agent : ExecutorAgentRecord
  phase : Phase

inductive Statement where
  | register (agent : ExecutorAgentRecord)
  /-- The process ends, by a signal or by an exception, between two statements. -/
  | stop
  | expireStaleLeases (locked : List String) (now : Int)
  | nextAffected (operationId : String)
  | countLeases
  | listQueued
  | cancelBlocked (now : Int)
  | claim (locked : List String) (now : Int) (random nonce : String)
  | execute (answer : Except String ActionReceipt) (nowIso : String) (now : Int)
  | releaseLease (now : Int)
  | finishTask (now : Int)
  | refreshOperation
  | readReceipts
  | reconcile (trace : Trace Effect)
  | listPending
  | cancelPending (now : Int)
  | persist

/-- The statement in a phase: the database and the phase it leaves. An exception
stops the agent. `none` where the statement is not the next one. -/
def Statement.run (runtime : OperationRuntime) (database : Database) (agent : ExecutorAgentRecord) :
    Statement → Phase → Option (Database × Phase)
  | .expireStaleLeases locked now, .idle =>
    match ControlPlane.expireStaleLeases runtime.python database locked now with
    | .ok (reached, affected) => some (reached, .sweeping affected)
    | .error _ => some (database, .stopped)
  | .nextAffected operationId, .sweeping affected =>
    if operationId ∈ affected then
      some (database, .reconciling operationId (.sweeping (affected.erase operationId)))
    else none
  | .countLeases, .sweeping [] =>
    some (database, if agent.maxConcurrency ≤ activeCount database agent then .idle else .admitted)
  | .listQueued, .admitted => some (database, .culling (queuedWithStatus database))
  | .cancelBlocked now, .culling ((task, status) :: rest) =>
    some (cancelIfBlocked runtime.python database task status now, .culling rest)
  | .claim locked now random nonce, .culling [] =>
    match ControlPlane.claim database agent runtime.python locked now random nonce with
    | .ok (some (reached, assignment)) =>
      some (reached, .reconciling assignment.task.operationId (.assigned assignment))
    | .ok none => some (database, .idle)
    | .error _ => some (database, .stopped)
  | .execute answer nowIso now, .assigned assignment =>
    let (reached, assignment, success) :=
      executeTask runtime.python database assignment answer nowIso now
    some (reached, .executed assignment success)
  | .releaseLease now, .executed assignment success =>
    let lease := { assignment.lease with status := .released, heartbeatAt := now }
    some (database.saveLease lease, .released { assignment with lease := lease } success)
  | .finishTask now, .released assignment success =>
    some (database.saveTask (finishedTask runtime.python assignment success now),
      .reconciling assignment.task.operationId .idle)
  | .refreshOperation, .reconciling operationId next =>
    match database.operations.get? operationId with
    | none => some (database, .stopped)
    | some operation =>
      match operation.validate runtime.python with
      | .ok operation => some (database, .refreshed operation next)
      | .error _ => some (database, .stopped)
  | .readReceipts, .refreshed operation next =>
    some (database, .gathered operation (database.receiptsOf operation.operationId) next)
  | .reconcile trace, .gathered operation receipts next =>
    let current := runningActionIds database operation.operationId
    match (runtime.reconcileExternalReceipts operation receipts (some current)).exec trace with
    | (.ok reconciled, _) => some (database, .projected ⟨operation, receipts, current, reconciled⟩ next)
    | (.error _, _) => some (database, .stopped)
  | .listPending, .projected projection next =>
    let pending := if projection.reconciled.status = .failed then
      (database.tasksOf projection.operation.operationId).filter fun task => task.status = .queued
      else []
    some (database, .cancelling projection pending next)
  | .cancelPending now, .cancelling projection (task :: rest) next =>
    some (database.saveTask
        (cancelledTask runtime.python task now "another required action failed"),
      .cancelling projection rest next)
  | .persist, .cancelling projection [] next =>
    match persistOperation runtime.python database projection.reconciled with
    | some reached => some (reached, next)
    | none => some (database, .stopped)
  | .stop, _ => some (database, .stopped)
  | _, _ => none

variable {ι : Type} [DecidableEq ι]

/-- Any number of agents over one database. -/
structure Plane (ι : Type) where
  database : Database
  processes : ι → Process

/-- A statement of one of the agents; `register` starts the agent with its record. -/
def step (runtime : OperationRuntime) (label : ι × Statement) (plane : Plane ι) :
    Option (Plane ι) :=
  let process := plane.processes label.1
  match label.2, process.phase with
  | .register agent, .stopped =>
    some { plane with processes := Function.update plane.processes label.1 ⟨agent, .idle⟩ }
  | statement, phase =>
    (statement.run runtime plane.database process.agent phase).map fun reached => {
      database := reached.1
      processes := Function.update plane.processes label.1 ⟨process.agent, reached.2⟩ }

variable {runtime : OperationRuntime} {label : ι × Statement} {before after : Plane ι}

theorem step_cases (h : step runtime label before = some after) :
    (∃ agent, label.2 = .register agent ∧ after = { before with
      processes := Function.update before.processes label.1 ⟨agent, .idle⟩ }) ∨
    ∃ database next, label.2.run runtime before.database (before.processes label.1).agent
        (before.processes label.1).phase = some (database, next) ∧
      after = ⟨database, Function.update before.processes label.1
        ⟨(before.processes label.1).agent, next⟩⟩ := by
  obtain ⟨i, statement⟩ := label
  unfold step at h
  dsimp only at h ⊢
  split at h
  · rename_i agent _
    exact .inl ⟨agent, rfl, (Option.some.inj h).symm⟩
  · obtain ⟨⟨database, next⟩, hrun, rfl⟩ := Option.map_eq_some_iff.mp h
    exact .inr ⟨database, next, hrun, rfl⟩

theorem forall_phase_update {processes : ι → Process} {i : ι} {process : Process}
    {holds : Phase → Prop} (hown : holds process.phase) (hothers : ∀ j, holds (processes j).phase)
    (j : ι) : holds (Function.update processes i process j).phase := by
  by_cases hji : j = i
  · rw [hji, Function.update_self]
    exact hown
  · rw [Function.update_of_ne hji]
    exact hothers j

end Process

end KubeOps.ControlPlane
