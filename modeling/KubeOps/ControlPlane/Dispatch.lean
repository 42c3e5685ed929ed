import KubeOps.ControlPlane.Receipts
import KubeOps.Execution.Journal
import KubeOps.Execution.Projection

/-! Dispatching an operation to executor agents: the request is authorized, every
action of the plan becomes a queued task, and what is stored afterwards is the
operation with the statuses of its first reconciliation. -/
namespace KubeOps.ControlPlane

open KubeOps.Foundation KubeOps.Models KubeOps.Policy KubeOps.Execution

/-- The request, and what the view looks up for it: policy and context, the scope of the
environment, the answer of the governance engine and the dumps of the models it sends. -/
structure DispatchRequest where
  executionMode : String := "live"
  executableAllowlist : Json := Json.strings ["docker", "kubectl", "systemctl", "service", "kill"]
  priority : Json := .int 0
  hasSnapshot : Bool := true
  policy : Except PyError ExecutionPolicy
  /-- `_runtime_context` -/
  runtimeContext : OperationRun → Except PyError RuntimeContext
  organizationId : String
  workspaceId : Option String
  environmentId : String
  environmentKey : Int
  timeoutSeconds : ActionTypeDefinition → Int
  dumpAction : ActionInstance → Json
  dumpDefinition : ActionTypeDefinition → Json
  governanceAllows : Bool := true
  governance : Json := .null
  nowIso : String

/-- A request that is not carried out: the code it is answered with, and the database it leaves. -/
structure Refusal where
  status : Nat
  database : Database

namespace DispatchRequest

variable (request : DispatchRequest)

/-- Dry runs and simulations are carried out by executors of those names. -/
def executorId (definition : ActionTypeDefinition) : String :=
  if request.executionMode = "dry_run" then "dry_run"
  else if request.executionMode = "simulation" then "simulation"
  else definition.executorId

def requiredCapabilities (definition : ActionTypeDefinition) : List String :=
  if request.executionMode ∈ ["dry_run", "simulation"] then [] else definition.requiredCapabilities

def supports (definition : ActionTypeDefinition) : Bool :=
  (request.executionMode = "live" → .live ∈ definition.supportedModes) ∧
    (request.executionMode = "simulation" → .simulation ∈ definition.supportedModes)

def prepare (runtime : OperationRuntime) (action : ActionInstance) :
    Except Nat (ActionInstance × ActionTypeDefinition) :=
  match runtime.actions.validateInstance runtime.python action with
  | .ok definition => if request.supports definition then .ok (action, definition) else .error 422
  | .error _ => .error 422

def executionPayload (action : ActionInstance) (definition : ActionTypeDefinition) : JsonObject :=
  Dict.ofList [
    ("action", request.dumpAction action),
    ("action_definition", request.dumpDefinition definition),
    ("mode", .str request.executionMode),
    ("attempt", .int 1),
    ("depends_on_action_ids", Json.strings action.dependsOnActionIds),
    ("execution_context", .dict [
      ("command_timeout_seconds", .int (request.timeoutSeconds definition)),
      ("executable_allowlist", request.executableAllowlist)])]

def executionTask (python : Python) (operationId workspaceId : String) (action : ActionInstance)
    (definition : ActionTypeDefinition) : ExecutionTask where
  taskId := s!"task:{operationId}:{action.actionId}"
  organizationId := request.organizationId
  workspaceId := workspaceId
  environmentId := request.environmentId
  executorId := request.executorId definition
  requiredCapabilities := request.requiredCapabilities definition
  attempt := 1
  maxAttempts := definition.maxAttempts
  attempt_le := definition.maxAttempts_pos
  payload := request.executionPayload action definition
  payloadHash := python.sha256 (python.dumps (.dict (request.executionPayload action definition).entries))
  updatedAtIso := request.nowIso

def taskRecord (python : Python) (operationId workspaceId : String) (priority now : Int)
    (action : ActionInstance) (definition : ActionTypeDefinition) : ExecutionTaskRecord where
  taskId := s!"task:{operationId}:{action.actionId}"
  operationId := operationId
  environmentId := request.environmentKey
  actionId := action.actionId
  actionTypeId := action.actionTypeId
  executorId := request.executorId definition
  status := .queued
  priority := priority
  payload := { fields := request.executionTask python operationId workspaceId action definition }
  createdAt := now
  updatedAt := now

end DispatchRequest

/-- `ExecutionTaskRecord.objects.update_or_create(task_id=...)`; the agent that was
assigned is not among the columns written. -/
def Database.putTask (database : Database) (task : ExecutionTaskRecord) : Database :=
  { database with
    tasks := database.tasks.put { task with
      assignedAgent := (database.tasks.get? task.taskId).bind ExecutionTaskRecord.assignedAgent } }

section View

variable (runtime : OperationRuntime) (request : DispatchRequest) (database : Database)

def createTasks (operationId workspaceId : String)
    (prepared : List (ActionInstance × ActionTypeDefinition)) : Except PyError Database :=
  prepared.foldlM (fun database entry => do
    let priority ← request.priority.toInt runtime.python
    let now ← runtime.python.parseIso request.nowIso
    return database.putTask
      (request.taskRecord runtime.python operationId workspaceId priority now entry.1 entry.2))
    database

/-- The first reconciliation, and the marks of a distributed operation. -/
def projectDispatch (authorized : OperationRun) (taskIds : List String) : Runtime OperationRun := do
  let dispatched ← runtime.reconcileExternalReceipts authorized [] none
  let dispatched := { dispatched with
    metadata := (((dispatched.metadata.set "distributed" (.bool true)).set
      "distributed_execution_mode" (.str request.executionMode)).set
      "execution_task_ids" (Json.strings taskIds)).set
      "dispatch_governance_decision" request.governance }
  FileOperationStore.save dispatched
  return dispatched

def authorizeDispatch (operation : OperationRun) : Runtime OperationRun := do
  let policy ← Program.attempt request.policy
  let context ← Program.attempt (request.runtimeContext operation)
  runtime.authorize operation policy context

def dispatchAuthorized (operationId : String) (authorized : OperationRun) (trace : Trace Effect) :
    Except Refusal Database :=
  match request.workspaceId with
  | none => .error ⟨409, database⟩
  | some workspaceId =>
    match authorized.plan.actions.mapM (request.prepare runtime) with
    | .error status => .error ⟨status, database⟩
    | .ok prepared =>
      if prepared = [] then .error ⟨409, database⟩
      else if ¬ request.governanceAllows then .error ⟨429, database⟩
      else match createTasks runtime request database operationId workspaceId prepared with
        | .error _ => .error ⟨500, database⟩
        | .ok created =>
          let taskIds := prepared.map fun entry => s!"task:{operationId}:{entry.1.actionId}"
          match (projectDispatch runtime request authorized taskIds).exec trace with
          | (.error _, _) => .error ⟨500, created⟩
          | (.ok dispatched, _) =>
            match persistOperation runtime.python created dispatched with
            | some reached => .ok reached
            | none => .error ⟨500, created⟩

/-- `OperationDistributedDispatchView.post`: the database an operation is dispatched in. -/
def dispatch (operationId : String) (trace : Trace Effect) : Except Refusal Database :=
  match database.operations.get? operationId with
  | none => .error ⟨404, database⟩
  | some stored =>
    if ¬ request.hasSnapshot then .error ⟨409, database⟩
    else match stored.validate runtime.python with
      | .error _ => .error ⟨500, database⟩
      | .ok operation =>
        if request.executionMode ∉ ["live", "simulation", "dry_run"] then .error ⟨422, database⟩
        else match (authorizeDispatch runtime request operation).exec trace with
          | (.error (.permissionError _), _) => .error ⟨403, database⟩
          | (.error _, _) => .error ⟨500, database⟩
          | (.ok authorized, trace) =>
            if authorized.status = .authorized then
              dispatchAuthorized runtime request database operationId authorized trace
            else match persistOperation runtime.python database authorized with
              | some reached => .error ⟨409, reached⟩
              | none => .error ⟨500, database⟩

end View

structure TaskFor (operationId : String) (action : ActionInstance) (task : ExecutionTaskRecord) :
    Prop where
  operationId : task.operationId = operationId
  actionId : task.actionId = action.actionId
  dependencies : ControlPlane.dependencies task = action.dependsOnActionIds

section Tasks

variable {runtime : OperationRuntime} {request : DispatchRequest} {database reached : Database}
  {operationId workspaceId : String} {prepared : List (ActionInstance × ActionTypeDefinition)}

theorem executionPayload_dependencies (action : ActionInstance) (definition : ActionTypeDefinition) :
    (request.executionPayload action definition).get? "depends_on_action_ids" =
      some (Json.strings action.dependsOnActionIds) := by
  rw [DispatchRequest.executionPayload, Dict.get?_eq_some, Dict.entries_ofList (by simp)]
  simp

theorem taskRecord_taskFor (python : Python) (priority now : Int) (action : ActionInstance)
    (definition : ActionTypeDefinition) : TaskFor operationId action
      (request.taskRecord python operationId workspaceId priority now action definition) where
  operationId := rfl
  actionId := rfl
  dependencies := by
    change (((request.executionPayload action definition).get? "depends_on_action_ids").getD
      (.list [])).stringItems = action.dependsOnActionIds
    rw [executionPayload_dependencies, Option.getD_some, Json.stringItems_strings]

theorem get?_putTask (database : Database) (task : ExecutionTaskRecord) (taskId : String) :
    (database.putTask task).tasks.get? taskId =
      if taskId = task.taskId then some { task with
        assignedAgent := (database.tasks.get? task.taskId).bind ExecutionTaskRecord.assignedAgent }
      else database.tasks.get? taskId :=
  Table.get?_put ..

def OnlyTasksFor (operationId : String) (actions : List ActionInstance) (database : Database) : Prop :=
  ∀ task ∈ database.tasksOf operationId, task.status = .queued ∧
    ∃ action ∈ actions, TaskFor operationId action task

theorem createTask_ok {entry : ActionInstance × ActionTypeDefinition}
    (h : (do
      let priority ← request.priority.toInt runtime.python
      let now ← runtime.python.parseIso request.nowIso
      return database.putTask (request.taskRecord runtime.python operationId workspaceId priority now
        entry.1 entry.2)) = .ok reached) :
    ∃ priority now, reached = database.putTask
      (request.taskRecord runtime.python operationId workspaceId priority now entry.1 entry.2) := by
  obtain ⟨priority, -, h⟩ := except_bind_eq_ok h
  obtain ⟨now, -, h⟩ := except_bind_eq_ok h
  exact ⟨priority, now, (Except.ok.inj h).symm⟩

theorem mem_tasksOf {task : ExecutionTaskRecord} : task ∈ database.tasksOf operationId ↔
    database.tasks.get? task.taskId = some task ∧ task.operationId = operationId := by
  rw [Database.tasksOf, List.mem_filter, Table.mem_rows, decide_eq_true_eq]

theorem createTasks_only
    (h : createTasks runtime request database operationId workspaceId prepared = .ok reached)
    (hnone : database.tasksOf operationId = []) :
    OnlyTasksFor operationId (prepared.map Prod.fst) reached := by
  refine foldlM_ok (p := OnlyTasksFor operationId (prepared.map Prod.fst)) h ?_ ?_
  · intro task htask
    rw [hnone] at htask
    cases htask
  · intro entry hentry current next honly hnext task htask
    obtain ⟨priority, now, rfl⟩ := createTask_ok hnext
    obtain ⟨hfound, hoperation⟩ := mem_tasksOf.mp htask
    rw [get?_putTask] at hfound
    split at hfound
    · obtain rfl := Option.some.inj hfound
      have hfor : TaskFor operationId entry.1 (request.taskRecord runtime.python operationId workspaceId
          priority now entry.1 entry.2) := taskRecord_taskFor ..
      obtain ⟨hsame, hid, hdependencies⟩ := hfor
      exact ⟨rfl, entry.1, List.mem_map_of_mem hentry, hsame, hid, hdependencies⟩
    · exact honly task (mem_tasksOf.mpr ⟨hfound, hoperation⟩)

theorem createTasks_covers
    (h : createTasks runtime request database operationId workspaceId prepared = .ok reached)
    {action : ActionInstance} (haction : action ∈ prepared.map Prod.fst) :
    ∃ task ∈ reached.tasksOf operationId, task.actionId = action.actionId := by
  obtain ⟨entry, hentry, rfl⟩ := List.mem_map.mp haction
  -- The rows are told apart by the ids of their actions.
  let covered (database : Database) : Prop := ∃ task,
    database.tasks.get? s!"task:{operationId}:{entry.1.actionId}" = some task ∧
      task.operationId = operationId ∧ task.actionId = entry.1.actionId
  suffices hcovered : covered reached by
    obtain ⟨task, hfound, hoperation, hid⟩ := hcovered
    have hkey := Table.key_of_get? hfound
    exact ⟨task, mem_tasksOf.mpr ⟨by rw [hkey, hfound], hoperation⟩, hid⟩
  refine foldlM_ok_of_turn (p := covered) h hentry ?_ ?_
  · intro current next hnext
    obtain ⟨priority, now, rfl⟩ := createTask_ok hnext
    exact ⟨_, (get?_putTask ..).trans (if_pos rfl), rfl, rfl⟩
  · rintro other hother current next ⟨task, hfound, hoperation, hid⟩ hnext
    obtain ⟨priority, now, rfl⟩ := createTask_ok hnext
    by_cases heq : s!"task:{operationId}:{entry.1.actionId}" =
        s!"task:{operationId}:{other.1.actionId}"
    · refine ⟨_, (get?_putTask ..).trans (if_pos heq), rfl, ?_⟩
      have hlists := congrArg String.toList heq
      simp only [String.toList_append, List.append_cancel_left_eq] at hlists
      exact (String.toList_inj.mp hlists).symm
    · exact ⟨task, (get?_putTask ..).trans ((if_neg heq).trans hfound), hoperation, hid⟩

theorem prepared_actions {actions : List ActionInstance}
    (h : actions.mapM (request.prepare runtime) = .ok prepared) : prepared.map Prod.fst = actions := by
  have hfirst : prepared.map Prod.fst = actions.map id := by
    apply map_eq_of_mapM h
    intro action entry hentry
    unfold DispatchRequest.prepare at hentry
    split at hentry
    · split at hentry
      · cases hentry
        rfl
      · cases hentry
    · cases hentry
  rwa [List.map_id] at hfirst

end Tasks

section Views

variable {runtime : OperationRuntime} {request : DispatchRequest} {database reached : Database}
  {given authorized : OperationRun} {operationId : String} {trace : Trace Effect}

structure Started (runtime : OperationRuntime) (given dispatched : OperationRun) : Prop where
  operationId : dispatched.operationId = given.operationId
  same : SameActions given.plan dispatched
  unreceipted : dispatched.actionReceipts = []
  recorded : dispatched.metadata.get? "external_projection_hash" =
    some (.str (runtime.projectionHash [] [] dispatched.status))
  status : dispatched.status = .running

theorem reconciledStatus_unreceipted (hfresh : authorized.actionReceipts = [])
    (hactions : authorized.plan.actions ≠ []) :
    OperationRuntime.reconciledStatus (projection authorized [] none) = .running := by
  have hnone : ∀ actionId, latestReceipt (OperationRuntime.mergeReceipts [] []) actionId = none :=
    fun _ => rfl
  have hmarked : ∀ action ∈ projection authorized [] none, action.status ≠ .failed ∧
      OperationRuntime.terminalAction action.status = false := by
    intro action hmem
    obtain ⟨original, -, rfl⟩ := List.mem_map.mp hmem
    rw [hfresh, hnone]
    constructor
    · intro h
      change OperationRuntime.projectedStatus original [] none = .failed at h
      simpa using projectedStatus_eq_failed.mp h
    · exact terminal_projectedStatus none
  unfold OperationRuntime.reconciledStatus
  rw [if_neg, if_neg]
  · obtain ⟨action, haction⟩ := List.exists_mem_of_ne_nil _ hactions
    rw [List.all_eq_true]
    intro hall
    have hmem : { action with status := _ } ∈ projection authorized [] none :=
      List.mem_map_of_mem haction
    have hterminal := hall _ hmem
    rw [(hmarked _ hmem).2] at hterminal
    cases hterminal
  · rw [not_not, OperationRuntime.failedRequired, List.filter_eq_nil_iff]
    intro action hmem
    simp [(hmarked action hmem).1]

theorem projectDispatch_started (hfresh : Unexecuted authorized)
    (hactions : authorized.plan.actions ≠ []) (taskIds : List String) :
    Returns (projectDispatch runtime request authorized taskIds) (Started runtime authorized) := by
  unfold projectDispatch
  apply Returns.bind reconcile_cases
  intro reconciled hcases
  apply Returns.bind_any
  intro _
  apply Returns.pure
  rcases hcases with ⟨-, halready⟩ | hprojected
  · rw [AlreadyProjected, hfresh.unprojected] at halready
    cases halready
  have hreceipts : reconciled.actionReceipts = [] := by
    rw [hprojected.receipted, hfresh.unreceipted]
    rfl
  constructor
  · exact hprojected.operationId
  · exact hprojected.sameActions
  · exact hreceipts
  · simp only [Dict.get?_set, hprojected.recorded, hreceipts]
    rfl
  · exact hprojected.status.trans (reconciledStatus_unreceipted hfresh.unreceipted hactions)

structure Dispatched (runtime : OperationRuntime) (given : OperationRun) (database : Database) :
    Prop where
  accepted : given.plan.Accepted runtime.python
  operation : ∃ dispatched, database.operations.get? given.operationId = some dispatched ∧
    Started runtime given dispatched
  unreceipted : database.receiptsOf given.operationId = []
  only : OnlyTasksFor given.operationId given.plan.actions database
  covers : ∀ action ∈ given.plan.actions,
    ∃ task ∈ database.tasksOf given.operationId, task.actionId = action.actionId

theorem Started.of_authorized {dispatched : OperationRun} (h : Started runtime authorized dispatched)
    (hoperation : authorized.operationId = given.operationId) (hsame : SameActions given.plan authorized) :
    Started runtime given dispatched :=
  { h with
    operationId := h.operationId.trans hoperation
    same := h.same.trans hsame }

theorem TaskFor.of_unmarked {left right : ActionInstance} {task : ExecutionTaskRecord}
    (h : TaskFor operationId right task) (hsame : left.unmarked = right.unmarked) :
    TaskFor operationId left task where
  operationId := h.operationId
  actionId := h.actionId.trans (actionId_unmarked hsame).symm
  dependencies := h.dependencies.trans (congrArg ActionInstance.dependsOnActionIds hsame :).symm

theorem dispatchAuthorized_dispatched
    (h : dispatchAuthorized runtime request database operationId authorized trace = .ok reached)
    (haccepted : given.plan.Accepted runtime.python) (hgiven : given.operationId = operationId)
    (hauthorized : authorized.operationId = operationId) (hsame : SameActions given.plan authorized)
    (hfresh : Unexecuted authorized) (hnone : database.tasksOf operationId = []) :
    Dispatched runtime given reached := by
  unfold dispatchAuthorized at h
  split at h
  · cases h
  rename_i workspaceId _
  split at h
  · cases h
  rename_i prepared hprepared
  split_ifs at h with hempty hgovernance
  split at h
  · cases h
  rename_i created hcreated
  dsimp only at h
  split at h
  · cases h
  rename_i dispatched ended hprojected
  split at h
  · rename_i persisted hpersist
    obtain rfl := Except.ok.inj h
    have hactions := prepared_actions hprepared
    have hstarted := (projectDispatch_started hfresh (by
      rw [← hactions]
      simpa using hempty) _).apply hprojected
    have hrows := persisted_of_persistOperation hpersist
    have hid : dispatched.operationId = operationId := hstarted.operationId.trans hauthorized
    have htasks : persisted.tasksOf operationId = created.tasksOf operationId := by
      rw [Database.tasksOf, hrows.tasks]
      rfl
    subst hgiven
    constructor
    · exact haccepted
    · refine ⟨dispatched, ?_, hstarted.of_authorized hauthorized hsame⟩
      rw [hrows.operations, Table.get?_put, if_pos hid.symm]
    · rw [List.eq_nil_iff_forall_not_mem, ← hid]
      intro receipt hmem
      rw [hrows.own, hstarted.unreceipted] at hmem
      cases hmem
    · intro task htask
      rw [htasks] at htask
      obtain ⟨hqueued, action, haction, hfor⟩ := createTasks_only hcreated hnone task htask
      rw [hactions] at haction
      obtain ⟨original, horiginal, hmark⟩ := RecoveryPlan.exists_original hsame haction
      exact ⟨hqueued, original, horiginal, hfor.of_unmarked hmark⟩
    · intro action haction
      obtain ⟨marked, hmarked, hmark⟩ := RecoveryPlan.exists_original hsame.symm haction
      rw [← hactions] at hmarked
      obtain ⟨task, htask, hid⟩ := createTasks_covers hcreated hmarked
      refine ⟨task, ?_, hid.trans (actionId_unmarked hmark)⟩
      rw [htasks]
      exact htask
  · cases h

theorem authorizeDispatch_extends : Returns (authorizeDispatch runtime request given) fun authorized =>
    (∃ event, Extends given authorized [] [event]) ∧
      authorized.metadata = given.metadata ∧ authorized.currentActionIds = given.currentActionIds := by
  unfold authorizeDispatch
  apply Returns.bind_any
  intro policy
  apply Returns.bind_any
  intro context
  exact Triple.weaken (authorize_extends.and authorize_unchanged) (fun _ _ => ⟨trivial, trivial⟩)
    (fun _ _ h => h) fun _ _ _ => trivial

theorem dispatch_dispatched (h : dispatch runtime request database operationId trace = .ok reached)
    (hgiven : database.operations.get? operationId = some given) (hfresh : Unexecuted given)
    (hnone : database.tasksOf operationId = []) : Dispatched runtime given reached := by
  unfold dispatch at h
  rw [hgiven] at h
  dsimp only at h
  split at h
  · cases h
  split at h
  · cases h
  rename_i operation hvalid
  obtain ⟨rfl, haccepted⟩ := validate_eq_ok hvalid
  split at h
  · cases h
  split at h
  · cases h
  · cases h
  rename_i authorized ended hexec
  split at h
  · obtain ⟨⟨event, hextends⟩, hmetadata, -⟩ := authorizeDispatch_extends.apply hexec
    have hid : operation.operationId = operationId := Table.key_of_get? hgiven
    refine dispatchAuthorized_dispatched h haccepted hid (hextends.operationId.trans hid)
      hextends.actions ⟨?_, ?_⟩ hnone
    · rw [hextends.receipted, hfresh.unreceipted]
      rfl
    · rw [hmetadata]
      exact hfresh.unprojected
  · split at h <;> cases h

end Views

end KubeOps.ControlPlane
