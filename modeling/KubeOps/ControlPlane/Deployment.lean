import KubeOps.ControlPlane.Claims
import KubeOps.ControlPlane.Fencing

/-! The control plane as a whole: executor agents as processes over one database,
the rows of the agents, and the requests that reach them in between. -/
namespace KubeOps.ControlPlane

open KubeOps.Foundation KubeOps.Models KubeOps.Execution
open KubeOps.Distributed.DistributedDispatcher (Generated)

variable {ι : Type}

section Events

/-- Each command keeps the row it has registered, as it last wrote it. -/
structure Deployment (ι : Type) where
  plane : Plane ι
  agents : AgentTable
  kept : ι → Option AgentRow

/-- A statement of a command or a request. The two closing writes of a task are
also one event, for the runs in which nothing comes between them. -/
inductive Event (ι : Type) where
  | start (i : ι) (options : AgentOptions) (nowIso : String) (now : Int)
  | heartbeat (i : ι) (now : Int)
  | work (i : ι) (statement : Statement)
  | writeBack (i : ι) (now : Int)
  | offline (i : ι) (nowIso : String) (now : Int)
  | postAgent (request : AgentRequest)
  | postHeartbeat (heartbeat : ExecutorHeartbeat)
  | postClaim (request : ClaimRequest) (generated : Generated) (now : Int)
  | postCompletion (taskId : String) (data : JsonObject) (now : Int)

namespace Deployment

variable [DecidableEq ι] (runtime : OperationRuntime)

def keep (deployment : Deployment ι) (i : ι) (row : AgentRow) : Deployment ι :=
  { deployment with kept := Function.update deployment.kept i (some row) }

def withDatabase (deployment : Deployment ι) (database : Database) : Deployment ι :=
  { deployment with plane := { deployment.plane with database := database } }

def perform (deployment : Deployment ι) (i : ι) (statement : Statement) : Option (Deployment ι) :=
  (ControlPlane.step runtime (i, statement) deployment.plane).map fun plane =>
    { deployment with plane := plane }

/-- `none` where the event is not possible. The heartbeat comes after the sweep and
before the leases are counted. -/
def step : Event ι → Deployment ι → Option (Deployment ι)
  | .start i options nowIso now, deployment =>
    match (deployment.plane.processes i).phase with
    | .stopped =>
      match options.register deployment.agents nowIso now with
      | none => some deployment
      | some (row, agents) =>
        ({ deployment with agents := agents }.keep i row).perform runtime i (.register row.record)
    | _ => none
  | .heartbeat i now, deployment =>
    match (deployment.plane.processes i).phase, deployment.kept i with
    | .sweeping [], some row =>
      let row := row.beat runtime.python deployment.plane.database now
      some ({ deployment with agents := deployment.agents.save row }.keep i row)
    | _, _ => none
  | .work _ (.register _), _ => none
  | .work i statement, deployment => deployment.perform runtime i statement
  | .writeBack i now, deployment =>
    (deployment.perform runtime i (.releaseLease now)).bind fun released =>
      released.perform runtime i (.finishTask now)
  | .offline i nowIso now, deployment =>
    match (deployment.plane.processes i).phase, deployment.kept i with
    | .idle, some row =>
      let row := row.offline nowIso now
      ({ deployment with agents := deployment.agents.save row }.keep i row).perform runtime i .stop
    | _, _ => none
  | .postAgent request, deployment =>
    some { deployment with agents := (request.post runtime.python deployment.agents).2 }
  | .postHeartbeat heartbeat, deployment =>
    some { deployment with
      agents := (ControlPlane.postHeartbeat runtime.python deployment.agents heartbeat).2 }
  | .postClaim request generated now, deployment =>
    some (deployment.withDatabase
      (request.post runtime.python deployment.plane.database deployment.agents generated now).2)
  | .postCompletion taskId data now, deployment =>
    some (deployment.withDatabase
      (ControlPlane.postCompletion runtime.python deployment.plane.database taskId data now).2)

variable (before : Deployment ι)

inductive Occurs : Event ι → Deployment ι → Prop where
  | refused (i : ι) (options : AgentOptions) (nowIso : String) (now : Int)
      (hregister : options.register before.agents nowIso now = none) :
    Occurs (.start i options nowIso now) before
  | started {i : ι} {options : AgentOptions} {nowIso : String} {now : Int} {row : AgentRow}
      {agents : AgentTable} {after : Deployment ι}
      (hregister : options.register before.agents nowIso now = some (row, agents))
      (hperform : ({ before with agents := agents }.keep i row).perform runtime i (.register row.record) =
        some after) : Occurs (.start i options nowIso now) after
  | beaten {i : ι} (now : Int) {row : AgentRow} (hkept : before.kept i = some row) :
    Occurs (.heartbeat i now) ({ before with
      agents := before.agents.save (row.beat runtime.python before.plane.database now) }.keep i
        (row.beat runtime.python before.plane.database now))
  | worked {i : ι} {statement : Statement} {after : Deployment ι}
      (hstatement : ∀ agent, statement ≠ .register agent)
      (hperform : before.perform runtime i statement = some after) : Occurs (.work i statement) after
  | writtenBack {i : ι} {now : Int} {released after : Deployment ι}
      (hrelease : before.perform runtime i (.releaseLease now) = some released)
      (hfinish : released.perform runtime i (.finishTask now) = some after) :
    Occurs (.writeBack i now) after
  | ended {i : ι} {nowIso : String} {now : Int} {row : AgentRow} {after : Deployment ι}
      (hkept : before.kept i = some row)
      (hperform : ({ before with agents := before.agents.save (row.offline nowIso now) }.keep i
        (row.offline nowIso now)).perform runtime i .stop = some after) :
    Occurs (.offline i nowIso now) after
  | agentPosted (request : AgentRequest) : Occurs (.postAgent request)
      { before with agents := (request.post runtime.python before.agents).2 }
  | heartbeatPosted (heartbeat : ExecutorHeartbeat) : Occurs (.postHeartbeat heartbeat)
      { before with agents := (ControlPlane.postHeartbeat runtime.python before.agents heartbeat).2 }
  | claimPosted (request : ClaimRequest) (generated : Generated) (now : Int) :
    Occurs (.postClaim request generated now) (before.withDatabase
      (request.post runtime.python before.plane.database before.agents generated now).2)
  | completionPosted (taskId : String) (data : JsonObject) (now : Int) :
    Occurs (.postCompletion taskId data now) (before.withDatabase
      (ControlPlane.postCompletion runtime.python before.plane.database taskId data now).2)

variable {runtime before}

theorem step_occurs {event : Event ι} {after : Deployment ι} (h : step runtime event before = some after) :
    Occurs runtime before event after := by
  cases event with
  | start i options nowIso now =>
    simp only [step] at h
    split at h
    · split at h
      · rename_i hregister
        cases h
        exact .refused i options nowIso now hregister
      · rename_i hregister
        exact .started hregister h
    · cases h
  | heartbeat i now =>
    simp only [step] at h
    split at h
    · rename_i hkept
      cases h
      exact .beaten now hkept
    · cases h
  | work i statement =>
    cases statement with
    | register => cases h
    | _ => exact .worked nofun h
  | writeBack i now =>
    obtain ⟨released, hrelease, hfinish⟩ := Option.bind_eq_some_iff.mp h
    exact .writtenBack hrelease hfinish
  | offline i nowIso now =>
    simp only [step] at h
    split at h
    · rename_i hkept
      exact .ended hkept h
    · cases h
  | postAgent request =>
    cases h
    exact .agentPosted request
  | postHeartbeat heartbeat =>
    cases h
    exact .heartbeatPosted heartbeat
  | postClaim request generated now =>
    cases h
    exact .claimPosted request generated now
  | postCompletion taskId data now =>
    cases h
    exact .completionPosted taskId data now

end Deployment

end Events

section Statements

def cancels (database : Database) : Statement → Phase → Option ExecutionTaskRecord
  | .cancelBlocked _, .culling ((task, status) :: _) =>
    if dependencyFailed database task ∨ operationTerminal status then some task else none
  | .cancelPending _, .cancelling _ (task :: _) _ => some task
  | _, _ => none

/-- The lease an agent works under and the task it is of. -/
def Phase.bound : Phase → Option (String × String)
  | .assigned assignment | .executed assignment _ | .released assignment _ =>
    some (assignment.lease.leaseId, assignment.task.taskId)
  | .reconciling _ next | .refreshed _ next | .gathered _ _ next | .projected _ next
  | .cancelling _ _ next => next.bound
  | .stopped | .idle | .sweeping _ | .admitted | .culling _ => none

variable {runtime : OperationRuntime} {database reached : Database} {agent : ExecutorAgentRecord}
  {statement : Statement} {phase next : Phase}

theorem get?_saveTask (database : Database) (task : ExecutionTaskRecord) (taskId : String) :
    (database.saveTask task).tasks.get? taskId =
      if taskId = task.taskId then (database.tasks.get? task.taskId).map fun row =>
        { row with status := task.status, payload := task.payload, updatedAt := task.updatedAt }
      else database.tasks.get? taskId := by
  simp only [Database.saveTask, Table.get?_update]

theorem get?_saveAssignedTask (database : Database) (task : ExecutionTaskRecord) (taskId : String) :
    (database.saveAssignedTask task).tasks.get? taskId =
      if taskId = task.taskId then (database.tasks.get? task.taskId).map fun row =>
        { row with
          status := task.status, assignedAgent := task.assignedAgent, payload := task.payload
          updatedAt := task.updatedAt }
      else database.tasks.get? taskId := by
  simp only [Database.saveAssignedTask, Table.get?_update]

theorem saved_eq {task row : ExecutionTaskRecord} (htasks : reached.tasks = (database.saveTask task).tasks)
    (h : reached.tasks.get? task.taskId = some row) :
    row.status = task.status ∧ row.payload = task.payload := by
  rw [htasks, get?_saveTask, if_pos rfl] at h
  obtain ⟨stored, -, rfl⟩ := Option.map_eq_some_iff.mp h
  exact ⟨rfl, rfl⟩

theorem assigned_eq {task row : ExecutionTaskRecord}
    (htasks : reached.tasks = (database.saveAssignedTask task).tasks)
    (h : reached.tasks.get? task.taskId = some row) :
    row.status = task.status ∧ row.payload = task.payload := by
  rw [htasks, get?_saveAssignedTask, if_pos rfl] at h
  obtain ⟨stored, -, rfl⟩ := Option.map_eq_some_iff.mp h
  exact ⟨rfl, rfl⟩

theorem claim_claimed_task {python : Python} {locked : List String} {now : Int} {random nonce : String}
    {assignment : Assignment}
    (h : claim database agent python locked now random nonce = .ok (some (reached, assignment))) :
    ∃ task, task.status = .queued ∧ assignment.task = runningTask agent python task now ∧
      Claimed database task assignment.lease assignment.task reached := by
  obtain ⟨task, timeoutSeconds, hstored, hqueued, -, -, hfresh, rfl, rfl⟩ := claim_eq_some h
  exact ⟨task, hqueued, rfl, hstored, hfresh, rfl, rfl, rfl, rfl, rfl⟩

inductive Acts (python : Python) (statement : Statement) (database : Database) (phase : Phase)
    (reached : Database) (next : Phase) : Prop where
  | quiet (htasks : reached.tasks = database.tasks) (hleases : reached.leases = database.leases)
      (hbound : next.bound = phase.bound ∨ next.bound = none)
  | swept {locked affected : List String} {now : Int}
      (hexpire : expireStaleLeases python database locked now = .ok (reached, affected))
      (hbound : next.bound = none)
  | cancelled {task : ExecutionTaskRecord} (now : Int) (reason : String)
      (hcancels : cancels database statement phase = some task)
      (hreached : reached = database.saveTask (cancelledTask python task now reason))
      (hbound : next.bound = phase.bound ∨ next.bound = none)
  | claimed {task running : ExecutionTaskRecord} {lease : TaskLeaseRecord}
      (hqueued : task.status = .queued) (hrunning : running.status = .running)
      (hextra : running.payload.extra = task.payload.extra)
      (hclaimed : Claimed database task lease running reached)
      (hbound : next.bound = some (lease.leaseId, task.taskId))
  | released {assignment : Assignment} {success : Bool} {now : Int}
      (hphase : phase = .executed assignment success) (hstatement : statement = .releaseLease now)
      (hreached : reached =
        database.saveLease { assignment.lease with status := .released, heartbeatAt := now })
      (hnext : next = .released
        { assignment with lease := { assignment.lease with status := .released, heartbeatAt := now } }
        success)
  | finished {assignment : Assignment} {success : Bool} {now : Int}
      (hphase : phase = .released assignment success) (hstatement : statement = .finishTask now)
      (hreached : reached = database.saveTask (finishedTask python assignment success now))
      (hbound : next.bound = none)

theorem cancelIfBlocked_acts {task : ExecutionTaskRecord} {status : Option OperationStatus} {now : Int}
    {rest : List (ExecutionTaskRecord × Option OperationStatus)} :
    Acts runtime.python (.cancelBlocked now) database (.culling ((task, status) :: rest))
      (cancelIfBlocked runtime.python database task status now) (.culling rest) := by
  unfold cancelIfBlocked
  split
  · rename_i hfailed
    exact .cancelled now _ (if_pos (.inl hfailed)) rfl (.inr rfl)
  · split
    · rename_i hterminal
      exact .cancelled now _ (if_pos (.inr hterminal)) rfl (.inr rfl)
    · exact .quiet rfl rfl (.inr rfl)

theorem run_acts (h : statement.run runtime database agent phase = some (reached, next)) :
    Acts runtime.python statement database phase reached next := by
  unfold Statement.run at h
  split at h
  · -- expireStaleLeases
    split at h
    · rename_i hexpire
      cases h
      exact .swept hexpire rfl
    · cases h
      exact .quiet rfl rfl (.inr rfl)
  · -- nextAffected
    split at h
    · cases h
      exact .quiet rfl rfl (.inr rfl)
    · cases h
  · -- countLeases
    cases h
    refine .quiet rfl rfl (.inr ?_)
    split <;> rfl
  · -- listQueued
    cases h
    exact .quiet rfl rfl (.inr rfl)
  · -- cancelBlocked
    cases h
    exact cancelIfBlocked_acts
  · -- claim
    split at h
    · rename_i hclaim
      cases h
      obtain ⟨task, hqueued, hassigned, hclaimed⟩ := claim_claimed_task hclaim
      refine .claimed hqueued (by rw [hassigned]; rfl) (by rw [hassigned]; rfl) hclaimed ?_
      rw [Phase.bound, Phase.bound, hclaimed.same]
    · cases h
      exact .quiet rfl rfl (.inr rfl)
    · cases h
      exact .quiet rfl rfl (.inr rfl)
  · -- execute
    rename_i answer nowIso now assignment
    obtain ⟨row, executed, success, heq, -, -, hlease, htask⟩ :=
      executeTask_cases assignment answer nowIso now
    rw [heq] at h
    cases h
    exact .quiet rfl rfl (.inl (by rw [Phase.bound, Phase.bound, hlease, htask]))
  · -- releaseLease
    cases h
    exact .released rfl rfl rfl rfl
  · -- finishTask
    cases h
    exact .finished rfl rfl rfl rfl
  · -- refreshOperation
    split at h
    · cases h
      exact .quiet rfl rfl (.inr rfl)
    · split at h
      · cases h
        exact .quiet rfl rfl (.inl rfl)
      · cases h
        exact .quiet rfl rfl (.inr rfl)
  · -- readReceipts
    cases h
    exact .quiet rfl rfl (.inl rfl)
  · -- reconcile
    dsimp only at h
    split at h
    · cases h
      exact .quiet rfl rfl (.inl rfl)
    · cases h
      exact .quiet rfl rfl (.inr rfl)
  · -- listPending
    cases h
    exact .quiet rfl rfl (.inl rfl)
  · -- cancelPending
    cases h
    exact .cancelled _ _ rfl rfl (.inl rfl)
  · -- persist
    split at h
    · rename_i hpersist
      cases h
      obtain ⟨htasks, hleases⟩ := persistOperation_rows hpersist
      exact .quiet htasks hleases (.inl rfl)
    · cases h
      exact .quiet rfl rfl (.inr rfl)
  · -- stop
    cases h
    exact .quiet rfl rfl (.inr rfl)
  · cases h

end Statements

section Performing

namespace Deployment

variable [DecidableEq ι] {runtime : OperationRuntime} {before after : Deployment ι}

theorem perform_cases {i : ι} {statement : Statement}
    (h : before.perform runtime i statement = some after) :
    (∃ agent, statement = .register agent ∧ after.plane = { before.plane with
      processes := Function.update before.plane.processes i ⟨agent, .idle⟩ }) ∨
    ∃ database next, Acts runtime.python statement before.plane.database
        (before.plane.processes i).phase database next ∧
      after.plane = ⟨database, Function.update before.plane.processes i
        ⟨(before.plane.processes i).agent, next⟩⟩ := by
  obtain ⟨plane, hstep, rfl⟩ := Option.map_eq_some_iff.mp h
  rcases step_cases hstep with ⟨agent, hregister, hplane⟩ | ⟨database, next, hrun, hplane⟩
  · exact .inl ⟨agent, hregister, hplane⟩
  · exact .inr ⟨database, next, run_acts hrun, hplane⟩

theorem writeBack_cases {i : ι} {now : Int} {released : Deployment ι}
    (hrelease : before.perform runtime i (.releaseLease now) = some released)
    (hfinish : released.perform runtime i (.finishTask now) = some after) :
    ∃ assignment success, (before.plane.processes i).phase = .executed assignment success ∧
      after.plane.database =
        (before.plane.database.saveLease (releasedAt now assignment.lease)).saveTask
          (finishedTask runtime.python { assignment with lease := releasedAt now assignment.lease }
            success now) := by
  obtain ⟨middle, hmiddle, rfl⟩ := Option.map_eq_some_iff.mp hrelease
  obtain ⟨last, hlast, rfl⟩ := Option.map_eq_some_iff.mp hfinish
  unfold ControlPlane.step at hmiddle hlast
  dsimp only at hmiddle hlast
  obtain ⟨⟨database, next⟩, hrun, rfl⟩ := Option.map_eq_some_iff.mp hmiddle
  obtain ⟨⟨final, ending⟩, hend, rfl⟩ := Option.map_eq_some_iff.mp hlast
  dsimp only at hend
  rw [Function.update_self] at hend
  cases hphase : (before.plane.processes i).phase with
  | executed assignment success =>
    rw [hphase] at hrun
    cases hrun
    cases hend
    exact ⟨assignment, success, rfl, rfl⟩
  | _ =>
    rw [hphase] at hrun
    cases hrun

end Deployment

end Performing

end KubeOps.ControlPlane
