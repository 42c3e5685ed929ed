import KubeOps.Distributed.Dispatcher
import KubeOps.Foundation.Leasing

/-! The leases and tasks of the dispatcher as an exclusive leasing: every call
acts on it as a run of acquisitions and releases. -/
namespace KubeOps.Distributed

open KubeOps.Foundation KubeOps.Models

namespace DistributedDispatcher

variable {python : Python} {dispatcher reached : DistributedDispatcher}

section Abstraction

def grant (lease : TaskLease) : Option (String × Option String) :=
  if lease.status = .active then some (lease.taskId, some lease.agentId) else none

def occupant (task : ExecutionTask) : Option (Option String) :=
  if task.status = .leased then some task.assignedAgentId else none

def leasing (dispatcher : DistributedDispatcher) : Leasing String String (Option String) where
  holds leaseId := (dispatcher.leases.get? leaseId).bind grant
  tenant taskId := (dispatcher.tasks.get? taskId).bind occupant

def Keyed (tasks : Dict String ExecutionTask) : Prop :=
  ∀ taskId task, tasks.get? taskId = some task → task.taskId = taskId

theorem Keyed.set {tasks : Dict String ExecutionTask} {taskId : String} {task : ExecutionTask}
    (h : Keyed tasks) (hkey : task.taskId = taskId) : Keyed (tasks.set taskId task) := by
  intro other found hfound
  rw [Dict.get?_set] at hfound
  split at hfound
  · cases hfound
    rw [hkey, ‹other = taskId›]
  · exact h _ _ hfound

private theorem bind_get?_set {ν β : Type} (dict : Dict String ν) (key : String) (value : ν)
    (view : ν → Option β) : (fun other => ((dict.set key value).get? other).bind view) =
      Function.update (fun other => (dict.get? other).bind view) key (view value) := by
  funext other
  by_cases h : other = key <;> simp [Dict.get?_set, h]

theorem leasing_setLease (leaseId : String) (lease : TaskLease) :
    leasing { dispatcher with leases := dispatcher.leases.set leaseId lease } =
      { dispatcher.leasing with
        holds := Function.update dispatcher.leasing.holds leaseId (grant lease) } := by
  simp only [leasing, bind_get?_set]

theorem leasing_setTask (taskId : String) (task : ExecutionTask) :
    leasing { dispatcher with tasks := dispatcher.tasks.set taskId task } =
      { dispatcher.leasing with
        tenant := Function.update dispatcher.leasing.tenant taskId (occupant task) } := by
  simp only [leasing, bind_get?_set]

theorem holds_of_active {leaseId : String} {lease : TaskLease}
    (hlease : dispatcher.leases.get? leaseId = some lease) (hactive : lease.status = .active) :
    dispatcher.leasing.holds leaseId = some (lease.taskId, some lease.agentId) := by
  simp [leasing, hlease, grant, hactive]

theorem holds_eq_some {leaseId taskId : String} {holder : Option String} :
    dispatcher.leasing.holds leaseId = some (taskId, holder) ↔
      ∃ lease, dispatcher.leases.get? leaseId = some lease ∧ lease.status = .active ∧
        lease.taskId = taskId ∧ some lease.agentId = holder := by
  simp [leasing, grant, Option.bind_eq_some_iff]

theorem tenant_eq_some {taskId : String} {holder : Option String} :
    dispatcher.leasing.tenant taskId = some holder ↔
      ∃ task, dispatcher.tasks.get? taskId = some task ∧ task.status = .leased ∧
        task.assignedAgentId = holder := by
  simp [leasing, occupant, Option.bind_eq_some_iff]

end Abstraction

section Simulation

/-- Tasks are stored under their own ids, and the leasing is exclusive. -/
structure Consistent (dispatcher : DistributedDispatcher) : Prop where
  keyed : Keyed dispatcher.tasks
  exclusive : dispatcher.leasing.Exclusive

/-- What a call does to a consistent dispatcher: its leasing takes steps. -/
structure Simulates (dispatcher reached : DistributedDispatcher) : Prop where
  keyed : Keyed reached.tasks
  steps : Relation.ReflTransGen Leasing.Step dispatcher.leasing reached.leasing

theorem Simulates.consistent (h : Simulates dispatcher reached) (hstart : Consistent dispatcher) :
    Consistent reached :=
  ⟨h.keyed, hstart.exclusive.steps h.steps⟩

theorem Simulates.trans {final : DistributedDispatcher} (h : Simulates dispatcher reached)
    (hrest : Simulates reached final) : Simulates dispatcher final :=
  ⟨hrest.keyed, h.steps.trans hrest.steps⟩

theorem Simulates.idle (hkeyed : Keyed reached.tasks)
    (hleasing : reached.leasing = dispatcher.leasing) : Simulates dispatcher reached :=
  ⟨hkeyed, hleasing ▸ .refl⟩

theorem Consistent.refl (h : Consistent dispatcher) : Simulates dispatcher dispatcher :=
  .idle h.keyed rfl

theorem Consistent.setTask (h : Consistent dispatcher) {taskId : String} {task : ExecutionTask}
    (hkey : task.taskId = taskId) (hvacant : dispatcher.leasing.tenant taskId = none)
    (hstatus : task.status ≠ .leased) :
    Simulates dispatcher { dispatcher with tasks := dispatcher.tasks.set taskId task } := by
  refine .idle (h.keyed.set hkey) ?_
  have hoccupant : occupant task = dispatcher.leasing.tenant taskId := by
    rw [hvacant, occupant, if_neg hstatus]
  rw [leasing_setTask, hoccupant, Function.update_eq_self]

theorem Consistent.setLease (h : Consistent dispatcher) {leaseId : String}
    {lease renewed : TaskLease} (hlease : dispatcher.leases.get? leaseId = some lease)
    (hgrant : grant renewed = grant lease) :
    Simulates dispatcher { dispatcher with leases := dispatcher.leases.set leaseId renewed } := by
  refine .idle h.keyed ?_
  have hholds : grant renewed = dispatcher.leasing.holds leaseId := by
    simp [hgrant, leasing, hlease]
  rw [leasing_setLease, hholds, Function.update_eq_self]

theorem Consistent.acquire (h : Consistent dispatcher) {taskId : String} (agentId : String)
    {task : ExecutionTask} {lease : TaskLease} (hkey : task.taskId = taskId)
    (hleaseKey : lease.leaseId ∉ dispatcher.leases.keys)
    (hvacant : dispatcher.leasing.tenant taskId = none)
    (hgrant : grant lease = some (taskId, some agentId))
    (hoccupant : occupant task = some (some agentId)) :
    Simulates dispatcher { dispatcher with
      leases := dispatcher.leases.set lease.leaseId lease
      tasks := dispatcher.tasks.set taskId task } := by
  refine ⟨h.keyed.set hkey, .single ?_⟩
  have hfree : dispatcher.leasing.holds lease.leaseId = none := by
    simp [leasing, Dict.get?_eq_none.mpr hleaseKey]
  have hleasing : leasing { dispatcher with
      leases := dispatcher.leases.set lease.leaseId lease
      tasks := dispatcher.tasks.set taskId task } =
        dispatcher.leasing.acquire lease.leaseId taskId (some agentId) := by
    simp only [leasing, bind_get?_set, hgrant, hoccupant, Leasing.acquire]
  rw [hleasing]
  exact .acquire (some agentId) hfree hvacant

theorem Consistent.task_of_active (h : Consistent dispatcher) {leaseId : String}
    {lease : TaskLease} (hlease : dispatcher.leases.get? leaseId = some lease)
    (hactive : lease.status = .active) :
    ∃ task, dispatcher.tasks.get? lease.taskId = some task ∧ task.status = .leased ∧
      task.assignedAgentId = some lease.agentId :=
  tenant_eq_some.mp (h.exclusive.recorded (holds_of_active hlease hactive))

theorem Consistent.release (h : Consistent dispatcher) {leaseId : String}
    {lease ended : TaskLease} {task : ExecutionTask}
    (hlease : dispatcher.leases.get? leaseId = some lease) (hactive : lease.status = .active)
    (hended : ended.status ≠ .active) (hkey : task.taskId = lease.taskId)
    (hstatus : task.status ≠ .leased) :
    Simulates dispatcher { dispatcher with
      leases := dispatcher.leases.set leaseId ended
      tasks := dispatcher.tasks.set task.taskId task } := by
  refine ⟨h.keyed.set rfl, .single ?_⟩
  have hleasing : leasing { dispatcher with
      leases := dispatcher.leases.set leaseId ended
      tasks := dispatcher.tasks.set task.taskId task } =
        dispatcher.leasing.release leaseId lease.taskId := by
    simp only [leasing, bind_get?_set, grant, if_neg hended, occupant, if_neg hstatus, hkey,
      Leasing.release]
  rw [hleasing]
  exact .release (holds_of_active hlease hactive)

end Simulation

end DistributedDispatcher

end KubeOps.Distributed
