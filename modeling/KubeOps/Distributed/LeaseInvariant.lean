import KubeOps.Distributed.Leases

/-! The lease invariant of the dispatcher: whatever the order of the calls and
the instants they are made at, a task is leased exactly when one active lease
names it. -/
namespace KubeOps.Distributed

open KubeOps.Foundation KubeOps.Models

namespace DistributedDispatcher

variable {python : Python} {dispatcher : DistributedDispatcher}

section Calls

theorem registerAgent_simulates (h : Consistent dispatcher) (agent : ExecutorAgentDefinition) :
    Simulates dispatcher (dispatcher.registerAgent python agent).2 := by
  unfold registerAgent registerAgent.store
  split
  · split
    · exact h.refl
    · exact .idle h.keyed rfl
  · exact .idle h.keyed rfl

theorem heartbeat_simulates (h : Consistent dispatcher) (beat : ExecutorHeartbeat) :
    Simulates dispatcher (dispatcher.heartbeat python beat).2 := by
  unfold DistributedDispatcher.heartbeat
  split
  · exact h.refl
  · exact .idle h.keyed rfl

theorem enqueue_simulates (h : Consistent dispatcher) {task : ExecutionTask}
    (hqueued : task.status = .queued) : Simulates dispatcher (dispatcher.enqueue python task).2 := by
  unfold enqueue
  split
  · split
    · exact h.refl
    · exact h.refl
  · rename_i hnone
    refine h.setTask rfl ?_ ?_
    · simp [leasing, hnone]
    · simp [hqueued]

theorem dispatch_simulates (h : Consistent dispatcher) {generated : Generated}
    (hfresh : generated.leaseId ∉ dispatcher.leases.keys) (taskId : String) (now : Int) :
    Simulates dispatcher (dispatcher.dispatch python generated taskId now).2 := by
  unfold dispatch
  cases htask : dispatcher.tasks.get? taskId with
  | none => exact h.refl
  | some task =>
    have hkey := h.keyed _ _ htask
    simp only
    split
    · exact h.refl
    · rename_i hstatus
      have hqueued : task.status = .queued := not_ne_iff.mp hstatus
      have hvacant : dispatcher.leasing.tenant taskId = none := by
        simp [leasing, htask, occupant, hqueued]
      split
      · exact h.refl
      · split
        · exact h.refl
        · split
          · exact h.refl
          · split
            · exact h.setTask hkey hvacant (by simp [marked])
            · split
              · exact h.refl
              · exact h.refl
              · rename_i agent others _
                exact h.acquire agent.agentId hkey hfresh hvacant rfl rfl

/-- What the loop of `expire` still has to visit is as it was when the loop began: what each lease that is
due brings about, the loop brings about. -/
theorem expireEach_rule {inv : DistributedDispatcher → Prop}
    {along : DistributedDispatcher → DistributedDispatcher → Prop} {now : Int}
    (hrefl : ∀ dispatcher, inv dispatcher → along dispatcher dispatcher)
    (hstep : ∀ (dispatcher : DistributedDispatcher) (leaseId : String) (lease : TaskLease), inv dispatcher →
      dispatcher.leases.get? leaseId = some lease → lease.status = .active → lease.expiresAt ≤ now →
      ∃ task, dispatcher.tasks.get? lease.taskId = some task ∧
        let next := { dispatcher with
          leases := dispatcher.leases.set leaseId (expireLease lease)
          tasks := dispatcher.tasks.set task.taskId (requeued task (python.isoFormat now)) }
        inv next ∧ ∀ reached, along next reached → along dispatcher reached)
    {remaining : List (String × TaskLease)} (h : inv dispatcher) (expired : List String)
    (hnodup : (remaining.map Prod.fst).Nodup)
    (hcurrent : ∀ entry ∈ remaining, dispatcher.leases.get? entry.1 = some entry.2) :
    ∃ ids reached, expireEach python now remaining expired dispatcher = (.ok ids, reached) ∧
      along dispatcher reached := by
  induction remaining generalizing dispatcher expired with
  | nil => exact ⟨expired, dispatcher, rfl, hrefl dispatcher h⟩
  | cons entry remaining ih =>
    obtain ⟨leaseId, lease⟩ := entry
    rw [List.map_cons, List.nodup_cons] at hnodup
    have hlease : dispatcher.leases.get? leaseId = some lease := hcurrent (leaseId, lease) (by simp)
    have hrest : ∀ entry ∈ remaining, dispatcher.leases.get? entry.1 = some entry.2 :=
      fun entry hmem => hcurrent entry (List.mem_cons_of_mem _ hmem)
    unfold expireEach
    split
    · rename_i hdue
      obtain ⟨task, htask, hnext, halong⟩ := hstep dispatcher leaseId lease h hlease hdue.1 hdue.2
      simp only [htask]
      obtain ⟨ids, reached, hreached, hlater⟩ :=
        ih hnext (expired ++ [leaseId]) hnodup.2 fun entry hmem => by
          have hne : entry.1 ≠ leaseId := by
            intro heq
            have hkey := List.mem_map_of_mem (f := Prod.fst) hmem
            rw [heq] at hkey
            exact hnodup.1 hkey
          simp only [Dict.get?_set_ne _ _ hne, hrest entry hmem]
      exact ⟨ids, reached, hreached, halong reached hlater⟩
    · exact ih h expired hnodup.2 hrest

variable (python) in
theorem expire_simulates (h : Consistent dispatcher) (now : Int) :
    Simulates dispatcher (dispatcher.expire python now).2 := by
  have hswept : ∃ ids reached, dispatcher.expire python now = (.ok ids, reached) ∧
      Simulates dispatcher reached := by
    apply expireEach_rule (fun _ h => h.refl) ?_ h [] dispatcher.leases.nodup
    · exact fun _ hmem => Dict.get?_eq_some.mpr hmem
    intro dispatcher leaseId lease h hlease hactive _
    obtain ⟨task, htask, -, -⟩ := h.task_of_active hlease hactive
    have hkey := h.keyed _ _ htask
    have hended : (expireLease lease).status ≠ .active := by simp [expireLease]
    have hsame : (requeued task (python.isoFormat now)).taskId = lease.taskId := hkey
    have hstep : Simulates dispatcher { dispatcher with
        leases := dispatcher.leases.set leaseId (expireLease lease)
        tasks := dispatcher.tasks.set task.taskId (requeued task (python.isoFormat now)) } := by
      refine h.release hlease hactive hended hsame ?_
      simp only [requeued]
      split <;> simp
    exact ⟨task, htask, hstep.consistent h, fun _ => hstep.trans⟩
  obtain ⟨ids, reached, hreached, hsimulates⟩ := hswept
  rw [hreached]
  exact hsimulates

variable (python) in
theorem activeLease_cases (h : Consistent dispatcher) (leaseId nonce : String) (now : Int) :
    (∃ error reached, dispatcher.activeLease python leaseId nonce now = (.error error, reached) ∧
        Simulates dispatcher reached) ∨
      ∃ lease, dispatcher.activeLease python leaseId nonce now = (.ok lease, dispatcher) ∧
        dispatcher.leases.get? leaseId = some lease ∧ lease.status = .active := by
  unfold activeLease
  cases hlease : dispatcher.leases.get? leaseId with
  | none => exact .inl ⟨_, _, rfl, h.refl⟩
  | some lease =>
    simp only
    split
    · exact .inl ⟨_, _, rfl, h.refl⟩
    · rename_i hactive
      rw [not_or, not_ne_iff, not_ne_iff] at hactive
      split
      · have hexpire := expire_simulates python h now
        cases hreached : dispatcher.expire python now with
        | mk answer reached =>
          rw [hreached] at hexpire
          cases answer with
          | ok expired => exact .inl ⟨_, _, rfl, hexpire⟩
          | error error => exact .inl ⟨_, _, rfl, hexpire⟩
      · exact .inr ⟨lease, rfl, rfl, hactive.2⟩

theorem renew_simulates (h : Consistent dispatcher) (leaseId nonce : String) (now : Int) :
    Simulates dispatcher (dispatcher.renew python leaseId nonce now).2 := by
  unfold renew
  rcases activeLease_cases python h leaseId nonce now with
    ⟨error, reached, hfound, hreached⟩ | ⟨lease, hfound, hlease, hactive⟩
  · rw [hfound]
    exact hreached
  · rw [hfound]
    simp only
    split
    · exact h.refl
    · exact h.setLease hlease (by simp [grant, hactive])

theorem complete_simulates (h : Consistent dispatcher) (leaseId nonce : String) (success : Bool)
    (now : Int) : Simulates dispatcher (dispatcher.complete python leaseId nonce success now).2 := by
  unfold complete
  rcases activeLease_cases python h leaseId nonce now with
    ⟨error, reached, hfound, hreached⟩ | ⟨lease, hfound, hlease, hactive⟩
  · rw [hfound]
    exact hreached
  · obtain ⟨task, htask, -, -⟩ := h.task_of_active hlease hactive
    have hkey := h.keyed _ _ htask
    rw [hfound]
    simp only [htask]
    refine h.release hlease hactive (by simp) hkey ?_
    cases success <;> simp [marked]

end Calls

section Reachable

inductive Call where
  | registerAgent (agent : ExecutorAgentDefinition)
  | heartbeat (beat : ExecutorHeartbeat)
  | enqueue (task : ExecutionTask)
  | dispatch (generated : Generated) (taskId : String) (now : Int)
  | renew (leaseId nonce : String) (now : Int)
  | complete (leaseId nonce : String) (success : Bool) (now : Int)
  | expire (now : Int)

variable (python dispatcher) in
def perform : Call → DistributedDispatcher
  | .registerAgent agent => (dispatcher.registerAgent python agent).2
  | .heartbeat beat => (dispatcher.heartbeat python beat).2
  | .enqueue task => (dispatcher.enqueue python task).2
  | .dispatch generated taskId now => (dispatcher.dispatch python generated taskId now).2
  | .renew leaseId nonce now => (dispatcher.renew python leaseId nonce now).2
  | .complete leaseId nonce success now =>
    (dispatcher.complete python leaseId nonce success now).2
  | .expire now => (dispatcher.expire python now).2

variable (dispatcher) in
/-- Tasks are enqueued as queued, and the lease ids drawn are fresh. -/
def Admissible : Call → Prop
  | .enqueue task => task.status = .queued
  | .dispatch generated _ _ => generated.leaseId ∉ dispatcher.leases.keys
  | _ => True

variable (python) in
inductive Reachable : DistributedDispatcher → Prop where
  | empty : Reachable .empty
  | call {dispatcher : DistributedDispatcher} (call : Call) (h : Reachable dispatcher)
      (hcall : Admissible dispatcher call) : Reachable (perform python dispatcher call)

theorem perform_simulates {call : Call} (h : Consistent dispatcher)
    (hcall : Admissible dispatcher call) : Simulates dispatcher (perform python dispatcher call) := by
  cases call with
  | registerAgent agent => exact registerAgent_simulates h agent
  | heartbeat beat => exact heartbeat_simulates h beat
  | enqueue task => exact enqueue_simulates h hcall
  | dispatch generated taskId now => exact dispatch_simulates h hcall taskId now
  | renew leaseId nonce now => exact renew_simulates h leaseId nonce now
  | complete leaseId nonce success now => exact complete_simulates h leaseId nonce success now
  | expire now => exact expire_simulates python h now

theorem Consistent.empty : Consistent .empty where
  keyed := by
    intro taskId task htask
    cases htask
  exclusive := Leasing.Exclusive.vacant

theorem Reachable.consistent (h : Reachable python dispatcher) : Consistent dispatcher := by
  induction h with
  | empty => exact .empty
  | call call h hcall ih => exact (perform_simulates ih hcall).consistent ih

end Reachable

section Invariant

def activeLeases (dispatcher : DistributedDispatcher) (taskId : String) : List TaskLease :=
  dispatcher.leases.values.filter fun lease => lease.status = .active ∧ lease.taskId = taskId

theorem mem_activeLeases {taskId : String} {lease : TaskLease} :
    lease ∈ dispatcher.activeLeases taskId ↔
      ∃ leaseId, dispatcher.leases.get? leaseId = some lease ∧ lease.status = .active ∧
        lease.taskId = taskId := by
  simp [activeLeases, Dict.mem_values_iff]

theorem Consistent.length_activeLeases_le (h : Consistent dispatcher) (taskId : String) :
    (dispatcher.activeLeases taskId).length ≤ 1 := by
  refine Dict.length_filter_values_le_one fun left first right second hleft hright hfirst hsecond => ?_
  simp only [decide_eq_true_eq] at hfirst hsecond
  exact h.exclusive.unique (holds_eq_some.mpr ⟨first, hleft, hfirst.1, hfirst.2, rfl⟩)
    (holds_eq_some.mpr ⟨second, hright, hsecond.1, hsecond.2, rfl⟩)

theorem Consistent.leased_of_mem_activeLeases (h : Consistent dispatcher) {taskId : String}
    {task : ExecutionTask} {lease : TaskLease} (htask : dispatcher.tasks.get? taskId = some task)
    (hlease : lease ∈ dispatcher.activeLeases taskId) :
    task.status = .leased ∧ task.assignedAgentId = some lease.agentId := by
  obtain ⟨leaseId, hfound, hactive, rfl⟩ := mem_activeLeases.mp hlease
  obtain ⟨stored, hstored, hstatus⟩ := h.task_of_active hfound hactive
  rw [htask] at hstored
  cases hstored
  exact hstatus

theorem Consistent.activeLeases_ne_nil (h : Consistent dispatcher) {taskId : String}
    {task : ExecutionTask} (htask : dispatcher.tasks.get? taskId = some task)
    (hstatus : task.status = .leased) : dispatcher.activeLeases taskId ≠ [] := by
  obtain ⟨leaseId, hholds⟩ := h.exclusive.held (tenant_eq_some.mpr ⟨task, htask, hstatus, rfl⟩)
  obtain ⟨lease, hlease, hactive, hnames, -⟩ := holds_eq_some.mp hholds
  exact List.ne_nil_of_mem (mem_activeLeases.mpr ⟨leaseId, hlease, hactive, hnames⟩)

/-- A task is leased exactly when one active lease names it, that lease is its
agent's, and no task has two. -/
theorem Reachable.leaseInvariant (h : Reachable python dispatcher) :
    (∀ taskId task, dispatcher.tasks.get? taskId = some task →
      (task.status = .leased ↔ (dispatcher.activeLeases taskId).length = 1) ∧
      ∀ lease ∈ dispatcher.activeLeases taskId, task.assignedAgentId = some lease.agentId) ∧
    ∀ taskId, (dispatcher.activeLeases taskId).length ≤ 1 := by
  have hconsistent := h.consistent
  refine ⟨fun taskId task htask => ⟨⟨fun hstatus => ?_, fun hone => ?_⟩, fun lease hlease => ?_⟩,
    hconsistent.length_activeLeases_le⟩
  · have hle := hconsistent.length_activeLeases_le taskId
    have hpos := List.length_pos_of_ne_nil (hconsistent.activeLeases_ne_nil htask hstatus)
    omega
  · obtain ⟨lease, hlease⟩ := List.length_eq_one_iff.mp hone
    have hmem : lease ∈ dispatcher.activeLeases taskId := by simp [hlease]
    exact (hconsistent.leased_of_mem_activeLeases htask hmem).1
  · exact (hconsistent.leased_of_mem_activeLeases htask hlease).2

def executor : ExecutorAgentDefinition where
  agentId := "agent:a"
  organizationId := "org"
  workspaceId := "workspace"
  status := .online
  supportedExecutorIds := ["docker"]

def restart : ExecutionTask where
  taskId := "task:1"
  organizationId := "org"
  workspaceId := "workspace"
  environmentId := "environment"
  executorId := "docker"
  maxAttempts := 3
  payloadHash := "hash"
  updatedAtIso := "t"

/-- The dispatcher once the only task is leased to the only agent. -/
def dispatched : DistributedDispatcher :=
  [.registerAgent executor, .enqueue restart, .dispatch ⟨"1", "1", "1"⟩ "task:1" 0].foldl
    (perform .plain) .empty

theorem dispatched_leaseInvariant : ∃ lease, dispatched.activeLeases "task:1" = [lease] ∧
    lease.agentId = "agent:a" := by
  have hreachable : Reachable .plain dispatched := by
    refine .call (.dispatch ⟨"1", "1", "1"⟩ "task:1" 0) (.call (.enqueue restart)
      (.call (.registerAgent executor) .empty trivial) rfl) ?_
    change _ ∉ _
    decide
  have hleased : (dispatched.tasks.get? "task:1").map
      (fun task => (task.status, task.assignedAgentId)) = some (.leased, some "agent:a") := by
    decide
  obtain ⟨task, htask, hfields⟩ := Option.map_eq_some_iff.mp hleased
  obtain ⟨hstatus, hagent⟩ := Prod.mk.inj hfields
  obtain ⟨hiff, hagrees⟩ := (Reachable.leaseInvariant hreachable).1 "task:1" task htask
  obtain ⟨lease, hlease⟩ := List.length_eq_one_iff.mp (hiff.mp hstatus)
  have hsame := hagrees lease (by simp [hlease])
  rw [hagent] at hsame
  exact ⟨lease, hlease, (Option.some.inj hsame).symm⟩

end Invariant

end DistributedDispatcher

end KubeOps.Distributed
