import KubeOps.Distributed.LeaseInvariant
import KubeOps.Foundation.Interleaving
import KubeOps.Foundation.Program

/-! What the calls of the dispatcher change, from any tasks and lease ids. A
call makes a sequence of changes, and a change that grants a lease hands it out. -/
namespace KubeOps.Distributed

open KubeOps.Foundation KubeOps.Models

namespace DistributedDispatcher

variable {python : Python} {now : Int} {dispatcher reached : DistributedDispatcher}

section Sound

/-- Agents and tasks are stored under their own ids, every lease is of a stored
agent, and an active one alone leases its task. -/
structure Sound (dispatcher : DistributedDispatcher) : Prop where
  tasks : Keyed dispatcher.tasks
  agents : ∀ agentId agent, dispatcher.agents.get? agentId = some agent → agent.agentId = agentId
  employed : ∀ leaseId lease, dispatcher.leases.get? leaseId = some lease →
    ∃ agent, dispatcher.agents.get? lease.agentId = some agent
  leased : ∀ leaseId lease, dispatcher.leases.get? leaseId = some lease → lease.status = .active →
    ∃ task, dispatcher.tasks.get? lease.taskId = some task ∧ task.status = .leased
  alone : ∀ leaseId other lease found, dispatcher.leases.get? leaseId = some lease →
    dispatcher.leases.get? other = some found → lease.status = .active → found.status = .active →
    lease.taskId = found.taskId → leaseId = other

theorem Sound.empty : Sound .empty where
  tasks taskId task h := by cases h
  agents agentId agent h := by cases h
  employed leaseId lease h := by cases h
  leased leaseId lease h := by cases h
  alone leaseId other lease found h := by cases h

theorem Sound.setAgent (h : Sound dispatcher) (agent : ExecutorAgentDefinition) :
    Sound { dispatcher with agents := dispatcher.agents.set agent.agentId agent } where
  tasks := h.tasks
  agents agentId found hfound := by
    rw [Dict.get?_set] at hfound
    split at hfound
    · rename_i heq
      rw [heq, Option.some.inj hfound]
    · exact h.agents _ _ hfound
  employed leaseId lease hlease := by
    obtain ⟨found, hfound⟩ := h.employed leaseId lease hlease
    rw [Dict.get?_set]
    split
    · exact ⟨agent, rfl⟩
    · exact ⟨found, hfound⟩
  leased := h.leased
  alone := h.alone

theorem Sound.setTask (h : Sound dispatcher) {taskId : String} {task : ExecutionTask}
    (hkey : task.taskId = taskId)
    (hfree : ∀ stored, dispatcher.tasks.get? taskId = some stored → stored.status ≠ .leased) :
    Sound { dispatcher with tasks := dispatcher.tasks.set taskId task } where
  tasks := h.tasks.set hkey
  agents := h.agents
  employed := h.employed
  leased leaseId lease hlease hactive := by
    obtain ⟨stored, hstored, hstatus⟩ := h.leased leaseId lease hlease hactive
    rw [Dict.get?_set]
    split
    · rename_i heq
      rw [heq] at hstored
      exact absurd hstatus (hfree stored hstored)
    · exact ⟨stored, hstored, hstatus⟩
  alone := h.alone

theorem Sound.setLease (h : Sound dispatcher) {leaseId : String} {lease : TaskLease}
    (hagent : ∃ agent, dispatcher.agents.get? lease.agentId = some agent)
    (htask : lease.status = .active →
      ∃ task, dispatcher.tasks.get? lease.taskId = some task ∧ task.status = .leased)
    (halone : lease.status = .active → ∀ other found, dispatcher.leases.get? other = some found →
      found.status = .active → found.taskId = lease.taskId → other = leaseId) :
    Sound { dispatcher with leases := dispatcher.leases.set leaseId lease } where
  tasks := h.tasks
  agents := h.agents
  employed other found hfound := by
    rw [Dict.get?_set] at hfound
    split at hfound
    · cases hfound
      exact hagent
    · exact h.employed other found hfound
  leased other found hfound hactive := by
    rw [Dict.get?_set] at hfound
    split at hfound
    · cases hfound
      exact htask hactive
    · exact h.leased other found hfound hactive
  alone left right first second hfirst hsecond hleft hright hsame := by
    rw [Dict.get?_set] at hfirst hsecond
    split at hfirst
    · split at hsecond
      · rw [‹left = leaseId›, ‹right = leaseId›]
      · cases hfirst
        rw [‹left = leaseId›, halone hleft right second hsecond hright hsame.symm]
    · split at hsecond
      · cases hsecond
        rw [‹right = leaseId›, halone hright left first hfirst hleft hsame]
      · exact h.alone left right first second hfirst hsecond hleft hright hsame

end Sound

section Changes

variable (python now dispatcher) in
inductive Expires : DistributedDispatcher → Prop where
  | mk {leaseId : String} {lease : TaskLease} {task : ExecutionTask}
      (hlease : dispatcher.leases.get? leaseId = some lease) (hactive : lease.status = .active)
      (hdue : lease.expiresAt ≤ now) (htask : dispatcher.tasks.get? lease.taskId = some task) :
    Expires { dispatcher with
      leases := dispatcher.leases.set leaseId (expireLease lease)
      tasks := dispatcher.tasks.set task.taskId (requeued task (python.isoFormat now)) }

variable (python now dispatcher) in
inductive Change : Option TaskLease → DistributedDispatcher → Prop where
  | enqueued {task : ExecutionTask} (hnew : dispatcher.tasks.get? task.taskId = none) :
    Change none { dispatcher with tasks := dispatcher.tasks.set task.taskId task }
  | lapsed {taskId : String} {task : ExecutionTask}
      (htask : dispatcher.tasks.get? taskId = some task) (hqueued : task.status = .queued) :
    Change none { dispatcher with
      tasks := dispatcher.tasks.set taskId (marked task .expired (python.isoFormat now)) }
  | granted (generated : Generated) {taskId : String} {task : ExecutionTask}
      {agent : ExecutorAgentDefinition} (htask : dispatcher.tasks.get? taskId = some task)
      (hqueued : task.status = .queued) (hagent : agent ∈ dispatcher.agents.values)
      (hcompatible : compatible task agent = true)
      (hcapacity : dispatcher.activeCount agent.agentId now < agent.maxConcurrency) :
    Change (some (newLease python generated taskId agent now)) { dispatcher with
      leases := dispatcher.leases.set generated.leaseId (newLease python generated taskId agent now)
      tasks := dispatcher.tasks.set taskId (assigned task agent.agentId (python.isoFormat now)) }
  | expired {reached : DistributedDispatcher} (hexpires : Expires python now dispatcher reached) :
    Change none reached
  | renewed {leaseId : String} {lease : TaskLease} (ttlSeconds : Nat)
      (hlease : dispatcher.leases.get? leaseId = some lease) (hactive : lease.status = .active)
      (hlive : now < lease.expiresAt) :
    Change none { dispatcher with
      leases := dispatcher.leases.set leaseId { lease with
        heartbeatAtIso := python.isoFormat now
        expiresAt := now + ttlSeconds * 1000000 } }
  | completed {leaseId : String} {lease : TaskLease} {task : ExecutionTask} (success : Bool)
      (hlease : dispatcher.leases.get? leaseId = some lease) (hactive : lease.status = .active)
      (htask : dispatcher.tasks.get? lease.taskId = some task) :
    Change none { dispatcher with
      leases := dispatcher.leases.set leaseId { lease with
        status := .released
        heartbeatAtIso := python.isoFormat now }
      tasks := dispatcher.tasks.set task.taskId
        (marked task (if success then .completed else .failed) (python.isoFormat now)) }

theorem Sound.endLease (h : Sound dispatcher) {leaseId : String} {lease ended : TaskLease}
    {stored task : ExecutionTask} (hlease : dispatcher.leases.get? leaseId = some lease)
    (hactive : lease.status = .active) (hended : ended.status ≠ .active)
    (hagent : ended.agentId = lease.agentId)
    (hstored : dispatcher.tasks.get? lease.taskId = some stored) (hkey : task.taskId = stored.taskId) :
    Sound { dispatcher with
      leases := dispatcher.leases.set leaseId ended
      tasks := dispatcher.tasks.set stored.taskId task } := by
  have hstoredKey := h.tasks _ _ hstored
  have hsound : Sound { dispatcher with leases := dispatcher.leases.set leaseId ended } := by
    refine h.setLease ?_ (fun hstatus => absurd hstatus hended) (fun hstatus => absurd hstatus hended)
    rw [hagent]
    exact h.employed leaseId lease hlease
  -- The task is still leased, but no lease of the dispatcher names it any more.
  refine ⟨h.tasks.set hkey, h.agents, hsound.employed, fun other found hfound hstatus => ?_,
    hsound.alone⟩
  have hne : found.taskId ≠ stored.taskId := by
    intro hsame
    simp only [Dict.get?_set] at hfound
    split at hfound
    · cases hfound
      exact hended hstatus
    · rename_i hother
      exact hother (h.alone other leaseId found lease hfound hlease hstatus hactive
        (hsame.trans hstoredKey))
  obtain ⟨leased, hleased⟩ := hsound.leased other found hfound hstatus
  refine ⟨leased, ?_⟩
  simp only [Dict.get?_set_ne _ _ hne]
  exact hleased

theorem not_leased_of_queued {taskId : String} {task : ExecutionTask}
    (htask : dispatcher.tasks.get? taskId = some task) (hqueued : task.status = .queued)
    (stored : ExecutionTask) (hstored : dispatcher.tasks.get? taskId = some stored) :
    stored.status ≠ .leased := by
  rw [htask] at hstored
  cases hstored
  simp [hqueued]

theorem Change.agents {item : Option TaskLease} (hchange : Change python now dispatcher item reached) :
    reached.agents = dispatcher.agents := by
  cases hchange with
  | expired hexpires =>
    cases hexpires
    rfl
  | _ => rfl

theorem Sound.change {granted : Option TaskLease} (h : Sound dispatcher)
    (hchange : Change python now dispatcher granted reached) : Sound reached := by
  cases hchange with
  | enqueued hnew =>
    apply h.setTask rfl
    intro stored hstored
    rw [hnew] at hstored
    cases hstored
  | @lapsed taskId task htask hqueued =>
    have hkey : (marked task .expired (python.isoFormat now)).taskId = taskId :=
      h.tasks taskId task htask
    exact h.setTask hkey (not_leased_of_queued htask hqueued)
  | @granted generated taskId task agent htask hqueued hagent =>
    have hassigned : Sound { dispatcher with
        tasks := dispatcher.tasks.set taskId (assigned task agent.agentId (python.isoFormat now)) } := by
      have hkey : (assigned task agent.agentId (python.isoFormat now)).taskId = taskId :=
        h.tasks taskId task htask
      exact h.setTask hkey (not_leased_of_queued htask hqueued)
    refine hassigned.setLease ?_ (fun _ => ?_) (fun _ other found hfound hactive hsame => ?_)
    · obtain ⟨agentId, hstored⟩ := Dict.mem_values_iff.mp hagent
      have hkey := h.agents agentId agent hstored
      rw [← hkey] at hstored
      exact ⟨agent, hstored⟩
    · refine ⟨_, Dict.get?_set_self _ _ _, rfl⟩
    · obtain ⟨leased, hleased, hstatus⟩ := h.leased other found hfound hactive
      rw [hsame] at hleased
      change dispatcher.tasks.get? taskId = some leased at hleased
      rw [htask] at hleased
      cases hleased
      rw [hqueued] at hstatus
      cases hstatus
  | expired hexpires =>
    cases hexpires with
    | mk hlease hactive hdue htask =>
      exact h.endLease hlease hactive (by simp [expireLease]) rfl htask rfl
  | @renewed leaseId lease ttlSeconds hlease hactive hlive =>
    refine h.setLease (h.employed leaseId lease hlease) (fun _ => h.leased leaseId lease hlease hactive) ?_
    intro _ other found hfound hstatus hsame
    exact h.alone other _ found _ hfound hlease hstatus hactive hsame
  | completed success hlease hactive htask =>
    exact h.endLease hlease hactive (by simp) rfl htask rfl

end Changes

section Candidates

theorem activeCount_lt_of_availableCapacity {agent : ExecutorAgentDefinition} {capacity : Int}
    (h : dispatcher.availableCapacity python agent now = .ok capacity) (hpos : 0 < capacity) :
    dispatcher.activeCount agent.agentId now < agent.maxConcurrency := by
  obtain ⟨configured, -, hcapacity⟩ := except_bind_eq_ok h
  have hmin := Except.ok.inj hcapacity
  omega

theorem mem_candidates {task : ExecutionTask} {found : List ExecutorAgentDefinition}
    {agent : ExecutorAgentDefinition} (h : dispatcher.candidates python task now = .ok found)
    (hagent : agent ∈ found) : agent ∈ dispatcher.agents.values ∧ compatible task agent = true ∧
      dispatcher.activeCount agent.agentId now < agent.maxConcurrency := by
  obtain ⟨kept, hkept, hsorted⟩ := except_bind_eq_ok h
  obtain rfl := Except.ok.inj hsorted
  rw [List.mem_insertionSort] at hagent
  obtain ⟨hmem, htest⟩ := mem_of_filterM hkept hagent
  split at htest
  · rename_i hcompatible
    obtain ⟨capacity, hcapacity, hpos⟩ := except_bind_eq_ok htest
    refine ⟨hmem, hcompatible, activeCount_lt_of_availableCapacity hcapacity ?_⟩
    exact of_decide_eq_true (Except.ok.inj hpos)
  · cases htest

end Candidates

section Calls

/-- The lease an answer of `dispatch` comes with. -/
def leaseOf : Outcome (DispatchDecision × Option TaskLease) → Option TaskLease
  | (.ok (_, lease), _) => lease
  | (.error _, _) => none

variable (python dispatcher) in
def granted : Call → Option TaskLease
  | .dispatch generated taskId now => leaseOf (dispatcher.dispatch python generated taskId now)
  | _ => none

def Call.instant : Call → Option Int
  | .dispatch _ _ now | .renew _ _ now | .complete _ _ _ now | .expire now => some now
  | _ => none

theorem Call.instant_eq_getD (call : Call) (other : Int) :
    ∀ instant ∈ call.instant, instant = call.instant.getD other := by
  intro instant hinstant
  rw [Option.mem_def.mp hinstant, Option.getD_some]

variable (python now) in
abbrev Changes := Emits fun before => Change python now before

theorem Sound.changes {leases : List TaskLease} (h : Sound dispatcher)
    (hchanges : Changes python now dispatcher leases reached) : Sound reached :=
  hchanges.invariant Sound.change h

variable (dispatcher) in
inductive Stores : Call → ExecutorAgentDefinition → Prop where
  | registered (agent : ExecutorAgentDefinition) : Stores (.registerAgent agent) agent
  | heard {beat : ExecutorHeartbeat} {agent updated : ExecutorAgentDefinition}
      (hagent : dispatcher.agents.get? beat.agentId = some agent)
      (hkey : updated.agentId = agent.agentId) (hstatus : updated.status = beat.status)
      (hconcurrency : updated.maxConcurrency = agent.maxConcurrency) :
    Stores (.heartbeat beat) updated

variable (python dispatcher) in
theorem registerAgent_cases (agent : ExecutorAgentDefinition) :
    (dispatcher.registerAgent python agent).2 = dispatcher ∨
      (dispatcher.registerAgent python agent).2 =
        { dispatcher with agents := dispatcher.agents.set agent.agentId agent } := by
  unfold registerAgent registerAgent.store
  split
  · split
    · exact .inl rfl
    · exact .inr rfl
  · exact .inr rfl

variable (python dispatcher) in
theorem heartbeat_cases (beat : ExecutorHeartbeat) :
    (dispatcher.heartbeat python beat).2 = dispatcher ∨
      ∃ agent updated, dispatcher.agents.get? beat.agentId = some agent ∧
        (dispatcher.heartbeat python beat).2 =
          { dispatcher with agents := dispatcher.agents.set agent.agentId updated } ∧
        updated.agentId = agent.agentId ∧ updated.status = beat.status ∧
        updated.maxConcurrency = agent.maxConcurrency := by
  unfold DistributedDispatcher.heartbeat
  split
  · exact .inl rfl
  · rename_i agent hagent
    exact .inr ⟨agent, _, hagent, rfl, rfl, rfl, rfl⟩

theorem Changes.agents {leases : List TaskLease} (h : Changes python now dispatcher leases reached) :
    reached.agents = dispatcher.agents := by
  induction h with
  | refl => rfl
  | tail _ hchange ih => rw [hchange.agents, ih]

theorem enqueue_changes (task : ExecutionTask) :
    Changes python now dispatcher [] (dispatcher.enqueue python task).2 := by
  unfold enqueue
  split
  · split
    · exact .refl
    · exact .refl
  · rename_i hnew
    exact .quiet .refl (.enqueued hnew)

theorem dispatch_cases (generated : Generated) (taskId : String) {outcome}
    (houtcome : dispatcher.dispatch python generated taskId now = outcome) :
    (leaseOf outcome = none ∧ outcome.2 = dispatcher) ∨
      Change python now dispatcher (leaseOf outcome) outcome.2 := by
  unfold dispatch at houtcome
  cases htask : dispatcher.tasks.get? taskId with
  | none =>
    simp only [htask] at houtcome
    subst houtcome
    exact .inl ⟨rfl, rfl⟩
  | some task =>
    simp only [htask] at houtcome
    split at houtcome
    · subst houtcome
      exact .inl ⟨rfl, rfl⟩
    · rename_i hstatus
      have hqueued : task.status = .queued := not_ne_iff.mp hstatus
      split at houtcome
      · subst houtcome
        exact .inl ⟨rfl, rfl⟩
      · split at houtcome
        · subst houtcome
          exact .inl ⟨rfl, rfl⟩
        · split at houtcome
          · subst houtcome
            exact .inl ⟨rfl, rfl⟩
          · split at houtcome
            · subst houtcome
              exact .inr (.lapsed htask hqueued)
            · split at houtcome
              · subst houtcome
                exact .inl ⟨rfl, rfl⟩
              · subst houtcome
                exact .inl ⟨rfl, rfl⟩
              · rename_i agent others hcandidates
                obtain ⟨hmem, hcompatible, hcapacity⟩ :=
                  mem_candidates hcandidates List.mem_cons_self
                subst houtcome
                exact .inr (.granted generated htask hqueued hmem hcompatible hcapacity)

theorem dispatch_changes (generated : Generated) (taskId : String) :
    Changes python now dispatcher (leaseOf (dispatcher.dispatch python generated taskId now)).toList
      (dispatcher.dispatch python generated taskId now).2 := by
  rcases dispatch_cases generated taskId rfl with ⟨hnone, hsame⟩ | hchange
  · rw [hnone, hsame]
    exact .refl
  · exact .single hchange

theorem change_of_granted {call : Call} {lease : TaskLease}
    (hlease : granted python dispatcher call = some lease) :
    ∃ now, Change python now dispatcher (some lease) (perform python dispatcher call) := by
  cases call with
  | dispatch generated taskId now =>
    rcases dispatch_cases generated taskId rfl with ⟨hnone, -⟩ | hchange
    · rw [granted, hnone] at hlease
      cases hlease
    · rw [granted] at hlease
      rw [hlease] at hchange
      exact ⟨now, hchange⟩
  | _ => cases hlease

variable (python now) in
abbrev Sweeps := Relation.ReflTransGen (Expires python now)

theorem Sweeps.changes (h : Sweeps python now dispatcher reached) :
    Changes python now dispatcher [] reached := by
  induction h with
  | refl => exact .refl
  | tail _ hexpires ih => exact ih.quiet (.expired hexpires)

variable (python) in
theorem expire_sweeps (h : Sound dispatcher) (now : Int) :
    ∃ ids reached, dispatcher.expire python now = (.ok ids, reached) ∧
      Sweeps python now dispatcher reached := by
  refine expireEach_rule (fun _ _ => .refl) ?_ h [] dispatcher.leases.nodup
    fun _ hmem => Dict.get?_eq_some.mpr hmem
  intro dispatcher leaseId lease h hlease hactive hdue
  obtain ⟨task, htask, -⟩ := h.leased leaseId lease hlease hactive
  have hexpires : Expires python now dispatcher { dispatcher with
      leases := dispatcher.leases.set leaseId (expireLease lease)
      tasks := dispatcher.tasks.set task.taskId (requeued task (python.isoFormat now)) } :=
    .mk hlease hactive hdue htask
  exact ⟨task, htask, h.change (.expired hexpires), fun _ => .head hexpires⟩

def Presented (lease : TaskLease) (nonce : String) (now : Int) : Prop :=
  lease.status = .active ∧ lease.nonce = nonce ∧ now < lease.expiresAt

variable (python) in
theorem activeLease_presented (h : Sound dispatcher) {leaseId : String} {lease : TaskLease}
    (hlease : dispatcher.leases.get? leaseId = some lease) (nonce : String) (now : Int) :
    (Presented lease nonce now ∧
      dispatcher.activeLease python leaseId nonce now = (.ok lease, dispatcher)) ∨
    ∃ error reached, ¬ Presented lease nonce now ∧
      dispatcher.activeLease python leaseId nonce now = (.error error, reached) ∧
      Sweeps python now dispatcher reached ∧ (lease.status ≠ .active → reached = dispatcher) := by
  unfold activeLease
  simp only [hlease]
  split
  · rename_i hrefused
    refine .inr ⟨_, _, fun hpresented => ?_, rfl, .refl, fun _ => rfl⟩
    rcases hrefused with hnonce | hstatus
    · exact hnonce hpresented.2.1
    · exact hstatus hpresented.1
  · rename_i haccepted
    rw [not_or, not_ne_iff, not_ne_iff] at haccepted
    split
    · rename_i hdue
      obtain ⟨ids, reached, hexpire, hsweeps⟩ := expire_sweeps python h now
      simp only [hexpire]
      refine .inr ⟨_, _, fun hpresented => ?_, rfl, hsweeps, fun hstatus => ?_⟩
      · exact absurd hpresented.2.2 (not_lt.mpr hdue)
      · exact absurd haccepted.2 hstatus
    · rename_i hlive
      exact .inl ⟨⟨haccepted.2, haccepted.1, not_le.mp hlive⟩, rfl⟩

variable (python) in
theorem renew_presented (h : Sound dispatcher) {leaseId : String} {lease : TaskLease}
    (hlease : dispatcher.leases.get? leaseId = some lease) (nonce : String) (now : Int) :
    (Presented lease nonce now ∧ ∃ agent renewed,
      dispatcher.agents.get? lease.agentId = some agent ∧
      renewed = { lease with
        heartbeatAtIso := python.isoFormat now
        expiresAt := now + agent.leaseTtlSeconds * 1000000 } ∧
      dispatcher.renew python leaseId nonce now =
        (.ok renewed, { dispatcher with leases := dispatcher.leases.set leaseId renewed })) ∨
    ∃ error reached, ¬ Presented lease nonce now ∧
      dispatcher.renew python leaseId nonce now = (.error error, reached) ∧
      Sweeps python now dispatcher reached ∧ (lease.status ≠ .active → reached = dispatcher) := by
  unfold renew
  rcases activeLease_presented python h hlease nonce now with
    ⟨hpresented, hfound⟩ | ⟨error, reached, hrefused, hfound, hsweeps, hsame⟩
  · obtain ⟨agent, hagent⟩ := h.employed leaseId lease hlease
    simp only [hfound, hagent]
    exact .inl ⟨hpresented, agent, _, rfl, rfl, rfl⟩
  · rw [hfound]
    exact .inr ⟨error, reached, hrefused, rfl, hsweeps, hsame⟩

variable (python) in
theorem complete_presented (h : Sound dispatcher) {leaseId : String} {lease : TaskLease}
    (hlease : dispatcher.leases.get? leaseId = some lease) (nonce : String) (success : Bool)
    (now : Int) :
    (Presented lease nonce now ∧ ∃ task finished,
      dispatcher.tasks.get? lease.taskId = some task ∧
      finished = marked task (if success then .completed else .failed) (python.isoFormat now) ∧
      dispatcher.complete python leaseId nonce success now = (.ok finished, { dispatcher with
        leases := dispatcher.leases.set leaseId { lease with
          status := .released
          heartbeatAtIso := python.isoFormat now }
        tasks := dispatcher.tasks.set task.taskId finished })) ∨
    ∃ error reached, ¬ Presented lease nonce now ∧
      dispatcher.complete python leaseId nonce success now = (.error error, reached) ∧
      Sweeps python now dispatcher reached ∧ (lease.status ≠ .active → reached = dispatcher) := by
  unfold complete
  rcases activeLease_presented python h hlease nonce now with
    ⟨hpresented, hfound⟩ | ⟨error, reached, hrefused, hfound, hsweeps, hsame⟩
  · obtain ⟨task, htask, -⟩ := h.leased leaseId lease hlease hpresented.1
    simp only [hfound, htask]
    exact .inl ⟨hpresented, task, _, rfl, rfl, rfl⟩
  · rw [hfound]
    exact .inr ⟨error, reached, hrefused, rfl, hsweeps, hsame⟩

theorem activeLease_none {leaseId : String} (hnone : dispatcher.leases.get? leaseId = none)
    (nonce : String) (now : Int) :
    dispatcher.activeLease python leaseId nonce now = (.error (keyError python leaseId), dispatcher) := by
  unfold activeLease
  rw [hnone]

theorem renew_changes (h : Sound dispatcher) (leaseId nonce : String) (now : Int) :
    Changes python now dispatcher [] (dispatcher.renew python leaseId nonce now).2 := by
  cases hlease : dispatcher.leases.get? leaseId with
  | none =>
    rw [renew, activeLease_none hlease]
    exact .refl
  | some lease =>
    rcases renew_presented python h hlease nonce now with
      ⟨hpresented, agent, renewed, -, rfl, hrenew⟩ | ⟨error, reached, -, hrenew, hsweeps, -⟩
    · rw [hrenew]
      exact .quiet .refl (.renewed agent.leaseTtlSeconds hlease hpresented.1 hpresented.2.2)
    · rw [hrenew]
      exact hsweeps.changes

theorem complete_changes (h : Sound dispatcher) (leaseId nonce : String) (success : Bool) (now : Int) :
    Changes python now dispatcher [] (dispatcher.complete python leaseId nonce success now).2 := by
  cases hlease : dispatcher.leases.get? leaseId with
  | none =>
    rw [complete, activeLease_none hlease]
    exact .refl
  | some lease =>
    rcases complete_presented python h hlease nonce success now with
      ⟨hpresented, task, finished, htask, rfl, hcomplete⟩ | ⟨error, reached, -, hcomplete, hsweeps, -⟩
    · rw [hcomplete]
      exact .quiet .refl (.completed success hlease hpresented.1 htask)
    · rw [hcomplete]
      exact hsweeps.changes

theorem perform_cases (h : Sound dispatcher) (call : Call)
    (hnow : ∀ instant ∈ call.instant, instant = now) :
    (∃ agent, Stores dispatcher call agent ∧ granted python dispatcher call = none ∧
      perform python dispatcher call =
        { dispatcher with agents := dispatcher.agents.set agent.agentId agent }) ∨
    Changes python now dispatcher (granted python dispatcher call).toList
      (perform python dispatcher call) := by
  cases call with
  | registerAgent agent =>
    rcases registerAgent_cases python dispatcher agent with hsame | hstored
    · right
      rw [perform, hsame]
      exact .refl
    · exact .inl ⟨agent, .registered agent, rfl, hstored⟩
  | heartbeat beat =>
    rcases heartbeat_cases python dispatcher beat with
      hsame | ⟨agent, updated, hagent, hstored, hkey, hstatus, hconcurrency⟩
    · right
      rw [perform, hsame]
      exact .refl
    · rw [← hkey] at hstored
      exact .inl ⟨updated, .heard hagent hkey hstatus hconcurrency, rfl, hstored⟩
  | enqueue task => exact .inr (enqueue_changes task)
  | dispatch generated taskId instant =>
    obtain rfl := hnow instant rfl
    exact .inr (dispatch_changes generated taskId)
  | renew leaseId nonce instant =>
    obtain rfl := hnow instant rfl
    exact .inr (renew_changes h leaseId nonce instant)
  | complete leaseId nonce success instant =>
    obtain rfl := hnow instant rfl
    exact .inr (complete_changes h leaseId nonce success instant)
  | expire instant =>
    obtain rfl := hnow instant rfl
    obtain ⟨ids, reached, hexpire, hsweeps⟩ := expire_sweeps python h instant
    right
    change Changes python instant dispatcher [] (dispatcher.expire python instant).2
    rw [hexpire]
    exact hsweeps.changes

variable (python) in
/-- A change at some instant, or an agent stored. -/
inductive Evolves (before : DistributedDispatcher) : Option TaskLease → DistributedDispatcher → Prop where
  | stored (agent : ExecutorAgentDefinition) :
    Evolves before none { before with agents := before.agents.set agent.agentId agent }
  | changed {now : Int} {item : Option TaskLease} {later : DistributedDispatcher}
      (hchange : Change python now before item later) : Evolves before item later

theorem Sound.evolves {item : Option TaskLease} (h : Sound dispatcher)
    (hevolves : Evolves python dispatcher item reached) : Sound reached := by
  cases hevolves with
  | stored agent => exact h.setAgent agent
  | changed hchange => exact h.change hchange

theorem Sound.run {leases : List TaskLease} (h : Sound dispatcher)
    (hrun : Emits (Evolves python) dispatcher leases reached) : Sound reached :=
  hrun.invariant Sound.evolves h

variable (python) in
theorem perform_evolves (h : Sound dispatcher) (call : Call) :
    Emits (Evolves python) dispatcher (granted python dispatcher call).toList
      (perform python dispatcher call) := by
  rcases perform_cases h call (call.instant_eq_getD 0) with
    ⟨agent, -, hnone, hstored⟩ | hchanges
  · rw [hnone, hstored]
    exact .single (.stored agent)
  · exact hchanges.mono Evolves.changed

variable (python) in
theorem Sound.perform (h : Sound dispatcher) (call : Call) :
    Sound (perform python dispatcher call) := h.run (perform_evolves python h call)

variable (python) in
def after (calls : List Call) : DistributedDispatcher := calls.foldl (perform python) .empty

theorem after_concat (calls : List Call) (call : Call) :
    after python (calls ++ [call]) = perform python (after python calls) call := by
  simp [after]

variable (python) in
theorem sound_after (calls : List Call) : Sound (after python calls) := by
  induction calls using List.reverseRecOn with
  | nil => exact .empty
  | append_singleton calls call ih =>
    rw [after_concat]
    exact ih.perform python call

variable (python) in
def grants : DistributedDispatcher → List Call → List TaskLease
  | _, [] => []
  | dispatcher, call :: calls =>
    (granted python dispatcher call).toList ++ grants (perform python dispatcher call) calls

theorem grants_append (before later : List Call) :
    grants python dispatcher (before ++ later) =
      grants python dispatcher before ++
        grants python (before.foldl (perform python) dispatcher) later := by
  induction before generalizing dispatcher with
  | nil => rfl
  | cons call before ih =>
    rw [List.cons_append, grants, ih, grants, List.foldl_cons, List.append_assoc]

variable (python) in
theorem emits_grants (h : Sound dispatcher) (calls : List Call) :
    Emits (Evolves python) dispatcher (grants python dispatcher calls)
      (calls.foldl (perform python) dispatcher) := by
  induction calls generalizing dispatcher with
  | nil => exact .refl
  | cons call calls ih => exact (perform_evolves python h call).trans (ih (h.perform python call))

end Calls

end DistributedDispatcher

end KubeOps.Distributed
