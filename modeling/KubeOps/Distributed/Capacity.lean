import KubeOps.Distributed.Changes

/-! Capacity and isolation of the agents. The leases of an agent are counted at
an instant: one that is over is not counted any more, swept or not. -/
namespace KubeOps.Distributed

open KubeOps.Foundation KubeOps.Models

namespace DistributedDispatcher

variable {python : Python} {now : Int} {dispatcher reached : DistributedDispatcher}
  {agentId : String} {item : Option TaskLease}

section Counting

def Counts (agentId : String) (now : Int) (lease : TaskLease) : Prop :=
  lease.agentId = agentId ∧ lease.status = .active ∧ now < lease.expiresAt

instance (agentId : String) (now : Int) : DecidablePred (Counts agentId now) := by
  intro lease
  unfold Counts
  infer_instance

theorem activeCount_le {later : Int} (named : List String)
    (h : ∀ leaseId lease, reached.leases.get? leaseId = some lease → Counts agentId later lease →
      leaseId ∈ named ∨ ∃ found, dispatcher.leases.get? leaseId = some found ∧ Counts agentId now found) :
    reached.activeCount agentId later ≤ named.length + dispatcher.activeCount agentId now := by
  apply Dict.length_filter_values_le
  intro leaseId lease hlease hcounts
  rcases h leaseId lease hlease (of_decide_eq_true hcounts) with hnamed | ⟨found, hfound, hfoundCounts⟩
  · exact .inl hnamed
  · exact .inr ⟨found, hfound, decide_eq_true hfoundCounts⟩

theorem activeCount_anti (agentId : String) {later : Int} (h : now ≤ later) :
    dispatcher.activeCount agentId later ≤ dispatcher.activeCount agentId now := by
  have hle : dispatcher.activeCount agentId later ≤ 0 + dispatcher.activeCount agentId now := by
    apply activeCount_le []
    intro leaseId lease hlease hcounts
    exact .inr ⟨lease, hlease, hcounts.1, hcounts.2.1, lt_of_le_of_lt h hcounts.2.2⟩
  omega

theorem activeCount_set_le {leaseId : String} {lease : TaskLease} (named : List String)
    (hleases : reached.leases = dispatcher.leases.set leaseId lease)
    (h : Counts agentId now lease → leaseId ∈ named ∨
      ∃ found, dispatcher.leases.get? leaseId = some found ∧ Counts agentId now found) :
    reached.activeCount agentId now ≤ named.length + dispatcher.activeCount agentId now := by
  apply activeCount_le named
  intro other stored hstored hcounts
  rw [hleases, Dict.get?_set] at hstored
  split at hstored
  · rename_i heq
    cases hstored
    rw [heq]
    exact h hcounts
  · exact .inr ⟨stored, hstored, hcounts⟩

end Counting

section Capacity

/-- No agent holds more live leases than it may. -/
def Within (dispatcher : DistributedDispatcher) (now : Int) : Prop :=
  ∀ agentId agent, dispatcher.agents.get? agentId = some agent →
    dispatcher.activeCount agentId now ≤ agent.maxConcurrency

theorem Within.mono {later : Int} (h : Within dispatcher now) (hle : now ≤ later) :
    Within dispatcher later :=
  fun agentId agent hagent => (activeCount_anti agentId hle).trans (h agentId agent hagent)

theorem Change.within (h : Sound dispatcher) (hchange : Change python now dispatcher item reached)
    (hwithin : Within dispatcher now) : Within reached now := by
  intro agentId agent hagent
  rw [hchange.agents] at hagent
  have hbefore := hwithin agentId agent hagent
  cases hchange with
  | enqueued => exact hbefore
  | lapsed => exact hbefore
  | @granted generated taskId task chosen htask hqueued hchosen hcompatible hcapacity =>
    by_cases hsame : agentId = chosen.agentId
    · obtain ⟨key, hkey⟩ := Dict.mem_values_iff.mp hchosen
      rw [← h.agents key chosen hkey, ← hsame, hagent] at hkey
      cases hkey
      refine le_trans (activeCount_set_le [generated.leaseId] rfl fun _ => .inl (by simp)) ?_
      rw [← hsame] at hcapacity
      simp only [List.length_singleton]
      omega
    · refine le_trans (activeCount_set_le [] rfl fun hcounts => ?_) (by simpa using hbefore)
      exact absurd hcounts.1.symm hsame
  | expired hexpires =>
    cases hexpires with
    | mk hlease hactive hdue htask =>
      refine le_trans (activeCount_set_le [] rfl fun hcounts => ?_) (by simpa using hbefore)
      exact absurd hcounts.2.1 (by simp [expireLease])
  | renewed ttlSeconds hlease hactive hlive =>
    refine le_trans (activeCount_set_le [] rfl fun hcounts => ?_) (by simpa using hbefore)
    exact .inr ⟨_, hlease, hcounts.1, hactive, hlive⟩
  | completed success hlease hactive htask =>
    refine le_trans (activeCount_set_le [] rfl fun hcounts => ?_) (by simpa using hbefore)
    exact absurd hcounts.2.1 (by simp)

theorem Within.register (h : Sound dispatcher) (hwithin : Within dispatcher now)
    {agent : ExecutorAgentDefinition} (hnew : dispatcher.agents.get? agent.agentId = none) :
    Within { dispatcher with agents := dispatcher.agents.set agent.agentId agent } now := by
  intro agentId found hfound
  simp only [Dict.get?_set] at hfound
  split at hfound
  · rename_i heq
    have hnone : dispatcher.leases.values.filter (fun lease =>
        lease.agentId = agentId ∧ lease.status = .active ∧ now < lease.expiresAt) = [] := by
      rw [List.filter_eq_nil_iff]
      intro lease hlease hcounts
      obtain ⟨leaseId, hstored⟩ := Dict.mem_values_iff.mp hlease
      obtain ⟨employer, hemployer⟩ := h.employed leaseId lease hstored
      rw [(of_decide_eq_true hcounts).1, heq, hnew] at hemployer
      cases hemployer
    change (dispatcher.leases.values.filter _).length ≤ _
    rw [hnone]
    exact Nat.zero_le _
  · exact hwithin agentId found hfound

theorem Within.hear (h : Sound dispatcher) (hwithin : Within dispatcher now)
    {beat : ExecutorHeartbeat} {agent updated : ExecutorAgentDefinition}
    (hagent : dispatcher.agents.get? beat.agentId = some agent)
    (hkey : updated.agentId = agent.agentId)
    (hconcurrency : updated.maxConcurrency = agent.maxConcurrency) :
    Within { dispatcher with agents := dispatcher.agents.set updated.agentId updated } now := by
  intro agentId found hfound
  simp only [Dict.get?_set] at hfound
  split at hfound
  · rename_i heq
    cases hfound
    rw [hkey, h.agents _ _ hagent] at heq
    rw [heq, hconcurrency]
    exact hwithin _ agent hagent
  · exact hwithin agentId found hfound

end Capacity

section Isolation

structure Serves (agent : ExecutorAgentDefinition) (task : ExecutionTask) : Prop where
  organization : task.organizationId = agent.organizationId
  workspace : task.workspaceId = agent.workspaceId
  executor : task.executorId ∈ agent.supportedExecutorIds
  environment : agent.environmentIds = [] ∨ task.environmentId ∈ agent.environmentIds
  capabilities : ∀ capability ∈ task.requiredCapabilities, capability ∈ agent.capabilities

theorem serves_of_compatible {task : ExecutionTask} {agent : ExecutorAgentDefinition}
    (h : compatible task agent = true) : Serves agent task := by
  obtain ⟨-, ⟨hworkspace, horganization⟩, henvironment, hexecutor, hcapabilities⟩ := of_decide_eq_true h
  exact ⟨horganization, hworkspace, hexecutor, henvironment, hcapabilities⟩

theorem serves_of_granted (h : Sound dispatcher) {call : Call} {lease : TaskLease}
    (hlease : granted python dispatcher call = some lease) :
    ∃ task agent, dispatcher.tasks.get? lease.taskId = some task ∧
      dispatcher.agents.get? lease.agentId = some agent ∧ Serves agent task := by
  obtain ⟨now, hchange⟩ := change_of_granted hlease
  generalize perform python dispatcher call = reached at hchange
  cases hchange with
  | granted generated htask hqueued hagent hcompatible hcapacity =>
    obtain ⟨key, hkey⟩ := Dict.mem_values_iff.mp hagent
    rw [← h.agents key _ hkey] at hkey
    exact ⟨_, _, htask, hkey, serves_of_compatible hcompatible⟩

/-- The not-before instant has come and the deadline has not. -/
@[mk_iff]
structure Due (python : Python) (task : ExecutionTask) (now : Int) : Prop where
  notBefore : ∃ instant, instantOf python task.notBeforeIso = .ok instant ∧ ∀ due ∈ instant, due ≤ now
  deadline : ∃ instant, instantOf python task.deadlineIso = .ok instant ∧ ∀ due ∈ instant, now < due

theorem forall_instant_iff {text : Option String} {instant : Option Int} {holds : Int → Prop}
    (h : instantOf python text = .ok instant) :
    (∃ found, instantOf python text = .ok found ∧ ∀ due ∈ found, holds due) ↔
      ∀ due ∈ instant, holds due := by
  constructor
  · rintro ⟨found, hfound, hall⟩
    rw [h] at hfound
    cases hfound
    exact hall
  · intro hall
    exact ⟨instant, h, hall⟩

theorem leaseOf_dispatch {taskId : String} {task : ExecutionTask} {lease : TaskLease}
    (htask : dispatcher.tasks.get? taskId = some task) (generated : Generated) :
    leaseOf (dispatcher.dispatch python generated taskId now) = some lease ↔
      task.status = .queued ∧ Due python task now ∧
        ∃ agent others, dispatcher.candidates python task now = .ok (agent :: others) ∧
          lease = newLease python generated taskId agent now := by
  generalize houtcome : dispatcher.dispatch python generated taskId now = outcome
  unfold dispatch at houtcome
  simp only [htask] at houtcome
  split at houtcome
  · rename_i hstatus
    subst houtcome
    simp [leaseOf, hstatus]
  · rename_i hstatus
    have hqueued : task.status = .queued := not_ne_iff.mp hstatus
    split at houtcome
    · rename_i hbefore
      subst houtcome
      simp [leaseOf, due_iff, hbefore]
    · rename_i notBefore hbefore
      split at houtcome
      · rename_i hearly
        subst houtcome
        have hnot : ¬ ∀ due ∈ notBefore, due ≤ now := by simpa [Option.any_eq_true] using hearly
        have hnotDue : ¬ Due python task now := fun hdue =>
          hnot ((forall_instant_iff hbefore).mp hdue.notBefore)
        simp [leaseOf, hnotDue]
      · rename_i hearly
        have hcome : ∀ due ∈ notBefore, due ≤ now := by simpa [Option.any_eq_true] using hearly
        split at houtcome
        · rename_i hdeadline
          subst houtcome
          simp [leaseOf, due_iff, hdeadline]
        · rename_i deadline hdeadline
          split at houtcome
          · rename_i hlate
            subst houtcome
            have hnot : ¬ ∀ due ∈ deadline, now < due := by simpa [Option.any_eq_true] using hlate
            have hnotDue : ¬ Due python task now := fun hdue =>
              hnot ((forall_instant_iff hdeadline).mp hdue.deadline)
            simp [leaseOf, hnotDue]
          · rename_i hlate
            have hleft : ∀ due ∈ deadline, now < due := by simpa [Option.any_eq_true] using hlate
            have hdue : Due python task now :=
              ⟨(forall_instant_iff hbefore).mpr hcome, (forall_instant_iff hdeadline).mpr hleft⟩
            split at houtcome
            · rename_i hfound
              subst houtcome
              simp [leaseOf, hfound]
            · rename_i hfound
              subst houtcome
              simp [leaseOf, hfound]
            · rename_i agent others hfound
              subst houtcome
              simp [leaseOf, hfound, hqueued, hdue, eq_comm]

end Isolation

section Runs

def Call.registeredId : Call → Option String
  | .registerAgent agent => some agent.agentId
  | _ => none

theorem registered_of_stored (calls : List Call) {agent : ExecutorAgentDefinition}
    (hagent : (after python calls).agents.get? agentId = some agent) :
    agentId ∈ calls.filterMap Call.registeredId := by
  induction calls using List.reverseRecOn generalizing agent with
  | nil => cases hagent
  | append_singleton calls call ih =>
    rw [List.filterMap_append, List.mem_append]
    rw [after_concat] at hagent
    rcases perform_cases (sound_after python calls) call (call.instant_eq_getD 0) with
      ⟨changed, hstores, -, hstored⟩ | hchanges
    · rw [hstored] at hagent
      simp only [Dict.get?_set] at hagent
      split at hagent
      · rename_i heq
        cases hstores with
        | registered => exact .inr (by simp [Call.registeredId, heq])
        | heard hfound hkey hstatus hconcurrency =>
          rw [hkey, (sound_after python calls).agents _ _ hfound] at heq
          rw [← heq] at hfound
          exact .inl (ih hfound)
      · exact .inl (ih hagent)
    · rw [Changes.agents hchanges] at hagent
      exact .inl (ih hagent)

theorem within_after (calls : List Call)
    (htimes : (calls.filterMap Call.instant).Pairwise (· ≤ ·))
    (honce : (calls.filterMap Call.registeredId).Nodup)
    (hnow : ∀ instant ∈ calls.filterMap Call.instant, instant ≤ now) :
    Within (after python calls) now := by
  induction calls using List.reverseRecOn generalizing now with
  | nil =>
    intro agentId agent hagent
    cases hagent
  | append_singleton calls call ih =>
    rw [List.filterMap_append] at htimes honce hnow
    have hsound := sound_after python calls
    have hbefore {now : Int} (hpast : ∀ instant ∈ calls.filterMap Call.instant, instant ≤ now) :=
      ih (List.pairwise_append.mp htimes).1 (List.nodup_append.mp honce).1 hpast
    rw [after_concat]
    -- The call is made at its own instant, which no earlier one exceeds.
    have hpast : ∀ instant ∈ calls.filterMap Call.instant, instant ≤ call.instant.getD now := by
      intro instant hinstant
      cases hcall : call.instant with
      | none => exact hnow instant (List.mem_append_left _ hinstant)
      | some last =>
        refine (List.pairwise_append.mp htimes).2.2 instant hinstant last ?_
        simp [hcall]
    have hlast : call.instant.getD now ≤ now := by
      cases hcall : call.instant with
      | none => exact le_refl now
      | some last => exact hnow last (List.mem_append_right _ (by simp [hcall]))
    refine Within.mono ?_ hlast
    rcases perform_cases hsound call (call.instant_eq_getD now) with
      ⟨agent, hstores, -, hstored⟩ | hchanges
    · rw [hstored]
      cases hstores with
      | registered =>
        refine (hbefore hpast).register hsound ?_
        rw [Option.eq_none_iff_forall_ne_some]
        intro stored hfound
        have hmem := registered_of_stored calls hfound
        exact (List.nodup_append.mp honce).2.2 _ hmem _ (by simp [Call.registeredId]) rfl
      | heard hfound hkey hstatus hconcurrency =>
        exact (hbefore hpast).hear hsound hfound hkey hconcurrency
    · let inv (state : DistributedDispatcher) : Prop :=
        Sound state ∧ Within state (call.instant.getD now)
      have hkeeps {before item later} (hinv : inv before)
          (hchange : Change python (call.instant.getD now) before item later) : inv later :=
        ⟨hinv.1.change hchange, hchange.within hinv.1 hinv.2⟩
      exact (hchanges.invariant hkeeps ⟨hsound, hbefore hpast⟩).2

/-- Capacity holds at every instant from the last call on, and isolation at each grant. -/
theorem capacity_and_isolation (python : Python) (calls : List Call)
    (htimes : (calls.filterMap Call.instant).Pairwise (· ≤ ·))
    (honce : (calls.filterMap Call.registeredId).Nodup) :
    (∀ now, (∀ instant ∈ calls.filterMap Call.instant, instant ≤ now) →
      ∀ agentId agent, (after python calls).agents.get? agentId = some agent →
        (after python calls).activeCount agentId now ≤ agent.maxConcurrency) ∧
    ∀ before call later, calls = before ++ call :: later →
      ∀ lease, granted python (after python before) call = some lease →
        ∃ task agent, (after python before).tasks.get? lease.taskId = some task ∧
          (after python before).agents.get? lease.agentId = some agent ∧ Serves agent task := by
  refine ⟨fun now hnow => within_after calls htimes honce hnow, ?_⟩
  intro before call later _ lease hlease
  exact serves_of_granted (sound_after python before) hlease

/-- One agent for two tasks, and a lease renewed just before it is over. -/
def busy : List Call :=
  [.registerAgent executor, .enqueue restart, .enqueue { restart with taskId := "task:2" },
    .dispatch ⟨"1", "1", "1"⟩ "task:1" 0, .dispatch ⟨"2", "2", "2"⟩ "task:2" 1,
    .renew "lease:1" "1" 59999999, .dispatch ⟨"3", "3", "3"⟩ "task:2" 60000001]

theorem busy_within : ∃ agent, (after .plain busy).agents.get? "agent:a" = some agent ∧
    (after .plain busy).activeCount "agent:a" 60000001 = 1 ∧ 1 ≤ agent.maxConcurrency := by
  have htimes : (busy.filterMap Call.instant).Pairwise (· ≤ ·) := by decide
  have honce : (busy.filterMap Call.registeredId).Nodup := by decide
  have hcount : (after .plain busy).activeCount "agent:a" 60000001 = 1 := by decide
  have hstored : ((after .plain busy).agents.get? "agent:a").isSome = true := by decide
  obtain ⟨agent, hagent⟩ := Option.isSome_iff_exists.mp hstored
  have hwithin := (capacity_and_isolation .plain busy htimes honce).1 60000001 (by decide) "agent:a" agent
    hagent
  exact ⟨agent, hagent, hcount, hcount ▸ hwithin⟩

end Runs

end DistributedDispatcher

end KubeOps.Distributed
