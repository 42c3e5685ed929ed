import KubeOps.Distributed.Changes

/-! Revoked agents. The status of an agent is the one last reported for it, by a
registration or by its own heartbeat, and only an agent reported online is let tasks. -/
namespace KubeOps.Distributed

open KubeOps.Foundation KubeOps.Models

namespace DistributedDispatcher

variable {python : Python} {now : Int} {dispatcher reached : DistributedDispatcher} {agentId : String}

def Call.reported : Call → Option (String × AgentStatus)
  | .registerAgent agent => some (agent.agentId, agent.status)
  | .heartbeat beat => some (beat.agentId, beat.status)
  | _ => none

def Offline (agentId : String) (dispatcher : DistributedDispatcher) : Prop :=
  ∀ agent, dispatcher.agents.get? agentId = some agent → agent.status ≠ .online

theorem Stores.reported (h : Sound dispatcher) {call : Call} {agent : ExecutorAgentDefinition}
    (hstores : Stores dispatcher call agent) : call.reported = some (agent.agentId, agent.status) := by
  cases hstores with
  | registered => rfl
  | heard hagent hkey hstatus hconcurrency =>
    rw [Call.reported, hstatus, hkey, h.agents _ _ hagent]

theorem Offline.kept (h : Sound dispatcher) (hoffline : Offline agentId dispatcher) (call : Call)
    (hcall : call.reported ≠ some (agentId, .online)) : Offline agentId (perform python dispatcher call) := by
  intro agent hagent
  rcases perform_cases h call (call.instant_eq_getD 0) with ⟨stored, hstores, -, hstored⟩ | hchanges
  · rw [hstored] at hagent
    simp only [Dict.get?_set] at hagent
    split at hagent
    · rename_i heq
      cases hagent
      intro honline
      apply hcall
      rw [hstores.reported h, heq, honline]
    · exact hoffline agent hagent
  · rw [Changes.agents hchanges] at hagent
    exact hoffline agent hagent

theorem Offline.ne_of_granted (h : Sound dispatcher) (hoffline : Offline agentId dispatcher) {call : Call}
    {lease : TaskLease} (hlease : granted python dispatcher call = some lease) :
    lease.agentId ≠ agentId := by
  obtain ⟨now, hchange⟩ := change_of_granted hlease
  generalize perform python dispatcher call = reached at hchange
  cases hchange with
  | @granted generated taskId task agent htask hqueued hagent hcompatible hcapacity =>
    obtain ⟨key, hkey⟩ := Dict.mem_values_iff.mp hagent
    rw [← h.agents key agent hkey] at hkey
    rintro rfl
    exact hoffline agent hkey (of_decide_eq_true hcompatible).1

theorem Offline.ne_of_mem_grants (h : Sound dispatcher) (hoffline : Offline agentId dispatcher)
    (calls : List Call) (hcalls : ∀ call ∈ calls, call.reported ≠ some (agentId, .online)) :
    ∀ lease ∈ grants python dispatcher calls, lease.agentId ≠ agentId := by
  induction calls generalizing dispatcher with
  | nil => simp [grants]
  | cons call calls ih =>
    rw [List.forall_mem_cons] at hcalls
    rw [grants, List.forall_mem_append]
    constructor
    · intro lease hlease
      exact hoffline.ne_of_granted h (Option.mem_toList.mp hlease)
    · exact ih (h.perform python call) (hoffline.kept h call hcalls.1) hcalls.2

/-- A revoked agent is let nothing until it is reported online, by a new
registration or by a heartbeat of its own. -/
theorem revoked_until_online (python : Python) (before later : List Call)
    {agent : ExecutorAgentDefinition} (hrevoked : agent.status = .revoked)
    (hregistered : (after python (before ++ [.registerAgent agent])).agents.get? agent.agentId =
      some agent)
    (hlater : ∀ call ∈ later, call.reported ≠ some (agent.agentId, .online)) :
    ∀ lease ∈ grants python (after python (before ++ [.registerAgent agent])) later,
      lease.agentId ≠ agent.agentId := by
  have hoffline : Offline agent.agentId (after python (before ++ [.registerAgent agent])) := by
    intro found hfound
    rw [hregistered] at hfound
    cases hfound
    simp [hrevoked]
  exact hoffline.ne_of_mem_grants (sound_after python _) later hlater

section Samples

def revoked : ExecutorAgentDefinition := { executor with status := .revoked }

/-- The agent says that it is draining, and a task waits. -/
def drained : List Call :=
  [.heartbeat { agentId := "agent:a", occurredAtIso := "t", status := .draining }, .enqueue restart,
    .dispatch ⟨"1", "1", "1"⟩ "task:1" 0, .expire 1]

theorem drained_unlet :
    (after .plain ([.registerAgent executor] ++ [.registerAgent revoked])).agents.get? "agent:a" =
        some revoked ∧
      ∀ lease ∈ grants .plain (after .plain ([.registerAgent executor] ++ [.registerAgent revoked])) drained,
        lease.agentId ≠ "agent:a" := by
  have hregistered : (after .plain ([.registerAgent executor] ++
      [.registerAgent revoked])).agents.get? revoked.agentId = some revoked := rfl
  refine ⟨hregistered, revoked_until_online .plain [.registerAgent executor] drained rfl hregistered ?_⟩
  decide

/-- The agent says that it is online again, and is let the task. -/
def revived : List Call :=
  [.heartbeat { agentId := "agent:a", occurredAtIso := "t", status := .online, availableCapacity := 1 },
    .enqueue restart,
    .dispatch ⟨"1", "1", "1"⟩ "task:1" 0]

/-- A heartbeat takes a revocation back. -/
theorem revived_let : revoked.status = .revoked ∧
    (after .plain [.registerAgent revoked]).agents.get? "agent:a" = some revoked ∧
    (∀ call ∈ revived, ∀ agent, call ≠ .registerAgent agent) ∧
    ∃ lease ∈ grants .plain (after .plain [.registerAgent revoked]) revived, lease.agentId = "agent:a" := by
  refine ⟨rfl, rfl, by simp [revived], ?_⟩
  have hany : (grants .plain (after .plain [.registerAgent revoked]) revived).any
      (fun lease => lease.agentId = "agent:a") = true := by
    decide
  obtain ⟨lease, hlease, hagent⟩ := List.any_eq_true.mp hany
  exact ⟨lease, hlease, of_decide_eq_true hagent⟩

end Samples

end DistributedDispatcher

end KubeOps.Distributed
