import KubeOps.Distributed.Capacity
import KubeOps.Distributed.Revocation
import KubeOps.Foundation.Interleaving

/-! What a dispatcher knows of an agent through its heartbeats. Each of them takes the place of
what was known before, whatever times they name. -/
namespace KubeOps.Distributed

open KubeOps.Foundation KubeOps.Models

structure AgentReport where
  status : AgentStatus
  lastHeartbeatAtIso : Option String
  availableCapacity : Option Json
  activeTaskIds : Option Json

namespace AgentReport

def ofHeartbeat (beat : ExecutorHeartbeat) : AgentReport where
  status := beat.status
  lastHeartbeatAtIso := some beat.occurredAtIso
  availableCapacity := some (.int beat.availableCapacity)
  activeTaskIds := some (Json.strings beat.activeTaskIds)

def ofAgent (agent : ExecutorAgentDefinition) : AgentReport where
  status := agent.status
  lastHeartbeatAtIso := agent.lastHeartbeatAtIso
  availableCapacity := agent.metadata.get? "available_capacity"
  activeTaskIds := agent.metadata.get? "active_task_ids"

end AgentReport

/-- Both times can be read, and the first is the earlier one. -/
def OccurredBefore (python : Python) (one other : ExecutorHeartbeat) : Prop :=
  ∃ earlier later, python.parseIso one.occurredAtIso = .ok earlier ∧
    python.parseIso other.occurredAtIso = .ok later ∧ earlier < later

theorem OccurredBefore.text_ne {python : Python} {one other : ExecutorHeartbeat}
    (h : OccurredBefore python one other) : one.occurredAtIso ≠ other.occurredAtIso := by
  obtain ⟨earlier, later, hone, hother, hlt⟩ := h
  intro hsame
  rw [hsame, hother] at hone
  exact absurd (Except.ok.inj hone) (Int.ne_of_gt hlt)

structure Latest (python : Python) (beats : List ExecutorHeartbeat) (latest : ExecutorHeartbeat) : Prop where
  mem : latest ∈ beats
  before : ∀ beat ∈ beats, beat ≠ latest → OccurredBefore python beat latest

/-- What is shown at last is what the heartbeat applied last says, and what the latest one says
only where it was applied last. -/
structure LastApplied {ν : Type} (python : Python) (beats : List ExecutorHeartbeat)
    (reportOf : ExecutorHeartbeat → ν) (before : ν) (shown : ν → Prop) : Prop where
  last : shown ((beats.map reportOf).getLast?.getD before)
  latest_iff : ∀ latest, Latest python beats latest →
    (shown (reportOf latest) ↔ beats.getLast? = some latest)

theorem LastApplied.of_shown {ν : Type} {python : Python} {beats : List ExecutorHeartbeat}
    {reportOf : ExecutorHeartbeat → ν} {before : ν} {shown : ν → Prop}
    (htext : ∀ one other, reportOf one = reportOf other → one.occurredAtIso = other.occurredAtIso)
    (hunique : ∀ one other, shown one → shown other → one = other)
    (hlast : shown ((beats.map reportOf).getLast?.getD before)) :
    LastApplied python beats reportOf before shown := by
  refine ⟨hlast, fun latest hlatest => ?_⟩
  rw [List.getLast?_map] at hlast
  constructor
  · intro hshown
    cases hbeats : beats.getLast? with
    | none =>
      rw [List.getLast?_eq_none_iff] at hbeats
      exact absurd hlatest.mem (hbeats ▸ List.not_mem_nil)
    | some last =>
      rw [hbeats] at hlast
      by_contra hne
      have hbefore := hlatest.before last (List.mem_of_getLast? hbeats) fun heq => hne (congrArg some heq)
      exact hbefore.text_ne (htext last latest (hunique _ _ hlast hshown))
  · intro hbeats
    rw [hbeats] at hlast
    exact hlast

namespace DistributedDispatcher

variable {python : Python} {dispatcher reached : DistributedDispatcher} {agentId : String}
  {report : AgentReport}

def Call.beatOf (agentId : String) : Call → Option ExecutorHeartbeat
  | .heartbeat beat => if beat.agentId = agentId then some beat else none
  | _ => none

def beats (agentId : String) (past : List (Transition DistributedDispatcher Call)) : List ExecutorHeartbeat :=
  past.filterMap fun transition => transition.label.beatOf agentId

def Knows (agentId : String) (dispatcher : DistributedDispatcher) (report : AgentReport) : Prop :=
  ∃ agent, dispatcher.agents.get? agentId = some agent ∧ AgentReport.ofAgent agent = report

theorem Knows.unique {other : AgentReport} (h : Knows agentId dispatcher report)
    (hother : Knows agentId dispatcher other) : report = other := by
  obtain ⟨agent, hagent, rfl⟩ := h
  obtain ⟨found, hfound, rfl⟩ := hother
  rw [hagent] at hfound
  rw [Option.some.inj hfound]

theorem Knows.congr (h : Knows agentId dispatcher report)
    (hsame : reached.agents.get? agentId = dispatcher.agents.get? agentId) : Knows agentId reached report := by
  obtain ⟨agent, hagent, hreport⟩ := h
  exact ⟨agent, hsame.trans hagent, hreport⟩

theorem agents_perform (h : Sound dispatcher) {call : Call} (hcall : call.reported = none) :
    (perform python dispatcher call).agents = dispatcher.agents := by
  rcases perform_cases h call (call.instant_eq_getD 0) with ⟨stored, hstores, -, -⟩ | hchanges
  · rw [hstores.reported h] at hcall
    cases hcall
  · exact Changes.agents hchanges

theorem Knows.heartbeat (h : Sound dispatcher) (hknows : Knows agentId dispatcher report)
    (beat : ExecutorHeartbeat) :
    Knows agentId (dispatcher.heartbeat python beat).2
      (if beat.agentId = agentId then .ofHeartbeat beat else report) := by
  unfold DistributedDispatcher.heartbeat
  split
  · rename_i hnone
    rw [if_neg]
    · exact hknows
    · rintro rfl
      obtain ⟨agent, hagent, -⟩ := hknows
      rw [hnone] at hagent
      cases hagent
  · rename_i agent hagent
    have hkey := h.agents _ _ hagent
    split
    · rename_i hsame
      rw [hkey, hsame]
      refine ⟨_, Dict.get?_set_self _ _ _, ?_⟩
      simp [AgentReport.ofAgent, AgentReport.ofHeartbeat, Dict.get?_set]
    · rename_i hother
      apply hknows.congr
      simp only [hkey, Dict.get?_set, if_neg (Ne.symm hother)]

theorem Knows.perform (h : Sound dispatcher) (hknows : Knows agentId dispatcher report) {call : Call}
    (hcall : call.registeredId ≠ some agentId) :
    Knows agentId (perform python dispatcher call)
      (((call.beatOf agentId).map AgentReport.ofHeartbeat).getD report) := by
  cases call with
  | heartbeat beat =>
    have hheard : Knows agentId (dispatcher.heartbeat python beat).2 _ := hknows.heartbeat h beat
    by_cases hsame : beat.agentId = agentId
    · rw [if_pos hsame] at hheard
      rw [Call.beatOf, if_pos hsame]
      exact hheard
    · rw [if_neg hsame] at hheard
      rw [Call.beatOf, if_neg hsame]
      exact hheard
  | registerAgent agent =>
    apply hknows.congr
    have hne : agentId ≠ agent.agentId := fun hsame => hcall (congrArg some hsame.symm)
    rcases registerAgent_cases python dispatcher agent with hsame | hstored
    · rw [DistributedDispatcher.perform, hsame]
    · rw [DistributedDispatcher.perform, hstored]
      exact Dict.get?_set_ne _ _ hne
  | enqueue task => exact hknows.congr (congrArg (Dict.get? · agentId) (agents_perform h rfl))
  | dispatch generated taskId now => exact hknows.congr (congrArg (Dict.get? · agentId) (agents_perform h rfl))
  | renew leaseId nonce now => exact hknows.congr (congrArg (Dict.get? · agentId) (agents_perform h rfl))
  | complete leaseId nonce success now =>
    exact hknows.congr (congrArg (Dict.get? · agentId) (agents_perform h rfl))
  | expire now => exact hknows.congr (congrArg (Dict.get? · agentId) (agents_perform h rfl))

variable (python) in
def called (call : Call) (dispatcher : DistributedDispatcher) : Option DistributedDispatcher :=
  some (perform python dispatcher call)

theorem knows_lastApplied {past : List (Transition DistributedDispatcher Call)} (h : Sound dispatcher)
    (hrun : Run (called python) dispatcher past reached) (hknows : Knows agentId dispatcher report)
    (hpast : ∀ transition ∈ past, transition.label.registeredId ≠ some agentId) :
    LastApplied python (beats agentId past) .ofHeartbeat report (Knows agentId reached) := by
  apply LastApplied.of_shown
  · exact fun one other hsame => Option.some.inj (congrArg AgentReport.lastHeartbeatAtIso hsame)
  · exact fun one other => Knows.unique
  · have hshown := hrun.shows_lastWritten
      (fun dispatcher report => Sound dispatcher ∧ Knows agentId dispatcher report)
      (fun call => (call.beatOf agentId).map AgentReport.ofHeartbeat) ⟨h, hknows⟩ ?_
    · rw [beats, List.map_filterMap]
      exact hshown.2
    · intro transition hmem hstep shown hbefore
      rw [← Option.some.inj hstep]
      exact ⟨hbefore.1.perform python _, hbefore.2.perform hbefore.1 (hpast transition hmem)⟩

section Samples

namespace Delayed

def reader : Python :=
  { Python.plain with
    fromIsoFormat := fun text =>
      if text = "2026-07-23T00:00:00+00:00" then some ⟨1784764800000000, some 0⟩
      else if text = "2026-07-23T00:01:00+00:00" then some ⟨1784764860000000, some 0⟩
      else none }

def online : ExecutorHeartbeat where
  agentId := "agent:a"
  occurredAtIso := "2026-07-23T00:00:00+00:00"
  status := .online
  availableCapacity := 1

def offline : ExecutorHeartbeat where
  agentId := "agent:a"
  occurredAtIso := "2026-07-23T00:01:00+00:00"
  status := .offline

theorem online_before_offline : OccurredBefore reader online offline :=
  ⟨1784764800000000, 1784764860000000, rfl, rfl, by decide⟩

/-- The agent is registered and a task waits for it. -/
def before : List Call := [.registerAgent executor, .enqueue restart]

theorem before_known : Knows "agent:a" (after reader before) (.ofAgent executor) := ⟨executor, rfl, rfl⟩

def past (calls : List Call) : List (Transition DistributedDispatcher Call) :=
  (history (called reader) (after reader before) calls).getD []

theorem latest_offline {beats : List ExecutorHeartbeat} (hmem : offline ∈ beats)
    (hbeats : beats ⊆ [online, offline]) : Latest reader beats offline where
  mem := hmem
  before := by
    intro beat hbeat hne
    rcases List.mem_pair.mp (hbeats hbeat) with rfl | rfl
    · exact online_before_offline
    · exact absurd rfl hne

/-- An agent that has gone offline is let a task because it had been online before. -/
def revived : List Call := [.heartbeat offline, .heartbeat online, .dispatch ⟨"1", "1", "1"⟩ "task:1" 0]

theorem revived_leased : ∃ reached, Run (called reader) (after reader before) (past revived) reached ∧
    (∀ transition ∈ past revived, transition.label.registeredId ≠ some "agent:a") ∧
    Latest reader (beats "agent:a" (past revived)) offline ∧
    Knows "agent:a" reached (.ofHeartbeat online) ∧ ¬ Knows "agent:a" reached (.ofHeartbeat offline) ∧
    reached.leases.values.map TaskLease.agentId = ["agent:a"] := by
  have hbeats : beats "agent:a" (past revived) = [offline, online] := rfl
  obtain ⟨reached, hrun⟩ : ∃ reached, Run (called reader) (after reader before) (past revived) reached :=
    Run.of_isSome rfl
  have hreached : reached = revived.foldl (perform reader) (after reader before) :=
    Option.some.inj (hrun.getLast?_states.symm.trans rfl)
  have honline : Knows "agent:a" reached (.ofHeartbeat online) := by
    rw [hreached]
    exact ⟨_, rfl, rfl⟩
  refine ⟨reached, hrun, ?_, ?_, honline, ?_, ?_⟩
  · have hall : (past revived).all
        (fun transition => transition.label.registeredId ≠ some "agent:a") = true := rfl
    exact fun transition hmem => of_decide_eq_true (List.all_eq_true.mp hall transition hmem)
  · rw [hbeats]
    exact latest_offline (by simp) (by simp)
  · intro hoffline
    exact absurd (congrArg AgentReport.status (honline.unique hoffline)) (by decide)
  · rw [hreached]
    decide

end Delayed

end Samples

end DistributedDispatcher

end KubeOps.Distributed
