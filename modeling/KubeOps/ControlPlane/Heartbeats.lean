import KubeOps.ControlPlane.Deployment
import KubeOps.Distributed.Heartbeats

/-! Heartbeats out of order. The dispatcher and the row of an agent show the heartbeat applied
last, which may be one that was delayed. -/
namespace KubeOps.ControlPlane

open KubeOps.Foundation KubeOps.Models KubeOps.Distributed
open KubeOps.Execution (OperationRuntime)

/-- What a row shows of the heartbeats of its agent, in its columns and in its document. -/
structure RowReport where
  status : AgentStatus
  lastHeartbeatAt : Option Int
  payload : AgentReport

namespace RowReport

def ofHeartbeat (python : Python) (beat : ExecutorHeartbeat) : RowReport where
  status := beat.status
  lastHeartbeatAt := (python.parseIso beat.occurredAtIso).toOption
  payload := .ofHeartbeat beat

def ofRow (row : AgentRow) : RowReport where
  status := row.status
  lastHeartbeatAt := row.lastHeartbeatAt
  payload := {
    status := row.payload.fields.status
    lastHeartbeatAtIso := row.payload.fields.lastHeartbeatAtIso
    availableCapacity := row.payload.extra.get? "available_capacity"
    activeTaskIds := row.payload.extra.get? "active_task_ids" }

end RowReport

section Rows

variable {ι : Type}

/-- The heartbeat of the agent that an event applies. One whose time cannot be read is refused. -/
def Event.beatOf (python : Python) (agentId : String) : Event ι → Option ExecutorHeartbeat
  | .postHeartbeat beat =>
    if beat.agentId = agentId ∧ (python.parseIso beat.occurredAtIso).isOk then some beat else none
  | _ => none

def Event.registeredId : Event ι → Option String
  | .start _ options _ _ => some options.agentId
  | .postAgent request => some request.definition.agentId
  | _ => none

namespace Deployment

def beats (python : Python) (agentId : String) (past : List (Transition (Deployment ι) (Event ι))) :
    List ExecutorHeartbeat :=
  past.filterMap fun transition => transition.label.beatOf python agentId

structure Shows (agentId : String) (deployment : Deployment ι) (report : RowReport) : Prop where
  apart : ∀ i row, deployment.kept i = some row → row.agentId ≠ agentId
  stored : ∃ row, deployment.agents.get? agentId = some row ∧ RowReport.ofRow row = report

variable {runtime : OperationRuntime} {before after start reached : Deployment ι} {agentId : String}
  {report : RowReport}

namespace Shows

theorem unique {other : RowReport} (h : before.Shows agentId report) (hother : before.Shows agentId other) :
    report = other := by
  obtain ⟨row, hrow, rfl⟩ := h.stored
  obtain ⟨found, hfound, rfl⟩ := hother.stored
  rw [hrow] at hfound
  rw [Option.some.inj hfound]

theorem withDatabase (h : before.Shows agentId report) (database : Database) :
    (before.withDatabase database).Shows agentId report := ⟨h.apart, h.stored⟩

theorem withAgents (h : before.Shows agentId report) {agents : AgentTable}
    (hsame : agents.get? agentId = before.agents.get? agentId) :
    { before with agents := agents }.Shows agentId report where
  apart := h.apart
  stored := by
    obtain ⟨row, hrow, hreport⟩ := h.stored
    exact ⟨row, hsame.trans hrow, hreport⟩

theorem put (h : before.Shows agentId report) {row : AgentRow} (hother : row.agentId ≠ agentId) :
    { before with agents := before.agents.put row }.Shows agentId report :=
  h.withAgents (by rw [Table.get?_put, if_neg (Ne.symm hother)])

theorem save (h : before.Shows agentId report) {row : AgentRow} (hother : row.agentId ≠ agentId) :
    { before with agents := before.agents.save row }.Shows agentId report :=
  h.withAgents (by rw [AgentTable.get?_save, if_neg (Ne.symm hother)])

variable [DecidableEq ι]

theorem keep (h : before.Shows agentId report) (i : ι) {row : AgentRow} (hother : row.agentId ≠ agentId) :
    (before.keep i row).Shows agentId report where
  apart := by
    intro j found hfound
    change Function.update before.kept i (some row) j = some found at hfound
    by_cases hji : j = i
    · rw [hji, Function.update_self] at hfound
      cases hfound
      exact hother
    · rw [Function.update_of_ne hji] at hfound
      exact h.apart j found hfound
  stored := h.stored

theorem perform (h : before.Shows agentId report) {i : ι} {statement : Statement}
    (hperform : before.perform runtime i statement = some after) : after.Shows agentId report := by
  obtain ⟨plane, -, rfl⟩ := Option.map_eq_some_iff.mp hperform
  exact ⟨h.apart, h.stored⟩

omit [DecidableEq ι] in
theorem postHeartbeat (h : before.Shows agentId report) (python : Python) (beat : ExecutorHeartbeat) :
    { before with agents := (ControlPlane.postHeartbeat python before.agents beat).2 }.Shows agentId
      ((((Event.postHeartbeat beat : Event ι).beatOf python agentId).map
        (RowReport.ofHeartbeat python)).getD report) := by
  unfold ControlPlane.postHeartbeat
  rw [Event.beatOf]
  cases hparse : python.parseIso beat.occurredAtIso with
  | error error =>
    have hrefused : ¬ (beat.agentId = agentId ∧ (Except.error error : Except PyError Int).isOk = true) :=
      fun hboth => Bool.false_ne_true hboth.2
    rw [if_neg hrefused]
    split
    · exact h
    · exact h
  | ok occurredAt =>
    cases hrow : before.agents.get? beat.agentId with
    | none =>
      have hother : beat.agentId ≠ agentId := by
        rintro rfl
        obtain ⟨row, hstored, -⟩ := h.stored
        rw [hrow] at hstored
        cases hstored
      rw [if_neg fun hboth => hother hboth.1]
      exact h
    | some row =>
      have hkey : row.agentId = beat.agentId := Table.key_of_get? hrow
      dsimp only
      by_cases hsame : beat.agentId = agentId
      · rw [if_pos ⟨hsame, rfl⟩]
        refine ⟨h.apart, _, (Table.get?_put ..).trans (if_pos (hkey.trans hsame).symm), ?_⟩
        simp [RowReport.ofRow, RowReport.ofHeartbeat, AgentReport.ofHeartbeat, Dict.get?_set, hparse,
          Except.toOption]
      · rw [if_neg fun hboth => hsame hboth.1]
        exact h.put fun hother => hsame (hkey.symm.trans hother)

theorem step {event : Event ι} (h : before.Shows agentId report)
    (hstep : Deployment.step runtime event before = some after) (hevent : event.registeredId ≠ some agentId) :
    after.Shows agentId
      (((event.beatOf runtime.python agentId).map (RowReport.ofHeartbeat runtime.python)).getD report) := by
  cases Deployment.step_occurs hstep with
  | refused => exact h
  | @started i options nowIso now row agents _ hregister hperform =>
    obtain ⟨rfl, rfl⟩ := register_eq hregister
    have hother : options.agentId ≠ agentId := fun hsame => hevent (congrArg some hsame)
    have hput : Shows agentId { before with agents := before.agents.put (options.row nowIso now) } report :=
      h.put hother
    exact (hput.keep i hother).perform hperform
  | @beaten i now row hkept =>
    have hother : (row.beat runtime.python before.plane.database now).agentId ≠ agentId := h.apart i row hkept
    exact (h.save hother).keep i hother
  | worked _ hperform => exact h.perform hperform
  | writtenBack hrelease hfinish => exact (h.perform hrelease).perform hfinish
  | @ended i nowIso now row _ hkept hperform =>
    have hother : (row.offline nowIso now).agentId ≠ agentId := h.apart i row hkept
    exact ((h.save hother).keep i hother).perform hperform
  | agentPosted request =>
    rcases request.post_cases with hsame | ⟨lastHeartbeatAt, hput⟩
    · exact h.withAgents (by rw [hsame])
    · rw [hput]
      exact h.put fun hsame => hevent (congrArg some hsame)
  | heartbeatPosted beat => exact h.postHeartbeat runtime.python beat
  | claimPosted => exact h.withDatabase _
  | completionPosted => exact h.withDatabase _

end Shows

variable [DecidableEq ι]

theorem shows_lastApplied {past : List (Transition (Deployment ι) (Event ι))}
    (hrun : Run (Deployment.step runtime) start past reached) (hstart : start.Shows agentId report)
    (hpast : ∀ transition ∈ past, transition.label.registeredId ≠ some agentId) :
    LastApplied runtime.python (beats runtime.python agentId past) (RowReport.ofHeartbeat runtime.python)
      report fun shown => reached.Shows agentId shown := by
  apply LastApplied.of_shown
  · exact fun one other hsame => Option.some.inj
      (congrArg (AgentReport.lastHeartbeatAtIso ∘ RowReport.payload) hsame)
  · exact fun one other => Shows.unique
  · rw [beats, List.map_filterMap]
    apply hrun.shows_lastWritten (fun deployment report => deployment.Shows agentId report)
      (fun event => (event.beatOf runtime.python agentId).map (RowReport.ofHeartbeat runtime.python)) hstart
    exact fun transition hmem hstep shown hbefore => hbefore.step hstep (hpast transition hmem)

end Deployment

end Rows

section Runs

open DistributedDispatcher (Knows called after)

/-- Whatever else is called or requested in between, and whatever times they name, heartbeats take
effect in the order they are applied in, in the dispatcher and in the row of the agent. -/
theorem heartbeats_lastApplied (python : Python) (agentId : String) :
    (∀ before report past reached, Knows agentId (after python before) report →
      Run (called python) (after python before) past reached →
      (∀ transition ∈ past, transition.label.registeredId ≠ some agentId) →
      LastApplied python (DistributedDispatcher.beats agentId past) .ofHeartbeat report
        (Knows agentId reached)) ∧
    ∀ (ι : Type) [DecidableEq ι] (runtime : OperationRuntime) (start reached : Deployment ι) report past,
      runtime.python = python → start.Shows agentId report →
      Run (Deployment.step runtime) start past reached →
      (∀ transition ∈ past, transition.label.registeredId ≠ some agentId) →
      LastApplied python (Deployment.beats python agentId past) (RowReport.ofHeartbeat python) report
        fun shown => reached.Shows agentId shown := by
  constructor
  · intro before report past reached hknows hrun hpast
    exact DistributedDispatcher.knows_lastApplied (DistributedDispatcher.sound_after python before) hrun
      hknows hpast
  · rintro ι _ runtime start reached report past rfl hstart hrun hpast
    exact Deployment.shows_lastApplied hrun hstart hpast

end Runs

section Samples

namespace DelayedRows

open DistributedDispatcher (Call Knows called after executor)
open DistributedDispatcher.Delayed (reader online offline latest_offline before before_known past)

def runtime : OperationRuntime := { DockerFleet.runtime with python := reader }

/-- The agent of the dispatcher as a row, and no tasks. -/
def deployment : Deployment DockerFleet.Worker where
  plane := DockerFleet.plane []
  agents := Table.empty.put (AgentRow.ofDefinition executor none)
  kept _ := none

/-- The agent is online, is let a task, and goes offline. -/
def calls : List Call := [.heartbeat online, .dispatch ⟨"1", "1", "1"⟩ "task:1" 0, .heartbeat offline]

def events : List (Event DockerFleet.Worker) :=
  [.postHeartbeat online, .postCompletion "task:1" ∅ 0, .postHeartbeat offline]

def occurred : List (Transition (Deployment DockerFleet.Worker) (Event DockerFleet.Worker)) :=
  (history (Deployment.step runtime) deployment events).getD []

theorem offline_applied_last :
    (∃ reached, Run (called reader) (after reader before) (past calls) reached ∧
      Knows "agent:a" reached (.ofHeartbeat offline)) ∧
    ∃ reached, Run (Deployment.step runtime) deployment occurred reached ∧
      reached.Shows "agent:a" (RowReport.ofHeartbeat reader offline) := by
  obtain ⟨reached, hrun⟩ : ∃ reached, Run (called reader) (after reader before) (past calls) reached :=
    Run.of_isSome rfl
  obtain ⟨final, hevents⟩ : ∃ reached, Run (Deployment.step runtime) deployment occurred reached :=
    Run.of_isSome rfl
  have hbeats : DistributedDispatcher.beats "agent:a" (past calls) = [online, offline] := rfl
  have hposted : Deployment.beats reader "agent:a" occurred = [online, offline] := rfl
  have hcalls : (past calls).all
      (fun transition => transition.label.registeredId ≠ some "agent:a") = true := rfl
  have hrequests : occurred.all (fun transition => transition.label.registeredId ≠ some "agent:a") = true := rfl
  have hstart : deployment.Shows "agent:a" (.ofRow (AgentRow.ofDefinition executor none)) := by
    refine ⟨fun i row hrow => ?_, _, rfl, rfl⟩
    cases hrow
  obtain ⟨hdispatcher, hrows⟩ := heartbeats_lastApplied reader "agent:a"
  have hknown := hdispatcher before _ (past calls) reached before_known hrun fun transition hmem =>
    of_decide_eq_true (List.all_eq_true.mp hcalls transition hmem)
  have hshown := hrows DockerFleet.Worker runtime deployment final _ occurred rfl hstart hevents
    fun transition hmem => of_decide_eq_true (List.all_eq_true.mp hrequests transition hmem)
  have hlatest : Latest reader [online, offline] offline := latest_offline (by simp) (List.Subset.refl _)
  refine ⟨⟨reached, hrun, ?_⟩, final, hevents, ?_⟩
  · exact (hknown.latest_iff offline (hbeats ▸ hlatest)).mpr (by rw [hbeats]; rfl)
  · exact (hshown.latest_iff offline (hposted ▸ hlatest)).mpr (by rw [hposted]; rfl)

end DelayedRows

end Samples

end KubeOps.ControlPlane
