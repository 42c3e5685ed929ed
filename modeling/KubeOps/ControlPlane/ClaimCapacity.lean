import KubeOps.ControlPlane.Claims
import KubeOps.ControlPlane.Fencing

/-! The capacity of an agent over the requests that claim and complete tasks and the
sweeps that expire leases. The leases the database holds are not among what the
dispatcher of a claim knows. -/
namespace KubeOps.ControlPlane

open KubeOps.Foundation KubeOps.Models KubeOps.Distributed
open KubeOps.Distributed.DistributedDispatcher (Generated)

section Counting

variable {database reached : Database} {agentId : String} {now later : Int}

def TaskLeaseRecord.Live (agentId : String) (now : Int) (lease : TaskLeaseRecord) : Prop :=
  lease.agentId = agentId ∧ lease.status = .active ∧ now < lease.expiresAt

instance (agentId : String) (now : Int) : DecidablePred (TaskLeaseRecord.Live agentId now) := by
  intro lease
  unfold TaskLeaseRecord.Live
  infer_instance

def liveCount (database : Database) (agentId : String) (now : Int) : Nat :=
  (database.leases.rows.filter fun lease => lease.Live agentId now).length

def NoneActivated (database reached : Database) : Prop :=
  ∀ leaseId lease, reached.leases.get? leaseId = some lease → lease.status = .active →
    database.leases.get? leaseId = some lease

theorem liveCount_le (h : NoneActivated database reached) (hle : now ≤ later) :
    liveCount reached agentId later ≤ liveCount database agentId now := by
  have hcount : liveCount reached agentId later ≤
      ([] : List String).length + liveCount database agentId now := by
    apply Dict.length_filter_values_le
    intro leaseId lease hlease hlive
    obtain ⟨hagent, hactive, hleft⟩ := of_decide_eq_true hlive
    exact .inr ⟨lease, h leaseId lease hlease hactive, decide_eq_true ⟨hagent, hactive, by omega⟩⟩
  rwa [List.length_nil, Nat.zero_add] at hcount

theorem liveCount_put {row : TaskLeaseRecord} (hleases : reached.leases = database.leases.put row)
    (hfresh : database.leases.get? row.leaseId = none) :
    liveCount reached agentId now =
      liveCount database agentId now + if row.Live agentId now then 1 else 0 := by
  rw [liveCount, liveCount, hleases, Table.rows_put_new hfresh, List.filter_append, List.length_append]
  congr 1
  split
  · rename_i hlive
    simp [hlive]
  · rename_i hlive
    simp [hlive]

theorem NoneActivated.refl (database : Database) : NoneActivated database database :=
  fun _ _ hlease _ => hlease

theorem NoneActivated.saveLease (database : Database) {lease : TaskLeaseRecord} (h : lease.status ≠ .active) :
    NoneActivated database (database.saveLease lease) := by
  intro leaseId found hfound hactive
  rw [get?_saveLease] at hfound
  split at hfound
  · obtain ⟨row, -, rfl⟩ := Option.map_eq_some_iff.mp hfound
    exact absurd hactive h
  · exact hfound

theorem postCompletion_noneActivated (python : Python) (database : Database) (taskId : String)
    (data : JsonObject) (now : Int) :
    NoneActivated database (postCompletion python database taskId data now).2 := by
  rcases postCompletion_cases taskId data now with
    hsame | ⟨lease, task, nonce, -, -, -, ⟨-, hexpired⟩ | ⟨-, success, hreleased⟩⟩
  · rw [hsame]
    exact .refl database
  · rw [hexpired]
    exact .saveLease database nofun
  · rw [hreleased]
    exact NoneActivated.saveLease database nofun

theorem expireStaleLeases_noneActivated {python : Python} {locked affected : List String}
    (h : expireStaleLeases python database locked now = .ok (reached, affected)) :
    NoneActivated database reached := by
  intro leaseId lease hlease hactive
  rcases expireStaleLeases_swept h leaseId with hsame | ⟨-, hexpired⟩
  · rwa [← hsame]
  · rw [hlease, Option.map_some, hactive] at hexpired
    cases hexpired

end Counting

section Runs

/-- A request that claims or completes a task, or a sweep of the overdue leases. -/
inductive LeaseEvent where
  | claim (request : ClaimRequest) (generated : Generated) (now : Int)
  | complete (taskId : String) (data : JsonObject) (now : Int)
  | expire (locked : List String) (now : Int)

/-- The database and the instant of the last event. -/
structure LeaseState where
  database : Database
  clock : Int

namespace LeaseEvent

def now : LeaseEvent → Int
  | .claim _ _ now | .complete _ _ now | .expire _ now => now

variable (python : Python) (agents : AgentTable)

/-- A sweep that raises is rolled back. -/
def perform (database : Database) : LeaseEvent → Database
  | .claim request generated now => (request.post python database agents generated now).2
  | .complete taskId data now => (postCompletion python database taskId data now).2
  | .expire locked now =>
    match expireStaleLeases python database locked now with
    | .ok (reached, _) => reached
    | .error _ => database

/-- Time does not go back from one event to the next. -/
def step (event : LeaseEvent) (state : LeaseState) : Option LeaseState :=
  if state.clock ≤ event.now then some ⟨event.perform python agents state.database, event.now⟩ else none

/-- A claim that can be granted, under a lease that lasts, finds the agent with room. -/
def Spare (state : LeaseState) : LeaseEvent → Prop
  | .claim request generated now => ∀ agent task,
    Grantable python state.database agents request generated now agent task →
      0 < agent.payload.fields.leaseTtlSeconds →
        liveCount state.database agent.agentId now < agent.maxConcurrency
  | .complete .. | .expire .. => True

end LeaseEvent

def WithinCapacity (agents : AgentTable) (state : LeaseState) : Prop :=
  ∀ agentId agent, agents.get? agentId = some agent →
    ∀ now ≥ state.clock, liveCount state.database agentId now ≤ agent.maxConcurrency

variable {python : Python} {agents : AgentTable} {start before after reached : LeaseState}
  {event : LeaseEvent} {past : List (Transition LeaseState LeaseEvent)}

theorem WithinCapacity.noneActivated {database : Database} {now : Int} (h : WithinCapacity agents before)
    (hle : before.clock ≤ now) (hnone : NoneActivated before.database database) :
    WithinCapacity agents ⟨database, now⟩ := by
  intro agentId agent hagent later hlater
  exact (liveCount_le hnone (le_refl later)).trans (h agentId agent hagent later (hle.trans hlater))

theorem live_of_granted {database reached : Database} {agent : AgentRow} {task : ExecutionTaskRecord}
    {now : Int} {row : TaskLeaseRecord} (h : Granted agent task now database reached row) :
    row.Live agent.agentId now ↔ 0 < agent.payload.fields.leaseTtlSeconds := by
  unfold TaskLeaseRecord.Live
  rw [h.agentId, h.active, h.expiresAt]
  simp only [true_and]
  omega

theorem post_within_iff {request : ClaimRequest} {generated : Generated} {now : Int}
    (hle : before.clock ≤ now) (hbefore : WithinCapacity agents before) :
    WithinCapacity agents ⟨(request.post python before.database agents generated now).2, now⟩ ↔
      (LeaseEvent.claim request generated now).Spare python agents before := by
  constructor
  · intro hafter agent task hgrantable hlasting
    obtain ⟨row, hgranted⟩ := post_of_grantable hgrantable
    have hkey := Table.key_of_get? hgrantable.registered
    have hstored : agents.get? agent.agentId = some agent := by
      rw [hkey]
      exact hgrantable.registered
    have hcount := hafter agent.agentId agent hstored now (le_refl now)
    rw [liveCount_put hgranted.leases hgranted.fresh,
      if_pos ((live_of_granted hgranted).mpr hlasting)] at hcount
    omega
  · intro hspare
    rcases post_eq_or_grantable python before.database agents request generated now with
      hsame | ⟨chosen, task, hgrantable⟩
    · rw [hsame]
      exact hbefore.noneActivated hle (.refl _)
    · obtain ⟨row, hgranted⟩ := post_of_grantable hgrantable
      intro agentId agent hagent later hlater
      have hnow : now ≤ later := hlater
      have hroom := hbefore agentId agent hagent later (hle.trans hlater)
      rw [liveCount_put hgranted.leases hgranted.fresh]
      split
      · -- The lease that is granted counts, so it is the agent's and there was room for it.
        rename_i hlive
        have hsame : chosen.agentId = agentId := by
          rw [← hgranted.agentId]
          exact hlive.1
        have hchosen : agent = chosen := by
          have hregistered := hgrantable.registered
          rw [← Table.key_of_get? hregistered, hsame, hagent] at hregistered
          exact Option.some.inj hregistered
        subst hchosen
        have hlasting : 0 < agent.payload.fields.leaseTtlSeconds :=
          (live_of_granted hgranted).mp ⟨hgranted.agentId, hgranted.active, hnow.trans_lt hlive.2.2⟩
        have hspared := hspare agent task hgrantable hlasting
        rw [hsame] at hspared
        have hfewer : liveCount before.database agentId later ≤ liveCount before.database agentId now :=
          liveCount_le (.refl _) hnow
        omega
      · omega

theorem step_within_iff (hstep : event.step python agents before = some after)
    (hbefore : WithinCapacity agents before) :
    WithinCapacity agents after ↔ event.Spare python agents before := by
  obtain ⟨hle, hafter⟩ := Option.ite_none_right_eq_some.mp hstep
  rw [← Option.some.inj hafter]
  cases event with
  | claim request generated now => exact post_within_iff hle hbefore
  | complete taskId data now =>
    apply iff_of_true _ trivial
    exact hbefore.noneActivated hle (postCompletion_noneActivated python before.database taskId data now)
  | expire locked now =>
    apply iff_of_true _ trivial
    apply hbefore.noneActivated hle
    simp only [LeaseEvent.perform]
    split
    · rename_i hexpire
      exact expireStaleLeases_noneActivated hexpire
    · exact .refl _

/-- Over a run of claims, completions and sweeps every agent stays within its capacity
exactly when each claim that is granted finds room. -/
theorem capacity_kept_iff (hrun : Run (LeaseEvent.step python agents) start past reached)
    (hstart : WithinCapacity agents start) :
    (∀ transition ∈ past, WithinCapacity agents transition.after) ↔
      ∀ transition ∈ past, transition.label.Spare python agents transition.before :=
  hrun.forall_after_iff hstart fun _ _ hstep hbefore => step_within_iff hstep hbefore

end Runs

section Agents

namespace ClaimFleet

open DockerFleet (midnight plane)

/-- Midnight is written as it is read. -/
def python : Python :=
  { DockerFleet.python with
    isoFormat := fun instant =>
      if instant = midnight then "2026-01-01T00:00:00+00:00" else DockerFleet.python.isoFormat instant }

/-- An agent that may run one task at a time. -/
def agent : AgentRow := AgentRow.ofDefinition {
  agentId := "executor-1"
  organizationId := "default"
  workspaceId := "default"
  status := .online
  supportedExecutorIds := ["simulation"] } (some midnight)

def agents : AgentTable := Table.empty.put agent

def start : LeaseState := ⟨(plane ["db", "web"]).database, midnight⟩

def claim (container : String) : LeaseEvent :=
  .claim ⟨s!"task:{container}", Dict.ofList [("agent_id", .str "executor-1")], "default", "default"⟩
    ⟨container, container, container⟩ midnight

def claims (containers : List String) : List (Transition LeaseState LeaseEvent) :=
  (history (LeaseEvent.step python agents) start (containers.map claim)).getD []

theorem start_within : WithinCapacity agents start := by
  intro agentId agent hagent now hlater
  exact Nat.zero_le _

theorem run_claims (containers : List String)
    (h : (history (LeaseEvent.step python agents) start (containers.map claim)).isSome = true) :
    ∃ reached, Run (LeaseEvent.step python agents) start (claims containers) reached :=
  Run.of_isSome h

theorem spare_of_empty {state : LeaseState} (hempty : state.database.leases.rows = []) (event : LeaseEvent) :
    event.Spare python agents state := by
  cases event with
  | claim request generated now =>
    intro found task hgrantable _
    have hregistered := hgrantable.registered
    rw [agents, Table.get?_put] at hregistered
    split at hregistered
    · cases hregistered
      rw [liveCount, hempty]
      exact Nat.zero_lt_one
    · cases hregistered
  | complete => trivial
  | expire => trivial

/-- The first claim finds the agent free. -/
theorem firstClaim_within : (claims ["db"]).length = 1 ∧
    ∀ transition ∈ claims ["db"], WithinCapacity agents transition.after := by
  obtain ⟨reached, hrun⟩ := run_claims ["db"] (by decide)
  refine ⟨by decide, ?_⟩
  have hempty : (claims ["db"]).all (fun transition =>
      transition.before.database.leases.rows.isEmpty) = true := by decide
  apply (capacity_kept_iff hrun start_within).mpr
  intro transition hmem
  exact spare_of_empty (List.isEmpty_iff.mp (List.all_eq_true.mp hempty transition hmem)) _

/-- With one task leased to it the agent, which may run one at a time, is let another. -/
theorem secondClaim_exceeds :
    (∃ reached, Run (LeaseEvent.step python agents) start (claims ["db", "web"]) reached) ∧
      WithinCapacity agents start ∧
      ¬ ∀ transition ∈ claims ["db", "web"], WithinCapacity agents transition.after := by
  refine ⟨run_claims _ (by decide), start_within, fun hwithin => ?_⟩
  have hlast : (claims ["db", "web"])[1]?.map (fun transition =>
      (transition.after.clock, liveCount transition.after.database agent.agentId transition.after.clock)) =
        some (midnight, 2) := by
    decide +kernel
  obtain ⟨transition, htransition, hfacts⟩ := Option.map_eq_some_iff.mp hlast
  obtain ⟨-, hcount⟩ := Prod.mk.inj hfacts
  have hstored : agents.get? agent.agentId = some agent := by
    rw [agents, Table.get?_put, if_pos rfl]
  have hle := hwithin transition (List.mem_of_getElem? htransition) agent.agentId agent hstored _ (le_refl _)
  rw [hcount] at hle
  exact absurd hle (by decide)

end ClaimFleet

end Agents

end KubeOps.ControlPlane
