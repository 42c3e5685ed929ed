import KubeOps.Foundation.Waves
import KubeOps.Models.Planning
import Mathlib.Data.String.Basic

/-! The order in which an operation goes through the environments of a fleet:
waves of bounded size, each behind the waves it depends on. -/
namespace KubeOps.Fleet

open KubeOps.Foundation KubeOps.Models

structure FleetMember where
  environmentId : String
deriving DecidableEq, Repr

/-- `source` depends on `target`, and `reject_self_dependency` tells them apart. -/
structure FleetDependency where
  dependencyId : String
  sourceEnvironmentId : String
  targetEnvironmentId : String
  distinct : sourceEnvironmentId ≠ targetEnvironmentId
deriving DecidableEq, Repr

def FleetDependency.make (dependencyId source target : String) : Except PyError FleetDependency :=
  if h : source = target then
    .error (.valueError "fleet dependencies must connect distinct environments")
  else .ok ⟨dependencyId, source, target, h⟩

/-- The members and dependencies that `validate_members` accepts. -/
structure FleetDefinition where
  fleetId : String
  members : List FleetMember
  dependencies : List FleetDependency
  maxParallelOperations : Nat
  parallel : 1 ≤ maxParallelOperations
  unique : (members.map FleetMember.environmentId).Nodup
  resolved : ∀ dependency ∈ dependencies,
    dependency.sourceEnvironmentId ∈ members.map FleetMember.environmentId ∧
      dependency.targetEnvironmentId ∈ members.map FleetMember.environmentId

namespace FleetDefinition

def make (fleetId : String) (members : List FleetMember) (dependencies : List FleetDependency)
    (maxParallelOperations : Nat) : Except PyError FleetDefinition :=
  if hparallel : 1 ≤ maxParallelOperations then
    if hunique : (members.map FleetMember.environmentId).Nodup then
      if hresolved : ∀ dependency ∈ dependencies,
          dependency.sourceEnvironmentId ∈ members.map FleetMember.environmentId ∧
            dependency.targetEnvironmentId ∈ members.map FleetMember.environmentId then
        .ok ⟨fleetId, members, dependencies, maxParallelOperations, hparallel, hunique, hresolved⟩
      else .error (.valueError "fleet dependency must reference fleet members")
    else .error (.valueError "fleet member environment IDs must be unique")
  else .error (.validationError "Input should be greater than or equal to 1")

def memberIds (fleet : FleetDefinition) : List String := fleet.members.map FleetMember.environmentId

/-- What is operated on first, with what waits for it. Shutdown begins with the
environments that depend on others, all other operations with those depended on. -/
def edges (fleet : FleetDefinition) (operationType : OperationType) : List (String × String) :=
  fleet.dependencies.map fun dependency =>
    if operationType = .shutdown then
      (dependency.sourceEnvironmentId, dependency.targetEnvironmentId)
    else (dependency.targetEnvironmentId, dependency.sourceEnvironmentId)

def Requires (fleet : FleetDefinition) (operationType : OperationType)
    (environment prerequisite : String) : Prop :=
  ∃ dependency ∈ fleet.dependencies,
    if operationType = .shutdown then
      dependency.sourceEnvironmentId = prerequisite ∧ dependency.targetEnvironmentId = environment
    else
      dependency.targetEnvironmentId = prerequisite ∧ dependency.sourceEnvironmentId = environment

/-- No environment depends on itself through others. -/
def Acyclic (fleet : FleetDefinition) : Prop :=
  ∀ environment, ¬ Relation.TransGen (fun source target => ∃ dependency ∈ fleet.dependencies,
    dependency.sourceEnvironmentId = source ∧ dependency.targetEnvironmentId = target)
      environment environment

variable {fleet : FleetDefinition} {operationType : OperationType}
  {environment prerequisite : String}

theorem mem_edges : (prerequisite, environment) ∈ fleet.edges operationType ↔
    fleet.Requires operationType environment prerequisite := by
  simp only [edges, Requires, List.mem_map]
  apply exists_congr
  intro dependency
  split
  · simp
  · simp

theorem links_counted (fleet : FleetDefinition) (operationType : OperationType) :
    (Links.ofEdges (fleet.edges operationType)).Counted fleet.memberIds := by
  apply Links.ofEdges_counted fleet.unique
  intro edge hedge
  obtain ⟨dependency, hmem, rfl⟩ := List.mem_map.mp hedge
  obtain ⟨hsource, htarget⟩ := fleet.resolved dependency hmem
  split
  · exact ⟨hsource, htarget⟩
  · exact ⟨htarget, hsource⟩

theorem Acyclic.requires (h : fleet.Acyclic) :
    ¬ Relation.TransGen (fleet.Requires operationType) environment environment := by
  intro hcycle
  by_cases hshutdown : operationType = .shutdown
  · apply h environment
    rw [← Relation.transGen_swap]
    refine Relation.TransGen.mono ?_ _ _ hcycle
    rintro target source ⟨dependency, hmem, hends⟩
    rw [if_pos hshutdown] at hends
    exact ⟨dependency, hmem, hends⟩
  · apply h environment
    refine Relation.TransGen.mono ?_ _ _ hcycle
    rintro source target ⟨dependency, hmem, hends⟩
    rw [if_neg hshutdown] at hends
    exact ⟨dependency, hmem, hends.symm⟩

theorem acyclic_of_rank (rank : String → Nat) (h : ∀ dependency ∈ fleet.dependencies,
    rank dependency.targetEnvironmentId < rank dependency.sourceEnvironmentId) :
    fleet.Acyclic := by
  suffices hlt : ∀ source target, Relation.TransGen (fun source target =>
      ∃ dependency ∈ fleet.dependencies, dependency.sourceEnvironmentId = source ∧
        dependency.targetEnvironmentId = target) source target → rank target < rank source from
    fun environment hcycle => absurd (hlt _ _ hcycle) (Nat.lt_irrefl _)
  intro source target hpath
  induction hpath with
  | single hstep =>
    obtain ⟨dependency, hmem, rfl, rfl⟩ := hstep
    exact h dependency hmem
  | tail _ hstep ih =>
    obtain ⟨dependency, hmem, rfl, rfl⟩ := hstep
    exact (h dependency hmem).trans ih

end FleetDefinition

structure FleetOperationWave where
  waveIndex : Nat
  environmentIds : List String
  rationale : List String := []
deriving DecidableEq, Repr

structure FleetOperationPlan where
  planId : String
  fleetId : String
  operationType : OperationType
  createdAtIso : String
  waves : List FleetOperationWave
  maxParallelOperations : Nat
  warnings : List String
deriving DecidableEq, Repr

namespace FleetService

def numbered (waves : List (List String)) : List FleetOperationWave :=
  waves.mapIdx fun waveIndex environmentIds => { waveIndex, environmentIds }

def planOperation (python : Python) (planId createdAtIso : String) (fleet : FleetDefinition)
    (operationType : OperationType) : FleetOperationPlan :=
  let members := fleet.memberIds
  let links := Links.ofEdges (fleet.edges operationType)
  let waves := (Schedule.waveSchedule links members fleet.maxParallelOperations).waves
  let processed := waves.flatten
  let plan := {
    planId, fleetId := fleet.fleetId, operationType, createdAtIso, waves := numbered waves
    maxParallelOperations := fleet.maxParallelOperations, warnings := [] }
  if (∀ item ∈ processed, item ∈ members) ∧ ∀ item ∈ members, item ∈ processed then plan
  else
    let cycleMembers := (members.filter (· ∉ processed)).insertionSort (· ≤ ·)
    { plan with
      warnings := [s!"dependency cycle prevents complete wave plan: {python.repr (Json.strings cycleMembers)}"]
      waves := plan.waves ++ [{
        waveIndex := waves.length, environmentIds := cycleMembers
        rationale := ["manual ordering required due to dependency cycle"] }] }

/-- Waves in which all members are operated on, none too early and none too late. -/
structure WavePlan (fleet : FleetDefinition) (operationType : OperationType)
    (waves : List FleetOperationWave) : Prop where
  indexed : ∀ (k : Nat) (wave : FleetOperationWave), waves[k]? = some wave → wave.waveIndex = k
  partition : (waves.flatMap FleetOperationWave.environmentIds).Perm fleet.memberIds
  nonempty : ∀ wave ∈ waves, wave.environmentIds ≠ []
  ordered : ∀ environment prerequisite, fleet.Requires operationType environment prerequisite →
    ∀ earlier ∈ waves, prerequisite ∈ earlier.environmentIds →
    ∀ later ∈ waves, environment ∈ later.environmentIds → earlier.waveIndex < later.waveIndex
  bounded : ∀ wave ∈ waves, wave.environmentIds.length ≤ fleet.maxParallelOperations
  workConserving : ∀ (k : Nat) (before wave : FleetOperationWave), waves[k]? = some before →
    waves[k + 1]? = some wave →
    ∀ environment ∈ wave.environmentIds,
      before.environmentIds.length = fleet.maxParallelOperations ∨
        ∃ prerequisite ∈ before.environmentIds,
          fleet.Requires operationType environment prerequisite

variable {fleet : FleetDefinition} {operationType : OperationType} {waves : List (List String)}
  {wave : FleetOperationWave} {k : Nat}

theorem getElem?_numbered (h : (numbered waves)[k]? = some wave) :
    wave.waveIndex = k ∧ waves[k]? = some wave.environmentIds := by
  rw [numbered, List.getElem?_mapIdx, Option.map_eq_some_iff] at h
  obtain ⟨ids, hids, rfl⟩ := h
  exact ⟨rfl, hids⟩

theorem exists_getElem?_numbered (h : wave ∈ numbered waves) :
    waves[wave.waveIndex]? = some wave.environmentIds := by
  obtain ⟨k, hk⟩ := List.mem_iff_getElem?.mp h
  obtain ⟨hindex, hids⟩ := getElem?_numbered hk
  rw [hindex]
  exact hids

theorem map_numbered : (numbered waves).map FleetOperationWave.environmentIds = waves := by
  apply List.ext_getElem
  · simp [numbered]
  · intro k hleft hright
    simp [numbered]

theorem lt_of_mem_flatten_take {source : String} {i : Nat} {ids : List String}
    (hnodup : waves.flatten.Nodup) (h : source ∈ (waves.take k).flatten)
    (hids : waves[i]? = some ids) (hmem : source ∈ ids) : i < k := by
  by_contra hle
  rw [← List.take_append_drop k waves, List.flatten_append] at hnodup
  apply List.disjoint_of_nodup_append hnodup h
  have hdrop : (waves.drop k)[i - k]? = some ids := by
    rw [List.getElem?_drop, Nat.add_sub_cancel' (Nat.le_of_not_lt hle)]
    exact hids
  exact List.mem_flatten_of_mem (List.mem_of_getElem? hdrop) hmem

theorem wavePlan_of_admitted
    (hperm : waves.flatten.Perm fleet.memberIds)
    (hadmitted : Monitored (Admitted (Links.ofEdges (fleet.edges operationType)) fleet.memberIds
      fleet.maxParallelOperations) waves) :
    WavePlan fleet operationType (numbered waves) := by
  have hrequires : ∀ environment prerequisite,
      environment ∈ (Links.ofEdges (fleet.edges operationType)).outgoing prerequisite ↔
        fleet.Requires operationType environment prerequisite := fun environment prerequisite =>
    Links.mem_outgoing_ofEdges.trans FleetDefinition.mem_edges
  have hwave : ∀ wave ∈ numbered waves,
      Admitted (Links.ofEdges (fleet.edges operationType)) fleet.memberIds
        fleet.maxParallelOperations (waves.take wave.waveIndex) wave.environmentIds :=
    fun wave hmem => hadmitted.permits_getElem (exists_getElem?_numbered hmem)
  refine
    { indexed := fun k wave hk => (getElem?_numbered hk).1
      partition := ?_
      nonempty := fun wave hmem => (hwave wave hmem).nonempty
      ordered := ?_
      bounded := fun wave hmem => (hwave wave hmem).bounded
      workConserving := ?_ }
  · rw [List.flatMap_def, map_numbered]
    exact hperm
  · intro environment prerequisite hneeds earlier hearlier hprerequisite later hlater henvironment
    have hmember : prerequisite ∈ fleet.memberIds := hperm.mem_iff.mp
      (List.mem_flatten_of_mem (List.mem_of_getElem? (exists_getElem?_numbered hearlier)) hprerequisite)
    have hbefore := (hwave later hlater).ordered environment henvironment prerequisite
      (Links.mem_sources.mpr ⟨hmember, (hrequires ..).mpr hneeds⟩)
    exact lt_of_mem_flatten_take (hperm.nodup_iff.mpr fleet.unique) hbefore
      (exists_getElem?_numbered hearlier) hprerequisite
  · intro k before wave hbefore hwave' environment henvironment
    obtain ⟨-, hids⟩ := getElem?_numbered hbefore
    obtain ⟨hindex, -⟩ := getElem?_numbered hwave'
    have heager := (hwave wave (List.mem_of_getElem? hwave')).eager
    have hlast : (waves.take wave.waveIndex).getLast? = some before.environmentIds := by
      rw [hindex, List.getLast?_take]
      simp [hids]
    refine (heager _ hlast).imp_right fun hall => ?_
    obtain ⟨prerequisite, hmem, hlinked⟩ := hall environment henvironment
    exact ⟨prerequisite, hmem, (hrequires ..).mp hlinked⟩

/-- The waves of an operation on a fleet without circular dependencies. -/
theorem planOperation_waves (python : Python) (planId createdAtIso : String)
    (fleet : FleetDefinition) (operationType : OperationType) (h : fleet.Acyclic) :
    WavePlan fleet operationType
      (planOperation python planId createdAtIso fleet operationType).waves := by
  have hlinks := fleet.links_counted operationType
  have hplanned := Schedule.waveSchedule_planned hlinks fleet.unique fleet.parallel
  have hperm := Schedule.flatten_waveSchedule_perm hlinks fleet.unique fleet.parallel fun node => by
    simp only [Links.mem_outgoing_ofEdges, FleetDefinition.mem_edges]
    exact h.requires
  have hwaves : (planOperation python planId createdAtIso fleet operationType).waves = numbered
      (Schedule.waveSchedule (Links.ofEdges (fleet.edges operationType)) fleet.memberIds
        fleet.maxParallelOperations).waves := by
    rw [planOperation, if_pos]
    exact ⟨fun item => hperm.mem_iff.mp, fun item => hperm.mem_iff.mpr⟩
  rw [hwaves]
  exact wavePlan_of_admitted hperm hplanned.admitted

/-- A front end, its interface and the database under it. -/
def threeTier : FleetDefinition where
  fleetId := "f1"
  members := [⟨"ui"⟩, ⟨"api"⟩, ⟨"db"⟩]
  dependencies := [⟨"d1", "api", "db", by decide⟩, ⟨"d2", "ui", "api", by decide⟩]
  maxParallelOperations := 2
  parallel := Nat.le_succ 1
  unique := by decide
  resolved := by decide

theorem threeTier_waves : threeTier.Acyclic ∧ WavePlan threeTier .startup
    (planOperation Python.plain "plan" "2026-07-23T00:00:00+00:00" threeTier .startup).waves := by
  have hacyclic : threeTier.Acyclic := FleetDefinition.acyclic_of_rank
    (fun environment => ["db", "api", "ui"].idxOf environment) (by decide)
  exact ⟨hacyclic, planOperation_waves _ _ _ _ _ hacyclic⟩

example : (planOperation Python.plain "plan" "2026-07-23T00:00:00+00:00" threeTier .shutdown).waves.map
    FleetOperationWave.environmentIds = [["ui"], ["api"], ["db"]] := by decide

end FleetService

end KubeOps.Fleet
