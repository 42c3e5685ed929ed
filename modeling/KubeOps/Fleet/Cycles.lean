import KubeOps.Fleet.Waves
import KubeOps.Foundation.Sorting
import KubeOps.Foundation.Subwaves

/-! Plans for fleets whose dependencies form cycles, and the order in which a fleet
lists its members and dependencies. -/
namespace KubeOps.Fleet

open KubeOps.Foundation KubeOps.Models

namespace FleetDefinition

variable {fleet : FleetDefinition} {operationType : OperationType}
  {environment prerequisite : String}

/-- On a cycle of dependencies, or waiting for one through others. -/
def Blocked (fleet : FleetDefinition) (operationType : OperationType) (environment : String) : Prop :=
  ∃ cyclic, Relation.TransGen (fleet.Requires operationType) cyclic cyclic ∧
    Relation.ReflTransGen (fleet.Requires operationType) environment cyclic

theorem Requires.members (h : fleet.Requires operationType environment prerequisite) :
    environment ∈ fleet.memberIds ∧ prerequisite ∈ fleet.memberIds := by
  obtain ⟨dependency, hmem, hends⟩ := h
  have hresolved := fleet.resolved dependency hmem
  split at hends
  · rw [← hends.1, ← hends.2]
    exact ⟨hresolved.2, hresolved.1⟩
  · rw [← hends.1, ← hends.2]
    exact ⟨hresolved.1, hresolved.2⟩

theorem Blocked.of_requires (hneeds : fleet.Requires operationType environment prerequisite)
    (h : fleet.Blocked operationType prerequisite) : fleet.Blocked operationType environment := by
  obtain ⟨cyclic, hcycle, hpath⟩ := h
  exact ⟨cyclic, hcycle, hpath.head hneeds⟩

theorem Blocked.exists_prerequisite (h : fleet.Blocked operationType environment) :
    ∃ prerequisite, fleet.Requires operationType environment prerequisite ∧
      fleet.Blocked operationType prerequisite := by
  obtain ⟨cyclic, hcycle, hpath⟩ := h
  rcases hpath.cases_head with rfl | ⟨next, hneeds, hrest⟩
  · obtain ⟨next, hneeds, hback⟩ := Relation.TransGen.head'_iff.mp hcycle
    exact ⟨next, hneeds, environment, hcycle, hback⟩
  · exact ⟨next, hneeds, cyclic, hcycle, hrest⟩

theorem Blocked.mem (h : fleet.Blocked operationType environment) :
    environment ∈ fleet.memberIds := by
  obtain ⟨prerequisite, hneeds, -⟩ := h.exists_prerequisite
  exact hneeds.members.1

theorem acyclic_iff (operationType : OperationType) :
    fleet.Acyclic ↔ ∀ environment, ¬ fleet.Blocked operationType environment := by
  constructor
  · intro h environment hblocked
    obtain ⟨cyclic, hcycle, -⟩ := hblocked
    exact h.requires hcycle
  · intro h environment hcycle
    apply h environment
    refine ⟨environment, ?_, .refl⟩
    by_cases hshutdown : operationType = .shutdown
    · rw [← Relation.transGen_swap] at hcycle
      refine Relation.TransGen.mono ?_ _ _ hcycle
      rintro source target ⟨dependency, hmem, hends⟩
      exact ⟨dependency, hmem, by simpa [hshutdown] using hends⟩
    · refine Relation.TransGen.mono ?_ _ _ hcycle
      rintro source target ⟨dependency, hmem, hends⟩
      exact ⟨dependency, hmem, by simpa [hshutdown] using hends.symm⟩

open Classical in
noncomputable def unblocked (fleet : FleetDefinition) (operationType : OperationType) : FleetDefinition where
  fleetId := fleet.fleetId
  members := fleet.members.filter fun member => ¬ fleet.Blocked operationType member.environmentId
  dependencies := fleet.dependencies.filter fun dependency =>
    ¬ fleet.Blocked operationType dependency.sourceEnvironmentId ∧
      ¬ fleet.Blocked operationType dependency.targetEnvironmentId
  maxParallelOperations := fleet.maxParallelOperations
  parallel := fleet.parallel
  unique := by
    apply List.Nodup.sublist _ fleet.unique
    exact List.Sublist.map _ List.filter_sublist
  resolved := by
    intro dependency hmem
    simp only [List.mem_filter, decide_eq_true_eq] at hmem
    obtain ⟨hsource, htarget⟩ := fleet.resolved dependency hmem.1
    simp only [List.mem_map, List.mem_filter, decide_eq_true_eq] at hsource htarget ⊢
    constructor
    · obtain ⟨member, hmember, heq⟩ := hsource
      exact ⟨member, ⟨hmember, heq ▸ hmem.2.1⟩, heq⟩
    · obtain ⟨member, hmember, heq⟩ := htarget
      exact ⟨member, ⟨hmember, heq ▸ hmem.2.2⟩, heq⟩

theorem mem_memberIds_unblocked : environment ∈ (fleet.unblocked operationType).memberIds ↔
    environment ∈ fleet.memberIds ∧ ¬ fleet.Blocked operationType environment := by
  simp only [memberIds, unblocked, List.mem_map, List.mem_filter, decide_eq_true_eq]
  constructor
  · rintro ⟨member, hmember, rfl⟩
    exact ⟨⟨member, hmember.1, rfl⟩, hmember.2⟩
  · rintro ⟨⟨member, hmember, rfl⟩, hfree⟩
    exact ⟨member, ⟨hmember, hfree⟩, rfl⟩

theorem requires_unblocked : (fleet.unblocked operationType).Requires operationType environment prerequisite ↔
    fleet.Requires operationType environment prerequisite ∧ ¬ fleet.Blocked operationType environment := by
  constructor
  · rintro ⟨dependency, hmem, hends⟩
    simp only [unblocked, List.mem_filter, decide_eq_true_eq] at hmem
    refine ⟨⟨dependency, hmem.1, hends⟩, ?_⟩
    split at hends
    · exact hends.2 ▸ hmem.2.2
    · exact hends.2 ▸ hmem.2.1
  · intro h
    have hprerequisite : ¬ fleet.Blocked operationType prerequisite := fun hblocked =>
      h.2 (hblocked.of_requires h.1)
    obtain ⟨⟨dependency, hmem, hends⟩, hfree⟩ := h
    refine ⟨dependency, ?_, hends⟩
    simp only [unblocked, List.mem_filter, decide_eq_true_eq]
    refine ⟨hmem, ?_⟩
    split at hends
    · rw [hends.1, hends.2]
      exact ⟨hprerequisite, hfree⟩
    · rw [hends.1, hends.2]
      exact ⟨hfree, hprerequisite⟩

theorem unblocked_acyclic : (fleet.unblocked operationType).Acyclic := by
  rw [acyclic_iff operationType]
  intro environment hblocked
  obtain ⟨prerequisite, hneeds, -⟩ := hblocked.exists_prerequisite
  apply (requires_unblocked.mp hneeds).2
  obtain ⟨cyclic, hcycle, hpath⟩ := hblocked
  refine ⟨cyclic, ?_, ?_⟩
  · exact Relation.TransGen.mono (fun _ _ h => (requires_unblocked.mp h).1) _ _ hcycle
  · exact Relation.ReflTransGen.mono (fun _ _ h => (requires_unblocked.mp h).1) _ _ hpath

theorem unblocked_part : (Links.ofEdges (fleet.edges operationType)).Part fleet.memberIds
    (Links.ofEdges ((fleet.unblocked operationType).edges operationType))
    (fleet.unblocked operationType).memberIds where
  listed node hnode := (mem_memberIds_unblocked.mp hnode).1
  linked source target := by
    rw [Links.mem_outgoing_ofEdges, mem_edges, Links.mem_outgoing_ofEdges, mem_edges,
      requires_unblocked, mem_memberIds_unblocked]
    constructor
    · intro h
      exact ⟨h.1, h.1.members.1, h.2⟩
    · intro h
      exact ⟨h.1, h.2.2⟩
  closed source target htarget hlinked := by
    rw [Links.mem_outgoing_ofEdges, mem_edges] at hlinked
    rw [mem_memberIds_unblocked] at htarget ⊢
    exact ⟨hlinked.members.2, fun hblocked => htarget.2 (hblocked.of_requires hlinked)⟩
  waiting node hnode hleft := by
    rw [mem_memberIds_unblocked, not_and_not_right] at hleft
    obtain ⟨prerequisite, hneeds, hblocked⟩ := (hleft hnode).exists_prerequisite
    refine ⟨prerequisite, hneeds.members.2, ?_, ?_⟩
    · rw [mem_memberIds_unblocked]
      exact fun h => h.2 hblocked
    · rw [Links.mem_outgoing_ofEdges, mem_edges]
      exact hneeds

end FleetDefinition

namespace FleetService

variable {fleet other : FleetDefinition} {operationType : OperationType}

def queueWaves (fleet : FleetDefinition) (operationType : OperationType) : List (List String) :=
  (Schedule.waveSchedule (Links.ofEdges (fleet.edges operationType)) fleet.memberIds
    fleet.maxParallelOperations).waves

/-- The environments that never get into the queue. -/
def cycleMembers (fleet : FleetDefinition) (operationType : OperationType) : List String :=
  (fleet.memberIds.filter (· ∉ (queueWaves fleet operationType).flatten)).insertionSort (· ≤ ·)

def cycleWarning (python : Python) (cycleMembers : List String) : String :=
  s!"dependency cycle prevents complete wave plan: {python.repr (Json.strings cycleMembers)}"

def manualWave (waveIndex : Nat) (cycleMembers : List String) : FleetOperationWave :=
  { waveIndex, environmentIds := cycleMembers
    rationale := ["manual ordering required due to dependency cycle"] }

theorem mem_cycleMembers {environment : String} : environment ∈ cycleMembers fleet operationType ↔
    environment ∈ fleet.memberIds ∧ environment ∉ (queueWaves fleet operationType).flatten := by
  simp [cycleMembers]

theorem pairwise_cycleMembers : (cycleMembers fleet operationType).Pairwise (· < ·) := by
  have hsorted := List.pairwise_insertionSort (· ≤ ·)
    (fleet.memberIds.filter (· ∉ (queueWaves fleet operationType).flatten))
  have hnodup : (cycleMembers fleet operationType).Nodup :=
    (List.perm_insertionSort ..).nodup_iff.mpr (fleet.unique.filter _)
  exact hsorted.imp₂ (fun _ _ hle hne => lt_of_le_of_ne hle hne) hnodup

theorem processed_iff : ((∀ item ∈ (queueWaves fleet operationType).flatten, item ∈ fleet.memberIds) ∧
    ∀ item ∈ fleet.memberIds, item ∈ (queueWaves fleet operationType).flatten) ↔
      cycleMembers fleet operationType = [] := by
  have hhalf := (Schedule.waveSchedule_planned (fleet.links_counted operationType) fleet.unique
    fleet.parallel).halfway
  rw [List.eq_nil_iff_forall_not_mem]
  simp only [mem_cycleMembers, not_and, not_not]
  constructor
  · intro h
    exact h.2
  · intro h
    exact ⟨fun item hitem => hhalf.listed item (List.mem_append_left _ hitem), h⟩

theorem planOperation_eq (python : Python) (planId createdAtIso : String) (fleet : FleetDefinition)
    (operationType : OperationType) : planOperation python planId createdAtIso fleet operationType =
      { planId, fleetId := fleet.fleetId, operationType, createdAtIso
        maxParallelOperations := fleet.maxParallelOperations
        waves := numbered (queueWaves fleet operationType) ++
          if cycleMembers fleet operationType = [] then []
          else [manualWave (queueWaves fleet operationType).length (cycleMembers fleet operationType)]
        warnings := if cycleMembers fleet operationType = [] then []
          else [cycleWarning python (cycleMembers fleet operationType)] } := by
  by_cases h : cycleMembers fleet operationType = []
  · rw [if_pos h, if_pos h, List.append_nil]
    exact if_pos (processed_iff.mpr h)
  · rw [if_neg h, if_neg h]
    exact if_neg (mt processed_iff.mp h)

theorem queueWaves_part (hpart : (Links.ofEdges (fleet.edges operationType)).Part fleet.memberIds
      (Links.ofEdges (other.edges operationType)) other.memberIds)
    (hwidth : other.maxParallelOperations = fleet.maxParallelOperations) :
    queueWaves other operationType = queueWaves fleet operationType := by
  rw [queueWaves, hwidth]
  exact Schedule.waveSchedule_part hpart (fleet.links_counted operationType)
    (other.links_counted operationType) fleet.unique other.unique fleet.parallel

theorem queueWaves_unblocked :
    queueWaves (fleet.unblocked operationType) operationType = queueWaves fleet operationType :=
  queueWaves_part FleetDefinition.unblocked_part rfl

theorem mem_cycleMembers_iff {environment : String} :
    environment ∈ cycleMembers fleet operationType ↔ fleet.Blocked operationType environment := by
  have hperm : (queueWaves (fleet.unblocked operationType) operationType).flatten.Perm
      (fleet.unblocked operationType).memberIds :=
    Schedule.flatten_waveSchedule_perm ((fleet.unblocked operationType).links_counted operationType)
      (fleet.unblocked operationType).unique (fleet.unblocked operationType).parallel fun node => by
        simp only [Links.mem_outgoing_ofEdges, FleetDefinition.mem_edges]
        exact FleetDefinition.unblocked_acyclic.requires
  rw [queueWaves_unblocked] at hperm
  rw [mem_cycleMembers, hperm.mem_iff, FleetDefinition.mem_memberIds_unblocked, not_and_not_right]
  constructor
  · intro h
    exact h.2 h.1
  · intro h
    exact ⟨h.mem, fun _ => h⟩

theorem cycleMembers_eq_nil : cycleMembers fleet operationType = [] ↔ fleet.Acyclic := by
  rw [FleetDefinition.acyclic_iff operationType, List.eq_nil_iff_forall_not_mem]
  simp only [mem_cycleMembers_iff]

theorem waves_unblocked (python : Python) (planId createdAtIso : String) :
    (planOperation python planId createdAtIso (fleet.unblocked operationType) operationType).waves =
      numbered (queueWaves fleet operationType) := by
  rw [planOperation_eq, if_pos (cycleMembers_eq_nil.mpr FleetDefinition.unblocked_acyclic),
    queueWaves_unblocked, List.append_nil]

theorem WavePlan.lt_of_transGen {waves : List FleetOperationWave} {environment prerequisite : String}
    (h : WavePlan fleet operationType waves)
    (hpath : Relation.TransGen (fleet.Requires operationType) environment prerequisite)
    {earlier later : FleetOperationWave} (hearlier : earlier ∈ waves)
    (hprerequisite : prerequisite ∈ earlier.environmentIds) (hlater : later ∈ waves)
    (henvironment : environment ∈ later.environmentIds) : earlier.waveIndex < later.waveIndex := by
  induction hpath generalizing earlier with
  | single hneeds => exact h.ordered _ _ hneeds earlier hearlier hprerequisite later hlater henvironment
  | tail hpath hneeds ih =>
    have hmember : _ ∈ waves.flatMap FleetOperationWave.environmentIds :=
      h.partition.mem_iff.mpr hneeds.members.1
    obtain ⟨middle, hmiddle, hmem⟩ := List.mem_flatMap.mp hmember
    exact (h.ordered _ _ hneeds earlier hearlier hprerequisite middle hmiddle hmem).trans
      (ih hmiddle hmem)

theorem transGen_unblocked {environment prerequisite : String}
    (h : ¬ fleet.Blocked operationType environment)
    (hpath : Relation.TransGen (fleet.Requires operationType) environment prerequisite) :
    Relation.TransGen ((fleet.unblocked operationType).Requires operationType) environment
      prerequisite := by
  induction hpath using Relation.TransGen.head_induction_on with
  | single hneeds => exact .single (FleetDefinition.requires_unblocked.mpr ⟨hneeds, h⟩)
  | head hneeds _ ih =>
    have hnext := fun hblocked => h (FleetDefinition.Blocked.of_requires hneeds hblocked)
    exact .head (FleetDefinition.requires_unblocked.mpr ⟨hneeds, h⟩) (ih hnext)

/-- A fleet with cycles: what is clear of them is planned as if the rest were not there, and
the rest is one last wave, under a warning, in the order of the ids. -/
theorem planOperation_degrades (python : Python) (planId createdAtIso : String) (fleet : FleetDefinition)
    (operationType : OperationType) :
    let plan := planOperation python planId createdAtIso fleet operationType
    let clear := planOperation python planId createdAtIso (fleet.unblocked operationType) operationType
    (plan.warnings = [] ↔ fleet.Acyclic) ∧
    (fleet.unblocked operationType).Acyclic ∧
    WavePlan (fleet.unblocked operationType) operationType clear.waves ∧
    (fleet.Acyclic → plan.waves = clear.waves) ∧
    (¬ fleet.Acyclic → ∃ blocked : List String, blocked.Pairwise (· < ·) ∧
      (∀ environment, environment ∈ blocked ↔ fleet.Blocked operationType environment) ∧
      plan.warnings = [cycleWarning python blocked] ∧
      plan.waves = clear.waves ++ [manualWave clear.waves.length blocked]) ∧
    ∀ wave ∈ clear.waves, wave.environmentIds.length ≤ fleet.maxParallelOperations ∧
      ∀ environment ∈ wave.environmentIds, ∀ prerequisite ∈ wave.environmentIds,
        ¬ Relation.TransGen (fleet.Requires operationType) environment prerequisite := by
  intro plan clear
  have hclear : clear.waves = numbered (queueWaves fleet operationType) := waves_unblocked ..
  have hwaves : WavePlan (fleet.unblocked operationType) operationType clear.waves :=
    planOperation_waves python planId createdAtIso _ operationType FleetDefinition.unblocked_acyclic
  have hplan : plan = _ := planOperation_eq python planId createdAtIso fleet operationType
  refine ⟨?_, FleetDefinition.unblocked_acyclic, hwaves, fun hacyclic => ?_, fun hcyclic => ?_,
    fun wave hwave => ⟨hwaves.bounded wave hwave, ?_⟩⟩
  · have hnil : cycleMembers fleet operationType = [] ↔ fleet.Acyclic := cycleMembers_eq_nil
    rw [← hnil, hplan]
    simp
  · rw [hplan, hclear, if_pos (cycleMembers_eq_nil.mpr hacyclic), List.append_nil]
  · refine ⟨cycleMembers fleet operationType, pairwise_cycleMembers, fun _ => mem_cycleMembers_iff, ?_, ?_⟩
    · rw [hplan]
      exact if_neg (mt cycleMembers_eq_nil.mp hcyclic)
    · rw [hplan, hclear, if_neg (mt cycleMembers_eq_nil.mp hcyclic)]
      simp [numbered]
  · intro environment henvironment prerequisite hprerequisite hpath
    have hmember : environment ∈ (fleet.unblocked operationType).memberIds :=
      hwaves.partition.mem_iff.mp (List.mem_flatMap.mpr ⟨wave, hwave, henvironment⟩)
    have hinner := transGen_unblocked (FleetDefinition.mem_memberIds_unblocked.mp hmember).2 hpath
    exact Nat.lt_irrefl _ (hwaves.lt_of_transGen hinner hwave hprerequisite hwave henvironment)

theorem one_parallel : 1 ≤ 1 := Nat.le_refl 1

/-- Two environments that need each other, and one that needs both. -/
def tangled : FleetDefinition where
  fleetId := "f1"
  members := [⟨"auth"⟩, ⟨"store"⟩, ⟨"web"⟩]
  dependencies := [⟨"d1", "auth", "store", by decide⟩, ⟨"d2", "store", "auth", by decide⟩,
    ⟨"d3", "web", "auth", by decide⟩]
  maxParallelOperations := 1
  parallel := one_parallel
  unique := by decide
  resolved := by decide

/-- One wave holds all three although only one may be operated on at a time, and `web` is
in it together with `auth`, which it depends on without being on the cycle. -/
theorem tangled_manualWave :
    (planOperation Python.plain "plan" "2026-07-23T00:00:00+00:00" tangled .startup).waves =
      [manualWave 0 ["auth", "store", "web"]] ∧
    tangled.maxParallelOperations < (manualWave 0 ["auth", "store", "web"]).environmentIds.length ∧
    tangled.Requires .startup "web" "auth" ∧
    ¬ Relation.TransGen (tangled.Requires .startup) "web" "web" := by
  have hneeds : tangled.Requires .startup "web" "auth" :=
    FleetDefinition.mem_edges.mp (by decide)
  refine ⟨by decide, by decide, hneeds, fun hcycle => ?_⟩
  obtain ⟨needing, -, hneeds⟩ := Relation.TransGen.tail'_iff.mp hcycle
  revert hneeds
  simp [FleetDefinition.Requires, tangled]

theorem part_of_same (hmembers : other.members.Perm fleet.members)
    (hdependencies : ∀ dependency, dependency ∈ other.dependencies ↔ dependency ∈ fleet.dependencies) :
    (Links.ofEdges (fleet.edges operationType)).Part fleet.memberIds
      (Links.ofEdges (other.edges operationType)) other.memberIds := by
  have hids : ∀ node, node ∈ other.memberIds ↔ node ∈ fleet.memberIds := fun node =>
    (hmembers.map FleetMember.environmentId).mem_iff
  have hrequires : ∀ source target, target ∈ (Links.ofEdges (other.edges operationType)).outgoing source ↔
      fleet.Requires operationType target source := by
    intro source target
    rw [Links.mem_outgoing_ofEdges, FleetDefinition.mem_edges]
    simp only [FleetDefinition.Requires, hdependencies]
  refine ⟨fun node => (hids node).mp, fun source target => ?_, fun source target _ hlinked => ?_,
    fun node hnode hleft => absurd ((hids node).mpr hnode) hleft⟩
  · rw [hrequires, Links.mem_outgoing_ofEdges, FleetDefinition.mem_edges, hids]
    constructor
    · intro h
      exact ⟨h, h.members.1⟩
    · intro h
      exact h.1
  · rw [Links.mem_outgoing_ofEdges, FleetDefinition.mem_edges] at hlinked
    exact (hids source).mpr hlinked.members.2

/-- The order of the members and the order and repetition of the dependencies do not show. -/
theorem planOperation_canonical (python : Python) (planId otherId createdAtIso otherIso : String)
    (fleet other : FleetDefinition) (operationType : OperationType)
    (hmembers : other.members.Perm fleet.members)
    (hdependencies : ∀ dependency, dependency ∈ other.dependencies ↔ dependency ∈ fleet.dependencies)
    (hparallel : other.maxParallelOperations = fleet.maxParallelOperations) :
    (planOperation python otherId otherIso other operationType).waves =
        (planOperation python planId createdAtIso fleet operationType).waves ∧
      (planOperation python otherId otherIso other operationType).warnings =
        (planOperation python planId createdAtIso fleet operationType).warnings := by
  have hwaves : queueWaves other operationType = queueWaves fleet operationType :=
    queueWaves_part (part_of_same hmembers hdependencies) hparallel
  have hleft : cycleMembers other operationType = cycleMembers fleet operationType := by
    rw [cycleMembers, hwaves]
    exact insertionSort_eq_of_perm ((hmembers.map FleetMember.environmentId).filter _)
  rw [planOperation_eq, planOperation_eq, hwaves, hleft]
  exact ⟨rfl, rfl⟩

/-- The same three environments in another order, with a dependency said twice. -/
def retangled : FleetDefinition where
  fleetId := "f1"
  members := [⟨"web"⟩, ⟨"auth"⟩, ⟨"store"⟩]
  dependencies := [⟨"d3", "web", "auth", by decide⟩, ⟨"d2", "store", "auth", by decide⟩,
    ⟨"d1", "auth", "store", by decide⟩, ⟨"d2", "store", "auth", by decide⟩]
  maxParallelOperations := 1
  parallel := one_parallel
  unique := by decide
  resolved := by decide

theorem retangled_canonical :
    (planOperation Python.plain "plan-2" "2026-07-24T00:00:00+00:00" retangled .shutdown).waves =
        (planOperation Python.plain "plan-1" "2026-07-23T00:00:00+00:00" tangled .shutdown).waves ∧
      (planOperation Python.plain "plan-2" "2026-07-24T00:00:00+00:00" retangled .shutdown).warnings =
        (planOperation Python.plain "plan-1" "2026-07-23T00:00:00+00:00" tangled .shutdown).warnings :=
  planOperation_canonical Python.plain "plan-1" "plan-2" "2026-07-23T00:00:00+00:00"
    "2026-07-24T00:00:00+00:00" tangled retangled .shutdown (by decide) (by
      simp only [tangled, retangled, List.mem_cons, List.not_mem_nil, or_false]
      tauto) rfl

end FleetService

end KubeOps.Fleet
