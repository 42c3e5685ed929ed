import KubeOps.Models.Lifecycle
import KubeOps.Models.PlanGraph

/-! The two checks for cycles. The stack holds whatever is free and not visited, so that it runs empty only
when everything left waits for something left; and without a cycle nothing does. -/
namespace KubeOps.Models.RecoveryPlan

open KubeOps.Foundation

variable {initial : Dict String (List String)} {traversal : Traversal} {actionId : String} {fuel : Nat}

/-- Whatever waits for nothing that is left is visited or on the stack. -/
def Traversal.Fed (initial : Dict String (List String)) (traversal : Traversal) : Prop :=
  ∀ candidate ∈ initial.keys, (∀ dependency, DependsOn initial candidate dependency →
    dependency ∈ traversal.visited) →
    candidate ∈ traversal.visited ∨ candidate ∈ traversal.ready

theorem mem_ready_startTraversal {deps : List String} (h : (actionId, deps) ∈ initial.entries)
    (hempty : deps = []) :
    actionId ∈ (startTraversal initial).ready :=
  List.mem_map.mpr ⟨(actionId, deps), List.mem_filter.mpr ⟨h, by simp [hempty]⟩, rfl⟩

theorem startTraversal_fed (initial : Dict String (List String)) : (startTraversal initial).Fed initial := by
  intro candidate hkey hfree
  obtain ⟨deps, hentry⟩ := Dict.mem_keys.mp hkey
  refine Or.inr (mem_ready_startTraversal hentry ?_)
  apply List.eq_nil_iff_forall_not_mem.mpr
  intro dependency hmem
  exact absurd (hfree dependency ⟨deps, hentry, hmem⟩) List.not_mem_nil

theorem Traversal.Fed.pop (h : traversal.Fed initial) (htop : traversal.ready.getLast? = some actionId)
    (hvisited : actionId ∈ traversal.visited) :
    Traversal.Fed initial { traversal with ready := traversal.ready.dropLast } := by
  intro candidate hkey hfree
  rcases h candidate hkey hfree with hold | hready
  · exact Or.inl hold
  · obtain ⟨front, hfront⟩ := List.getLast?_eq_some_iff.mp htop
    rw [hfront, List.mem_append, List.mem_singleton] at hready
    rcases hready with hready | rfl
    · right
      show candidate ∈ traversal.ready.dropLast
      rwa [hfront, List.dropLast_concat]
    · exact Or.inl hvisited

theorem Traversal.Sound.visit_fed (hsound : traversal.Sound initial) :
    (traversal.visit actionId).Fed initial := by
  intro candidate hkey hfree
  by_cases hvisited : candidate ∈ (traversal.visit actionId).visited
  · exact Or.inl hvisited
  · right
    obtain ⟨deps, hentry⟩ := Dict.mem_keys.mp hkey
    refine List.mem_append_right _ (List.mem_map.mpr ⟨(candidate, []), List.mem_filter.mpr ⟨?_, ?_⟩, rfl⟩)
    · rw [hsound.remaining, Dict.mapValues_mapValues, Dict.mem_entries_mapValues]
      refine ⟨deps, hentry, ?_⟩
      rw [Function.comp_apply, List.filter_filter, List.filter_eq_nil_iff]
      intro dependency hmem
      rcases List.mem_append.mp (hfree dependency ⟨deps, hentry, hmem⟩) with hold | hnew
      · simp [hold]
      · simp [List.mem_singleton.mp hnew]
    · exact decide_eq_true ⟨rfl, hvisited⟩

theorem traverse_fed (fuel : Nat) (h : traversal.Fed initial) (hsound : traversal.Sound initial) :
    (traverse fuel traversal).Fed initial := by
  induction fuel generalizing traversal with
  | zero => exact h
  | succ fuel ih =>
    rw [traverse]
    split
    · exact h
    · rename_i actionId htop
      split
      · rename_i hvisited
        exact ih (h.pop htop hvisited) hsound.pop
      · rename_i hfresh
        exact ih hsound.visit_fed (hsound.visit (List.mem_of_getLast? htop) hfresh)

def Known (dependencies : Dict String (List String)) : Prop :=
  ∀ actionId dependency, DependsOn dependencies actionId dependency → dependency ∈ dependencies.keys

/-- Something depends on itself, through others or not. -/
def Cyclic (dependencies : Dict String (List String)) : Prop :=
  ∃ actionId, Relation.TransGen (DependsOn dependencies) actionId actionId

/-- The loop as it ends: its stack is empty, and more turns would change nothing. -/
structure Ends (dependencies : Dict String (List String)) (finished : Traversal) : Prop where
  ready : finished.ready = []
  turns : ∀ fuel, traversalBound dependencies ≤ fuel → traverse fuel (startTraversal dependencies) = finished

theorem traverse_of_empty (fuel : Nat) (h : traversal.ready = []) : traverse fuel traversal = traversal := by
  cases fuel with
  | zero => rfl
  | succ fuel => rw [traverse, h]; rfl

theorem traverse_add (more : Nat) : traverse (fuel + more) traversal =
    traverse more (traverse fuel traversal) := by
  induction fuel generalizing traversal with
  | zero => rw [Nat.zero_add, traverse]
  | succ fuel ih =>
    rw [Nat.add_right_comm, traverse, traverse]
    split
    · rename_i hnone
      exact (traverse_of_empty more (List.getLast?_eq_none_iff.mp hnone)).symm
    · split
      · exact ih
      · exact ih

theorem traversal_ends_once (dependencies : Dict String (List String)) :
    Ends dependencies (traverse (traversalBound dependencies) (startTraversal dependencies)) where
  ready := traversal_ends dependencies
  turns := by
    intro fuel hfuel
    obtain ⟨more, rfl⟩ := Nat.exists_eq_add_of_le hfuel
    rw [traverse_add, traverse_of_empty more (traversal_ends dependencies)]

theorem visited_all_iff {dependencies : Dict String (List String)} (hknown : Known dependencies)
    {finished : Traversal}
    (hends : Ends dependencies finished) : finished.visited.length = dependencies.size ↔
      ¬ Cyclic dependencies := by
  have hfinished := hends.turns _ (Nat.le_refl _)
  have hsound : finished.Sound dependencies := hfinished ▸ traverse_sound _ (startTraversal_sound dependencies)
  have hfed : finished.Fed dependencies :=
    hfinished ▸ traverse_fed _ (startTraversal_fed dependencies) (startTraversal_sound dependencies)
  constructor
  · rintro hlength ⟨actionId, hcycle⟩
    rw [← Dict.length_keys] at hlength
    have hperm := (List.subperm_of_subset hsound.nodup hsound.known).perm_of_length_le (le_of_eq hlength.symm)
    obtain ⟨dependency, ⟨deps, hentry, -⟩, -⟩ := Relation.TransGen.head'_iff.mp hcycle
    exact hsound.ordered.not_transGen_self (hperm.mem_iff.mpr (Dict.mem_keys.mpr ⟨deps, hentry⟩)) hcycle
  · intro hacyclic
    have hall : ∀ candidate ∈ dependencies.keys, candidate ∈ finished.visited := by
      by_contra hleft
      push Not at hleft
      obtain ⟨candidate, hkey, hfresh⟩ := hleft
      have hremaining : ∀ other, other ∈ dependencies.keys.filter (fun other => other ∉ finished.visited) ↔
          other ∈ dependencies.keys ∧ other ∉ finished.visited := by simp
      obtain ⟨last, hlast, hnone⟩ := exists_last_of_acyclic (fun item hitem => hacyclic ⟨item, hitem⟩)
        ((hremaining candidate).mpr ⟨hkey, hfresh⟩)
      obtain ⟨hlastKey, hlastFresh⟩ := (hremaining last).mp hlast
      have hfree : ∀ dependency, DependsOn dependencies last dependency → dependency ∈ finished.visited := by
        intro dependency hdepends
        by_contra hout
        exact hnone dependency ((hremaining dependency).mpr ⟨hknown last dependency hdepends, hout⟩) hdepends
      rcases hfed last hlastKey hfree with hvisited | hready
      · exact hlastFresh hvisited
      · rw [hends.ready] at hready
        exact List.not_mem_nil hready
    rw [← Dict.length_keys]
    exact ((List.subperm_of_subset hsound.nodup hsound.known).antisymm
      (List.subperm_of_subset (Dict.keys_nodup _) hall)).length_eq

/-- A check raises on a cycle, and only there. -/
structure Decides (dependencies : Dict String (List String)) (message : String)
    (outcome : Except PyError Unit) :
    Prop where
  raises : outcome = .error (.valueError message) ↔ Cyclic dependencies
  passes : outcome = .ok () ↔ ¬ Cyclic dependencies

theorem decides_of_visited {dependencies : Dict String (List String)} (hknown : Known dependencies)
    (message : String) :
    Decides dependencies message
      (if (traverse (traversalBound dependencies) (startTraversal dependencies)).visited.length ≠
        dependencies.size then
        .error (.valueError message) else .ok ()) := by
  have hiff := visited_all_iff hknown (traversal_ends_once dependencies)
  split
  · rename_i hleft
    have hcyclic : Cyclic dependencies := not_not.mp fun hacyclic => hleft (hiff.mpr hacyclic)
    exact ⟨iff_of_true rfl hcyclic, iff_of_false nofun (not_not_intro hcyclic)⟩
  · rename_i hall
    have hacyclic : ¬ Cyclic dependencies := hiff.mp (not_ne_iff.mp hall)
    exact ⟨iff_of_false nofun hacyclic, iff_of_true rfl hacyclic⟩

/-- Both checks come to an end, raise exactly on a cycle, and so agree. -/
theorem assertAcyclic_decides {dependencies : Dict String (List String)} (hknown : Known dependencies) :
    (∃ finished, Ends dependencies finished) ∧
    (∀ label, Decides dependencies s!"{label} must be acyclic"
      (LifecycleProfile.assertAcyclic dependencies label)) ∧
    (∀ plan : RecoveryPlan, plan.dependencies = dependencies →
      Decides dependencies "recovery-plan action graph must be acyclic" plan.assertAcyclic) ∧
    ∀ (plan : RecoveryPlan) (label : String), plan.dependencies = dependencies →
      (plan.assertAcyclic = .ok () ↔ LifecycleProfile.assertAcyclic dependencies label = .ok ()) := by
  have hprofile : ∀ label, Decides dependencies s!"{label} must be acyclic"
      (LifecycleProfile.assertAcyclic dependencies label) := fun _ => decides_of_visited hknown _
  have hplan : ∀ plan : RecoveryPlan, plan.dependencies = dependencies →
      Decides dependencies "recovery-plan action graph must be acyclic" plan.assertAcyclic := by
    rintro plan rfl
    exact decides_of_visited hknown _
  refine ⟨⟨_, traversal_ends_once dependencies⟩, hprofile, hplan, fun plan label hsame => ?_⟩
  rw [(hplan plan hsame).passes, (hprofile label).passes]

/-- Two actions that wait for each other, and a third that waits for them. -/
def circle : Dict String (List String) := ⟨[("a", ["b"]), ("b", ["a"]), ("c", ["a"])], by decide⟩

theorem circle_raises : LifecycleProfile.assertAcyclic circle "circle" =
    .error (.valueError "circle must be acyclic") := by
  have hknown : Known circle := by
    rintro actionId dependency ⟨deps, hentry, hmem⟩
    have hall : ∀ entry ∈ circle.entries, ∀ dependency ∈ entry.2, dependency ∈ circle.keys := by decide
    exact hall _ hentry dependency hmem
  apply ((assertAcyclic_decides hknown).2.1 "circle").raises.mpr
  have hfirst : DependsOn circle "a" "b" := ⟨["b"], by decide, by decide⟩
  have hsecond : DependsOn circle "b" "a" := ⟨["a"], by decide, by decide⟩
  exact ⟨"a", .head hfirst (.single hsecond)⟩

end KubeOps.Models.RecoveryPlan
