import KubeOps.Foundation.Precedence
import KubeOps.Models.Planning
import Mathlib.Data.List.Perm.Subperm

/-! What the plan validator establishes. The traversal visits an id only after
everything it depends on, so an accepted plan has distinct ids, depends only on
its own actions and can be listed in dependency order. -/
namespace KubeOps.Models.RecoveryPlan

open KubeOps.Foundation

def DependsOn (dependencies : Dict String (List String)) (actionId dependency : String) : Prop :=
  ∃ deps, (actionId, deps) ∈ dependencies.entries ∧ dependency ∈ deps

/-- The sets hold what is not visited yet, and the stack holds only free ids. -/
structure Traversal.Sound (initial : Dict String (List String)) (traversal : Traversal) : Prop where
  remaining : traversal.dependencies = initial.mapValues (List.filter (· ∉ traversal.visited))
  free : ∀ actionId ∈ traversal.ready, actionId ∈ initial.keys ∧
    ∀ dependency, DependsOn initial actionId dependency → dependency ∈ traversal.visited
  known : traversal.visited ⊆ initial.keys
  nodup : traversal.visited.Nodup
  ordered : Precedence (DependsOn initial) traversal.visited

theorem startTraversal_sound (initial : Dict String (List String)) :
    (startTraversal initial).Sound initial where
  remaining := by
    apply Dict.ext_entries
    simp [startTraversal, Dict.mapValues]
  free := by
    intro actionId hmem
    obtain ⟨entry, hentry, rfl⟩ := List.mem_map.mp hmem
    obtain ⟨hentry, hempty⟩ := List.mem_filter.mp hentry
    refine ⟨Dict.mem_keys.mpr ⟨_, hentry⟩, ?_⟩
    rintro dependency ⟨deps, hdeps, hmem⟩
    have hsame := Dict.value_unique hdeps hentry
    simp [hsame, of_decide_eq_true hempty] at hmem
  known := List.nil_subset _
  nodup := List.nodup_nil
  ordered := Monitored.nil

theorem Traversal.Sound.pop {initial : Dict String (List String)} {traversal : Traversal}
    (h : traversal.Sound initial) :
    Traversal.Sound initial { traversal with ready := traversal.ready.dropLast } where
  remaining := h.remaining
  free := fun actionId hmem => h.free actionId ((List.dropLast_sublist _).subset hmem)
  known := h.known
  nodup := h.nodup
  ordered := h.ordered

theorem Traversal.Sound.visit {initial : Dict String (List String)} {traversal : Traversal}
    (h : traversal.Sound initial) {actionId : String} (hready : actionId ∈ traversal.ready)
    (hfresh : actionId ∉ traversal.visited) :
    (traversal.visit actionId).Sound initial where
  remaining := by
    simp only [Traversal.visit]
    rw [h.remaining, Dict.mapValues_mapValues]
    apply Dict.mapValues_congr
    intro deps
    simp only [Function.comp_apply, List.filter_filter]
    apply List.filter_congr
    intro dependency _
    simp [and_comm]
  free := by
    intro candidate hmem
    rcases List.mem_append.mp hmem with hold | hpushed
    · obtain ⟨hkey, hdeps⟩ := h.free candidate ((List.dropLast_sublist _).subset hold)
      exact ⟨hkey, fun dependency hdependency =>
        List.mem_append_left _ (hdeps dependency hdependency)⟩
    · -- an id is pushed when its set, with `actionId` discarded, is empty
      obtain ⟨entry, hentry, rfl⟩ := List.mem_map.mp hpushed
      obtain ⟨hentry, hfree⟩ := List.mem_filter.mp hentry
      rw [h.remaining, Dict.mapValues_mapValues, Dict.mem_entries_mapValues] at hentry
      obtain ⟨deps, hdeps, hrest⟩ := hentry
      refine ⟨Dict.mem_keys.mpr ⟨_, hdeps⟩, ?_⟩
      rintro dependency ⟨own, hown, hdependency⟩
      rw [Dict.value_unique hown hdeps] at hdependency
      have hempty : entry.2 = [] := (of_decide_eq_true hfree).1
      rw [hempty, Function.comp_apply, List.filter_filter, List.filter_eq_nil_iff] at hrest
      have hgone := hrest dependency hdependency
      simp only [Traversal.visit, List.mem_append, List.mem_singleton]
      by_contra hleft
      rw [not_or] at hleft
      exact hgone (by simp [hleft.1, hleft.2])
  known := by
    intro candidate hmem
    rcases List.mem_append.mp hmem with hold | hnew
    · exact h.known hold
    · rw [List.mem_singleton.mp hnew]
      exact (h.free actionId hready).1
  nodup := List.nodup_append.mpr ⟨h.nodup, List.nodup_singleton _, by
    intro left hleft right hright heq
    rw [List.mem_singleton.mp hright] at heq
    exact hfresh (heq ▸ hleft)⟩
  ordered := Monitored.concat h.ordered (h.free actionId hready).2

theorem traverse_sound {initial : Dict String (List String)} (fuel : Nat) {traversal : Traversal}
    (h : traversal.Sound initial) : (traverse fuel traversal).Sound initial := by
  induction fuel generalizing traversal with
  | zero => exact h
  | succ fuel ih =>
    rw [traverse]
    split
    · exact h
    · rename_i actionId htop
      have hready := List.mem_of_getLast? htop
      split
      · exact ih h.pop
      · rename_i hfresh
        exact ih (h.visit hready hfresh)

/-- What is left to do: the stack, and a full round of pushes for every id not visited. -/
def Traversal.work (initial : Dict String (List String)) (traversal : Traversal) : Nat :=
  traversal.ready.length + (initial.size - traversal.visited.length) * initial.size

theorem Traversal.Sound.visited_lt {initial : Dict String (List String)} {traversal : Traversal}
    (h : traversal.Sound initial) {actionId : String} (hready : actionId ∈ traversal.ready)
    (hfresh : actionId ∉ traversal.visited) : traversal.visited.length < initial.size := by
  have hsub : actionId :: traversal.visited ⊆ initial.keys :=
    List.cons_subset.mpr ⟨(h.free actionId hready).1, h.known⟩
  have hle := (List.subperm_of_subset (List.nodup_cons.mpr ⟨hfresh, h.nodup⟩) hsub).length_le
  rw [Dict.length_keys] at hle
  exact hle

theorem Traversal.Sound.work_visit {initial : Dict String (List String)} {traversal : Traversal}
    (h : traversal.Sound initial) {actionId : String} (hready : actionId ∈ traversal.ready)
    (hfresh : actionId ∉ traversal.visited) :
    (traversal.visit actionId).work initial < traversal.work initial := by
  have hlt := h.visited_lt hready hfresh
  have hpositive : 0 < traversal.ready.length := List.length_pos_of_mem hready
  have hpushed : ((traversal.visit actionId).dependencies.entries.filter fun entry =>
      entry.2 = [] ∧ entry.1 ∉ (traversal.visit actionId).visited).length ≤ initial.size := by
    refine (List.length_filter_le _ _).trans ?_
    simp [Traversal.visit, h.remaining, Dict.mapValues, Dict.size]
  obtain ⟨missing, hmissing⟩ : ∃ missing, initial.size - traversal.visited.length = missing + 1 :=
    ⟨initial.size - traversal.visited.length - 1, by omega⟩
  have hnext : initial.size - (traversal.visit actionId).visited.length = missing := by
    simp only [Traversal.visit, List.length_append, List.length_singleton]
    omega
  have hready : (traversal.visit actionId).ready.length ≤
      traversal.ready.length - 1 + initial.size := by
    simp only [Traversal.visit, List.length_append, List.length_dropLast, List.length_map]
    exact Nat.add_le_add_left hpushed _
  unfold Traversal.work
  rw [hnext, hmissing, Nat.succ_mul]
  omega

theorem traverse_ready {initial : Dict String (List String)} (fuel : Nat) {traversal : Traversal}
    (h : traversal.Sound initial) (hfuel : traversal.work initial ≤ fuel) :
    (traverse fuel traversal).ready = [] := by
  induction fuel generalizing traversal with
  | zero =>
    have hlength : traversal.ready.length = 0 := by
      unfold Traversal.work at hfuel
      omega
    exact List.eq_nil_of_length_eq_zero hlength
  | succ fuel ih =>
    rw [traverse]
    split
    · rename_i hnone
      exact List.getLast?_eq_none_iff.mp hnone
    · rename_i actionId htop
      have hready := List.mem_of_getLast? htop
      split
      · refine ih h.pop ?_
        have hpositive : 0 < traversal.ready.length := List.length_pos_of_mem hready
        simp only [Traversal.work, List.length_dropLast] at hfuel ⊢
        omega
      · rename_i hfresh
        exact ih (h.visit hready hfresh) (by
          have := h.work_visit hready hfresh
          omega)

theorem traversal_ends (initial : Dict String (List String)) :
    (traverse (traversalBound initial) (startTraversal initial)).ready = [] := by
  apply traverse_ready _ (startTraversal_sound initial)
  have hready : (startTraversal initial).ready.length ≤ initial.size := by
    rw [startTraversal, List.length_map]
    exact List.length_filter_le _ _
  simp only [Traversal.work, traversalBound, startTraversal, List.length_nil, Nat.sub_zero] at hready ⊢
  omega

/-- `dependency` is listed by the plan's action `actionId`. -/
def Depends (plan : RecoveryPlan) (actionId dependency : String) : Prop :=
  ∃ action ∈ plan.actions, action.actionId = actionId ∧ dependency ∈ action.dependsOnActionIds

structure DependencyOrder (plan : RecoveryPlan) (order : List String) : Prop where
  distinct : plan.actionIds.Nodup
  closed : ∀ action ∈ plan.actions, action.dependsOnActionIds ⊆ plan.actionIds
  covers : ∀ actionId, actionId ∈ order ↔ actionId ∈ plan.actionIds
  ordered : Precedence plan.Depends order

theorem entries_dependencies {plan : RecoveryPlan} (h : plan.actionIds.Nodup) :
    plan.dependencies.entries =
      plan.actions.map fun action => (action.actionId, action.dependsOnActionIds) := by
  apply Dict.entries_ofList
  rw [List.map_map]
  exact h

theorem dedup_length_eq_iff {ids : List String} : ids.dedup.length = ids.length ↔ ids.Nodup := by
  constructor
  · intro h
    rw [← (List.dedup_sublist ids).eq_of_length h]
    exact List.nodup_dedup ids
  · intro h
    rw [h.dedup]

theorem forM_eq_ok {α : Type} {check : α → Except PyError Unit} {items : List α} :
    items.forM check = .ok () ↔ ∀ item ∈ items, check item = .ok () := by
  induction items with
  | nil => simp [pure, Except.pure]
  | cons item items ih =>
    rw [List.forall_mem_cons, ← ih]
    change (check item >>= fun _ => items.forM check) = .ok () ↔ _
    cases check item with
    | ok _ => simp [bind, Except.bind]
    | error _ => simp [bind, Except.bind]

theorem checkDependencies_eq_ok (python : Python) {ids : List String} {action : ActionInstance} :
    checkDependencies python ids action = .ok () ↔
      action.dependsOnActionIds ⊆ ids ∧ action.actionId ∉ action.dependsOnActionIds := by
  have hunknown : action.dependsOnActionIds.filter (· ∉ ids) = [] ↔
      action.dependsOnActionIds ⊆ ids := by
    simp [List.filter_eq_nil_iff, List.subset_def]
  rw [← hunknown]
  unfold checkDependencies
  by_cases hids : action.dependsOnActionIds.filter (· ∉ ids) = []
  · simp only [hids, ne_eq, not_true_eq_false, ↓reduceIte, true_and]
    by_cases hself : action.actionId ∈ action.dependsOnActionIds <;> simp [hself]
  · simp only [ne_eq, hids, not_false_eq_true, ↓reduceIte, reduceCtorEq, false_and]

theorem accepted_iff {python : Python} {plan : RecoveryPlan} :
    plan.Accepted python ↔ plan.actionIds.Nodup ∧
      (∀ action ∈ plan.actions, action.dependsOnActionIds ⊆ plan.actionIds ∧
        action.actionId ∉ action.dependsOnActionIds) ∧
      plan.assertAcyclic = .ok () := by
  have hlength : plan.actions.length = plan.actionIds.length := by simp [actionIds]
  simp only [← checkDependencies_eq_ok python]
  rw [← forM_eq_ok, ← dedup_length_eq_iff, ← hlength]
  unfold Accepted validateActionGraph
  by_cases h : plan.actionIds.dedup.length = plan.actions.length
  · simp only [h, ne_eq, not_true_eq_false, ↓reduceIte, true_and]
    cases plan.actions.forM (checkDependencies python plan.actionIds) with
    | ok _ => simp [bind, Except.bind]
    | error _ => simp [bind, Except.bind]
  · simp [h, bind, Except.bind, throw, throwThe, MonadExceptOf.throw]

theorem Accepted.exists_order {python : Python} {plan : RecoveryPlan} (h : plan.Accepted python) :
    ∃ order, plan.DependencyOrder order := by
  obtain ⟨hdistinct, hchecked, hacyclic⟩ := accepted_iff.mp h
  let finished := traverse (traversalBound plan.dependencies) (startTraversal plan.dependencies)
  have hsound : finished.Sound plan.dependencies :=
    traverse_sound _ (startTraversal_sound plan.dependencies)
  have hentries := entries_dependencies hdistinct
  have hkeys : plan.dependencies.keys = plan.actionIds := by
    simp [Dict.keys, hentries, actionIds]
  have hlength : finished.visited.length = plan.dependencies.keys.length := by
    rw [Dict.length_keys]
    by_contra hne
    simp [assertAcyclic, finished, hne] at hacyclic
  have hperm := (List.subperm_of_subset hsound.nodup hsound.known).perm_of_length_le
    (le_of_eq hlength.symm)
  refine ⟨finished.visited, hdistinct, fun action hmem => (hchecked action hmem).1, ?_, ?_⟩
  · intro actionId
    rw [hperm.mem_iff, hkeys]
  · refine hsound.ordered.mono fun before actionId hbefore dependency hdepends => ?_
    obtain ⟨action, hmem, rfl, hdependency⟩ := hdepends
    apply hbefore
    refine ⟨action.dependsOnActionIds, ?_, hdependency⟩
    rw [hentries]
    exact List.mem_map.mpr ⟨action, hmem, rfl⟩

section Marks

variable {plan other : RecoveryPlan} {order : List String}

theorem actionIds_of_unmarked
    (h : other.actions.map ActionInstance.unmarked = plan.actions.map ActionInstance.unmarked) :
    other.actionIds = plan.actionIds := by
  have hmap := congrArg (List.map ActionInstance.actionId) h
  simpa [actionIds, Function.comp_def, ActionInstance.unmarked] using hmap

theorem exists_original
    (h : other.actions.map ActionInstance.unmarked = plan.actions.map ActionInstance.unmarked)
    {action : ActionInstance} (hmem : action ∈ other.actions) :
    ∃ original ∈ plan.actions, original.unmarked = action.unmarked := by
  have hmapped := List.mem_map_of_mem (f := ActionInstance.unmarked) hmem
  rw [h] at hmapped
  exact List.mem_map.mp hmapped

theorem DependencyOrder.of_unmarked (h : plan.DependencyOrder order)
    (hsame : other.actions.map ActionInstance.unmarked = plan.actions.map ActionInstance.unmarked) :
    other.DependencyOrder order := by
  have hids := actionIds_of_unmarked hsame
  refine ⟨hids ▸ h.distinct, ?_, hids ▸ h.covers, ?_⟩
  · intro action haction
    obtain ⟨original, horiginal, heq⟩ := exists_original hsame haction
    rw [hids, show action.dependsOnActionIds = original.dependsOnActionIds from
      (congrArg ActionInstance.dependsOnActionIds heq :).symm]
    exact h.closed original horiginal
  · refine h.ordered.mono fun before actionId hbefore dependency hdepends => hbefore dependency ?_
    obtain ⟨action, haction, rfl, hdependency⟩ := hdepends
    obtain ⟨original, horiginal, heq⟩ := exists_original hsame haction
    refine ⟨original, horiginal, (congrArg ActionInstance.actionId heq :), ?_⟩
    rw [show original.dependsOnActionIds = action.dependsOnActionIds from
      (congrArg ActionInstance.dependsOnActionIds heq :)]
    exact hdependency

theorem Accepted.of_unmarked {python : Python} (h : plan.Accepted python)
    (hsame : other.actions.map ActionInstance.unmarked = plan.actions.map ActionInstance.unmarked) :
    other.Accepted python := by
  rw [accepted_iff] at h ⊢
  have hids := actionIds_of_unmarked hsame
  have hdependencies : other.dependencies = plan.dependencies := by
    have hmap := congrArg (List.map fun action => (action.actionId, action.dependsOnActionIds)) hsame
    simp only [List.map_map, Function.comp_def, ActionInstance.unmarked] at hmap
    rw [dependencies, dependencies, hmap]
  refine ⟨hids ▸ h.1, ?_, ?_⟩
  · intro action haction
    obtain ⟨original, horiginal, heq⟩ := exists_original hsame haction
    have hchecked := h.2.1 original horiginal
    rw [show original.dependsOnActionIds = action.dependsOnActionIds from
      (congrArg ActionInstance.dependsOnActionIds heq :), show original.actionId = action.actionId from
      (congrArg ActionInstance.actionId heq :), ← hids] at hchecked
    exact hchecked
  · rw [assertAcyclic, hdependencies]
    exact h.2.2

end Marks

end KubeOps.Models.RecoveryPlan
