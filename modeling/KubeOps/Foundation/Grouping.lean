import KubeOps.Foundation.Dict
import KubeOps.Foundation.Sorting
import Mathlib.Data.List.Dedup

/-! Grouping by a key: the groups follow the order of their keys, and within a group the items
stay in the order in which they came. -/
namespace KubeOps.Foundation

section Order

variable {α β κ : Type} [LE κ] [DecidableLE κ] [DecidableEq κ]

def sortedKeys (key : α → κ) (items : List α) : List κ := (items.map key).dedup.insertionSort (· ≤ ·)

def inKeyOrder (key : α → κ) (items : List α) : List α :=
  (sortedKeys key items).flatMap fun group => items.filter fun item => key item = group

variable {key : α → κ} {items : List α}

theorem mem_sortedKeys {group : κ} : group ∈ sortedKeys key items ↔ ∃ item ∈ items, key item = group := by
  rw [sortedKeys, List.mem_insertionSort, List.mem_dedup, List.mem_map]

theorem nodup_sortedKeys : (sortedKeys key items).Nodup :=
  (List.perm_insertionSort _ _).nodup_iff.mpr (List.nodup_dedup _)

omit [LE κ] [DecidableLE κ] in
theorem perm_flatMap_filter {groups : List κ} (hnodup : groups.Nodup)
    (hkeys : ∀ item ∈ items, key item ∈ groups) :
    (groups.flatMap fun group => items.filter fun item => key item = group).Perm items := by
  induction items with
  | nil => simp
  | cons item items ih =>
    rw [List.forall_mem_cons] at hkeys
    have hsplit : (groups.flatMap fun group => (item :: items).filter fun item => key item = group) =
        groups.flatMap fun group =>
          (if key item = group then [item] else []) ++ items.filter fun item => key item = group := by
      apply List.flatMap_congr
      intro group _
      rw [List.filter_cons]
      by_cases h : key item = group <;> simp [h]
    have hfirst : (groups.flatMap fun group => if key item = group then [item] else []) = [item] := by
      obtain ⟨before, after, rfl⟩ := List.append_of_mem hkeys.1
      rw [List.nodup_append, List.nodup_cons] at hnodup
      have hbefore : (before.flatMap fun group => if key item = group then [item] else []) = [] := by
        rw [List.flatMap_eq_nil_iff]
        intro group hgroup
        exact if_neg fun h => hnodup.2.2 group hgroup (key item) List.mem_cons_self h.symm
      have hafter : (after.flatMap fun group => if key item = group then [item] else []) = [] := by
        rw [List.flatMap_eq_nil_iff]
        intro group hgroup
        exact if_neg fun h => hnodup.2.1.1 (by rw [h]; exact hgroup)
      rw [List.flatMap_append, List.flatMap_cons, hbefore, hafter, if_pos rfl]
      rfl
    rw [hsplit]
    apply (List.flatMap_append_perm _ _ _).symm.trans
    rw [hfirst]
    exact (ih hkeys.2).cons item

theorem perm_inKeyOrder : (inKeyOrder key items).Perm items :=
  perm_flatMap_filter nodup_sortedKeys fun item hitem => mem_sortedKeys.mpr ⟨item, hitem, rfl⟩

theorem filter_inKeyOrder (group : κ) : ((inKeyOrder key items).filter fun item => key item = group) =
    items.filter fun item => key item = group := by
  have hone : ∀ groups : List κ, groups.Nodup → ((groups.flatMap fun other =>
      items.filter fun item => key item = other).filter fun item => key item = group) =
        if group ∈ groups then items.filter fun item => key item = group else [] := by
    intro groups hnodup
    induction groups with
    | nil => rfl
    | cons other groups ih =>
      rw [List.nodup_cons] at hnodup
      rw [List.flatMap_cons, List.filter_append, ih hnodup.2, List.filter_filter]
      by_cases h : group = other
      · subst h
        rw [if_neg hnodup.1, if_pos List.mem_cons_self, List.append_nil]
        apply List.filter_congr
        intro item _
        rw [Bool.and_self]
      · have hnone : (items.filter fun item => decide (key item = group) && decide
          (key item = other)) = [] := by
          rw [List.filter_eq_nil_iff]
          intro item _ hboth
          rw [Bool.and_eq_true, decide_eq_true_eq, decide_eq_true_eq] at hboth
          exact h (hboth.1.symm.trans hboth.2)
        rw [hnone, List.nil_append]
        simp only [List.mem_cons, h, false_or]
  rw [inKeyOrder, hone _ nodup_sortedKeys]
  split
  · rfl
  · rename_i hnone
    symm
    rw [List.filter_eq_nil_iff]
    intro item hitem hkey
    exact hnone (mem_sortedKeys.mpr ⟨item, hitem, of_decide_eq_true hkey⟩)

theorem inKeyOrder_filterMap {f : α → Option β} {keyOf : β → κ} (hsome : ∀ item ∈ items, (f item).isSome)
    (hkey : ∀ item ∈ items, ∀ value, f item = some value → keyOf value = key item) :
    inKeyOrder keyOf (items.filterMap f) = (inKeyOrder key items).filterMap f := by
  have hkeys : ∀ items : List α, (∀ item ∈ items, (f item).isSome) →
      (∀ item ∈ items, ∀ value, f item = some value → keyOf value = key item) →
      (items.filterMap f).map keyOf = items.map key := by
    intro items hsome hkey
    induction items with
    | nil => rfl
    | cons item items ih =>
      rw [List.forall_mem_cons] at hsome hkey
      obtain ⟨value, hvalue⟩ := Option.isSome_iff_exists.mp hsome.1
      rw [List.filterMap_cons_some hvalue, List.map_cons, List.map_cons, hkey.1 value hvalue,
        ih hsome.2 hkey.2]
  rw [inKeyOrder, inKeyOrder, List.filterMap_flatMap, sortedKeys, hkeys items hsome hkey]
  apply List.flatMap_congr
  intro group _
  rw [List.filter_filterMap, List.filterMap_filter]
  apply List.filterMap_congr
  intro item hitem
  obtain ⟨value, hvalue⟩ := Option.isSome_iff_exists.mp (hsome item hitem)
  rw [hvalue, Option.filter_some, hkey item hitem value hvalue]

theorem inKeyOrder_map {f : α → β} {keyOf : β → κ} (hkey : ∀ item ∈ items, keyOf (f item) = key item) :
    inKeyOrder keyOf (items.map f) = (inKeyOrder key items).map f := by
  have hmap : ∀ items : List α, items.map f = items.filterMap fun item => some (f item) :=
    fun items => List.filterMap_eq_map.symm ▸ rfl
  rw [hmap, hmap]
  apply inKeyOrder_filterMap
  · intro item _
    rfl
  · intro item hitem value hvalue
    rw [← Option.some.inj hvalue]
    exact hkey item hitem

variable [@Std.Total κ (· ≤ ·)] [IsTrans κ (· ≤ ·)] [@Std.Antisymm κ (· ≤ ·)]

theorem sortedKeys_of_perm {left right : List α} (h : left.Perm right) :
    sortedKeys key left = sortedKeys key right :=
  insertionSort_eq_of_perm (h.map key).dedup

theorem inKeyOrder_inKeyOrder : inKeyOrder key (inKeyOrder key items) = inKeyOrder key items := by
  rw [inKeyOrder, sortedKeys_of_perm perm_inKeyOrder]
  apply List.flatMap_congr
  intro group _
  exact filter_inKeyOrder group

end Order

namespace Dict

variable {α κ ν : Type} [DecidableEq κ]

def grouped (key : α → κ) (value : α → ν) (items : List α) : Dict κ (List ν) :=
  items.foldl (fun dict item => dict.set (key item) ((dict.get? (key item)).getD [] ++ [value item])) ∅

variable {key : α → κ} {value : α → ν} {items : List α}

private theorem foldl_grouped (dict : Dict κ (List ν)) (group : κ) :
    let final := items.foldl (fun dict item =>
      dict.set (key item) ((dict.get? (key item)).getD [] ++ [value item])) dict
    (group ∈ final.keys ↔ group ∈ dict.keys ∨ ∃ item ∈ items, key item = group) ∧
      (final.get? group).getD [] =
        (dict.get? group).getD [] ++ (items.filter fun item => key item = group).map value := by
  induction items generalizing dict with
  | nil => simp
  | cons item items ih =>
    obtain ⟨hkeys, hvalues⟩ := ih (dict.set (key item) ((dict.get? (key item)).getD [] ++ [value item]))
    constructor
    · rw [List.foldl_cons, hkeys, mem_keys_set, List.exists_mem_cons_iff, or_assoc,
        or_left_comm, eq_comm]
    · rw [List.foldl_cons, hvalues, get?_set, List.filter_cons]
      by_cases h : key item = group
      · simp [h]
      · simp [h, Ne.symm h]

theorem mem_keys_grouped {group : κ} : group ∈ (grouped key value items).keys ↔
    ∃ item ∈ items, key item = group := by
  rw [grouped, (foldl_grouped ∅ group).1]
  simp

theorem get?_grouped (group : κ) : ((grouped key value items).get? group).getD [] =
    (items.filter fun item => key item = group).map value := by
  rw [grouped, (foldl_grouped ∅ group).2]
  rfl

theorem get?_grouped_eq (group : κ) : (grouped key value items).get? group =
    if (items.filter fun item => key item = group) = [] then none
    else some ((items.filter fun item => key item = group).map value) := by
  have hvalues : ((grouped key value items).get? group).getD [] =
    (items.filter fun item => key item = group).map value := get?_grouped group
  cases hfound : (grouped key value items).get? group with
  | none =>
    rw [if_pos]
    rw [hfound] at hvalues
    exact List.map_eq_nil_iff.mp hvalues.symm
  | some values =>
    obtain ⟨item, hitem, hkey⟩ := mem_keys_grouped.mp (mem_keys_of_get? hfound)
    rw [if_neg (List.ne_nil_of_mem (List.mem_filter.mpr ⟨hitem, decide_eq_true hkey⟩)), ← hvalues, hfound]
    rfl

theorem insertionSort_keys_grouped [LE κ] [DecidableLE κ] [@Std.Total κ (· ≤ ·)] [IsTrans κ (· ≤ ·)]
    [@Std.Antisymm κ (· ≤ ·)] : (grouped key value items).keys.insertionSort (· ≤ ·) =
      sortedKeys key items := by
  apply insertionSort_eq_of_perm
  apply (List.perm_ext_iff_of_nodup (keys_nodup _) (List.nodup_dedup _)).mpr
  intro group
  rw [mem_keys_grouped, List.mem_dedup, List.mem_map]

end Dict

end KubeOps.Foundation
