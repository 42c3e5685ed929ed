import KubeOps.Foundation.Dict
import KubeOps.Foundation.Precedence
import Mathlib.Data.List.Sort

/-! Items ordered after what they wait for: those that wait for nothing are placed
next, in the order of a comparison, until nothing or only waiting items are left. -/
namespace KubeOps.Foundation

variable {α : Type} [DecidableEq α]

structure Layering (α : Type) where
  ordered : List α
  remaining : Dict α (List α)

def WaitsFor (initial : Dict α (List α)) (item dependency : α) : Prop :=
  ∃ waits, initial.get? item = some waits ∧ dependency ∈ waits

namespace Layering

def place (layering : Layering α) (item : α) : Layering α where
  ordered := layering.ordered ++ [item]
  remaining := (layering.remaining.erase item).mapValues fun waits => waits.filter (· ≠ item)

def free (layering : Layering α) : List α :=
  (layering.remaining.entries.filter fun entry => entry.2.isEmpty).map Prod.fst

variable (before : α → α → Prop) [DecidableRel before]

def ready (layering : Layering α) : List α := layering.free.insertionSort before

def run : Nat → Layering α → Layering α
  | 0, layering => layering
  | fuel + 1, layering =>
    match layering.ready before with
    | [] => layering
    | item :: rest => run fuel ((item :: rest).foldl place layering)

end Layering

variable (before : α → α → Prop) [DecidableRel before]

def layers (initial : Dict α (List α)) : Layering α :=
  Layering.run before (initial.size + 1) ⟨[], initial⟩

namespace Layering

/-- Every item is placed or left, after what it waits for, and waits for what is not placed. -/
structure Sound (initial : Dict α (List α)) (layering : Layering α) : Prop where
  nodup : layering.ordered.Nodup
  split : ∀ item, item ∈ initial.keys ↔ item ∈ layering.ordered ∨ item ∈ layering.remaining.keys
  apart : ∀ item ∈ layering.ordered, item ∉ layering.remaining.keys
  waits : ∀ item waits, layering.remaining.get? item = some waits →
    ∃ all, initial.get? item = some all ∧ waits = all.filter (· ∉ layering.ordered)
  precedence : Precedence (WaitsFor initial) layering.ordered

variable {before} {initial : Dict α (List α)} {layering : Layering α} {item : α} {batch : List α} {fuel : Nat}

theorem mem_free : item ∈ layering.free ↔ layering.remaining.get? item = some [] := by
  rw [free, List.mem_map, Dict.get?_eq_some]
  constructor
  · rintro ⟨entry, hentry, rfl⟩
    rw [List.mem_filter, List.isEmpty_iff] at hentry
    rw [← hentry.2]
    exact hentry.1
  · intro h
    exact ⟨(item, []), List.mem_filter.mpr ⟨h, rfl⟩, rfl⟩

theorem mem_ready : item ∈ layering.ready before ↔ layering.remaining.get? item = some [] := by
  rw [ready, List.mem_insertionSort, mem_free]

omit [DecidableEq α] in
theorem ready_nodup : (layering.ready before).Nodup :=
  (List.perm_insertionSort _ _).nodup_iff.mpr (layering.remaining.nodup.sublist (List.filter_sublist.map _))

theorem get?_place (other : α) : (layering.place item).remaining.get? other =
    if other = item then none else (layering.remaining.get? other).map (List.filter (· ≠ item)) := by
  rw [place, Dict.get?_mapValues, Dict.get?_erase]
  split <;> rfl

theorem get?_place_free {other : α} (hne : other ≠ item)
    (h : layering.remaining.get? other = some []) :
    (layering.place item).remaining.get? other = some [] := by
  rw [get?_place, if_neg hne, h]
  rfl

theorem mem_keys_place {other : α} : other ∈ (layering.place item).remaining.keys ↔
    other ≠ item ∧ other ∈ layering.remaining.keys := by
  rw [← not_iff_not, ← Dict.get?_eq_none, get?_place, not_and, ← Dict.get?_eq_none]
  split
  · rename_i h
    simp [h]
  · rename_i h
    simp [h]

theorem start_sound (initial : Dict α (List α)) : Sound initial ⟨[], initial⟩ where
  nodup := List.nodup_nil
  split := fun item => by simp
  apart := List.forall_mem_nil _
  waits := fun item waits h => ⟨waits, h, by simp⟩
  precedence := Monitored.nil

theorem Sound.place (h : layering.Sound initial) (hfree : layering.remaining.get? item = some []) :
    (layering.place item).Sound initial where
  nodup := by
    have hleft : item ∉ layering.ordered := fun hmem =>
      h.apart item hmem (Dict.mem_keys_of_get? hfree)
    rw [Layering.place, ← List.concat_eq_append]
    exact List.Nodup.concat hleft h.nodup
  split := by
    intro other
    have hkey := Dict.mem_keys_of_get? hfree
    rw [h.split other, mem_keys_place, Layering.place, List.mem_append, List.mem_singleton]
    by_cases hsame : other = item
    · simp [hsame, hkey]
    · simp [hsame]
  apart := by
    intro other hmem
    rw [mem_keys_place]
    rcases List.mem_append.mp hmem with hold | hnew
    · exact fun hkey => h.apart other hold hkey.2
    · exact fun hkey => hkey.1 (List.mem_singleton.mp hnew)
  waits := by
    intro other waits hwaits
    rw [get?_place] at hwaits
    split at hwaits
    · exact absurd hwaits (by simp)
    · obtain ⟨old, hold, rfl⟩ := Option.map_eq_some_iff.mp hwaits
      obtain ⟨all, hall, rfl⟩ := h.waits other old hold
      refine ⟨all, hall, ?_⟩
      rw [List.filter_filter]
      apply List.filter_congr
      intro dependency _
      simp [Layering.place, and_comm]
  precedence := by
    apply Monitored.concat h.precedence
    rintro dependency ⟨waits, hwaits, hmem⟩
    obtain ⟨all, hall, hnone⟩ := h.waits item [] hfree
    have hsame : waits = all := Option.some.inj (hwaits.symm.trans hall)
    rw [eq_comm, List.filter_eq_nil_iff] at hnone
    simpa using hnone dependency (hsame ▸ hmem)

theorem Sound.foldl_place (h : layering.Sound initial) (hbatch : batch.Nodup)
    (hfree : ∀ item ∈ batch, layering.remaining.get? item = some []) :
    (batch.foldl Layering.place layering).Sound initial := by
  induction batch generalizing layering with
  | nil => exact h
  | cons item batch ih =>
    obtain ⟨hnew, hbatch⟩ := List.nodup_cons.mp hbatch
    apply ih (h.place (hfree item (List.mem_cons_self ..))) hbatch
    intro other hother
    have hne : other ≠ item := fun hsame => hnew (hsame ▸ hother)
    exact get?_place_free hne (hfree other (List.mem_cons_of_mem _ hother))

theorem Sound.run (h : layering.Sound initial) : (layering.run before fuel).Sound initial := by
  induction fuel generalizing layering with
  | zero => exact h
  | succ fuel ih =>
    rw [Layering.run]
    split
    · exact h
    · rename_i item rest hready
      apply ih (h.foldl_place (hready ▸ ready_nodup) ?_)
      intro other hother
      exact mem_ready.mp (hready ▸ hother)

theorem size_place (item : α) : (layering.place item).remaining.size ≤ layering.remaining.size := by
  rw [place, Dict.size_mapValues]
  exact List.length_filter_le ..

theorem size_foldl_place (batch : List α) :
    (batch.foldl place layering).remaining.size ≤ layering.remaining.size := by
  induction batch generalizing layering with
  | nil => exact Nat.le_refl _
  | cons item batch ih => exact Nat.le_trans ih (size_place item)

theorem ready_run (hfuel : layering.remaining.size < fuel) :
    (layering.run before fuel).ready before = [] := by
  induction fuel generalizing layering with
  | zero => exact absurd hfuel (Nat.not_lt_zero _)
  | succ fuel ih =>
    rw [run]
    split
    · assumption
    · rename_i item rest hready
      have hfree : layering.remaining.get? item = some [] :=
        mem_ready.mp (hready ▸ List.mem_cons_self ..)
      have hless : (layering.place item).remaining.size < layering.remaining.size := by
        rw [place, Dict.size_mapValues]
        exact Dict.size_erase_lt (Dict.mem_keys_of_get? hfree)
      apply ih
      rw [List.foldl_cons]
      have hrest : (rest.foldl place (layering.place item)).remaining.size ≤
        (layering.place item).remaining.size :=
        size_foldl_place rest
      omega

theorem layers_sound (initial : Dict α (List α)) : (layers before initial).Sound initial :=
  (start_sound initial).run

theorem exists_waiting (hclosed : ∀ item dependency, WaitsFor initial item dependency →
    dependency ∈ initial.keys) (hmem : item ∈ (layers before initial).remaining.keys) :
    ∃ dependency ∈ (layers before initial).remaining.keys, WaitsFor initial item dependency := by
  have hsound : (layers before initial).Sound initial := layers_sound initial
  have hready : (layers before initial).ready before = [] := ready_run (Nat.lt_succ_self _)
  obtain ⟨waits, hwaits⟩ := Dict.mem_keys.mp hmem
  rw [← Dict.get?_eq_some] at hwaits
  obtain ⟨all, hall, hfilter⟩ := hsound.waits item waits hwaits
  have hne : waits ≠ [] := by
    rintro rfl
    exact absurd (mem_ready.mpr hwaits) (hready ▸ List.not_mem_nil)
  obtain ⟨dependency, hdependency⟩ := List.exists_mem_of_ne_nil _ hne
  rw [hfilter, List.mem_filter] at hdependency
  have hlink : WaitsFor initial item dependency := ⟨all, hall, hdependency.1⟩
  refine ⟨dependency, ?_, hlink⟩
  have hleft : dependency ∉ (layers before initial).ordered := by simpa using hdependency.2
  exact ((hsound.split dependency).mp (hclosed item dependency hlink)).resolve_left hleft

theorem mem_keys_remaining_iff (hclosed : ∀ item dependency, WaitsFor initial item dependency →
    dependency ∈ initial.keys) : item ∈ (layers before initial).remaining.keys ↔
    LeadsToCycle (WaitsFor initial) item := by
  have hsound : (layers before initial).Sound initial := layers_sound initial
  constructor
  · exact leadsToCycle_of_next fun item hitem => exists_waiting hclosed hitem
  · intro h
    obtain ⟨dependency, ⟨waits, hwaits, -⟩, -⟩ := h.exists_next
    have hplaced := (hsound.split item).mp (Dict.mem_keys_of_get? hwaits)
    exact hplaced.resolve_left fun hmem => hsound.precedence.not_leadsToCycle hmem h

end Layering

end KubeOps.Foundation
