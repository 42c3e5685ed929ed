import KubeOps.Foundation.Dict

/-! Values written under keys in batches, where a later write replaces an earlier one. The items
of a batch come in some order; what is written at last does not depend on it as long as one
item at most writes under the key in the last batch that has it. -/
namespace KubeOps.Foundation

/-- Items in some order, and what each of them writes. -/
structure Batch (α κ ν : Type) where
  items : List α
  writes : α → List (κ × ν)

variable {α κ ν : Type} [DecidableEq κ] {key : κ}

namespace Batch

variable {batch : Batch α κ ν} {item : α}

def writtenBy (batch : Batch α κ ν) (key : κ) (item : α) : Option ν :=
  (Dict.ofList (batch.writes item)).get? key

def written (batch : Batch α κ ν) (key : κ) : Option ν :=
  (Dict.ofList (batch.items.flatMap batch.writes)).get? key

private theorem written_concat (writes : α → List (κ × ν)) (items : List α) (item : α) :
    written ⟨items ++ [item], writes⟩ key =
      ((Dict.ofList (writes item)).get? key).or (written ⟨items, writes⟩ key) := by
  rw [written, List.flatMap_append, Dict.get?_ofList_append, List.flatMap_singleton]
  rfl

theorem written_eq_none : batch.written key = none ↔ ∀ item ∈ batch.items, batch.writtenBy key item = none := by
  obtain ⟨items, writes⟩ := batch
  induction items using List.reverseRecOn with
  | nil => simp [written, Dict.ofList]
  | append_singleton items item ih =>
    rw [written_concat, Option.or_eq_none_iff, ih]
    simp only [List.mem_append, List.mem_singleton, writtenBy]
    constructor
    · rintro ⟨hlast, hothers⟩ other (hother | rfl)
      · exact hothers other hother
      · exact hlast
    · intro hall
      exact ⟨hall item (.inr rfl), fun other hother => hall other (.inl hother)⟩

theorem written_of_unique (hitem : item ∈ batch.items)
    (hunique : ∀ other ∈ batch.items, batch.writtenBy key other ≠ none → other = item) :
    batch.written key = batch.writtenBy key item := by
  obtain ⟨items, writes⟩ := batch
  induction items using List.reverseRecOn with
  | nil => cases hitem
  | append_singleton items last ih =>
    rw [written_concat]
    by_cases hlast : last = item
    · subst hlast
      show ((Dict.ofList (writes last)).get? key).or _ = (Dict.ofList (writes last)).get? key
      cases hvalue : (Dict.ofList (writes last)).get? key with
      | some value => rfl
      | none =>
        rw [Option.none_or, written_eq_none]
        intro other hother
        by_contra hwrites
        have hsame := hunique other (List.mem_append_left _ hother) hwrites
        rw [hsame] at hwrites
        exact hwrites hvalue
    · have hnone : (Dict.ofList (writes last)).get? key = none := by
        by_contra hwrites
        exact hlast (hunique last (List.mem_append_right _ (List.mem_singleton_self _)) hwrites)
      rw [hnone, Option.none_or]
      have hmem : item ∈ items := by
        rcases List.mem_append.mp hitem with hmem | hmem
        · exact hmem
        · exact absurd (List.mem_singleton.mp hmem).symm hlast
      exact ih hmem fun other hother => hunique other (List.mem_append_left _ hother)

theorem written_of_last {items : List α} (hitems : batch.items = items ++ [item])
    (hwrites : batch.writtenBy key item ≠ none) : batch.written key = batch.writtenBy key item := by
  obtain ⟨_, writes⟩ := batch
  obtain rfl := hitems
  rw [written_concat]
  obtain ⟨value, hvalue⟩ := Option.ne_none_iff_exists'.mp hwrites
  show ((Dict.ofList (writes item)).get? key).or _ = (Dict.ofList (writes item)).get? key
  rw [show (Dict.ofList (writes item)).get? key = some value from hvalue]
  rfl

/-- The same items in another order, which leave the same. -/
structure Rearranged (batch other : Batch α κ ν) : Prop where
  items : batch.items.Perm other.items
  writtenBy : ∀ item ∈ batch.items, ∀ key, batch.writtenBy key item = other.writtenBy key item

theorem Rearranged.written_eq_none {other : Batch α κ ν} (h : Rearranged batch other) (key : κ) :
    batch.written key = none ↔ other.written key = none := by
  rw [Batch.written_eq_none, Batch.written_eq_none]
  constructor
  · intro hnone item hitem
    have hmem := h.items.mem_iff.mpr hitem
    rw [← h.writtenBy item hmem]
    exact hnone item hmem
  · intro hnone item hitem
    rw [h.writtenBy item hitem]
    exact hnone item (h.items.mem_iff.mp hitem)

end Batch

section Sequences

variable {batches others : List (Batch α κ ν)}

def lastWritten (key : κ) : List (Batch α κ ν) → Option ν
  | [] => none
  | batch :: later => (lastWritten key later).or (batch.written key)

theorem get?_ofList_batches (batches : List (Batch α κ ν)) (key : κ) :
    (Dict.ofList (batches.flatMap fun batch => batch.items.flatMap batch.writes)).get? key =
      lastWritten key batches := by
  induction batches with
  | nil => rfl
  | cons batch later ih =>
    rw [List.flatMap_cons, Dict.get?_ofList_append, ih]
    rfl

theorem lastWritten_eq_none : lastWritten key batches = none ↔ ∀ batch ∈ batches, batch.written key = none := by
  induction batches with
  | nil => simp [lastWritten]
  | cons batch later ih =>
    rw [lastWritten, Option.or_eq_none_iff, ih, List.forall_mem_cons, and_comm]

/-- In the last batch that writes under the key, one item alone does. -/
def Settled (key : κ) : List (Batch α κ ν) → Prop
  | [] => True
  | batch :: later =>
    Settled key later ∧ ((∀ other ∈ later, other.written key = none) →
      ∀ one ∈ batch.items, ∀ two ∈ batch.items,
        batch.writtenBy key one ≠ none → batch.writtenBy key two ≠ none → one = two)

theorem lastWritten_rearranged (h : List.Forall₂ Batch.Rearranged batches others)
    (hsettled : Settled key batches) :
    lastWritten key batches = lastWritten key others := by
  induction h with
  | nil => rfl
  | @cons batch other later laterOther hbatch hlater ih =>
    rw [lastWritten, lastWritten, ← ih hsettled.1]
    cases hlast : lastWritten key later with
    | some value => rfl
    | none =>
      rw [Option.none_or, Option.none_or]
      have hunique := hsettled.2 (lastWritten_eq_none.mp hlast)
      by_cases hnone : batch.written key = none
      · rw [hnone, (hbatch.written_eq_none key).mp hnone]
      · obtain ⟨item, hitem, hwrites⟩ : ∃ item ∈ batch.items, batch.writtenBy key item ≠ none := by
          by_contra hno
          push Not at hno
          exact hnone (Batch.written_eq_none.mpr hno)
        have hsame := hbatch.writtenBy
        rw [Batch.written_of_unique hitem fun two htwo hother => hunique two htwo item hitem hother hwrites,
          Batch.written_of_unique (hbatch.items.mem_iff.mp hitem), hsame item hitem]
        intro two htwo hother
        have hmem := hbatch.items.mem_iff.mpr htwo
        rw [← hsame two hmem] at hother
        exact hunique two hmem item hitem hother hwrites

theorem exists_of_not_settled (h : ¬ Settled key batches) : ∃ before batch later,
    batches = before ++ batch :: later ∧ (∀ other ∈ later, other.written key = none) ∧
      ∃ one ∈ batch.items, ∃ two ∈ batch.items,
        batch.writtenBy key one ≠ none ∧ batch.writtenBy key two ≠ none ∧ one ≠ two := by
  induction batches with
  | nil => exact absurd trivial h
  | cons batch later ih =>
    by_cases hlater : Settled key later
    · rw [Settled, and_iff_right hlater] at h
      push Not at h
      obtain ⟨hnone, one, hone, two, htwo, hwrites⟩ := h
      exact ⟨[], batch, later, rfl, hnone, one, hone, two, htwo, hwrites⟩
    · obtain ⟨before, found, after, rfl, hfound⟩ := ih hlater
      exact ⟨batch :: before, found, after, rfl, hfound⟩

theorem lastWritten_append (before after : List (Batch α κ ν)) :
    lastWritten key (before ++ after) = (lastWritten key after).or (lastWritten key before) := by
  induction before with
  | nil => rw [List.nil_append, lastWritten, Option.or_none]
  | cons batch before ih => rw [List.cons_append, lastWritten, lastWritten, ih, Option.or_assoc]

end Sequences

end KubeOps.Foundation
