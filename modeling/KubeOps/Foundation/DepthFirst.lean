import Mathlib.Data.List.Nodup
import Mathlib.Data.List.Perm.Subperm
import Mathlib.Logic.Relation

/-! What can be reached from an item, collected by visiting depth first. -/
namespace KubeOps.Foundation

variable {α : Type}

def Leads (next : α → List α) (source target : α) : Prop := target ∈ next source

def Reached (next : α → List α) (seeds : List α) (item : α) : Prop :=
  ∃ seed ∈ seeds, Relation.ReflTransGen (Leads next) seed item

structure Explored (next : α → List α) (seen found : List α) : Prop where
  subset : seen ⊆ found
  closed : ∀ item ∈ found, item ∉ seen → next item ⊆ found

variable {next : α → List α} {seen found items known seeds : List α} {item : α} {fuel : Nat}

theorem Explored.refl (seen : List α) : Explored next seen seen where
  subset := List.Subset.refl _
  closed := fun _ hmem hnew => absurd hmem hnew

theorem Explored.trans {later : List α} (h : Explored next seen found) (hlater : Explored next found later) :
    Explored next seen later where
  subset := List.Subset.trans h.subset hlater.subset
  closed := by
    intro item hmem hnew
    by_cases hfound : item ∈ found
    · exact List.Subset.trans (h.closed item hfound hnew) hlater.subset
    · exact hlater.closed item hmem hfound

variable [DecidableEq α]

/-- Adds an item and then what it leads to, unless the item was seen before. -/
def visit (next : α → List α) : Nat → List α → α → List α
  | 0, seen, _ => seen
  | fuel + 1, seen, item =>
    if item ∈ seen then seen else (next item).foldl (visit next fuel) (seen ++ [item])

def visitAll (next : α → List α) (fuel : Nat) (seeds : List α) : List α :=
  seeds.foldl (visit next fuel) []

def unseen (known seen : List α) : List α := known.filter (· ∉ seen)

theorem length_unseen_le (h : seen ⊆ found) :
    (unseen known found).length ≤ (unseen known seen).length := by
  unfold unseen
  rw [← List.countP_eq_length_filter, ← List.countP_eq_length_filter]
  apply List.countP_mono_left
  intro item _ hnew
  simp only [decide_eq_true_eq] at hnew ⊢
  exact fun hseen => hnew (h hseen)

theorem length_unseen_lt (hmem : item ∈ known) (hnew : item ∉ seen) :
    (unseen known (seen ++ [item])).length < (unseen known seen).length := by
  have hsplit : unseen known (seen ++ [item]) = (unseen known seen).filter (· ≠ item) := by
    rw [unseen, unseen, List.filter_filter]
    apply List.filter_congr
    intro other _
    simp [and_comm]
  rw [hsplit]
  apply List.length_filter_lt_length_iff_exists.mpr
  exact ⟨item, List.mem_filter.mpr ⟨hmem, by simpa using hnew⟩, by simp⟩

private theorem foldl_explored
    (hvisit : ∀ seen item, item ∈ known → (unseen known seen).length < fuel →
      Explored next seen (visit next fuel seen item) ∧ item ∈ visit next fuel seen item)
    (hitems : items ⊆ known) (hfuel : (unseen known seen).length < fuel) :
    Explored next seen (items.foldl (visit next fuel) seen) ∧
      items ⊆ items.foldl (visit next fuel) seen := by
  induction items generalizing seen with
  | nil => exact ⟨.refl _, List.nil_subset _⟩
  | cons item items ih =>
    obtain ⟨hfirst, hmem⟩ := hvisit seen item (hitems (List.mem_cons_self ..)) hfuel
    have hless : (unseen known (visit next fuel seen item)).length ≤ (unseen known seen).length :=
      length_unseen_le hfirst.subset
    obtain ⟨hrest, hall⟩ := ih (List.subset_of_cons_subset hitems) (Nat.lt_of_le_of_lt hless hfuel)
    refine ⟨hfirst.trans hrest, ?_⟩
    intro other hother
    rcases List.mem_cons.mp hother with rfl | hother
    · exact hrest.subset hmem
    · exact hall hother

section Complete

variable (hclosed : ∀ item ∈ known, next item ⊆ known)
include hclosed

theorem visit_explored (hitem : item ∈ known) (hfuel : (unseen known seen).length < fuel) :
    Explored next seen (visit next fuel seen item) ∧ item ∈ visit next fuel seen item := by
  induction fuel generalizing seen item with
  | zero => exact absurd hfuel (Nat.not_lt_zero _)
  | succ fuel ih =>
    rw [visit]
    split
    · rename_i hseen
      exact ⟨.refl _, hseen⟩
    · rename_i hnew
      have hless := length_unseen_lt hitem hnew
      obtain ⟨hrest, hall⟩ := foldl_explored (fun seen item hitem => ih hitem)
        (hclosed item hitem) (Nat.lt_of_lt_of_le hless (Nat.le_of_lt_succ hfuel))
      refine ⟨⟨fun other hother => hrest.subset (List.mem_append_left _ hother), ?_⟩,
        hrest.subset (List.mem_append_right _ (List.mem_singleton_self _))⟩
      intro other hother hfresh
      by_cases hsame : other = item
      · rw [hsame]
        exact hall
      · exact hrest.closed other hother (by simp [hfresh, hsame])

theorem visitAll_explored (hseeds : seeds ⊆ known) (hfuel : known.length < fuel) :
    Explored next [] (visitAll next fuel seeds) ∧ seeds ⊆ visitAll next fuel seeds := by
  have hunseen : (unseen known []).length < fuel :=
    Nat.lt_of_le_of_lt (List.length_filter_le ..) hfuel
  exact foldl_explored (fun seen item hitem => visit_explored hclosed hitem) hseeds hunseen

end Complete

private theorem foldl_visit (p : List α → Prop) (hvisit : ∀ seen item, item ∈ items → p seen →
    p (visit next fuel seen item)) (h : p seen) : p (items.foldl (visit next fuel) seen) := by
  induction items generalizing seen with
  | nil => exact h
  | cons item items ih =>
    exact ih (fun seen other hother => hvisit seen other (List.mem_cons_of_mem _ hother))
      (hvisit seen item (List.mem_cons_self ..) h)

theorem visit_nodup (h : seen.Nodup) : (visit next fuel seen item).Nodup := by
  induction fuel generalizing seen item with
  | zero => exact h
  | succ fuel ih =>
    rw [visit]
    split
    · exact h
    · rename_i hnew
      have hmore : (seen ++ [item]).Nodup := by
        rw [← List.concat_eq_append]
        exact List.Nodup.concat hnew h
      exact foldl_visit List.Nodup (fun _ _ _ => ih) hmore

theorem visitAll_nodup : (visitAll next fuel seeds).Nodup :=
  foldl_visit List.Nodup (fun _ _ _ => visit_nodup) List.nodup_nil

theorem visit_forall {p : α → Prop} (hnext : ∀ source, p source → ∀ target ∈ next source, p target)
    (hitem : p item) (h : ∀ other ∈ seen, p other) : ∀ other ∈ visit next fuel seen item, p other := by
  induction fuel generalizing seen item with
  | zero => exact h
  | succ fuel ih =>
    by_cases hseen : item ∈ seen
    · rw [visit, if_pos hseen]
      exact h
    · rw [visit, if_neg hseen]
      apply foldl_visit fun seen => ∀ other ∈ seen, p other
      · intro seen target htarget hall
        exact ih (hnext item hitem target htarget) hall
      · intro other hother
        rcases List.mem_append.mp hother with hold | hnew
        · exact h other hold
        · rw [List.mem_singleton.mp hnew]
          exact hitem

theorem visitAll_forall {p : α → Prop} (hnext : ∀ source, p source → ∀ target ∈ next source, p target)
    (hseeds : ∀ seed ∈ seeds, p seed) : ∀ other ∈ visitAll next fuel seeds, p other := by
  apply foldl_visit fun seen => ∀ other ∈ seen, p other
  · intro seen seed hseed hall
    exact visit_forall hnext (hseeds seed hseed) hall
  · exact List.forall_mem_nil _

theorem mem_visitAll (hclosed : ∀ item ∈ known, next item ⊆ known) (hseeds : seeds ⊆ known)
    (hfuel : known.length < fuel) : item ∈ visitAll next fuel seeds ↔ Reached next seeds item := by
  constructor
  · apply visitAll_forall
    · rintro source ⟨seed, hseed, hpath⟩ target htarget
      exact ⟨seed, hseed, hpath.tail htarget⟩
    · exact fun seed hseed => ⟨seed, hseed, .refl⟩
  · rintro ⟨seed, hseed, hpath⟩
    obtain ⟨hexplored, hall⟩ := visitAll_explored hclosed hseeds hfuel
    induction hpath with
    | refl => exact hall hseed
    | tail _ hlink ih => exact hexplored.closed _ ih List.not_mem_nil hlink

end KubeOps.Foundation
