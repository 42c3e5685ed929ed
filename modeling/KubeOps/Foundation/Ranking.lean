import Mathlib.Data.List.Induction
import Mathlib.Order.Lattice

/-! Rules that may set a value, run in the order of a key so that a later one overwrites an earlier
one. The value at the end is that of the setter whose key is greatest; whether it is also the value
of a setter with the greatest rank is a question about the rules alone. -/
namespace KubeOps.Foundation

variable {ρ β κ ι : Type} {sets : ρ → Option β} {rules : List ρ}

/-- Each rule that sets the value replaces what is there. -/
def overwritten (sets : ρ → Option β) (start : β) (rules : List ρ) : β :=
  rules.foldl (fun value rule => (sets rule).getD value) start

theorem overwritten_concat (start : β) (rules : List ρ) (rule : ρ) :
    overwritten sets start (rules ++ [rule]) = (sets rule).getD (overwritten sets start rules) := by
  simp [overwritten]

theorem overwritten_of_none {start : β} (h : ∀ rule ∈ rules, sets rule = none) :
    overwritten sets start rules = start := by
  induction rules using List.reverseRecOn with
  | nil => rfl
  | append_singleton rules rule ih =>
    rw [overwritten_concat, h rule (by simp), ih fun other hother => h other (List.mem_append_left _ hother)]
    rfl

theorem foldl_overwritten {σ : Type} {step : σ → ρ → σ} {part : σ → β}
    (h : ∀ state rule, part (step state rule) = (sets rule).getD (part state)) (rules : List ρ) (state : σ) :
    part (rules.foldl step state) = overwritten sets (part state) rules := by
  induction rules generalizing state with
  | nil => rfl
  | cons rule rules ih => rw [List.foldl_cons, ih, h, overwritten, overwritten, List.foldl_cons]

section Keys

structure GreatestSetter [LE κ] (key : ρ → κ) (sets : ρ → Option β) (rules : List ρ) (rule : ρ) : Prop where
  mem : rule ∈ rules
  setter : (sets rule).isSome = true
  bound : ∀ other ∈ rules, (sets other).isSome = true → key other ≤ key rule

variable [LinearOrder κ] {key : ρ → κ}

theorem exists_greatest (h : ∃ rule ∈ rules, (sets rule).isSome = true) :
    ∃ rule, GreatestSetter key sets rules rule := by
  induction rules with
  | nil =>
    obtain ⟨rule, hrule, -⟩ := h
    cases hrule
  | cons first rules ih =>
    by_cases hrest : ∃ rule ∈ rules, (sets rule).isSome = true
    · obtain ⟨rule, hmem, hsetter, hbound⟩ := ih hrest
      by_cases hfirst : (sets first).isSome = true ∧ key rule < key first
      · refine ⟨first, List.mem_cons_self, hfirst.1, ?_⟩
        intro other hother hsets
        rcases List.mem_cons.mp hother with rfl | hother
        · exact le_rfl
        · exact (hbound other hother hsets).trans hfirst.2.le
      · refine ⟨rule, List.mem_cons_of_mem _ hmem, hsetter, ?_⟩
        intro other hother hsets
        rcases List.mem_cons.mp hother with rfl | hother
        · exact not_lt.mp fun hlt => hfirst ⟨hsets, hlt⟩
        · exact hbound other hother hsets
    · obtain ⟨rule, hrule, hsetter⟩ := h
      have hsame : rule = first := by
        rcases List.mem_cons.mp hrule with hsame | hlater
        · exact hsame
        · exact absurd ⟨rule, hlater, hsetter⟩ hrest
      refine ⟨rule, hrule, hsetter, ?_⟩
      intro other hother hsets
      rcases List.mem_cons.mp hother with rfl | hother
      · rw [hsame]
      · exact absurd ⟨other, hother, hsets⟩ hrest

theorem greatestSetter_perm {others : List ρ} {rule : ρ} (hperm : rules.Perm others) :
    GreatestSetter key sets rules rule ↔ GreatestSetter key sets others rule := by
  have hmem : ∀ item, item ∈ rules ↔ item ∈ others := fun item => hperm.mem_iff
  constructor
  · rintro ⟨hrule, hsetter, hbound⟩
    exact ⟨(hmem rule).mp hrule, hsetter, fun other hother => hbound other ((hmem other).mpr hother)⟩
  · rintro ⟨hrule, hsetter, hbound⟩
    exact ⟨(hmem rule).mpr hrule, hsetter, fun other hother => hbound other ((hmem other).mp hother)⟩

theorem overwritten_of_greatest {start value : β} {rule : ρ}
    (hsorted : rules.Pairwise fun one two => key one < key two)
    (h : GreatestSetter key sets rules rule) (hvalue : sets rule = some value) :
    overwritten sets start rules = value := by
  induction rules using List.reverseRecOn with
  | nil => exact absurd h.mem List.not_mem_nil
  | append_singleton rules last ih =>
    rw [overwritten_concat]
    obtain ⟨hfront, -, hlast⟩ := List.pairwise_append.mp hsorted
    rcases List.mem_append.mp h.mem with hmem | hmem
    · cases hsets : sets last with
      | none => exact ih hfront ⟨hmem, h.setter, fun other hother =>
          h.bound other (List.mem_append_left _ hother)⟩
      | some found =>
        have hle : key last ≤ key rule := h.bound last (by simp) (by simp [hsets])
        exact absurd (hlast rule hmem last (List.mem_singleton_self last)) (not_lt.mpr hle)
    · obtain rfl := List.mem_singleton.mp hmem
      rw [hvalue]
      rfl

end Keys

section Ranks

variable [LinearOrder κ] [LinearOrder ι] {key : ρ → κ} {rank : ρ → ι}

def SetByRank (rank : ρ → ι) (sets : ρ → Option β) (rules : List ρ) (start value : β) : Prop :=
  (∀ rule ∈ rules, sets rule = none) ∧ value = start ∨ ∃ top, GreatestSetter rank sets rules top ∧
    sets top = some value

def LastAgrees (key : ρ → κ) (rank : ρ → ι) (sets : ρ → Option β) (rules : List ρ) : Prop :=
  ∀ last, GreatestSetter key sets rules last → ∃ top, GreatestSetter rank sets rules top ∧ sets top = sets last

theorem setByRank_perm {others : List ρ} {start value : β} (hperm : rules.Perm others) :
    SetByRank rank sets rules start value ↔ SetByRank rank sets others start value := by
  simp only [SetByRank, hperm.mem_iff, greatestSetter_perm hperm]

theorem lastAgrees_perm {others : List ρ} (hperm : rules.Perm others) :
    LastAgrees key rank sets rules ↔ LastAgrees key rank sets others := by
  simp only [LastAgrees, greatestSetter_perm hperm]

theorem setByRank_overwritten_iff {start : β} (hsorted : rules.Pairwise fun one two => key one < key two) :
    SetByRank rank sets rules start (overwritten sets start rules) ↔ LastAgrees key rank sets rules := by
  constructor
  · intro hset last hlast
    obtain ⟨value, hvalue⟩ := Option.isSome_iff_exists.mp hlast.setter
    rw [overwritten_of_greatest hsorted hlast hvalue] at hset
    rcases hset with ⟨hnone, -⟩ | ⟨top, htop, hsame⟩
    · simp [hnone last hlast.mem] at hvalue
    · exact ⟨top, htop, hsame.trans hvalue.symm⟩
  · intro hagrees
    by_cases hsome : ∃ rule ∈ rules, (sets rule).isSome = true
    · obtain ⟨last, hlast⟩ : ∃ last, GreatestSetter key sets rules last := exists_greatest hsome
      obtain ⟨top, htop, hsame⟩ := hagrees last hlast
      obtain ⟨value, hvalue⟩ := Option.isSome_iff_exists.mp hlast.setter
      rw [overwritten_of_greatest hsorted hlast hvalue]
      exact Or.inr ⟨top, htop, hsame.trans hvalue⟩
    · have hnone : ∀ rule ∈ rules, sets rule = none := by
        intro rule hrule
        by_contra hsets
        exact hsome ⟨rule, hrule, Option.isSome_iff_ne_none.mpr hsets⟩
      exact Or.inl ⟨hnone, overwritten_of_none hnone⟩

end Ranks

end KubeOps.Foundation
