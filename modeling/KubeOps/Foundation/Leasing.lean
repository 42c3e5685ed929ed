import Mathlib.Logic.Function.Basic
import Mathlib.Logic.Relation

/-! Exclusive leasing of items to holders. A lease holds one item for one
holder, and an item records the holder it is let to; the two views agree
exactly when every item let out is held by a single lease. -/
namespace KubeOps.Foundation

variable {ι τ α : Type}

/-- The item and holder of each live lease, and the holder recorded with each item. -/
structure Leasing (ι τ α : Type) where
  holds : ι → Option (τ × α)
  tenant : τ → Option α

namespace Leasing

structure Exclusive (leasing : Leasing ι τ α) : Prop where
  recorded : ∀ {lease item holder}, leasing.holds lease = some (item, holder) →
    leasing.tenant item = some holder
  held : ∀ {item holder}, leasing.tenant item = some holder →
    ∃ lease, leasing.holds lease = some (item, holder)
  unique : ∀ {left right item holder other}, leasing.holds left = some (item, holder) →
    leasing.holds right = some (item, other) → left = right

def vacant : Leasing ι τ α := ⟨fun _ => none, fun _ => none⟩

theorem Exclusive.vacant : Exclusive (vacant : Leasing ι τ α) where
  recorded h := by cases h
  held h := by cases h
  unique h := by cases h

variable [DecidableEq ι] [DecidableEq τ]

def acquire (leasing : Leasing ι τ α) (lease : ι) (item : τ) (holder : α) : Leasing ι τ α where
  holds := Function.update leasing.holds lease (some (item, holder))
  tenant := Function.update leasing.tenant item (some holder)

def release (leasing : Leasing ι τ α) (lease : ι) (item : τ) : Leasing ι τ α where
  holds := Function.update leasing.holds lease none
  tenant := Function.update leasing.tenant item none

theorem acquire_holds {leasing : Leasing ι τ α} {lease other : ι} {item named : τ}
    {holder found : α} : (leasing.acquire lease item holder).holds other = some (named, found) ↔
      (other = lease ∧ named = item ∧ found = holder) ∨
        (other ≠ lease ∧ leasing.holds other = some (named, found)) := by
  by_cases h : other = lease <;> simp [acquire, h, eq_comm]

theorem acquire_tenant {leasing : Leasing ι τ α} {lease : ι} {item named : τ} {holder found : α} :
    (leasing.acquire lease item holder).tenant named = some found ↔
      (named = item ∧ found = holder) ∨ (named ≠ item ∧ leasing.tenant named = some found) := by
  by_cases h : named = item <;> simp [acquire, h, eq_comm]

theorem release_holds {leasing : Leasing ι τ α} {lease other : ι} {item : τ} {value : τ × α} :
    (leasing.release lease item).holds other = some value ↔
      other ≠ lease ∧ leasing.holds other = some value := by
  by_cases h : other = lease <;> simp [release, h]

theorem release_tenant {leasing : Leasing ι τ α} {lease : ι} {item named : τ} {found : α} :
    (leasing.release lease item).tenant named = some found ↔
      named ≠ item ∧ leasing.tenant named = some found := by
  by_cases h : named = item <;> simp [release, h]

theorem release_vacant {leasing : Leasing ι τ α} {lease : ι} {item : τ}
    (hlease : leasing.holds lease = none) (hitem : leasing.tenant item = none) :
    leasing.release lease item = leasing := by
  have hholds : Function.update leasing.holds lease none = leasing.holds :=
    Function.update_eq_self_iff.mpr hlease.symm
  have htenant : Function.update leasing.tenant item none = leasing.tenant :=
    Function.update_eq_self_iff.mpr hitem.symm
  rw [release, hholds, htenant]

/-- A vacant item is let under a lease not in use, or a live lease ends. -/
inductive Step : Leasing ι τ α → Leasing ι τ α → Prop where
  | acquire {leasing lease item} (holder : α) (hlease : leasing.holds lease = none)
      (hitem : leasing.tenant item = none) : Step leasing (leasing.acquire lease item holder)
  | release {leasing lease item holder} (hlease : leasing.holds lease = some (item, holder)) :
      Step leasing (leasing.release lease item)

theorem Exclusive.acquire {leasing : Leasing ι τ α} {lease : ι} {item : τ}
    (h : leasing.Exclusive) (holder : α) (hlease : leasing.holds lease = none)
    (hitem : leasing.tenant item = none) : (leasing.acquire lease item holder).Exclusive := by
  -- No live lease holds the vacant item.
  have hvacant : ∀ {other found}, leasing.holds other ≠ some (item, found) := by
    intro other found hother
    rw [h.recorded hother] at hitem
    cases hitem
  constructor
  · intro other named found hother
    rcases acquire_holds.mp hother with ⟨-, rfl, rfl⟩ | ⟨-, hheld⟩
    · exact acquire_tenant.mpr (.inl ⟨rfl, rfl⟩)
    · refine acquire_tenant.mpr (.inr ⟨?_, h.recorded hheld⟩)
      rintro rfl
      exact hvacant hheld
  · intro named found hnamed
    rcases acquire_tenant.mp hnamed with ⟨rfl, rfl⟩ | ⟨-, hrecorded⟩
    · exact ⟨lease, acquire_holds.mpr (.inl ⟨rfl, rfl, rfl⟩)⟩
    · obtain ⟨other, hother⟩ := h.held hrecorded
      refine ⟨other, acquire_holds.mpr (.inr ⟨?_, hother⟩)⟩
      rintro rfl
      rw [hother] at hlease
      cases hlease
  · intro left right named found other hleft hright
    rcases acquire_holds.mp hleft with ⟨rfl, rfl, -⟩ | ⟨-, hfirst⟩ <;>
      rcases acquire_holds.mp hright with ⟨rfl, hsame, -⟩ | ⟨-, hsecond⟩
    · rfl
    · exact absurd hsecond hvacant
    · exact absurd (hsame ▸ hfirst) hvacant
    · exact h.unique hfirst hsecond

theorem Exclusive.release {leasing : Leasing ι τ α} {lease : ι} {item : τ} {holder : α}
    (h : leasing.Exclusive) (hlease : leasing.holds lease = some (item, holder)) :
    (leasing.release lease item).Exclusive := by
  constructor
  · intro other named found hother
    obtain ⟨hne, hheld⟩ := release_holds.mp hother
    refine release_tenant.mpr ⟨?_, h.recorded hheld⟩
    rintro rfl
    exact hne (h.unique hheld hlease)
  · intro named found hnamed
    obtain ⟨hne, hrecorded⟩ := release_tenant.mp hnamed
    obtain ⟨other, hother⟩ := h.held hrecorded
    refine ⟨other, release_holds.mpr ⟨?_, hother⟩⟩
    rintro rfl
    rw [hlease] at hother
    cases hother
    exact hne rfl
  · intro left right named found other hleft hright
    exact h.unique (release_holds.mp hleft).2 (release_holds.mp hright).2

theorem Exclusive.step {leasing reached : Leasing ι τ α} (h : leasing.Exclusive)
    (hstep : Step leasing reached) : reached.Exclusive := by
  cases hstep with
  | acquire holder hlease hitem => exact h.acquire holder hlease hitem
  | release hlease => exact h.release hlease

theorem Exclusive.steps {leasing reached : Leasing ι τ α} (h : leasing.Exclusive)
    (hsteps : Relation.ReflTransGen Step leasing reached) : reached.Exclusive := by
  induction hsteps with
  | refl => exact h
  | tail _ hstep ih => exact ih.step hstep

end Leasing

end KubeOps.Foundation
