import Mathlib.Algebra.Order.Group.Defs
import Mathlib.Algebra.Order.Sub.Defs
import Mathlib.Data.List.Basic

/-! Events in half-open windows of time that may end at any instant, and the
ledgers that forget events as soon as no later window can hold them. -/
namespace KubeOps.Foundation

section Since

variable {τ : Type} [LinearOrder τ]

def since (cutoff : τ) (stamps : List τ) : List τ := stamps.filter (cutoff < ·)

@[simp] theorem since_nil (cutoff : τ) : since cutoff [] = [] := rfl

@[simp] theorem since_append (cutoff : τ) (stamps later : List τ) :
    since cutoff (stamps ++ later) = since cutoff stamps ++ since cutoff later := List.filter_append ..

theorem since_since {cutoff later : τ} (h : cutoff ≤ later) (stamps : List τ) :
    since later (since cutoff stamps) = since later stamps := by
  rw [since, since, List.filter_filter]
  apply List.filter_congr
  intro stamp _
  rw [Bool.eq_iff_iff, Bool.and_eq_true, decide_eq_true_eq, decide_eq_true_eq]
  exact ⟨fun hboth => hboth.1, fun hlater => ⟨hlater, h.trans_lt hlater⟩⟩

end Since

section Windows

variable {τ : Type} [AddCommGroup τ] [LinearOrder τ] {width now later : τ} {cap : Nat}
  {stamps bucket : List τ}

/-- The stamps in the window of this width that ends at `last`. -/
def inWindow (width last : τ) (stamps : List τ) : List τ := (since (last - width) stamps).filter (· ≤ last)

theorem inWindow_of_past {last : τ} (h : ∀ stamp ∈ stamps, stamp ≤ last) :
    inWindow width last stamps = since (last - width) stamps := by
  apply List.filter_eq_self.mpr
  intro stamp hstamp
  exact decide_eq_true (h stamp (List.mem_of_mem_filter hstamp))

theorem inWindow_append (last : τ) (stamps new : List τ) :
    inWindow width last (stamps ++ new) = inWindow width last stamps ++ inWindow width last new := by
  rw [inWindow, since_append, List.filter_append, inWindow, inWindow]

/-- No window of this width holds more than `cap` of the stamps. -/
def WindowBounded (width : τ) (cap : Nat) (stamps : List τ) : Prop :=
  ∀ last, (inWindow width last stamps).length ≤ cap

/-- Every stamp of the first list that a window from `now` on may hold is in the second. -/
def Covers (width now : τ) (stamps bucket : List τ) : Prop :=
  ∀ cutoff, now - width ≤ cutoff → List.Sublist (since cutoff stamps) (since cutoff bucket)

theorem WindowBounded.nil : WindowBounded width cap [] := fun _ => Nat.zero_le _

namespace Covers

theorem nil : Covers width now [] bucket := fun _ _ => List.nil_sublist _

theorem prune (h : Covers width now stamps bucket) :
    Covers width now stamps (since (now - width) bucket) := by
  intro cutoff hcutoff
  rw [since_since hcutoff]
  exact h cutoff hcutoff

theorem pruned (h : Covers width now stamps bucket) :
    Covers width now (since (now - width) stamps) bucket := by
  intro cutoff hcutoff
  rw [since_since hcutoff]
  exact h cutoff hcutoff

theorem append (h : Covers width now stamps bucket) {new added : List τ} (hnew : List.Sublist new added) :
    Covers width now (stamps ++ new) (bucket ++ added) := by
  intro cutoff hcutoff
  rw [since_append, since_append]
  exact (h cutoff hcutoff).append (hnew.filter _)

theorem length_le (h : Covers width now stamps bucket) :
    (since (now - width) stamps).length ≤ (since (now - width) bucket).length :=
  (h (now - width) le_rfl).length_le

end Covers

variable [IsOrderedAddMonoid τ]

theorem Covers.mono (h : Covers width now stamps bucket) (hle : now ≤ later) :
    Covers width later stamps bucket :=
  fun cutoff hcutoff => h cutoff ((sub_le_sub_right hle width).trans hcutoff)

theorem WindowBounded.concat (h : WindowBounded width cap stamps) (hpast : ∀ stamp ∈ stamps, stamp ≤ now)
    (hroom : (since (now - width) stamps).length < cap) : WindowBounded width cap (stamps ++ [now]) := by
  intro last
  rw [inWindow_append, List.length_append]
  by_cases hnow : now ≤ last
  · -- what the window holds besides the new stamp was counted when there was room
    have hold : (inWindow width last stamps).length ≤ (since (now - width) stamps).length := by
      have hcutoff : now - width ≤ last - width := sub_le_sub_right hnow width
      rw [inWindow_of_past fun stamp hstamp => (hpast stamp hstamp).trans hnow, ← since_since hcutoff]
      exact List.length_filter_le _ _
    have hnew : (inWindow width last [now]).length ≤ 1 :=
      (List.length_filter_le _ _).trans (List.length_filter_le _ _)
    omega
  · have hnew : inWindow width last [now] = [] := by
      rw [inWindow, List.filter_eq_nil_iff]
      intro stamp hstamp
      rw [List.mem_singleton.mp (List.mem_of_mem_filter hstamp)]
      simpa using hnow
    rw [hnew]
    exact h last

end Windows

end KubeOps.Foundation
