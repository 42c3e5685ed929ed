import Mathlib.Data.List.Basic
import Mathlib.Data.String.Basic

/-! Texts that are put together with a separator. A part without the separator
can be read back from the end at which it stands. -/
namespace KubeOps.Foundation

def Unbroken (separator : Char) (text : String) : Prop := separator ∉ text.toList

instance (separator : Char) (text : String) : Decidable (Unbroken separator text) := by
  unfold Unbroken
  infer_instance

theorem Unbroken.toString (number : Nat) : Unbroken ':' (ToString.toString number) := by
  intro hmem
  have hdigit : (':' : Char).isDigit = true := by
    apply Nat.isDigit_of_mem_toDigits (b := 10) (n := number) (by decide) (by decide)
    rwa [← Nat.toList_repr]
  exact absurd hdigit (by decide)

theorem append_cons_inj {α : Type} {separator : α} {front other left right : List α}
    (hfront : separator ∉ front) (hother : separator ∉ other)
    (h : front ++ separator :: left = other ++ separator :: right) : front = other ∧ left = right := by
  induction front generalizing other with
  | nil =>
    cases other with
    | nil => exact ⟨rfl, (List.cons.inj h).2⟩
    | cons item rest => exact absurd (List.mem_cons.mpr (Or.inl (List.cons.inj h).1)) hother
  | cons item front ih =>
    cases other with
    | nil => exact absurd (List.mem_cons.mpr (Or.inl (List.cons.inj h).1.symm)) hfront
    | cons found rest =>
      obtain ⟨rfl, htail⟩ := List.cons.inj h
      obtain ⟨rfl, hrest⟩ := ih (fun hmem => hfront (List.mem_cons_of_mem _ hmem))
        (fun hmem => hother (List.mem_cons_of_mem _ hmem)) htail
      exact ⟨rfl, hrest⟩

theorem append_pair_inj {α : Type} {one two : α} (hne : one ≠ two) {front other left right : List α}
    (hfront : ¬ [one, two] <:+: front) (hother : ¬ [one, two] <:+: other)
    (h : front ++ one :: two :: left = other ++ one :: two :: right) : front = other ∧ left = right := by
  have hlater : ∀ {sign : α} {signs : List α}, ¬ [one, two] <:+: sign :: signs → ¬ [one, two] <:+: signs :=
    fun hnone hpart => hnone (hpart.trans (List.infix_cons (List.infix_refl _)))
  have hshort : ∀ {signs : List α} {left right : List α}, ¬ [one, two] <:+: signs →
      one :: two :: left = signs ++ one :: two :: right → signs = [] := by
    intro signs left right hnone hsame
    cases signs with
    | nil => rfl
    | cons first signs =>
      cases signs with
      | nil =>
        simp only [List.cons_append, List.nil_append, List.cons.injEq] at hsame
        exact absurd hsame.2.1.symm hne
      | cons second signs =>
        simp only [List.cons_append, List.cons.injEq] at hsame
        rw [← hsame.1, ← hsame.2.1] at hnone
        exact absurd ⟨[], signs, rfl⟩ hnone
  induction front generalizing other with
  | nil =>
    obtain rfl := hshort hother h
    exact ⟨rfl, (List.cons.inj (List.cons.inj h).2).2⟩
  | cons sign front ih =>
    cases other with
    | nil => exact absurd (hshort hfront h.symm) (List.cons_ne_nil _ _)
    | cons otherSign other =>
      simp only [List.cons_append, List.cons.injEq] at h
      obtain ⟨hrest, hleft⟩ := ih (hlater hfront) (hlater hother) h.2
      exact ⟨List.cons_eq_cons.mpr ⟨h.1, hrest⟩, hleft⟩

theorem toList_join (left right : String) (separator : Char) :
    (left ++ String.singleton separator ++ right).toList =
      left.toList ++ separator :: right.toList := by
  simp [String.toList_append]

section Joining

variable (separator : Char) {text other left right : String}

theorem first_segment_inj (htext : Unbroken separator text) (hother : Unbroken separator other)
    (h : text ++ String.singleton separator ++ left = other ++ String.singleton separator ++ right) :
    text = other ∧ left = right := by
  have hlist := congrArg String.toList h
  rw [toList_join, toList_join] at hlist
  obtain ⟨hfront, hback⟩ := append_cons_inj htext hother hlist
  exact ⟨String.toList_injective hfront, String.toList_injective hback⟩

theorem last_segment_inj (htext : Unbroken separator text) (hother : Unbroken separator other)
    (h : left ++ String.singleton separator ++ text = right ++ String.singleton separator ++ other) :
    left = right ∧ text = other := by
  have hlist := congrArg (List.reverse ∘ String.toList) h
  simp only [Function.comp_apply, toList_join, List.reverse_append, List.reverse_cons,
    List.append_assoc, List.cons_append, List.nil_append] at hlist
  obtain ⟨hback, hfront⟩ := append_cons_inj (by simpa [Unbroken] using htext)
    (by simpa [Unbroken] using hother) hlist
  exact ⟨String.toList_injective (List.reverse_inj.mp hfront),
    String.toList_injective (List.reverse_inj.mp hback)⟩

theorem Unbroken.ne_join {separator : Char} {text left right : String} (h : Unbroken separator text) :
    text ≠ left ++ String.singleton separator ++ right := by
  intro heq
  apply h
  rw [heq, toList_join]
  simp

/-- Two joined texts agree if their parts do, or if a separator inside one text
stands where the other is joined. -/
theorem join_eq_join : left ++ String.singleton separator ++ text =
      right ++ String.singleton separator ++ other ↔
    left = right ∧ text = other ∨
      (∃ middle, right = left ++ String.singleton separator ++ middle ∧
        text = middle ++ String.singleton separator ++ other) ∨
      ∃ middle, left = right ++ String.singleton separator ++ middle ∧
        other = middle ++ String.singleton separator ++ text := by
  simp only [← String.toList_inj, toList_join]
  rw [List.append_eq_append_iff]
  constructor
  · intro h
    rcases h with ⟨middle, hright, htext⟩ | ⟨middle, hleft, hother⟩
    · cases middle with
      | nil => exact Or.inl ⟨by simpa using hright.symm, (List.cons.inj htext).2⟩
      | cons item middle =>
        obtain ⟨rfl, htext⟩ := List.cons.inj htext
        exact Or.inr (Or.inl ⟨String.ofList middle, by simpa using hright, by simpa using htext⟩)
    · cases middle with
      | nil => exact Or.inl ⟨by simpa using hleft, (List.cons.inj hother).2.symm⟩
      | cons item middle =>
        obtain ⟨rfl, hother⟩ := List.cons.inj hother
        exact Or.inr (Or.inr ⟨String.ofList middle, by simpa using hleft, by simpa using hother⟩)
  · intro h
    rcases h with ⟨hleft, htext⟩ | ⟨middle, hright, htext⟩ | ⟨middle, hleft, hother⟩
    · exact Or.inl ⟨[], by simp [hleft], by simp [htext]⟩
    · exact Or.inl ⟨separator :: middle.toList, hright, by simp [htext]⟩
    · exact Or.inr ⟨separator :: middle.toList, hleft, by simp [hother]⟩

end Joining

end KubeOps.Foundation
