import Mathlib.Data.List.Basic

/-! Quoted texts and numbers in front of other text. The quotation marks inside a text are
escaped, so where the text ends can be read off, and so can where a bracketed list of texts
ends. A number ends where no digit follows. -/
namespace KubeOps.Foundation

def escape (text : List Char) : List Char :=
  text.flatMap fun c => if c = '"' ∨ c = '\\' then ['\\', c] else [c]

/-- What follows an opening quotation mark. -/
def quoted (text rest : List Char) : List Char := escape text ++ '"' :: rest

/-- What follows the first text of a list. -/
def listTail : List (List Char) → List Char → List Char
  | [], rest => ']' :: rest
  | text :: texts, rest => ',' :: '"' :: quoted text (listTail texts rest)

/-- `["first","second"]` and what follows it. -/
def listed : List (List Char) → List Char → List Char
  | [], rest => '[' :: ']' :: rest
  | text :: texts, rest => '[' :: '"' :: quoted text (listTail texts rest)

variable {text other rest others : List Char} {texts found : List (List Char)}

theorem quoted_nil : quoted [] rest = '"' :: rest := rfl

theorem quoted_cons (c : Char) : quoted (c :: text) rest =
    (if c = '"' ∨ c = '\\' then ['\\', c] else [c]) ++ quoted text rest := by
  rw [quoted, quoted, escape, List.flatMap_cons, List.append_assoc]
  rfl

theorem quoted_inj (h : quoted text rest = quoted other others) : text = other ∧ rest = others := by
  induction text generalizing other with
  | nil =>
    cases other with
    | nil => exact ⟨rfl, (List.cons.inj h).2⟩
    | cons d other =>
      rw [quoted_nil, quoted_cons] at h
      split at h
      · exact absurd (List.cons.inj h).1 (by decide)
      · rename_i hplain
        exact absurd (.inl (List.cons.inj h).1.symm) hplain
  | cons c text ih =>
    cases other with
    | nil =>
      rw [quoted_nil, quoted_cons] at h
      split at h
      · exact absurd (List.cons.inj h).1 (by decide)
      · rename_i hplain
        exact absurd (.inl (List.cons.inj h).1) hplain
    | cons d other =>
      rw [quoted_cons, quoted_cons] at h
      split at h
      · split at h
        · obtain ⟨hsame, hrest⟩ := List.cons.inj (List.cons.inj h).2
          obtain ⟨rfl, htail⟩ := ih hrest
          exact ⟨by rw [hsame], htail⟩
        · rename_i hplain
          exact absurd (.inr (List.cons.inj h).1.symm) hplain
      · rename_i hplain
        split at h
        · exact absurd (.inr (List.cons.inj h).1) hplain
        · obtain ⟨hsame, hrest⟩ := List.cons.inj h
          obtain ⟨rfl, htail⟩ := ih hrest
          exact ⟨by rw [hsame], htail⟩

theorem listTail_inj (h : listTail texts rest = listTail found others) : texts = found ∧ rest = others := by
  induction texts generalizing found with
  | nil =>
    cases found with
    | nil => exact ⟨rfl, (List.cons.inj h).2⟩
    | cons other found => exact absurd (List.cons.inj h).1 (by decide)
  | cons text texts ih =>
    cases found with
    | nil => exact absurd (List.cons.inj h).1 (by decide)
    | cons other found =>
      obtain ⟨rfl, htail⟩ := quoted_inj (List.cons.inj (List.cons.inj h).2).2
      obtain ⟨rfl, hrest⟩ := ih htail
      exact ⟨rfl, hrest⟩

theorem listed_inj (h : listed texts rest = listed found others) : texts = found ∧ rest = others := by
  cases texts with
  | nil =>
    cases found with
    | nil => exact ⟨rfl, (List.cons.inj (List.cons.inj h).2).2⟩
    | cons other found => exact absurd (List.cons.inj (List.cons.inj h).2).1 (by decide)
  | cons text texts =>
    cases found with
    | nil => exact absurd (List.cons.inj (List.cons.inj h).2).1 (by decide)
    | cons other found =>
      obtain ⟨rfl, htail⟩ := quoted_inj (List.cons.inj (List.cons.inj h).2).2
      obtain ⟨rfl, hrest⟩ := listTail_inj htail
      exact ⟨rfl, hrest⟩

/-- A number in front of this text ends where the text begins. -/
def Ends (rest : List Char) : Prop := ∀ c ∈ rest.head?, c.isDigit = false

theorem ends_nil : Ends [] := by simp [Ends]

theorem ends_cons {c : Char} (h : c.isDigit = false) : Ends (c :: rest) := by simp [Ends, h]

theorem takeWhile_digits (number : Nat) (hrest : Ends rest) :
    (number.repr.toList ++ rest).takeWhile Char.isDigit = number.repr.toList := by
  have hdigits : ∀ c ∈ number.repr.toList, c.isDigit = true := by
    rw [Nat.toList_repr]
    exact fun c hc => Nat.isDigit_of_mem_toDigits (by decide) (by decide) hc
  have hnone : rest.takeWhile Char.isDigit = [] := by
    cases rest with
    | nil => rfl
    | cons c rest =>
      apply List.takeWhile_cons_of_neg
      rw [hrest c rfl]
      exact Bool.false_ne_true
  rw [List.takeWhile_append_of_pos hdigits, hnone, List.append_nil]

theorem digits_inj {number found : Nat} (hrest : Ends rest) (hothers : Ends others)
    (h : number.repr.toList ++ rest = found.repr.toList ++ others) : number = found ∧ rest = others := by
  have hdigits : number.repr.toList = found.repr.toList := by
    rw [← takeWhile_digits number hrest, ← takeWhile_digits found hothers, h]
  rw [hdigits] at h
  refine ⟨?_, List.append_cancel_left h⟩
  rw [Nat.toList_repr, Nat.toList_repr] at hdigits
  have hvalue := congrArg (fun digits => Nat.ofDigitChars 10 digits 0) hdigits
  simpa [Nat.ofDigitChars_ten_toDigits] using hvalue

theorem digits_unsigned (number : Nat) : number.repr.toList ++ rest ≠ '-' :: others := by
  intro h
  have hfirst : '-' ∈ number.repr.toList := by
    cases hdigits : number.repr.toList with
    | nil =>
      rw [Nat.toList_repr] at hdigits
      exact absurd hdigits Nat.toDigits_ne_nil
    | cons c digits =>
      rw [hdigits, List.cons_append] at h
      rw [(List.cons.inj h).1]
      exact List.mem_cons_self ..
  rw [Nat.toList_repr] at hfirst
  exact absurd (Nat.isDigit_of_mem_toDigits (by decide) (by decide) hfirst) (by decide)

theorem repr_ofNat (number : Nat) : (Int.ofNat number).repr.toList = number.repr.toList := rfl

theorem repr_negSucc (number : Nat) :
    (Int.negSucc number).repr.toList = '-' :: (number + 1).repr.toList := by
  simp [Int.repr]

theorem repr_inj {number found : Int} (hrest : Ends rest) (hothers : Ends others)
    (h : number.repr.toList ++ rest = found.repr.toList ++ others) : number = found ∧ rest = others := by
  cases number with
  | ofNat number =>
    cases found with
    | ofNat found =>
      obtain ⟨rfl, hsame⟩ := digits_inj hrest hothers h
      exact ⟨rfl, hsame⟩
    | negSucc found =>
      rw [repr_ofNat, repr_negSucc] at h
      exact absurd h (digits_unsigned number)
  | negSucc number =>
    cases found with
    | ofNat found =>
      rw [repr_ofNat, repr_negSucc] at h
      exact absurd h.symm (digits_unsigned found)
    | negSucc found =>
      rw [repr_negSucc, repr_negSucc] at h
      obtain ⟨hnumber, hsame⟩ := digits_inj hrest hothers (List.cons.inj h).2
      rw [Nat.succ.inj hnumber]
      exact ⟨rfl, hsame⟩

end KubeOps.Foundation
