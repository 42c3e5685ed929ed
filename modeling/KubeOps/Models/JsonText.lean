import KubeOps.Foundation.Quoting
import KubeOps.Models.Python

/-! Canonical JSON: dictionaries with sorted keys, written so that the text
determines the value. -/
namespace KubeOps.Models.Json

open KubeOps.Foundation

mutual

/-- The value with the keys of all dictionaries in it sorted. -/
def canonical : Json → Json
  | .list items => .list (canonicalItems items)
  | .dict entries => .dict ((canonicalEntries entries).insertionSort fun left right => left.1 ≤ right.1)
  | .null => .null
  | .bool value => .bool value
  | .int value => .int value
  | .float value => .float value
  | .str value => .str value

def canonicalItems : List Json → List Json
  | [] => []
  | item :: rest => item.canonical :: canonicalItems rest

def canonicalEntries : List (String × Json) → List (String × Json)
  | [] => []
  | (key, value) :: rest => (key, value.canonical) :: canonicalEntries rest

end

/-- Equal but for the order of the keys in dictionaries. -/
def Same (left right : Json) : Prop := left.canonical = right.canonical

section Same

variable {left right : List (String × Json)} {key : String} {value other : Json}

theorem canonicalEntries_eq (entries : List (String × Json)) :
    canonicalEntries entries = entries.map fun entry => (entry.1, entry.2.canonical) := by
  induction entries with
  | nil => rfl
  | cons entry entries ih => exact congrArg (List.cons (entry.1, entry.2.canonical)) ih

theorem canonicalItems_eq (items : List Json) : canonicalItems items = items.map canonical := by
  induction items with
  | nil => rfl
  | cons item items ih => exact congrArg (List.cons item.canonical) ih

theorem same_refl (value : Json) : Same value value := rfl

@[simp] theorem same_str {text other : String} : Same (.str text) (.str other) ↔ text = other :=
  ⟨Json.str.inj, congrArg fun text => (Json.str text).canonical⟩

@[simp] theorem same_int {number other : Int} : Same (.int number) (.int other) ↔ number = other :=
  ⟨Json.int.inj, congrArg fun number => (Json.int number).canonical⟩

theorem same_dict : Same (.dict left) (.dict right) ↔
    (left.map fun entry => (entry.1, entry.2.canonical)).insertionSort (fun one two => one.1 ≤ two.1) =
      (right.map fun entry => (entry.1, entry.2.canonical)).insertionSort (fun one two => one.1 ≤ two.1) := by
  rw [← canonicalEntries_eq, ← canonicalEntries_eq]
  exact ⟨Json.dict.inj, congrArg Json.dict⟩

theorem Same.under (h : Same (.dict left) (.dict right)) (hnodup : (right.map Prod.fst).Nodup)
    (hleft : (key, value) ∈ left) (hright : (key, other) ∈ right) : Same value other := by
  have hsorted : (key, value.canonical) ∈
      (left.map fun entry => (entry.1, entry.2.canonical)).insertionSort (fun one two => one.1 ≤ two.1) :=
    List.mem_insertionSort _ |>.mpr (List.mem_map.mpr ⟨(key, value), hleft, rfl⟩)
  rw [same_dict.mp h, List.mem_insertionSort] at hsorted
  obtain ⟨entry, hentry, hsame⟩ := List.mem_map.mp hsorted
  obtain ⟨hkey, hvalue⟩ := Prod.mk.inj hsame
  have hfound : entry = (key, other) := List.inj_on_of_nodup_map hnodup hentry hright hkey
  rw [hfound] at hvalue
  exact hvalue.symm

theorem Same.values (h : Same (.dict left) (.dict right)) (hkeys : left.map Prod.fst = right.map Prod.fst)
    (hnodup : (right.map Prod.fst).Nodup) :
    List.Forall₂ (fun one two => Same one.2 two.2) left right := by
  rw [List.forall₂_iff_get]
  have hlength : left.length = right.length := by
    simpa using congrArg List.length hkeys
  refine ⟨hlength, fun index hone htwo => ?_⟩
  have hkey : (left.get ⟨index, hone⟩).1 = (right.get ⟨index, htwo⟩).1 := by
    have hindex := congrArg (fun keys : List String => keys[index]?) hkeys
    simpa [hone, htwo] using hindex
  refine h.under hnodup (List.get_mem left ⟨index, hone⟩) ?_
  rw [hkey]
  exact List.get_mem right ⟨index, htwo⟩

end Same

mutual

/-- A value in front of other text; a float stands as a fraction. -/
def written : Json → List Char → List Char
  | .null, rest => 'n' :: 'u' :: 'l' :: 'l' :: rest
  | .bool true, rest => 't' :: 'r' :: 'u' :: 'e' :: rest
  | .bool false, rest => 'f' :: 'a' :: 'l' :: 's' :: 'e' :: rest
  | .int value, rest => value.repr.toList ++ rest
  | .float value, rest => '~' :: (value.num.repr.toList ++ '/' :: (value.den.repr.toList ++ rest))
  | .str value, rest => '"' :: quoted value.toList rest
  | .list [], rest => '[' :: ']' :: rest
  | .list (item :: items), rest => '[' :: item.written (writtenItems items rest)
  | .dict [], rest => '\x7b' :: '\x7d' :: rest
  | .dict ((key, value) :: entries), rest =>
    '\x7b' :: '"' :: quoted key.toList (':' :: value.written (writtenEntries entries rest))

def writtenItems : List Json → List Char → List Char
  | [], rest => ']' :: rest
  | item :: items, rest => ',' :: item.written (writtenItems items rest)

/-- What follows the first entry of a dictionary. -/
def writtenEntries : List (String × Json) → List Char → List Char
  | [], rest => '\x7d' :: rest
  | (key, value) :: entries, rest =>
    ',' :: '"' :: quoted key.toList (':' :: value.written (writtenEntries entries rest))

end

/-- `json.dumps` with sorted keys, without blanks and with other than ASCII letters
kept, for texts without control characters. -/
def text (value : Json) : String := String.ofList (value.canonical.written [])

section Text

variable {rest others : List Char}

/-- The kinds of values, by the character they begin with. -/
def kind : Json → Nat
  | .null => 0
  | .bool true => 1
  | .bool false => 2
  | .int _ => 3
  | .float _ => 4
  | .str _ => 5
  | .list _ => 6
  | .dict _ => 7

def kindOf (c : Char) : Option Nat :=
  if c = 'n' then some 0
  else if c = 't' then some 1
  else if c = 'f' then some 2
  else if c = '-' ∨ c.isDigit = true then some 3
  else if c = '~' then some 4
  else if c = '"' then some 5
  else if c = '[' then some 6
  else if c = '\x7b' then some 7
  else none

theorem kindOf_digit {c : Char} (h : c.isDigit = true) : kindOf c = some 3 := by
  have hnull : c ≠ 'n' := by
    rintro rfl
    exact absurd h (by decide)
  have htrue : c ≠ 't' := by
    rintro rfl
    exact absurd h (by decide)
  have hfalse : c ≠ 'f' := by
    rintro rfl
    exact absurd h (by decide)
  rw [kindOf, if_neg hnull, if_neg htrue, if_neg hfalse, if_pos (.inr h)]

theorem kindOf_repr (value : Int) : ∃ c digits, value.repr.toList = c :: digits ∧ kindOf c = some 3 := by
  cases value with
  | ofNat value =>
    rw [repr_ofNat, Nat.toList_repr]
    obtain ⟨c, digits, hdigits⟩ := List.exists_cons_of_ne_nil (Nat.toDigits_ne_nil (b := 10) (n := value))
    have hdigit : c.isDigit = true := by
      refine Nat.isDigit_of_mem_toDigits (b := 10) (n := value) (by decide) (by decide) ?_
      rw [hdigits]
      exact List.mem_cons_self ..
    exact ⟨c, digits, hdigits, kindOf_digit hdigit⟩
  | negSucc value =>
    rw [repr_negSucc]
    exact ⟨'-', _, rfl, rfl⟩

theorem written_head (value : Json) (rest : List Char) :
    ∃ c text, value.written rest = c :: text ∧ kindOf c = some value.kind := by
  cases value with
  | null => exact ⟨_, _, rfl, rfl⟩
  | bool value =>
    cases value with
    | true => exact ⟨_, _, rfl, rfl⟩
    | false => exact ⟨_, _, rfl, rfl⟩
  | int value =>
    obtain ⟨c, digits, hdigits, hkind⟩ := kindOf_repr value
    exact ⟨c, digits ++ rest, by rw [written, hdigits, List.cons_append], hkind⟩
  | float value => exact ⟨_, _, rfl, rfl⟩
  | str value => exact ⟨_, _, rfl, rfl⟩
  | list items =>
    cases items with
    | nil => exact ⟨_, _, rfl, rfl⟩
    | cons item items => exact ⟨_, _, rfl, rfl⟩
  | dict entries =>
    cases entries with
    | nil => exact ⟨_, _, rfl, rfl⟩
    | cons entry entries => exact ⟨_, _, rfl, rfl⟩

theorem kind_eq {left right : Json} (h : left.written rest = right.written others) :
    left.kind = right.kind := by
  obtain ⟨c, text, hleft, hkind⟩ := written_head left rest
  obtain ⟨d, other, hright, hfound⟩ := written_head right others
  rw [hleft, hright] at h
  rw [(List.cons.inj h).1, hfound] at hkind
  exact (Option.some.inj hkind).symm

theorem written_ne_bracket (value : Json) : value.written rest ≠ ']' :: others := by
  intro h
  obtain ⟨c, text, hvalue, hkind⟩ := written_head value rest
  rw [hvalue] at h
  rw [(List.cons.inj h).1] at hkind
  exact absurd hkind (by simp [kindOf])

theorem ends_writtenItems (items : List Json) : Ends (writtenItems items rest) := by
  cases items with
  | nil => exact ends_cons (by decide)
  | cons item items => exact ends_cons (by decide)

theorem ends_writtenEntries (entries : List (String × Json)) : Ends (writtenEntries entries rest) := by
  cases entries with
  | nil => exact ends_cons (by decide)
  | cons entry entries => exact ends_cons (by decide)

theorem quoted_toList_inj {left right : String} {one two : List Char}
    (h : quoted left.toList one = quoted right.toList two) : left = right ∧ one = two := by
  obtain ⟨htext, hsame⟩ := quoted_inj h
  exact ⟨String.toList_injective htext, hsame⟩

mutual

theorem written_inj (left right : Json) {rest others : List Char} (hrest : Ends rest) (hothers : Ends others)
    (h : left.written rest = right.written others) : left = right ∧ rest = others := by
  have hkind := kind_eq h
  cases left with
  | null =>
    cases right with
    | null => exact ⟨rfl, by simpa [written] using h⟩
    | bool other => cases other <;> simp [kind] at hkind
    | int _ | float _ | str _ | list _ | dict _ => simp [kind] at hkind
  | bool value =>
    cases right with
    | bool other =>
      cases value with
      | true =>
        cases other with
        | true => exact ⟨rfl, by simpa [written] using h⟩
        | false => simp [kind] at hkind
      | false =>
        cases other with
        | true => simp [kind] at hkind
        | false => exact ⟨rfl, by simpa [written] using h⟩
    | null | int _ | float _ | str _ | list _ | dict _ => cases value <;> simp [kind] at hkind
  | int value =>
    cases right with
    | int other =>
      rw [written, written] at h
      obtain ⟨rfl, hsame⟩ := repr_inj hrest hothers h
      exact ⟨rfl, hsame⟩
    | bool other => cases other <;> simp [kind] at hkind
    | null | float _ | str _ | list _ | dict _ => simp [kind] at hkind
  | float value =>
    cases right with
    | float other =>
      rw [written, written] at h
      have hslash : ∀ text, Ends ('/' :: text) := fun text => ends_cons (by decide)
      obtain ⟨hnum, hden⟩ := repr_inj (hslash _) (hslash _) (List.cons.inj h).2
      obtain ⟨hden, hsame⟩ := digits_inj hrest hothers (List.cons.inj hden).2
      rw [Rat.ext hnum hden]
      exact ⟨rfl, hsame⟩
    | bool other => cases other <;> simp [kind] at hkind
    | null | int _ | str _ | list _ | dict _ => simp [kind] at hkind
  | str value =>
    cases right with
    | str other =>
      rw [written, written] at h
      obtain ⟨rfl, hsame⟩ := quoted_toList_inj (List.cons.inj h).2
      exact ⟨rfl, hsame⟩
    | bool other => cases other <;> simp [kind] at hkind
    | null | int _ | float _ | list _ | dict _ => simp [kind] at hkind
  | list items =>
    cases right with
    | list found =>
      cases items with
      | nil =>
        cases found with
        | nil => exact ⟨rfl, by simpa [written] using h⟩
        | cons other found =>
          rw [written, written] at h
          exact absurd (List.cons.inj h).2.symm (written_ne_bracket other)
      | cons item items =>
        cases found with
        | nil =>
          rw [written, written] at h
          exact absurd (List.cons.inj h).2 (written_ne_bracket item)
        | cons other found =>
          rw [written, written] at h
          obtain ⟨rfl, hitems⟩ := written_inj item other (ends_writtenItems items)
            (ends_writtenItems found) (List.cons.inj h).2
          obtain ⟨rfl, hsame⟩ := writtenItems_inj items found hitems
          exact ⟨rfl, hsame⟩
    | bool other => cases other <;> simp [kind] at hkind
    | null | int _ | float _ | str _ | dict _ => simp [kind] at hkind
  | dict entries =>
    cases right with
    | dict found =>
      cases entries with
      | nil =>
        cases found with
        | nil => exact ⟨rfl, by simpa [written] using h⟩
        | cons other found =>
          rw [written, written] at h
          exact absurd (List.cons.inj (List.cons.inj h).2).1 (by decide)
      | cons entry entries =>
        cases found with
        | nil =>
          rw [written, written] at h
          exact absurd (List.cons.inj (List.cons.inj h).2).1 (by decide)
        | cons other found =>
          rw [written, written] at h
          obtain ⟨hkey, hcolon⟩ := quoted_toList_inj (List.cons.inj (List.cons.inj h).2).2
          obtain ⟨hvalue, hentries⟩ := written_inj entry.2 other.2 (ends_writtenEntries entries)
            (ends_writtenEntries found) (List.cons.inj hcolon).2
          obtain ⟨rfl, hsame⟩ := writtenEntries_inj entries found hentries
          rw [Prod.ext hkey hvalue]
          exact ⟨rfl, hsame⟩
    | bool other => cases other <;> simp [kind] at hkind
    | null | int _ | float _ | str _ | list _ => simp [kind] at hkind

theorem writtenItems_inj (items found : List Json) {rest others : List Char}
    (h : writtenItems items rest = writtenItems found others) : items = found ∧ rest = others := by
  cases items with
  | nil =>
    cases found with
    | nil => exact ⟨rfl, (List.cons.inj h).2⟩
    | cons other found => exact absurd (List.cons.inj h).1 (by decide)
  | cons item items =>
    cases found with
    | nil => exact absurd (List.cons.inj h).1 (by decide)
    | cons other found =>
      obtain ⟨rfl, hitems⟩ := written_inj item other (ends_writtenItems items) (ends_writtenItems found)
        (List.cons.inj h).2
      obtain ⟨rfl, hsame⟩ := writtenItems_inj items found hitems
      exact ⟨rfl, hsame⟩

theorem writtenEntries_inj (entries found : List (String × Json)) {rest others : List Char}
    (h : writtenEntries entries rest = writtenEntries found others) : entries = found ∧ rest = others := by
  cases entries with
  | nil =>
    cases found with
    | nil => exact ⟨rfl, (List.cons.inj h).2⟩
    | cons other found => exact absurd (List.cons.inj h).1 (by decide)
  | cons entry entries =>
    cases found with
    | nil => exact absurd (List.cons.inj h).1 (by decide)
    | cons other found =>
      obtain ⟨hkey, hcolon⟩ := quoted_toList_inj (List.cons.inj (List.cons.inj h).2).2
      obtain ⟨hvalue, hentries⟩ := written_inj entry.2 other.2 (ends_writtenEntries entries)
        (ends_writtenEntries found) (List.cons.inj hcolon).2
      obtain ⟨rfl, hsame⟩ := writtenEntries_inj entries found hentries
      rw [Prod.ext hkey hvalue]
      exact ⟨rfl, hsame⟩

end

theorem same_of_text {left right : Json} (h : left.text = right.text) : Same left right := by
  have hwritten : left.canonical.written [] = right.canonical.written [] := by
    simpa [text] using congrArg String.toList h
  exact (written_inj _ _ ends_nil ends_nil hwritten).1

end Text

end KubeOps.Models.Json
