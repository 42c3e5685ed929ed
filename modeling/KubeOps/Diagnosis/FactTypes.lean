import Mathlib.Data.List.Infix

/-! Fact types are dotted names, and a pattern is met by what stands below it, and also, where it
is no wildcard, by what it stands below. -/
namespace KubeOps.Diagnosis

section Code

/-- `text.startswith(start)` -/
def startsWith (text start : String) : Bool := start.toList.isPrefixOf text.toList

/-- `text.endswith(ending)` -/
def endsWith (text ending : String) : Bool := ending.toList.isSuffixOf text.toList

/-- `fact_type_matches` -/
def factTypeMatches (pattern factType : String) : Bool :=
  if pattern = factType then true
  else if endsWith pattern ".*" then startsWith factType (String.ofList pattern.toList.dropLast)
  else startsWith factType (pattern ++ ".") || startsWith pattern (factType ++ ".")

/-- Neither pattern is the other, nor does one match the other as a fact type. -/
def Incomparable (one two : String) : Prop :=
  one ≠ two ∧ factTypeMatches one two = false ∧ factTypeMatches two one = false

def IsBase (factType pattern : String) : Prop :=
  endsWith pattern ".*" = false ∧ startsWith pattern (factType ++ ".") = true

instance (factType pattern : String) : Decidable (IsBase factType pattern) := by
  unfold IsBase
  infer_instance

end Code

section Below

def Below (general name : List Char) : Prop := general ++ ['.'] <+: name

theorem Below.trans {one two three : List Char} (h : Below one two) (hnext : Below two three) :
    Below one three :=
  List.IsPrefix.trans (List.IsPrefix.trans h (List.prefix_append two ['.'])) hnext

theorem Below.append {general name : List Char} (h : Below general name) (rest : List Char) :
    Below general (name ++ rest) :=
  List.IsPrefix.trans h (List.prefix_append name rest)

theorem below_or_eq_or_below {one two name : List Char} (hone : Below one name) (htwo : Below two name) :
    Below one two ∨ one = two ∨ Below two one := by
  have hline : ∀ {left right : List Char}, left ++ ['.'] <+: right ++ ['.'] → left = right ∨
    Below left right := by
    intro left right h
    rcases List.prefix_concat_iff.mp h with heq | hprefix
    · exact .inl (List.append_cancel_right heq)
    · exact .inr hprefix
  rcases List.prefix_or_prefix_of_prefix hone htwo with h | h
  · rcases hline h with heq | hbelow
    · exact .inr (.inl heq)
    · exact .inl hbelow
  · rcases hline h with heq | hbelow
    · exact .inr (.inl heq.symm)
    · exact .inr (.inr hbelow)

theorem startsWith_dot (text start : String) : startsWith text (start ++ ".") = true ↔
    Below start.toList text.toList := by
  rw [startsWith, List.isPrefixOf_iff_prefix, String.toList_append]
  exact Iff.rfl

def stem (pattern : String) : List Char :=
  if endsWith pattern ".*" then pattern.toList.dropLast.dropLast else pattern.toList

theorem stem_plain {pattern : String} (h : endsWith pattern ".*" = false) : stem pattern = pattern.toList := by
  rw [stem, h]
  exact if_neg Bool.false_ne_true

theorem toList_of_wildcard {pattern : String} (h : endsWith pattern ".*" = true) :
    pattern.toList = stem pattern ++ ['.', '*'] := by
  have hsuffix := h
  rw [endsWith, List.isSuffixOf_iff_suffix] at hsuffix
  obtain ⟨front, hfront⟩ := hsuffix
  have hfront : front ++ ['.', '*'] = pattern.toList := hfront
  rw [stem, if_pos h, ← hfront]
  simp

theorem below_stem_wildcard {pattern : String} (h : endsWith pattern ".*" = true) :
    Below (stem pattern) pattern.toList := by
  rw [toList_of_wildcard h]
  exact ⟨['*'], by simp⟩

end Below

section Matching

variable {pattern one two factType : String}

def Covers (pattern factType : String) : Prop := pattern = factType ∨ Below (stem pattern) factType.toList

theorem matches_of_covers (h : Covers pattern factType) : factTypeMatches pattern factType = true := by
  unfold factTypeMatches
  by_cases heq : pattern = factType
  · exact if_pos heq
  · rw [if_neg heq]
    have hbelow := h.resolve_left heq
    cases hwild : endsWith pattern ".*" with
    | true =>
      rw [if_pos rfl, startsWith, List.isPrefixOf_iff_prefix, String.toList_ofList, toList_of_wildcard hwild]
      simpa [Below, List.dropLast_append] using hbelow
    | false =>
      rw [stem_plain hwild] at hbelow
      rw [if_neg Bool.false_ne_true, Bool.or_eq_true, startsWith_dot]
      exact .inl hbelow

theorem matches_iff : factTypeMatches pattern factType = true ↔
    Covers pattern factType ∨ IsBase factType pattern := by
  constructor
  · intro h
    unfold factTypeMatches at h
    by_cases heq : pattern = factType
    · exact .inl (.inl heq)
    rw [if_neg heq] at h
    cases hwild : endsWith pattern ".*" with
    | true =>
      rw [hwild, if_pos rfl, startsWith, List.isPrefixOf_iff_prefix, String.toList_ofList,
        toList_of_wildcard hwild] at h
      exact .inl (.inr (by simpa [Below, List.dropLast_append] using h))
    | false =>
      rw [hwild, if_neg Bool.false_ne_true, Bool.or_eq_true] at h
      rcases h with hbelow | hbase
      · rw [startsWith_dot] at hbelow
        exact .inl (.inr (by rw [stem_plain hwild]; exact hbelow))
      · exact .inr ⟨hwild, hbase⟩
  · rintro (hcovers | ⟨hwild, hbase⟩)
    · exact matches_of_covers hcovers
    · unfold factTypeMatches
      rw [hwild, hbase, Bool.or_true]
      simp

theorem covers_of_below (h : Below (stem one) two.toList) : factTypeMatches one two = true :=
  matches_of_covers (.inr h)

theorem matches_of_covers_base (hcovers : Covers one factType) (hbase : IsBase factType two) :
    factTypeMatches one two = true := by
  have hbelow : Below factType.toList two.toList := (startsWith_dot two factType).mp hbase.2
  rcases hcovers with rfl | hstem
  · rw [matches_iff]
    cases hwild : endsWith one ".*" with
    | true => exact .inl (.inr ((below_stem_wildcard hwild).trans hbelow))
    | false => exact .inl (.inr (by rw [stem_plain hwild]; exact hbelow))
  · exact covers_of_below (hstem.trans hbelow)

theorem matches_of_stems (h : Below (stem one) (stem two) ∨ stem one = stem two) :
    one = two ∨ factTypeMatches one two = true ∨ factTypeMatches two one = true := by
  cases hone : endsWith one ".*" with
  | true =>
    cases htwo : endsWith two ".*" with
    | true =>
      rcases h with hbelow | heq
      · refine .inr (.inl (covers_of_below ?_))
        rw [toList_of_wildcard htwo]
        exact hbelow.append _
      · refine .inl (String.toList_inj.mp ?_)
        rw [toList_of_wildcard hone, toList_of_wildcard htwo, heq]
    | false =>
      rcases h with hbelow | heq
      · rw [stem_plain htwo] at hbelow
        exact .inr (.inl (covers_of_below hbelow))
      · refine .inr (.inr (covers_of_below ?_))
        rw [← heq]
        exact below_stem_wildcard hone
  | false =>
    cases htwo : endsWith two ".*" with
    | true =>
      refine .inr (.inl (covers_of_below ?_))
      rcases h with hbelow | heq
      · rw [toList_of_wildcard htwo]
        exact hbelow.append _
      · rw [heq]
        exact below_stem_wildcard htwo
    | false =>
      rw [stem_plain hone, stem_plain htwo] at h
      rcases h with hbelow | heq
      · exact .inr (.inl (covers_of_below (by rw [stem_plain hone]; exact hbelow)))
      · exact .inl (String.toList_inj.mp heq)

theorem matches_of_covers_covers (hone : Covers one factType) (htwo : Covers two factType) :
    one = two ∨ factTypeMatches one two = true ∨ factTypeMatches two one = true := by
  rcases hone with rfl | hbelow
  · exact .inr (.inr (matches_of_covers htwo))
  rcases htwo with rfl | hother
  · exact .inr (.inl (covers_of_below hbelow))
  rcases below_or_eq_or_below hbelow hother with h | h | h
  · exact matches_of_stems (.inl h)
  · exact matches_of_stems (.inr h)
  · rcases matches_of_stems (.inl h) with heq | hmatch | hmatch
    · exact .inl heq.symm
    · exact .inr (.inr hmatch)
    · exact .inr (.inl hmatch)

theorem matches_both_iff (h : Incomparable one two) :
    factTypeMatches one factType = true ∧ factTypeMatches two factType = true ↔
      IsBase factType one ∧ IsBase factType two := by
  obtain ⟨hne, hone, htwo⟩ := h
  rw [matches_iff, matches_iff]
  constructor
  · rintro ⟨hfirst | hfirst, hsecond | hsecond⟩
    · rcases matches_of_covers_covers hfirst hsecond with heq | hmatch | hmatch
      · exact absurd heq hne
      · exact absurd hmatch (Bool.eq_false_iff.mp hone)
      · exact absurd hmatch (Bool.eq_false_iff.mp htwo)
    · exact absurd (matches_of_covers_base hfirst hsecond) (Bool.eq_false_iff.mp hone)
    · exact absurd (matches_of_covers_base hsecond hfirst) (Bool.eq_false_iff.mp htwo)
    · exact ⟨hfirst, hsecond⟩
  · intro hbase
    exact ⟨.inr hbase.1, .inr hbase.2⟩

end Matching

end KubeOps.Diagnosis
