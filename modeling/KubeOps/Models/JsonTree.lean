import KubeOps.Foundation.Sorting
import KubeOps.Models.JsonText
import Mathlib.Data.List.SplitOn

/-! The values inside a JSON document, by the keys that lead to them. -/
namespace KubeOps.Models.Json

open KubeOps.Foundation

def isNull : Json → Bool
  | .null => true
  | _ => false

def isDict : Json → Bool
  | .dict _ => true
  | _ => false

mutual

/-- No dictionary has a key twice. -/
def WellFormed : Json → Prop
  | .null | .bool _ | .int _ | .float _ | .str _ => True
  | .list items => WellFormedItems items
  | .dict entries => (entries.map Prod.fst).Nodup ∧ WellFormedEntries entries

def WellFormedItems : List Json → Prop
  | [] => True
  | item :: rest => item.WellFormed ∧ WellFormedItems rest

def WellFormedEntries : List (String × Json) → Prop
  | [] => True
  | (_, value) :: rest => value.WellFormed ∧ WellFormedEntries rest

end

def valueAt : List String → Json → Option Json
  | [], value => some value
  | key :: keys, value => ( entry? key value).bind (valueAt keys)

/-- The same where it is no dictionary. -/
def leafAt (keys : List String) (value : Json) : Option Json :=
  (valueAt keys value).filter fun value => !value.isDict

mutual

/-- All values that are no dictionaries, with the keys that lead to them. -/
def leaves : Json → List (List String × Json)
  | .dict entries => leavesOfEntries entries
  | value => [([], value)]

def leavesOfEntries : List (String × Json) → List (List String × Json)
  | [] => []
  | (key, value) :: rest => value.leaves.map (fun leaf => (key :: leaf.1, leaf.2)) ++ leavesOfEntries rest

end

@[elab_as_elim]
theorem induct {motive : Json → Prop} (null : motive .null) (bool : ∀ value, motive (.bool value))
    (int : ∀ value, motive (.int value)) (float : ∀ value, motive (.float value))
    (str : ∀ value, motive (.str value))
    (list : ∀ items, (∀ item ∈ items, motive item) → motive (.list items))
    (dict : ∀ entries, (∀ entry ∈ entries, motive entry.2) → motive (.dict entries)) (value : Json) :
    motive value := by
  refine @Json.rec motive (fun items => ∀ item ∈ items, motive item)
    (fun entries => ∀ entry ∈ entries, motive entry.2) (fun entry => motive entry.2)
    null bool int float str list dict ?_ ?_ ?_ ?_ ?_ value
  · exact fun _ hmem => absurd hmem List.not_mem_nil
  · intro item rest hitem hrest
    exact List.forall_mem_cons.mpr ⟨hitem, hrest⟩
  · exact fun _ hmem => absurd hmem List.not_mem_nil
  · intro entry rest hentry hrest
    exact List.forall_mem_cons.mpr ⟨hentry, hrest⟩
  · exact fun _ _ hvalue => hvalue

variable {left right value child : Json} {entries others : List (String × Json)} {items : List Json}
  {key : String} {keys : List String}

section WellFormed

theorem wellFormed_list : (Json.list items).WellFormed ↔ ∀ item ∈ items, item.WellFormed := by
  show WellFormedItems items ↔ _
  induction items with
  | nil => exact iff_of_true trivial (List.forall_mem_nil _)
  | cons item items ih =>
    rw [List.forall_mem_cons]
    exact and_congr_right fun _ => ih

theorem wellFormedEntries_iff : WellFormedEntries entries ↔ ∀ entry ∈ entries, entry.2.WellFormed := by
  induction entries with
  | nil => exact iff_of_true trivial (List.forall_mem_nil _)
  | cons entry entries ih =>
    rw [List.forall_mem_cons]
    exact and_congr_right fun _ => ih

theorem wellFormed_dict : (Json.dict entries).WellFormed ↔
    (entries.map Prod.fst).Nodup ∧ ∀ entry ∈ entries, entry.2.WellFormed :=
  and_congr_right fun _ => wellFormedEntries_iff

theorem wellFormed_empty : (Json.dict (∅ : JsonObject).entries).WellFormed :=
  wellFormed_dict.mpr ⟨List.nodup_nil, fun _ hmem => absurd hmem List.not_mem_nil⟩

theorem entry?_eq_some (hnodup : (entries.map Prod.fst).Nodup) :
    entry? key (.dict entries) = some child ↔ (key, child) ∈ entries := by
  rw [ entry?, Option.map_eq_some_iff]
  constructor
  · rintro ⟨found, hfound, rfl⟩
    have hkey : found.1 = key := by simpa using List.find?_some hfound
    rw [← hkey]
    exact List.mem_of_find?_eq_some hfound
  · intro hmem
    cases hfound : entries.find? fun entry => entry.1 = key with
    | none =>
      have hother := List.find?_eq_none.mp hfound (key, child) hmem
      simp at hother
    | some found =>
      have hkey : found.1 = key := by simpa using List.find?_some hfound
      have hsame : found = (key, child) :=
        List.inj_on_of_nodup_map hnodup (List.mem_of_find?_eq_some hfound) hmem hkey
      exact ⟨found, rfl, by rw [hsame]⟩

theorem entry?_of_not_dict (h : value.isDict = false) : entry? key value = none := by
  cases value with
  | dict entries => cases h
  | null | bool _ | int _ | float _ | str _ | list _ => rfl

theorem WellFormed.entry (h : value.WellFormed) (hentry : entry? key value = some child) :
    child.WellFormed := by
  cases value with
  | dict entries =>
    rw [wellFormed_dict] at h
    exact h.2 (key, child) (( entry?_eq_some h.1).mp hentry)
  | null | bool _ | int _ | float _ | str _ | list _ => cases hentry

theorem WellFormed.valueAt {value : Json} (h : value.WellFormed)
    (hvalue : Json.valueAt keys value = some child) :
    child.WellFormed := by
  induction keys generalizing value with
  | nil =>
    rw [← Option.some.inj hvalue]
    exact h
  | cons key keys ih =>
    obtain ⟨found, hfound, hvalue⟩ := Option.bind_eq_some_iff.mp hvalue
    exact ih (h.entry hfound) hvalue

end WellFormed

section Same

theorem canonical_dict (entries : List (String × Json)) :
    (Json.dict entries).canonical =
      .dict (sortByKey (entries.map fun entry => (entry.1, entry.2.canonical))) :=
  congrArg (fun entries => Json.dict (sortByKey entries)) (canonicalEntries_eq entries)

theorem isDict_canonical (value : Json) : value.canonical.isDict = value.isDict := by
  cases value <;> rfl

theorem Same.isDict (h : Same left right) : left.isDict = right.isDict := by
  rw [← isDict_canonical left, ← isDict_canonical right, h]

theorem isNull_canonical (value : Json) : value.canonical.isNull = value.isNull := by
  cases value <;> rfl

theorem Same.isNull (h : Same left right) : left.isNull = right.isNull := by
  rw [← isNull_canonical left, ← isNull_canonical right, h]

theorem same_dict_iff (hleft : (entries.map Prod.fst).Nodup) (hright : (others.map Prod.fst).Nodup) :
    Same (.dict entries) (.dict others) ↔
      ∀ key, Option.Rel Same ( entry? key (.dict entries)) ( entry? key (.dict others)) := by
  have hkeys : ∀ entries : List (String × Json),
      (entries.map fun entry => (entry.1, entry.2.canonical)).map Prod.fst = entries.map Prod.fst := by
    intro entries
    rw [List.map_map]
    rfl
  have hmem : ∀ {entries : List (String × Json)} {key : String} {value : Json},
      (key, value) ∈ entries.map (fun entry => (entry.1, entry.2.canonical)) ↔
        ∃ child, (key, child) ∈ entries ∧ child.canonical = value := by
    intro entries key value
    rw [List.mem_map]
    constructor
    · rintro ⟨entry, hentry, hsame⟩
      obtain ⟨rfl, rfl⟩ := Prod.mk.inj hsame
      exact ⟨entry.2, hentry, rfl⟩
    · rintro ⟨child, hchild, rfl⟩
      exact ⟨(key, child), hchild, rfl⟩
  rw [Same, canonical_dict, canonical_dict, Json.dict.injEq]
  constructor
  · intro h key
    have hperm : (entries.map fun entry => (entry.1, entry.2.canonical)).Perm
        (others.map fun entry => (entry.1, entry.2.canonical)) :=
      ((perm_sortByKey _).symm.trans (List.Perm.of_eq h)).trans (perm_sortByKey _)
    cases hfound : entry? key (.dict entries) with
    | some child =>
      have hchild := hmem.mpr ⟨child, ( entry?_eq_some hleft).mp hfound, rfl⟩
      obtain ⟨other, hother, hsame⟩ := hmem.mp (hperm.mem_iff.mp hchild)
      rw [( entry?_eq_some hright).mpr hother]
      exact .some hsame.symm
    | none =>
      cases hother : entry? key (.dict others) with
      | none => exact .none
      | some other =>
        have hmember := hmem.mpr ⟨other, ( entry?_eq_some hright).mp hother, rfl⟩
        obtain ⟨child, hchild, -⟩ := hmem.mp (hperm.mem_iff.mpr hmember)
        rw [( entry?_eq_some hleft).mpr hchild] at hfound
        cases hfound
  · intro h
    apply sortByKey_eq_of_perm
    · rw [hkeys]
      exact hleft
    · have hnodup : ∀ {entries : List (String × Json)}, (entries.map Prod.fst).Nodup →
          (entries.map fun entry => (entry.1, entry.2.canonical)).Nodup := by
        intro entries hentries
        apply List.Nodup.of_map Prod.fst
        rw [hkeys]
        exact hentries
      rw [List.perm_ext_iff_of_nodup (hnodup hleft) (hnodup hright)]
      intro member
      obtain ⟨key, value⟩ := member
      rw [hmem, hmem]
      have hkey := h key
      constructor
      · rintro ⟨child, hchild, rfl⟩
        rw [( entry?_eq_some hleft).mpr hchild] at hkey
        cases hother : entry? key (.dict others) with
        | none =>
          rw [hother] at hkey
          cases hkey
        | some other =>
          rw [hother] at hkey
          cases hkey with
          | some hsame => exact ⟨other, ( entry?_eq_some hright).mp hother, hsame.symm⟩
      · rintro ⟨other, hother, rfl⟩
        rw [( entry?_eq_some hright).mpr hother] at hkey
        cases hchild : entry? key (.dict entries) with
        | none =>
          rw [hchild] at hkey
          cases hkey
        | some child =>
          rw [hchild] at hkey
          cases hkey with
          | some hsame => exact ⟨child, ( entry?_eq_some hleft).mp hchild, hsame⟩

theorem Same.entry (h : Same left right) (hleft : left.WellFormed) (hright : right.WellFormed) (key : String) :
    Option.Rel Same ( entry? key left) ( entry? key right) := by
  cases hdict : left.isDict with
  | false =>
    rw [ entry?_of_not_dict hdict, entry?_of_not_dict (h.isDict.symm.trans hdict)]
    exact .none
  | true =>
    have hother : right.isDict = true := h.isDict.symm.trans hdict
    cases left with
    | dict entries =>
      cases right with
      | dict others => exact (same_dict_iff hleft.1 hright.1).mp h key
      | null | bool _ | int _ | float _ | str _ | list _ => cases hother
    | null | bool _ | int _ | float _ | str _ | list _ => cases hdict

theorem Same.valueAt (h : Same left right) (hleft : left.WellFormed) (hright : right.WellFormed)
    (keys : List String) : Option.Rel Same (valueAt keys left) (valueAt keys right) := by
  induction keys generalizing left right with
  | nil => exact .some h
  | cons key keys ih =>
    rw [Json.valueAt, Json.valueAt]
    have hentry := h.entry hleft hright key
    cases hone : entry? key left with
    | none =>
      cases htwo : entry? key right with
      | none => exact .none
      | some two =>
        rw [hone, htwo] at hentry
        cases hentry
    | some one =>
      cases htwo : entry? key right with
      | none =>
        rw [hone, htwo] at hentry
        cases hentry
      | some two =>
        rw [hone, htwo] at hentry
        cases hentry with
        | some hsame => exact ih hsame (hleft.entry hone) (hright.entry htwo)

end Same

section Leaves

theorem leafAt_eq_some : leafAt keys value = some child ↔ valueAt keys value = some child ∧
    child.isDict = false := by
  rw [leafAt, Option.filter_eq_some_iff, Bool.not_eq_eq_eq_not, Bool.not_true]

theorem leafAt_nil (h : value.isDict = false) : leafAt [] value = some value :=
  leafAt_eq_some.mpr ⟨rfl, h⟩

theorem leafAt_cons (h : entry? key value = some child) : leafAt (key :: keys) value = leafAt keys child := by
  show (( entry? key value).bind (valueAt keys)).filter _ = _
  rw [h]
  rfl

theorem leafAt_cons_none (h : entry? key value = none) : leafAt (key :: keys) value = none := by
  show (( entry? key value).bind (valueAt keys)).filter _ = _
  rw [h]
  rfl

theorem leavesOfEntries_eq : leavesOfEntries entries =
    entries.flatMap fun entry => entry.2.leaves.map fun leaf => (entry.1 :: leaf.1, leaf.2) := by
  induction entries with
  | nil => rfl
  | cons entry entries ih => exact congrArg (_ ++ ·) ih

theorem leaves_of_not_dict (h : value.isDict = false) : value.leaves = [([], value)] := by
  cases value with
  | dict entries => cases h
  | null | bool _ | int _ | float _ | str _ | list _ => rfl

private theorem valueAt_of_not_dict (h : value.isDict = false) :
    leafAt keys value = some child ↔ (keys, child) ∈ value.leaves := by
  rw [leaves_of_not_dict h, List.mem_singleton, Prod.mk.injEq]
  cases keys with
  | nil => rw [leafAt_nil h, Option.some.injEq, eq_comm, and_iff_right rfl]
  | cons key keys => simp [leafAt_cons_none ( entry?_of_not_dict h)]

theorem mem_leaves (h : value.WellFormed) : (keys, child) ∈ value.leaves ↔ leafAt keys value = some child := by
  induction value using induct generalizing keys with
  | null | bool _ | int _ | float _ | str _ | list _ _ => exact (valueAt_of_not_dict rfl).symm
  | dict entries ih =>
    rw [wellFormed_dict] at h
    rw [leaves, leavesOfEntries_eq, List.mem_flatMap]
    constructor
    · rintro ⟨entry, hentry, hmem⟩
      obtain ⟨leaf, hleaf, hsame⟩ := List.mem_map.mp hmem
      obtain ⟨rfl, rfl⟩ := Prod.mk.inj hsame
      rw [leafAt_cons (( entry?_eq_some h.1).mpr hentry)]
      exact (ih entry hentry (h.2 entry hentry)).mp hleaf
    · intro hleaf
      cases keys with
      | nil =>
        obtain ⟨hvalue, hdict⟩ := leafAt_eq_some.mp hleaf
        rw [← Option.some.inj hvalue] at hdict
        cases hdict
      | cons key keys =>
        cases hfound : entry? key (.dict entries) with
        | none =>
          rw [leafAt_cons_none hfound] at hleaf
          cases hleaf
        | some found =>
          rw [leafAt_cons hfound] at hleaf
          have hentry := ( entry?_eq_some h.1).mp hfound
          have hmem := (ih (key, found) hentry (h.2 _ hentry)).mpr hleaf
          exact ⟨(key, found), hentry, List.mem_map.mpr ⟨(keys, child), hmem, rfl⟩⟩

theorem leaves_nodup (h : value.WellFormed) : (value.leaves.map Prod.fst).Nodup := by
  induction value using induct with
  | null | bool _ | int _ | float _ | str _ | list _ _ => exact List.nodup_singleton _
  | dict entries ih =>
    rw [wellFormed_dict] at h
    rw [leaves, leavesOfEntries_eq, List.map_flatMap, List.nodup_flatMap]
    constructor
    · intro entry hentry
      rw [List.map_map]
      have hnodup := (ih entry hentry (h.2 entry hentry)).map (f := (entry.1 :: ·)) fun _ _ hsame =>
        (List.cons.inj hsame).2
      rw [List.map_map] at hnodup
      exact hnodup
    · apply List.Pairwise.imp_of_mem (R := fun one two => one.1 ≠ two.1)
      · intro one two _ _ hne keys hone htwo
        obtain ⟨leaf, hleaf, rfl⟩ := List.mem_map.mp hone
        obtain ⟨found, hfound, hsame⟩ := List.mem_map.mp htwo
        obtain ⟨first, -, rfl⟩ := List.mem_map.mp hleaf
        obtain ⟨second, -, rfl⟩ := List.mem_map.mp hfound
        exact hne (List.cons.inj hsame).1.symm
      · exact List.pairwise_map.mp h.1

theorem exists_end (value : Json) : ∃ keys, (∃ child, leafAt keys value = some child) ∨
    valueAt keys value = some (.dict []) := by
  induction value using induct with
  | null | bool _ | int _ | float _ | str _ | list _ _ => exact ⟨[], .inl ⟨_, leafAt_nil rfl⟩⟩
  | dict entries ih =>
    cases entries with
    | nil => exact ⟨[], .inr rfl⟩
    | cons entry entries =>
      obtain ⟨keys, hkeys⟩ := ih entry (List.mem_cons_self ..)
      have hentry : entry? entry.1 (.dict (entry :: entries)) = some entry.2 := by
        simp [ entry?]
      refine ⟨entry.1 :: keys, ?_⟩
      rw [leafAt_cons hentry, valueAt, hentry]
      exact hkeys

theorem Same.leafAt (h : Same left right) (hleft : left.WellFormed) (hright : right.WellFormed)
    (keys : List String) : Option.Rel Same (Json.leafAt keys left) (Json.leafAt keys right) := by
  have hvalue := h.valueAt hleft hright keys
  unfold Json.leafAt
  cases hone : Json.valueAt keys left with
  | none =>
    cases htwo : Json.valueAt keys right with
    | none => exact .none
    | some two =>
      rw [hone, htwo] at hvalue
      cases hvalue
  | some one =>
    cases htwo : Json.valueAt keys right with
    | none =>
      rw [hone, htwo] at hvalue
      cases hvalue
    | some two =>
      rw [hone, htwo] at hvalue
      cases hvalue with
      | some hsame =>
        cases hdict : two.isDict with
        | true =>
          rw [Option.filter_some_neg (by simp [hsame.isDict, hdict]), Option.filter_some_neg (by simp [hdict])]
          exact .none
        | false =>
          rw [Option.filter_some_pos (by simp [hsame.isDict, hdict]), Option.filter_some_pos (by simp [hdict])]
          exact .some hsame

theorem same_of_leafAt (hleft : left.WellFormed) (hright : right.WellFormed)
    (hleaf : ∀ keys, Option.Rel Same (leafAt keys left) (leafAt keys right))
    (hempty : ∀ keys, valueAt keys left = some (.dict []) → valueAt keys right ≠ none)
    (hother : ∀ keys, valueAt keys right = some (.dict []) → valueAt keys left ≠ none) : Same left right := by
  induction left using induct generalizing right with
  | null | bool _ | int _ | float _ | str _ | list _ _ =>
    have hroot := hleaf []
    rw [leafAt_nil rfl] at hroot
    cases hfound : leafAt [] right with
    | none =>
      rw [hfound] at hroot
      cases hroot
    | some found =>
      rw [hfound] at hroot
      obtain ⟨hvalue, -⟩ := leafAt_eq_some.mp hfound
      rw [Option.some.inj hvalue]
      cases hroot with
      | some hsame => exact hsame
  | dict entries ih =>
    cases hdict : right.isDict with
    | false =>
      have hroot := hleaf []
      rw [leafAt_nil hdict] at hroot
      cases hroot
    | true =>
      cases right with
      | null | bool _ | int _ | float _ | str _ | list _ => cases hdict
      | dict others =>
        rw [same_dict_iff hleft.1 hright.1]
        intro key
        cases hone : entry? key (.dict entries) with
        | none =>
          cases htwo : entry? key (.dict others) with
          | none => exact .none
          | some two =>
            obtain ⟨keys, ⟨child, hchild⟩ | hend⟩ := exists_end two
            · have hrel := hleaf (key :: keys)
              rw [leafAt_cons_none hone, leafAt_cons htwo, hchild] at hrel
              cases hrel
            · refine absurd ?_ (hother (key :: keys) ?_)
              · rw [valueAt, hone]
                rfl
              · rw [valueAt, htwo]
                exact hend
        | some one =>
          cases htwo : entry? key (.dict others) with
          | none =>
            obtain ⟨keys, ⟨child, hchild⟩ | hend⟩ := exists_end one
            · have hrel := hleaf (key :: keys)
              rw [leafAt_cons_none htwo, leafAt_cons hone, hchild] at hrel
              cases hrel
            · refine absurd ?_ (hempty (key :: keys) ?_)
              · rw [valueAt, htwo]
                rfl
              · rw [valueAt, hone]
                exact hend
          | some two =>
            have hmem := ( entry?_eq_some hleft.1).mp hone
            refine .some (ih (key, one) hmem (hleft.entry hone) (hright.entry htwo) ?_ ?_ ?_)
            · intro keys
              have hrel := hleaf (key :: keys)
              rwa [leafAt_cons hone, leafAt_cons htwo] at hrel
            · intro keys hend
              have hpresent := hempty (key :: keys)
              rw [valueAt, valueAt, hone, htwo] at hpresent
              exact hpresent hend
            · intro keys hend
              have hpresent := hother (key :: keys)
              rw [valueAt, valueAt, hone, htwo] at hpresent
              exact hpresent hend

end Leaves

section Comparison

theorem pyEq_null (value : Json) : pyEq .null value = value.isNull := by
  cases value <;> simp [pyEq, number?, isNull]

theorem pyEq_null_right (value : Json) : pyEq value .null = value.isNull := by
  cases value <;> simp [pyEq, number?, isNull]

theorem pyEqList_map_canonical (h : ∀ item ∈ items, ∀ other : Json, other.WellFormed → Same item other →
    pyEq item other = true) {found : List Json} (hfound : ∀ other ∈ found, other.WellFormed)
    (hsame : items.map canonical = found.map canonical) : pyEqList items found = true := by
  induction items generalizing found with
  | nil =>
    cases found with
    | nil => rfl
    | cons other found => cases hsame
  | cons item items ih =>
    cases found with
    | nil => cases hsame
    | cons other found =>
      rw [List.map_cons, List.map_cons, List.cons.injEq] at hsame
      rw [List.forall_mem_cons] at h hfound
      rw [pyEqList, h.1 other hfound.1 hsame.1, ih h.2 hfound.2 hsame.2]
      rfl

theorem pyEqEntries_of_forall (h : ∀ entry ∈ entries, ∃ found, entry? entry.1 (.dict others) = some found ∧
    pyEq entry.2 found = true) : pyEqEntries entries others = true := by
  induction entries with
  | nil => rfl
  | cons entry entries ih =>
    rw [List.forall_mem_cons] at h
    obtain ⟨⟨found, hfound, heq⟩, hrest⟩ := h
    obtain ⟨other, hother, rfl⟩ := Option.map_eq_some_iff.mp hfound
    rw [pyEqEntries, hother, ih hrest]
    simpa using heq

theorem pyEq_of_same (hleft : left.WellFormed) (hright : right.WellFormed) (h : Same left right) :
    pyEq left right = true := by
  induction left using induct generalizing right with
  | null | bool _ | int _ | float _ | str _ =>
    cases right <;> simp [Same, canonical] at h
    simp [pyEq, number?, h]
  | list items ih =>
    cases right with
    | list found =>
      rw [Same, canonical, canonical, canonicalItems_eq, canonicalItems_eq, Json.list.injEq] at h
      rw [pyEq]
      rw [wellFormed_list] at hleft hright
      apply pyEqList_map_canonical _ hright h
      intro item hitem other hother hsame
      exact ih item hitem (hleft item hitem) hother hsame
    | null | bool _ | int _ | float _ | str _ | dict _ => simp [Same, canonical] at h
  | dict entries ih =>
    cases right with
    | dict others =>
      have hkeys := (same_dict_iff hleft.1 hright.1).mp h
      have hlength : entries.length = others.length := by
        rw [Same, canonical_dict, canonical_dict, Json.dict.injEq] at h
        have hperm := ((perm_sortByKey _).symm.trans (List.Perm.of_eq h)).trans (perm_sortByKey _)
        simpa using hperm.length_eq
      rw [pyEq, hlength, decide_eq_true rfl, Bool.true_and]
      apply pyEqEntries_of_forall
      intro entry hentry
      have hrel := hkeys entry.1
      rw [( entry?_eq_some hleft.1).mpr hentry] at hrel
      cases hfound : entry? entry.1 (.dict others) with
      | none =>
        rw [hfound] at hrel
        cases hrel
      | some found =>
        rw [hfound] at hrel
        cases hrel with
        | some hsame =>
          exact ⟨found, rfl, ih entry hentry ((wellFormed_dict.mp hleft).2 entry hentry)
            (hright.entry hfound) hsame⟩
    | null | bool _ | int _ | float _ | str _ | list _ => simp [Same, canonical] at h

end Comparison

end KubeOps.Models.Json

/-! Values inside a document, by paths with dots. -/
namespace KubeOps.Models

open KubeOps.Foundation

/-- `path.split(".")` -/
def pathParts (path : String) : List String := (path.toList.splitOn '.').map String.ofList

theorem pathParts_ne_nil (path : String) : pathParts path ≠ [] := by
  rw [pathParts, Ne, List.map_eq_nil_iff]
  exact List.splitOn_ne_nil _ _

namespace Json

/-- `get_path`; no value is the default of the call. -/
def getPath (data : Json) (path : String) : Option Json :=
  if path = "" then some data else valueAt (pathParts path) data

/-- `value if isinstance(value, dict) else {}` -/
def objectOr : Option Json → Json
  | some (.dict entries) => .dict entries
  | _ => .dict []

/-- `value or []` -/
def orEmpty (value : Option Json) : Json :=
  match value with
  | some value => if value.truthy then value else .list []
  | none => .list []

/-- What a loop over the value runs through. -/
def iterate : Json → Except PyError (List Json)
  | .list items => .ok items
  | .dict entries => .ok (entries.map fun entry => .str entry.1)
  | .str text => .ok (text.toList.map fun c => .str (String.ofList [c]))
  | value => .error (.typeError s!"'{value.typeName}' object is not iterable")

/-- `value.get(key, default)`, where the value may be no dictionary. -/
def getOr (value : Json) (key : String) (default : Json) : Except PyError Json :=
  match value with
  | .dict entries => .ok (( entry? key (.dict entries)).getD default)
  | value => .error (.attributeError s!"'{value.typeName}' object has no attribute 'get'")

/-- The value as a key, or looked up in a set. -/
def hashed (value : Json) : Except PyError Json :=
  match value with
  | .list _ => .error (.typeError "unhashable type: 'list'")
  | .dict _ => .error (.typeError "unhashable type: 'dict'")
  | value => .ok value

end Json

/-- `object[key]` -/
def subscript (python : Python) (object : JsonObject) (key : String) : Except PyError Json :=
  match object.get? key with
  | some value => .ok value
  | none => .error (.keyError (python.repr (.str key)))

theorem getD_of_subscript {python : Python} {object : JsonObject} {key : String} {value : Json}
    (h : subscript python object key = .ok value) : (object.get? key).getD .null = value := by
  unfold subscript at h
  cases hfound : object.get? key with
  | none => simp [hfound] at h
  | some found => simpa [hfound] using h

end KubeOps.Models
