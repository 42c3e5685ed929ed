import KubeOps.Discovery.Snapshot

/-! What the field changes of two flattened documents tell about the documents: they can be
applied to the first, and then give the second, where no dotted path stands for two
values, no empty dictionary stands beside nothing, and no null beside anything else. -/
namespace KubeOps.Discovery

open KubeOps.Foundation KubeOps.Models Json

def dotted (keys : List String) : String := keys.foldl joined ""

/-- No path stands for two sequences of keys. -/
def Separate (before after : Json) : Prop :=
  ∀ leaf ∈ before.leaves ++ after.leaves, ∀ other ∈ before.leaves ++ after.leaves,
    dotted leaf.1 = dotted other.1 → leaf.1 = other.1

/-- A change to `None` takes a path away, except for declared fields, which are always there. -/
def applyChange (declared : List String) (flat : Dict String Json) (change : FieldChange) : Dict String Json :=
  if change.after.isNull ∧ change.path ∉ declared then flat.erase change.path
  else flat.set change.path change.after

def applyChanges (declared : List String) (changes : List FieldChange) (flat : Dict String Json) :
    Dict String Json :=
  changes.foldl (applyChange declared) flat

/-- The same values under the same paths. -/
def SameFlat (left right : Dict String Json) : Prop :=
  ∀ path, Option.Rel Same (left.get? path) (right.get? path)

/-- What is asked of the changes from one document to another one. A null or an empty
dictionary that has come or gone is among them. -/
structure Exact (declared : List String) (before after : Json) (changes : List FieldChange) : Prop where
  listed : changes ≠ []
  applied : SameFlat (applyChanges declared changes (flatten before)) (flatten after)
  gone : ∀ keys value, value.isNull = true ∨ value = .dict [] → valueAt keys before = some value →
    valueAt keys after = none → ∃ change ∈ changes, change.path = dotted keys ∧ change.before = value
  come : ∀ keys value, value.isNull = true ∨ value = .dict [] → valueAt keys after = some value →
    valueAt keys before = none → ∃ change ∈ changes, change.path = dotted keys ∧ change.after = value
  separate : Separate before after

/-- What may stand under the same keys before and after. A null does not come or go, except that
a declared field may become null, and values that compare as equal are the same. -/
def Kept (isDeclared : Prop) : Option Json → Option Json → Prop
  | none, none => True
  | none, some new => new.isNull = false
  | some old, none => old.isNull = false ∧ ¬ isDeclared
  | some old, some new => (pyEq old new = true → Same old new) ∧
    (new.isNull = true → old.isNull = true ∨ isDeclared)

/-- The pairs of documents for which flattened values tell enough. -/
structure Traceable (declared : List String) (before after : Json) : Prop where
  separate : Separate before after
  kept : ∀ keys, Kept (dotted keys ∈ declared) (leafAt keys before) (leafAt keys after)
  emptyBefore : ∀ keys, valueAt keys before = some (.dict []) → valueAt keys after ≠ none
  emptyAfter : ∀ keys, valueAt keys after = some (.dict []) → valueAt keys before ≠ none

variable {declared : List String} {before after value child : Json} {path : String} {keys : List String}

section Flatten

theorem flattenEntries_eq (entries : List (String × Json)) : flattenEntries path entries =
    entries.flatMap fun entry => flattenPairs (joined path entry.1) entry.2 := by
  induction entries with
  | nil => rfl
  | cons entry entries ih => rw [flattenEntries, ih, List.flatMap_cons]

theorem flattenPairs_eq (path : String) (value : Json) : flattenPairs path value =
    value.leaves.map fun leaf => (leaf.1.foldl joined path, leaf.2) := by
  induction value using Json.induct generalizing path with
  | null | bool _ | int _ | float _ | str _ | list _ _ => rfl
  | dict entries ih =>
    rw [flattenPairs, flattenEntries_eq, leaves, leavesOfEntries_eq, List.map_flatMap]
    apply List.flatMap_congr
    intro entry hentry
    rw [ih entry hentry, List.map_map]
    rfl

theorem get?_flatten (hvalue : value.WellFormed)
    (hseparate : ∀ leaf ∈ value.leaves, ∀ other ∈ value.leaves, dotted leaf.1 = dotted other.1 →
      leaf.1 = other.1) :
    (flatten value).get? path = some child ↔ ∃ keys, dotted keys = path ∧ leafAt keys value = some child := by
  have hnodup : ((flattenPairs "" value).map Prod.fst).Nodup := by
    have hkeys := leaves_nodup hvalue
    rw [flattenPairs_eq, List.map_map]
    apply List.Nodup.map_on
    · intro leaf hleaf other hother hsame
      exact List.inj_on_of_nodup_map hkeys hleaf hother (hseparate leaf hleaf other hother hsame)
    · exact hkeys.of_map
  rw [flatten, Dict.get?_ofList_eq_some hnodup, flattenPairs_eq, List.mem_map]
  constructor
  · rintro ⟨leaf, hleaf, hsame⟩
    obtain ⟨hpath, rfl⟩ := Prod.mk.inj hsame
    exact ⟨leaf.1, hpath, (mem_leaves hvalue).mp hleaf⟩
  · rintro ⟨keys, hpath, hleaf⟩
    exact ⟨(keys, child), (mem_leaves hvalue).mpr hleaf, Prod.ext hpath rfl⟩

theorem Separate.get?_before (h : Separate before after) (hbefore : before.WellFormed) :
    (flatten before).get? path = some child ↔ ∃ keys, dotted keys = path ∧ leafAt keys before = some child :=
  get?_flatten hbefore fun leaf hleaf other hother =>
    h leaf (List.mem_append_left _ hleaf) other (List.mem_append_left _ hother)

theorem Separate.get?_after (h : Separate before after) (hafter : after.WellFormed) :
    (flatten after).get? path = some child ↔ ∃ keys, dotted keys = path ∧ leafAt keys after = some child :=
  get?_flatten hafter fun leaf hleaf other hother =>
    h leaf (List.mem_append_right _ hleaf) other (List.mem_append_right _ hother)

theorem Separate.get?_dotted (h : Separate before after) (hbefore : before.WellFormed)
    (hafter : after.WellFormed)
    (hleaf : leafAt keys before ≠ none ∨ leafAt keys after ≠ none) :
    (flatten before).get? (dotted keys) = leafAt keys before ∧
      (flatten after).get? (dotted keys) = leafAt keys after := by
  have hmem : ∃ child, (keys, child) ∈ before.leaves ++ after.leaves := by
    rcases hleaf with hleaf | hleaf
    · obtain ⟨child, hchild⟩ := Option.ne_none_iff_exists'.mp hleaf
      exact ⟨child, List.mem_append_left _ ((mem_leaves hbefore).mpr hchild)⟩
    · obtain ⟨child, hchild⟩ := Option.ne_none_iff_exists'.mp hleaf
      exact ⟨child, List.mem_append_right _ ((mem_leaves hafter).mpr hchild)⟩
  obtain ⟨found, hfound⟩ := hmem
  constructor
  · ext child
    rw [h.get?_before hbefore]
    constructor
    · rintro ⟨others, hothers, hother⟩
      have hsame : others = keys := h (others, child)
        (List.mem_append_left _ ((mem_leaves hbefore).mpr hother)) (keys, found) hfound hothers
      exact hsame ▸ hother
    · exact fun hchild => ⟨keys, rfl, hchild⟩
  · ext child
    rw [h.get?_after hafter]
    constructor
    · rintro ⟨others, hothers, hother⟩
      have hsame : others = keys := h (others, child)
        (List.mem_append_right _ ((mem_leaves hafter).mpr hother)) (keys, found) hfound hothers
      exact hsame ▸ hother
    · exact fun hchild => ⟨keys, rfl, hchild⟩

theorem Separate.forall_path_iff (h : Separate before after) (hbefore : before.WellFormed)
    (hafter : after.WellFormed) {p : String → Option Json → Option Json → Prop}
    (hnone : ∀ path, p path none none) :
    (∀ path, p path ((flatten before).get? path) ((flatten after).get? path)) ↔
      ∀ keys, p (dotted keys) (leafAt keys before) (leafAt keys after) := by
  constructor
  · intro hall keys
    by_cases hleaf : leafAt keys before ≠ none ∨ leafAt keys after ≠ none
    · obtain ⟨hone, htwo⟩ := h.get?_dotted hbefore hafter hleaf
      rw [← hone, ← htwo]
      exact hall (dotted keys)
    · rw [not_or, not_not, not_not] at hleaf
      rw [hleaf.1, hleaf.2]
      exact hnone _
  · intro hall path
    by_cases hkeys : ∃ keys, dotted keys = path ∧ (leafAt keys before ≠ none ∨ leafAt keys after ≠ none)
    · obtain ⟨keys, rfl, hleaf⟩ := hkeys
      obtain ⟨hone, htwo⟩ := h.get?_dotted hbefore hafter hleaf
      rw [hone, htwo]
      exact hall keys
    · have hone : (flatten before).get? path = none := by
        by_contra hone
        obtain ⟨child, hchild⟩ := Option.ne_none_iff_exists'.mp hone
        obtain ⟨keys, hpath, hleaf⟩ := (h.get?_before hbefore).mp hchild
        exact hkeys ⟨keys, hpath, .inl (by simp [hleaf])⟩
      have htwo : (flatten after).get? path = none := by
        by_contra htwo
        obtain ⟨child, hchild⟩ := Option.ne_none_iff_exists'.mp htwo
        obtain ⟨keys, hpath, hleaf⟩ := (h.get?_after hafter).mp hchild
        exact hkeys ⟨keys, hpath, .inr (by simp [hleaf])⟩
      rw [hone, htwo]
      exact hnone path

end Flatten

section Apply

variable {beforeFlat afterFlat : Dict String Json}

theorem get?_applyChange (flat : Dict String Json) (change : FieldChange) (path : String) :
    (applyChange declared flat change).get? path =
      if path = change.path then
        if change.after.isNull ∧ path ∉ declared then none else some change.after
      else flat.get? path := by
  unfold applyChange
  by_cases hpath : path = change.path
  · subst hpath
    by_cases hgone : change.after.isNull ∧ change.path ∉ declared
    · rw [if_pos hgone, if_pos rfl, if_pos hgone, Dict.get?_erase, if_pos rfl]
    · rw [if_neg hgone, if_pos rfl, if_neg hgone, Dict.get?_set_self]
  · rw [if_neg hpath]
    split
    · rw [Dict.get?_erase, if_neg hpath]
    · rw [Dict.get?_set_ne _ _ hpath]

theorem get?_applyChanges {paths : List String} (hnodup : paths.Nodup) (change : String → FieldChange)
    (hpath : ∀ path, (change path).path = path) (flat : Dict String Json) (path : String) :
    (applyChanges declared (paths.map change) flat).get? path =
      if path ∈ paths then
        if (change path).after.isNull ∧ path ∉ declared then none else some (change path).after
      else flat.get? path := by
  induction paths generalizing flat with
  | nil => rfl
  | cons first paths ih =>
    obtain ⟨hfirst, hrest⟩ := List.nodup_cons.mp hnodup
    rw [List.map_cons, applyChanges, List.foldl_cons]
    have hlater := ih hrest (applyChange declared flat (change first))
    rw [applyChanges] at hlater
    rw [hlater, get?_applyChange, hpath]
    by_cases hsame : path = first
    · subst hsame
      rw [if_neg hfirst, if_pos rfl, if_pos (List.mem_cons_self ..)]
    · simp only [List.mem_cons, hsame, false_or, if_false]

theorem get?_apply_fieldChanges (path : String) :
    (applyChanges declared (fieldChanges beforeFlat afterFlat) beforeFlat).get? path =
      if pyEq (valueOrNone beforeFlat path) (valueOrNone afterFlat path) = true then beforeFlat.get? path
      else if (valueOrNone afterFlat path).isNull ∧ path ∉ declared then none
      else some (valueOrNone afterFlat path) := by
  have hnodup : ((sortedSet (beforeFlat.keys ++ afterFlat.keys)).filter fun path =>
      !pyEq (valueOrNone beforeFlat path) (valueOrNone afterFlat path)).Nodup :=
    ((List.perm_insertionSort _ _).nodup_iff.mpr (List.nodup_dedup _)).filter _
  unfold fieldChanges
  rw [get?_applyChanges hnodup _ (fun _ => rfl)]
  by_cases hequal : pyEq (valueOrNone beforeFlat path) (valueOrNone afterFlat path) = true
  · rw [if_pos hequal, if_neg]
    intro hmem
    simpa [hequal] using (List.mem_filter.mp hmem).2
  · rw [if_neg hequal, if_pos]
    rw [List.mem_filter, mem_sortedSet, List.mem_append]
    refine ⟨?_, by simpa using hequal⟩
    by_contra hnone
    rw [not_or] at hnone
    refine hequal ?_
    rw [valueOrNone, valueOrNone, Dict.get?_eq_none.mpr hnone.1, Dict.get?_eq_none.mpr hnone.2]
    rfl

theorem mem_fieldChanges {change : FieldChange} (h : change ∈ fieldChanges beforeFlat afterFlat) :
    change.before = valueOrNone beforeFlat change.path ∧ change.after = valueOrNone afterFlat change.path ∧
      pyEq change.before change.after = false := by
  obtain ⟨path, hpath, rfl⟩ := List.mem_map.mp h
  exact ⟨rfl, rfl, by simpa using (List.mem_filter.mp hpath).2⟩

theorem applyChanges_nil (flat : Dict String Json) : applyChanges declared [] flat = flat := rfl

end Apply

section Exactness

theorem isNull_iff : value.isNull = true ↔ value = .null := by
  cases value <;> simp [isNull]

theorem leafAt_null_iff : leafAt keys value = some .null ↔ valueAt keys value = some .null :=
  leafAt_eq_some.trans (and_iff_left rfl)

theorem Separate.isDict_before (h : Separate before after) (hbefore : before.WellFormed) (path : String) :
    (valueOrNone (flatten before) path).isDict = false := by
  unfold valueOrNone
  cases hfound : (flatten before).get? path with
  | none => rfl
  | some child =>
    obtain ⟨keys, -, hleaf⟩ := (h.get?_before hbefore).mp hfound
    exact (leafAt_eq_some.mp hleaf).2

theorem Separate.isDict_after (h : Separate before after) (hafter : after.WellFormed) (path : String) :
    (valueOrNone (flatten after) path).isDict = false := by
  unfold valueOrNone
  cases hfound : (flatten after).get? path with
  | none => rfl
  | some child =>
    obtain ⟨keys, -, hleaf⟩ := (h.get?_after hafter).mp hfound
    exact (leafAt_eq_some.mp hleaf).2

theorem rel_iff_kept {isDeclared : Prop} [Decidable isDeclared] (old new : Option Json) :
    Option.Rel Same
      (if pyEq (old.getD .null) (new.getD .null) = true then old
        else if (new.getD .null).isNull ∧ ¬ isDeclared then none else some (new.getD .null)) new ↔
      Kept isDeclared old new := by
  cases old with
  | none =>
    cases new with
    | none =>
      rw [Option.getD_none, if_pos (by rw [pyEq_null]; rfl)]
      exact iff_of_true .none trivial
    | some two =>
      rw [Option.getD_none, Option.getD_some, pyEq_null, Kept]
      cases hnull : two.isNull with
      | true =>
        rw [if_pos rfl]
        exact iff_of_false nofun (by simp)
      | false =>
        rw [if_neg (by simp), if_neg (by simp)]
        exact iff_of_true (.some (same_refl two)) rfl
  | some one =>
    cases new with
    | none =>
      rw [Option.getD_none, Option.getD_some, pyEq_null_right, Kept]
      cases hnull : one.isNull with
      | true =>
        rw [if_pos rfl]
        exact iff_of_false nofun (by simp)
      | false =>
        rw [if_neg (by simp)]
        by_cases hdeclared : isDeclared
        · rw [if_neg (by simp [hdeclared])]
          exact iff_of_false nofun (by simp [hdeclared])
        · rw [if_pos ⟨rfl, hdeclared⟩]
          exact iff_of_true .none ⟨rfl, hdeclared⟩
    | some two =>
      rw [Option.getD_some, Option.getD_some, Kept]
      by_cases hequal : pyEq one two = true
      · rw [if_pos hequal, and_iff_left, Option.rel_some_some]
        · exact ⟨fun hsame _ => hsame, fun hsame => hsame hequal⟩
        · intro hnull
          rw [isNull_iff.mp hnull, pyEq_null_right] at hequal
          exact .inl hequal
      · rw [if_neg hequal, and_iff_right fun hsame => absurd hsame hequal]
        have hone : two.isNull = true → one.isNull = false := by
          intro hnull
          rw [isNull_iff.mp hnull, pyEq_null_right] at hequal
          simpa using hequal
        split
        · rename_i hgone
          exact iff_of_false nofun fun h => (h hgone.1).elim (by simp [hone hgone.1]) hgone.2
        · rename_i hset
          refine iff_of_true (.some (same_refl two)) fun hnull => .inr ?_
          by_contra hundeclared
          exact hset ⟨hnull, hundeclared⟩

theorem applied_iff_kept : SameFlat (applyChanges declared (fieldChanges (flatten before) (flatten after))
      (flatten before)) (flatten after) ↔
    ∀ path, Kept (path ∈ declared) ((flatten before).get? path) ((flatten after).get? path) := by
  apply forall_congr'
  intro path
  rw [get?_apply_fieldChanges]
  exact rel_iff_kept _ _

theorem fieldChanges_of_same (hbefore : before.WellFormed) (hafter : after.WellFormed)
    (hseparate : Separate before after) (h : Same before after) :
    fieldChanges (flatten before) (flatten after) = [] := by
  have hequal : ∀ path, pyEq (valueOrNone (flatten before) path) (valueOrNone (flatten after) path) = true := by
    apply (hseparate.forall_path_iff hbefore hafter
      (p := fun _ old new => pyEq (old.getD .null) (new.getD .null) = true) fun _ => pyEq_null .null).mpr
    intro keys
    have hrel := h.leafAt hbefore hafter keys
    cases hone : leafAt keys before with
    | none =>
      cases htwo : leafAt keys after with
      | none => rw [Option.getD_none, pyEq_null]; rfl
      | some two =>
        rw [hone, htwo] at hrel
        cases hrel
    | some one =>
      cases htwo : leafAt keys after with
      | none =>
        rw [hone, htwo] at hrel
        cases hrel
      | some two =>
        rw [hone, htwo] at hrel
        exact pyEq_of_same (hbefore.valueAt (leafAt_eq_some.mp hone).1)
          (hafter.valueAt (leafAt_eq_some.mp htwo).1) (Option.rel_some_some.mp hrel)
  rw [fieldChanges, List.map_eq_nil_iff, List.filter_eq_nil_iff]
  intro path _
  simp [hequal path]

theorem exact_iff (hbefore : before.WellFormed) (hafter : after.WellFormed) :
    Exact declared before after (fieldChanges (flatten before) (flatten after)) ↔
      Traceable declared before after ∧ ¬ Same before after := by
  constructor
  · intro h
    have hseparate := h.separate
    refine ⟨⟨hseparate, ?_, ?_, ?_⟩, ?_⟩
    · apply (hseparate.forall_path_iff hbefore hafter (p := fun path => Kept (path ∈ declared))
        fun _ => trivial).mp
      exact applied_iff_kept.mp h.applied
    · intro keys hempty hnone
      obtain ⟨change, hmem, -, hchange⟩ := h.gone keys _ (.inr rfl) hempty hnone
      have hdict := hseparate.isDict_before hbefore change.path
      rw [← (mem_fieldChanges hmem).1, hchange] at hdict
      cases hdict
    · intro keys hempty hnone
      obtain ⟨change, hmem, -, hchange⟩ := h.come keys _ (.inr rfl) hempty hnone
      have hdict := hseparate.isDict_after hafter change.path
      rw [← (mem_fieldChanges hmem).2.1, hchange] at hdict
      cases hdict
    · exact fun hsame => h.listed (fieldChanges_of_same hbefore hafter hseparate hsame)
  · rintro ⟨h, hdiffer⟩
    have happlied : SameFlat (applyChanges declared (fieldChanges (flatten before) (flatten after))
        (flatten before)) (flatten after) := by
      apply applied_iff_kept.mpr
      exact (h.separate.forall_path_iff hbefore hafter (p := fun path => Kept (path ∈ declared))
        fun _ => trivial).mpr h.kept
    refine ⟨?_, happlied, ?_, ?_, h.separate⟩
    · intro hnil
      rw [hnil, applyChanges_nil] at happlied
      refine hdiffer (same_of_leafAt hbefore hafter ?_ h.emptyBefore h.emptyAfter)
      exact (h.separate.forall_path_iff hbefore hafter (p := fun _ => Option.Rel Same) fun _ => .none).mp
        happlied
    · rintro keys value (hnull | rfl) hvalue hnone
      · rw [isNull_iff] at hnull
        subst hnull
        have hkept := h.kept keys
        rw [leafAt_null_iff.mpr hvalue, leafAt, hnone] at hkept
        exact absurd hkept.1 (by simp [isNull])
      · exact absurd hnone (h.emptyBefore keys hvalue)
    · rintro keys value (hnull | rfl) hvalue hnone
      · rw [isNull_iff] at hnull
        subst hnull
        have hkept := h.kept keys
        rw [leafAt_null_iff.mpr hvalue, leafAt, hnone] at hkept
        exact absurd (show isNull .null = false from hkept) (by simp [isNull])
      · exact absurd hnone (h.emptyAfter keys hvalue)

end Exactness

end KubeOps.Discovery
