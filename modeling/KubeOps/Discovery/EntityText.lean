import KubeOps.Discovery.Snapshot
import KubeOps.Models.CanonicalHash

/-! What the canonical text of an entity says about it: everything but the order of its
dictionaries. -/
namespace KubeOps.Discovery

open KubeOps.Foundation KubeOps.Models

section Fields

variable {excludeNone : Bool} {fields others : List (String × Value)} {key : String} {value : Value}

variable (excludeNone) in
theorem isNull_modelDump (value : Value) : (value.modelDump excludeNone).isNull = value.isNone := by
  cases value <;> rfl

theorem keys_dumpFields_nodup (hnodup : (fields.map Prod.fst).Nodup) :
    ((Value.dumpFields excludeNone fields).map Prod.fst).Nodup := by
  rw [Value.dumpFields_eq, List.map_map]
  exact (List.filter_sublist.map Prod.fst).nodup hnodup

variable (excludeNone) in
theorem entry?_dumpFields (hnodup : (fields.map Prod.fst).Nodup) (hmem : (key, value) ∈ fields) :
    Json.entry? key (.dict (Value.dumpFields excludeNone fields)) =
      if excludeNone && value.isNone then none else some (value.modelDump excludeNone) := by
  ext child
  rw [Json.entry?_eq_some (keys_dumpFields_nodup hnodup), Value.dumpFields_eq, List.mem_map]
  constructor
  · rintro ⟨entry, hentry, hsame⟩
    obtain ⟨rfl, rfl⟩ := Prod.mk.inj hsame
    obtain ⟨hfield, hkept⟩ := List.mem_filter.mp hentry
    have hvalue : entry = (entry.1, value) := List.inj_on_of_nodup_map hnodup hfield hmem rfl
    rw [hvalue] at hkept ⊢
    rw [Bool.not_eq_eq_eq_not, Bool.not_true] at hkept
    rw [hkept]
    rfl
  · intro hchild
    split at hchild
    · cases hchild
    · rename_i hkept
      refine ⟨(key, value), List.mem_filter.mpr ⟨hmem, ?_⟩, ?_⟩
      · rw [Bool.eq_false_iff.mpr hkept]
        rfl
      · rw [Option.some.inj hchild]

theorem isNone_iff : value.isNone = true ↔ value = .null := by
  cases value <;> simp [Value.isNone]

private theorem map_dumpFields_eq (hnames : fields.map Prod.fst = others.map Prod.fst)
    (h : List.Forall₂ (fun one two => Json.Same (one.2.modelDump excludeNone) (two.2.modelDump excludeNone))
      fields others) :
    (Value.dumpFields excludeNone fields).map (fun entry => (entry.1, entry.2.canonical)) =
      (Value.dumpFields excludeNone others).map fun entry => (entry.1, entry.2.canonical) := by
  induction h with
  | nil => rfl
  | @cons one two fields others hsame _ ih =>
    rw [List.map_cons, List.map_cons, List.cons.injEq] at hnames
    have hnone : one.2.isNone = two.2.isNone := by
      rw [← isNull_modelDump excludeNone, hsame.isNull, isNull_modelDump]
    rw [Value.dumpFields, Value.dumpFields, hnone]
    split
    · exact ih hnames.2
    · rw [List.map_cons, List.map_cons, ih hnames.2, hnames.1, show _ = _ from hsame]

theorem same_dumpFields_iff (hnames : fields.map Prod.fst = others.map Prod.fst)
    (hnodup : (fields.map Prod.fst).Nodup) :
    Json.Same (.dict (Value.dumpFields excludeNone fields)) (.dict (Value.dumpFields excludeNone others)) ↔
      List.Forall₂ (fun one two => Json.Same (one.2.modelDump excludeNone) (two.2.modelDump excludeNone))
        fields others := by
  have hother : (others.map Prod.fst).Nodup := hnames ▸ hnodup
  rw [Json.same_dict_iff (keys_dumpFields_nodup hnodup) (keys_dumpFields_nodup hother)]
  constructor
  · intro h
    rw [List.forall₂_iff_get]
    refine ⟨by simpa using congrArg List.length hnames, fun index hone htwo => ?_⟩
    have hkey : (others.get ⟨index, htwo⟩).1 = (fields.get ⟨index, hone⟩).1 := by
      have hindex := congrArg (fun keys : List String => keys[index]?) hnames.symm
      simpa [hone, htwo] using hindex
    have hleft := entry?_dumpFields excludeNone hnodup (List.get_mem fields ⟨index, hone⟩)
    have hright := entry?_dumpFields excludeNone hother (List.get_mem others ⟨index, htwo⟩)
    have hrel := h (fields.get ⟨index, hone⟩).1
    rw [hkey] at hright
    rw [hleft, hright] at hrel
    generalize (fields.get ⟨index, hone⟩).2 = one at hrel ⊢
    generalize (others.get ⟨index, htwo⟩).2 = two at hrel ⊢
    cases hnone : excludeNone && one.isNone with
    | true =>
      cases hgone : excludeNone && two.isNone with
      | true =>
        rw [Bool.and_eq_true] at hnone hgone
        rw [isNone_iff.mp hnone.2, isNone_iff.mp hgone.2]
        exact Json.same_refl _
      | false =>
        rw [hnone, hgone] at hrel
        cases hrel
    | false =>
      cases hgone : excludeNone && two.isNone with
      | true =>
        rw [hnone, hgone] at hrel
        cases hrel
      | false =>
        rw [hnone, hgone] at hrel
        exact Option.rel_some_some.mp hrel
  · intro h
    rw [← Json.same_dict_iff (keys_dumpFields_nodup hnodup) (keys_dumpFields_nodup hother), Json.Same,
      Json.canonical_dict, Json.canonical_dict, map_dumpFields_eq hnames h]

theorem equal_model_iff (hnames : fields.map Prod.fst = others.map Prod.fst) :
    Value.Equal (.model fields) (.model others) ↔
      List.Forall₂ (fun one two => one.2.Equal two.2) fields others := by
  rw [Value.Equal, Value.sorted, Value.sorted, Value.model.injEq, Value.sortedEntries_eq,
    Value.sortedEntries_eq]
  induction fields generalizing others with
  | nil =>
    cases others with
    | nil => simp
    | cons other others => simp at hnames
  | cons field fields ih =>
    cases others with
    | nil => simp at hnames
    | cons other others =>
      rw [List.map_cons, List.map_cons, List.cons.injEq] at hnames
      rw [List.map_cons, List.map_cons, List.cons.injEq, List.forall₂_cons, ih hnames.2, Prod.mk.injEq]
      simp only [hnames.1, true_and, Value.Equal]

end Fields

section Documents

variable {json other : Json} {items : List Json} {entries : List (String × Json)} {excludeNone : Bool}

theorem valuesOfItems_eq : valuesOfItems items = items.map valueOfJson := by
  induction items with
  | nil => rfl
  | cons item items ih => rw [valuesOfItems, ih, List.map_cons]

theorem valuesOfEntries_eq : valuesOfEntries entries = entries.map fun entry =>
    (entry.1, valueOfJson entry.2) := by
  induction entries with
  | nil => rfl
  | cons entry entries ih => rw [valuesOfEntries, ih, List.map_cons]

theorem modelDump_valueOfJson (json : Json) : (valueOfJson json).modelDump excludeNone = json := by
  induction json using Json.induct with
  | null | bool _ | int _ | float _ | str _ => rfl
  | list items ih =>
    rw [valueOfJson, Value.modelDump, Value.dumpItems_eq, valuesOfItems_eq, List.map_map]
    congr 1
    exact (List.map_congr_left ih).trans (List.map_id _)
  | dict entries ih =>
    rw [valueOfJson, Value.modelDump, Value.dumpEntries_eq, valuesOfEntries_eq, List.map_map]
    congr 1
    calc entries.map (fun entry => (entry.1, (valueOfJson entry.2).modelDump excludeNone))
        = entries.map id := List.map_congr_left fun entry hentry => Prod.ext rfl (ih entry hentry)
      _ = entries := List.map_id entries

theorem sorted_valueOfJson (json : Json) : (valueOfJson json).sorted = valueOfJson json.canonical := by
  induction json using Json.induct with
  | null | bool _ | int _ | float _ | str _ => rfl
  | list items ih =>
    rw [valueOfJson, Value.sorted, Value.sortedItems_eq, valuesOfItems_eq, Json.canonical,
      Json.canonicalItems_eq, valueOfJson, valuesOfItems_eq, List.map_map, List.map_map]
    congr 1
    exact List.map_congr_left ih
  | dict entries ih =>
    rw [valueOfJson, Value.sorted, Value.sortedEntries_eq, valuesOfEntries_eq, Json.canonical_dict,
      valueOfJson, valuesOfEntries_eq, ← sortByKey_map, List.map_map, List.map_map]
    congr 2
    exact List.map_congr_left fun entry hentry => Prod.ext rfl (ih entry hentry)

theorem equal_valueOfJson : (valueOfJson json).Equal (valueOfJson other) ↔ Json.Same json other := by
  rw [Value.Equal, sorted_valueOfJson, sorted_valueOfJson]
  constructor
  · intro h
    have hdump := congrArg (Value.modelDump true) h
    rwa [modelDump_valueOfJson, modelDump_valueOfJson] at hdump
  · intro h
    rw [show json.canonical = other.canonical from h]

theorem valueOfText_eq (text : Option String) :
    valueOfText text = valueOfJson ((text.map Json.str).getD .null) := by
  cases text <;> rfl

theorem valueOfLabels_eq (labels : List (String × String)) :
    Value.dict (labels.map fun label => (label.1, .str label.2)) =
      valueOfJson (.dict (labels.map fun label => (label.1, .str label.2))) := by
  rw [valueOfJson, valuesOfEntries_eq, List.map_map]
  rfl

end Documents

namespace EntityDocument

variable {old new : EntityDocument}

theorem fields_names (entity : EntityDocument) : (("schema_version", Value.str entity.schemaVersion) ::
    entity.fields).map Prod.fst = ["schema_version", "entity_id", "entity_type", "entity_type_lineage", "name",
      "plane", "namespace", "provider", "labels", "desired_state", "observed_state", "capabilities",
      "extensions"] := rfl

theorem equal_set {items others : List String} : (Value.set items).Equal (.set others) ↔
    items.insertionSort (· ≤ ·) = others.insertionSort (· ≤ ·) := by
  rw [Value.Equal, Value.sorted, Value.sorted, Value.set.injEq]

theorem same_set {items others : List String} {excludeNone : Bool} :
    Json.Same ((Value.set items).modelDump excludeNone) ((Value.set others).modelDump excludeNone) ↔
      items = others := by
  rw [Value.modelDump, Value.modelDump, Json.Same, Value.canonical_strings, Value.canonical_strings,
    Json.strings, Json.strings, Json.list.injEq]
  exact (List.map_injective_iff.mpr fun _ _ => Json.str.inj).eq_iff

theorem equal_str {text other : String} : (Value.str text).Equal (.str other) ↔ text = other := by
  rw [Value.Equal, Value.sorted, Value.sorted, Value.str.injEq]

theorem same_str {text other : String} {excludeNone : Bool} :
    Json.Same ((Value.str text).modelDump excludeNone) ((Value.str other).modelDump excludeNone) ↔
      text = other := by
  rw [Value.modelDump, Value.modelDump, Json.Same, Json.canonical, Json.canonical, Json.str.injEq]

/-- Both sets are iterated over in the same order. -/
structure SetsAlike (old new : EntityDocument) : Prop where
  lineage : old.entityTypeLineage = new.entityTypeLineage
  capabilities : old.capabilities = new.capabilities

theorem canonicalJson_eq_iff : old.value.canonicalJson = new.value.canonicalJson ↔
    old.value.Equal new.value ∧ SetsAlike old new := by
  have htext : old.value.canonicalJson = new.value.canonicalJson ↔
      Json.Same old.value.canonicalDict new.value.canonicalDict := by
    constructor
    · exact Json.same_of_text
    · intro h
      unfold Value.canonicalJson Json.text
      rw [show _ = _ from h]
  have hnames := (fields_names old).trans (fields_names new).symm
  have hnodup : ((("schema_version", Value.str old.schemaVersion) :: old.fields).map Prod.fst).Nodup := by
    rw [fields_names]
    decide
  rw [htext, value, value, Value.canonicalDict, Value.canonicalDict, Value.modelDump, Value.modelDump,
    same_dumpFields_iff hnames hnodup, equal_model_iff hnames]
  unfold fields
  simp only [List.forall₂_cons, List.forall₂_nil_left_iff, valueOfText_eq, valueOfLabels_eq, equal_valueOfJson,
    modelDump_valueOfJson, same_set, equal_set, equal_str, same_str]
  constructor
  · rintro ⟨hversion, hid, htype, hlineage, hname, hplane, hspace, hprovider, hlabels, hdesired, hobserved,
      hcapabilities, hextensions, -⟩
    refine ⟨⟨hversion, hid, htype, ?_, hname, hplane, hspace, hprovider, hlabels, hdesired, hobserved, ?_,
      hextensions, trivial⟩, ⟨hlineage, hcapabilities⟩⟩
    · rw [hlineage]
    · rw [hcapabilities]
  · rintro ⟨⟨hversion, hid, htype, -, hname, hplane, hspace, hprovider, hlabels, hdesired, hobserved, -,
      hextensions, -⟩, hsets⟩
    exact ⟨hversion, hid, htype, hsets.lineage, hname, hplane, hspace, hprovider, hlabels, hdesired, hobserved,
      hsets.capabilities, hextensions, trivial⟩

end EntityDocument

end KubeOps.Discovery
