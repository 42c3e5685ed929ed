import KubeOps.Models.SchemaModel

/-! When equal instances have one canonical text. Its keys are sorted, its sets are not. -/
namespace KubeOps.Models

open KubeOps.Foundation

namespace Value

/-- No set in the value has two elements. -/
def Unordered (value : Value) : Prop := ∀ items ∈ value.sets, items.length ≤ 1

variable {value : Value} {f : List String → List String}

section Parts

variable {items : List Value} {entries : List (String × Value)} {found : List String}

theorem mem_sets_list : found ∈ (Value.list items).sets ↔ ∃ item ∈ items, found ∈ item.sets := by
  rw [sets_list, List.mem_flatMap]

theorem mem_sets_dict : found ∈ (Value.dict entries).sets ↔ ∃ entry ∈ entries, found ∈ entry.2.sets := by
  rw [sets_dict, List.mem_flatMap]

theorem mem_sets_model : found ∈ (Value.model entries).sets ↔ ∃ entry ∈ entries, found ∈ entry.2.sets := by
  rw [sets_model, List.mem_flatMap]

theorem unordered_list : (Value.list items).Unordered ↔ ∀ item ∈ items, item.Unordered := by
  simp only [Unordered, mem_sets_list, forall_exists_index, and_imp]
  exact ⟨fun h item hitem found => h found item hitem, fun h found item hitem => h item hitem found⟩

theorem unordered_dict : (Value.dict entries).Unordered ↔ ∀ entry ∈ entries, entry.2.Unordered := by
  simp only [Unordered, mem_sets_dict, forall_exists_index, and_imp]
  exact ⟨fun h entry hentry found => h found entry hentry, fun h found entry hentry => h entry hentry found⟩

theorem unordered_model : (Value.model entries).Unordered ↔ ∀ entry ∈ entries, entry.2.Unordered := by
  simp only [Unordered, mem_sets_model, forall_exists_index, and_imp]
  exact ⟨fun h entry hentry found => h found entry hentry, fun h found entry hentry => h entry hentry found⟩

theorem isNone_sorted (value : Value) : value.sorted.isNone = value.isNone := by
  cases value <;> rfl

theorem isNone_mapSets (value : Value) : (value.mapSets f).isNone = value.isNone := by
  cases value <;> rfl

theorem sets_of_isNone (h : value.isNone = true) : value.sets = [] := by
  cases value with
  | null => rfl
  | bool _ | int _ | float _ | str _ | list _ | dict _ | set _ | model _ => cases h

theorem dumpFields_map (g : Value → Value) (h : ∀ value, (g value).isNone = value.isNone) :
    dumpFields true (entries.map fun entry => (entry.1, g entry.2)) =
      (entries.filter fun entry => !entry.2.isNone).map fun entry => (entry.1, (g entry.2).modelDump true) := by
  rw [dumpFields_eq, List.filter_map, List.map_map]
  simp only [Function.comp_def, h, Bool.true_and]

theorem dumpFields_self (fields : List (String × Value)) : dumpFields true fields =
    (fields.filter fun entry => !entry.2.isNone).map fun entry => (entry.1, entry.2.modelDump true) := by
  rw [dumpFields_eq]
  simp only [Bool.true_and]

end Parts

section Canonical

theorem canonical_list (items : List Json) :
    (Json.list items).canonical = .list (items.map Json.canonical) :=
  congrArg Json.list (Json.canonicalItems_eq items)

theorem canonical_dict (entries : List (String × Json)) :
    (Json.dict entries).canonical =
      .dict (sortByKey (entries.map fun entry => (entry.1, entry.2.canonical))) :=
  congrArg (fun entries => Json.dict (sortByKey entries)) (Json.canonicalEntries_eq entries)

theorem canonical_strings (items : List String) : (Json.strings items).canonical = Json.strings items := by
  rw [Json.strings, canonical_list, List.map_map]
  rfl

theorem canonical_sorted (h : value.Unordered) :
    value.sorted.canonicalDict.canonical = value.canonicalDict.canonical := by
  unfold canonicalDict
  induction value using induct with
  | null | bool _ | int _ | float _ | str _ => rfl
  | list items ih =>
    rw [sorted_list, modelDump_list, modelDump_list, canonical_list, canonical_list, List.map_map, List.map_map,
      List.map_map]
    congr 1
    apply List.map_congr_left
    intro item hitem
    exact ih item hitem (unordered_list.mp h item hitem)
  | dict entries ih =>
    have hentries : ∀ entry ∈ entries,
        (entry.2.sorted.modelDump true).canonical = (entry.2.modelDump true).canonical :=
      fun entry hentry => ih entry hentry (unordered_dict.mp h entry hentry)
    rw [sorted_dict, modelDump_dict, modelDump_dict, canonical_dict, canonical_dict, List.map_map, List.map_map]
    congr 1
    change sortByKey ((sortByKey (entries.map fun entry => (entry.1, entry.2.sorted))).map
      fun entry => (entry.1, (entry.2.modelDump true).canonical)) =
      sortByKey (entries.map fun entry => (entry.1, (entry.2.modelDump true).canonical))
    rw [sortByKey_map fun value : Value => (value.modelDump true).canonical, sortByKey_sortByKey,
      ← sortByKey_map fun value : Value => (value.modelDump true).canonical, List.map_map]
    congr 1
    apply List.map_congr_left
    intro entry hentry
    exact Prod.ext rfl (hentries entry hentry)
  | set items =>
    have hfew : items.length ≤ 1 := h items (List.mem_singleton_self items)
    cases items with
    | nil => rfl
    | cons item rest =>
      obtain rfl : rest = [] := by simpa using hfew
      rfl
  | model fields ih =>
    have hfields : ∀ entry ∈ fields,
        (entry.2.sorted.modelDump true).canonical = (entry.2.modelDump true).canonical :=
      fun entry hentry => ih entry hentry (unordered_model.mp h entry hentry)
    have hsame := dumpFields_self fields
    rw [sorted_model]
    show (Json.dict (dumpFields true _)).canonical = (Json.dict (dumpFields true _)).canonical
    rw [dumpFields_map sorted isNone_sorted, hsame, canonical_dict, canonical_dict, List.map_map, List.map_map]
    congr 2
    apply List.map_congr_left
    intro entry hentry
    exact Prod.ext rfl (hfields entry (List.mem_of_mem_filter hentry))

theorem unordered_sorted_iff : value.sorted.Unordered ↔ value.Unordered := by
  induction value using induct with
  | null | bool _ | int _ | float _ | str _ => rfl
  | list items ih =>
    rw [sorted_list, unordered_list, unordered_list, List.forall_mem_map]
    exact forall₂_congr ih
  | dict entries ih =>
    rw [sorted_dict, unordered_dict, unordered_dict]
    simp only [(perm_sortByKey _).mem_iff, List.forall_mem_map]
    exact forall₂_congr ih
  | set items =>
    show (∀ found ∈ [items.insertionSort _], found.length ≤ 1) ↔ ∀ found ∈ [items], found.length ≤ 1
    rw [List.forall_mem_singleton, List.forall_mem_singleton, List.length_insertionSort]
  | model fields ih =>
    rw [sorted_model, unordered_model, unordered_model, List.forall_mem_map]
    exact forall₂_congr ih

theorem canonicalJson_of_equal {other : Value} (hequal : Equal value other) (h : value.Unordered) :
    other.canonicalJson = value.canonicalJson := by
  have hother : other.Unordered := by
    rwa [← unordered_sorted_iff, ← hequal, unordered_sorted_iff]
  have hsame : other.canonicalDict.canonical = value.canonicalDict.canonical := by
    rw [← canonical_sorted hother, ← hequal, canonical_sorted h]
  unfold canonicalJson Json.text
  rw [hsame]

end Canonical

section Orders

theorem equal_mapSets (hperm : ∀ items, (f items).Perm items) (value : Value) :
    Equal value (value.mapSets f) := by
  unfold Equal
  induction value using induct with
  | null | bool _ | int _ | float _ | str _ => rfl
  | list items ih =>
    rw [sorted_list, mapSets_list, sorted_list, List.map_map]
    congr 1
    exact List.map_congr_left ih
  | dict entries ih =>
    rw [sorted_dict, mapSets_dict, sorted_dict, List.map_map]
    congr 2
    exact List.map_congr_left fun entry hentry => Prod.ext rfl (ih entry hentry)
  | set items => exact congrArg Value.set (insertionSort_eq_of_perm (hperm items)).symm
  | model fields ih =>
    rw [sorted_model, mapSets_model, sorted_model, List.map_map]
    congr 1
    exact List.map_congr_left fun entry hentry => Prod.ext rfl (ih entry hentry)

private theorem keys_map {entries : List (String × Value)} (g : Value → Value) :
    (entries.map fun entry => (entry.1, g entry.2)).map Prod.fst = entries.map Prod.fst := by
  rw [List.map_map]
  rfl

theorem WellFormed.mapSets (hperm : ∀ items, (f items).Perm items) (h : value.WellFormed) :
    (value.mapSets f).WellFormed := by
  induction value using Value.induct with
  | null | bool _ | int _ | float _ | str _ => exact h
  | list items ih =>
    rw [wellFormed_list] at h
    rw [mapSets_list, wellFormed_list, List.forall_mem_map]
    exact fun item hitem => ih item hitem (h item hitem)
  | dict entries ih =>
    rw [wellFormed_dict] at h
    rw [mapSets_dict, wellFormed_dict, keys_map, List.forall_mem_map]
    exact ⟨h.1, fun entry hentry => ih entry hentry (h.2 entry hentry)⟩
  | set items => exact (hperm items).nodup_iff.mpr h
  | model fields ih =>
    rw [wellFormed_model] at h
    rw [mapSets_model, wellFormed_model, keys_map, List.forall_mem_map]
    exact ⟨h.1, fun entry hentry => ih entry hentry (h.2 entry hentry)⟩

theorem fixed_of_same (hwell : value.WellFormed)
    (h : Json.Same value.canonicalDict (value.mapSets f).canonicalDict) :
    ∀ items ∈ value.sets, f items = items := by
  unfold canonicalDict at h
  induction value using induct with
  | null | bool _ | int _ | float _ | str _ => exact fun _ hmem => absurd hmem List.not_mem_nil
  | list items ih =>
    intro found hfound
    obtain ⟨item, hitem, hfound⟩ := mem_sets_list.mp hfound
    rw [wellFormed_list] at hwell
    rw [modelDump_list, mapSets_list, modelDump_list, List.map_map, Json.Same, canonical_list, canonical_list,
      List.map_map, List.map_map, Json.list.injEq, List.map_inj_left] at h
    exact ih item hitem (hwell item hitem) (h item hitem) found hfound
  | dict entries ih =>
    intro found hfound
    obtain ⟨entry, hentry, hfound⟩ := mem_sets_dict.mp hfound
    rw [wellFormed_dict] at hwell
    rw [modelDump_dict, mapSets_dict, modelDump_dict, List.map_map] at h
    refine ih entry hentry (hwell.2 entry hentry) (h.under ?_ (List.mem_map_of_mem hentry)
      (List.mem_map_of_mem hentry)) found hfound
    rw [List.map_map]
    exact hwell.1
  | set items =>
    intro found hfound
    rw [List.mem_singleton.mp hfound]
    change (Json.strings items).canonical = (Json.strings (f items)).canonical at h
    rw [canonical_strings, canonical_strings] at h
    exact (List.map_injective_iff.mpr (fun _ _ => Json.str.inj) (Json.list.inj h)).symm
  | model fields ih =>
    intro found hfound
    obtain ⟨entry, hentry, hfound⟩ := mem_sets_model.mp hfound
    rw [wellFormed_model] at hwell
    have hkept : entry ∈ fields.filter fun entry => !entry.2.isNone := by
      rw [List.mem_filter]
      refine ⟨hentry, ?_⟩
      cases hnone : entry.2.isNone with
      | false => rfl
      | true =>
        rw [sets_of_isNone hnone] at hfound
        exact absurd hfound List.not_mem_nil
    have hsame := dumpFields_self fields
    rw [mapSets_model] at h
    change Json.Same (.dict (dumpFields true _)) (.dict (dumpFields true _)) at h
    rw [hsame, dumpFields_map _ isNone_mapSets] at h
    refine ih entry hentry (hwell.2 entry hentry) (h.under ?_ (List.mem_map_of_mem hkept)
      (List.mem_map_of_mem hkept)) found hfound
    rw [List.map_map]
    exact (List.filter_sublist.map Prod.fst).nodup hwell.1

theorem sets_nodup (h : value.WellFormed) : ∀ items ∈ value.sets, items.Nodup := by
  induction value using induct with
  | null | bool _ | int _ | float _ | str _ => exact fun _ hmem => absurd hmem List.not_mem_nil
  | list items ih =>
    intro found hfound
    obtain ⟨item, hitem, hfound⟩ := mem_sets_list.mp hfound
    exact ih item hitem (wellFormedItems_iff.mp h item hitem) found hfound
  | dict entries ih =>
    intro found hfound
    obtain ⟨entry, hentry, hfound⟩ := mem_sets_dict.mp hfound
    exact ih entry hentry (wellFormedEntries_iff.mp h.2 entry hentry) found hfound
  | set items =>
    intro found hfound
    rw [List.mem_singleton.mp hfound]
    exact h
  | model fields ih =>
    intro found hfound
    obtain ⟨entry, hentry, hfound⟩ := mem_sets_model.mp hfound
    exact ih entry hentry (wellFormedEntries_iff.mp h.2 entry hentry) found hfound

end Orders

end Value

theorem length_le_one_of_reverse {α : Type} {items : List α} (hnodup : items.Nodup)
    (h : items.reverse = items) : items.length ≤ 1 := by
  match items with
  | [] => exact Nat.zero_le 1
  | first :: rest =>
    by_contra hlong
    have hlast : (first :: rest).getLast (List.cons_ne_nil _ _) = first := by
      have hhead : (first :: rest).reverse.head? = some first := by rw [h]; rfl
      rw [List.head?_reverse, List.getLast?_eq_some_getLast (List.cons_ne_nil _ _)] at hhead
      exact Option.some.inj hhead
    have hrest : rest ≠ [] := by
      rintro rfl
      simp at hlong
    rw [List.getLast_cons hrest] at hlast
    exact (List.nodup_cons.mp hnodup).1 (hlast ▸ List.getLast_mem hrest)

namespace SchemaModel

variable (python : Python)

def canonicalJson (model : SchemaModel) : String := model.value.canonicalJson

def contentHash (model : SchemaModel) : String := model.value.contentHash python

/-- A worker goes on when the definition in its task has the hash of the one in its catalog. -/
def definitionAuthoritative (supplied definition : SchemaModel) : Bool :=
  supplied.contentHash python = definition.contentHash python

def manifestHashMatches (signed manifest : SchemaModel) : Bool :=
  signed.contentHash python = manifest.contentHash python

def reportedChanged (old new : SchemaModel) : Bool := old.contentHash python ≠ new.contentHash python

/-- What the order of sets and dictionaries in one of two equal instances may not change. -/
structure RespectsEquality (model : SchemaModel) : Prop where
  canonicalJson : ∀ other : SchemaModel, model.value.Equal other.value →
    other.canonicalJson = model.canonicalJson
  contentHash : ∀ other : SchemaModel, model.value.Equal other.value →
    other.contentHash python = model.contentHash python
  definition : ∀ other : SchemaModel, model.value.Equal other.value →
    other.definitionAuthoritative python model = true
  signature : ∀ other : SchemaModel, model.value.Equal other.value →
    model.manifestHashMatches python other = true
  diff : ∀ other : SchemaModel, model.value.Equal other.value → model.reportedChanged python other = false

/-- Equal instances have one text and one hash if and only if no set has two elements. -/
theorem respectsEquality_iff (model : SchemaModel) :
    model.RespectsEquality python ↔ ∀ items ∈ model.value.sets, items.length ≤ 1 := by
  constructor
  · intro h items hmem
    have hperm : ∀ items : List String, items.reverse.Perm items := List.reverse_perm
    have htext := h.canonicalJson ⟨model.value.mapSets List.reverse, model.wellFormed.mapSets hperm⟩
      (Value.equal_mapSets hperm _)
    have hfixed := Value.fixed_of_same model.wellFormed (Json.same_of_text htext.symm) items hmem
    exact length_le_one_of_reverse (Value.sets_nodup model.wellFormed items hmem) hfixed
  · intro h
    have htext : ∀ other : SchemaModel, model.value.Equal other.value →
        other.canonicalJson = model.canonicalJson := fun _ hequal => Value.canonicalJson_of_equal hequal h
    have hhash : ∀ other : SchemaModel, model.value.Equal other.value →
        other.contentHash python = model.contentHash python := fun other hequal =>
      congrArg python.sha256 (htext other hequal)
    refine ⟨htext, hhash, ?_, ?_, ?_⟩
    · exact fun other hequal => decide_eq_true (hhash other hequal)
    · exact fun other hequal => decide_eq_true (hhash other hequal).symm
    · exact fun other hequal => decide_eq_false (not_not_intro (hhash other hequal).symm)

def processStart (supportedModes : List String) : Value := .model [
  ("schema_version", .str "kubeops.io/v1"),
  ("action_type_id", .str "local.process.start.v1"),
  ("title", .str "Start local process"),
  ("description", .str ""),
  ("parameter_schema", .dict [("required", .list [.str "argv"]),
    ("properties", .dict [("argv", .dict [("type", .str "array")])])]),
  ("preconditions", .list []),
  ("expected_effects", .list [.str "process_running"]),
  ("possible_side_effects", .list [.str "host_resource_consumption"]),
  ("required_capabilities", .set ["host.process.start"]),
  ("supported_modes", .set supportedModes),
  ("executor_id", .str "local.process"),
  ("default_risk", .model [("schema_version", .str "kubeops.io/v1"), ("risk_class", .str "R1"),
    ("blast_radius", .str "single_process"), ("availability_risk", .str "none"), ("data_risk", .str "none"),
    ("security_risk", .str "none"), ("reversible", .bool true), ("idempotent", .bool true),
    ("rationale", .list [])]),
  ("completion_condition_ids", .list []),
  ("verification_condition_ids", .list []),
  ("verification_conditions", .list []),
  ("rollback_action_type_id", .str "local.process.stop.v1"),
  ("timeout_seconds", .int 120),
  ("max_attempts", .int 1),
  ("metadata", .dict [])]

theorem processStart_wellFormed {supportedModes : List String} (h : supportedModes.Nodup) :
    (processStart supportedModes).WellFormed := by
  simp [processStart, Value.WellFormed, Value.WellFormedEntries, Value.WellFormedItems, h]

/-- The same two modes in the other order make another text. -/
theorem processStart_order_matters :
    ¬ RespectsEquality Python.plain ⟨processStart ["simulation", "live"],
      processStart_wellFormed (by decide)⟩ := by
  intro h
  have hwell : (processStart ["simulation", "live"]).WellFormed := processStart_wellFormed (by decide)
  have htext := h.canonicalJson ⟨processStart ["live", "simulation"], processStart_wellFormed (by decide)⟩
    (Value.equal_mapSets List.reverse_perm (processStart ["simulation", "live"]))
  have hfixed := Value.fixed_of_same (f := List.reverse) hwell (Json.same_of_text htext.symm)
    ["simulation", "live"] (by simp [processStart, Value.sets, Value.setsOfEntries, Value.setsOfItems])
  exact absurd hfixed (by decide)

end SchemaModel

end KubeOps.Models
