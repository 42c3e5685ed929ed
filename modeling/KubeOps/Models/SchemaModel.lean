import KubeOps.Foundation.Sorting
import KubeOps.Models.JsonText

/-! Instances of the model classes as pydantic holds and dumps them: fields, and in them
lists, dictionaries and sets. -/
namespace KubeOps.Models

open KubeOps.Foundation

/-- The value of a field. A set holds texts, in the order in which it is iterated over, and
a model is kept by the values of its fields. -/
inductive Value where
  | null
  | bool (value : Bool)
  | int (value : Int)
  | float (value : Rat)
  | str (value : String)
  | list (items : List Value)
  | dict (entries : List (String × Value))
  | set (items : List String)
  | model (fields : List (String × Value))

namespace Value

def isNone : Value → Bool
  | .null => true
  | _ => false

mutual

/-- `model_dump(mode="json", exclude_none=excludeNone)`. Fields are excluded when they are
`None`, entries of dictionaries are not. -/
def modelDump (excludeNone : Bool) : Value → Json
  | .null => .null
  | .bool value => .bool value
  | .int value => .int value
  | .float value => .float value
  | .str value => .str value
  | .list items => .list (dumpItems excludeNone items)
  | .dict entries => .dict (dumpEntries excludeNone entries)
  | .set items => Json.strings items
  | .model fields => .dict (dumpFields excludeNone fields)

def dumpItems (excludeNone : Bool) : List Value → List Json
  | [] => []
  | item :: rest => item.modelDump excludeNone :: dumpItems excludeNone rest

def dumpEntries (excludeNone : Bool) : List (String × Value) → List (String × Json)
  | [] => []
  | (key, value) :: rest => (key, value.modelDump excludeNone) :: dumpEntries excludeNone rest

def dumpFields (excludeNone : Bool) : List (String × Value) → List (String × Json)
  | [] => []
  | (name, value) :: rest =>
    if excludeNone && value.isNone then dumpFields excludeNone rest
    else (name, value.modelDump excludeNone) :: dumpFields excludeNone rest

end

/-- `SchemaModel.canonical_dict` -/
def canonicalDict (value : Value) : Json := value.modelDump true

/-- `SchemaModel.canonical_json` -/
def canonicalJson (value : Value) : String := value.canonicalDict.text

/-- `SchemaModel.content_hash` -/
def contentHash (python : Python) (value : Value) : String := python.sha256 value.canonicalJson

mutual

/-- Sets have no element twice, dictionaries no key, and classes no field. -/
def WellFormed : Value → Prop
  | .null | .bool _ | .int _ | .float _ | .str _ => True
  | .list items => WellFormedItems items
  | .dict entries => (entries.map Prod.fst).Nodup ∧ WellFormedEntries entries
  | .set items => items.Nodup
  | .model fields => (fields.map Prod.fst).Nodup ∧ WellFormedEntries fields

def WellFormedItems : List Value → Prop
  | [] => True
  | item :: rest => item.WellFormed ∧ WellFormedItems rest

def WellFormedEntries : List (String × Value) → Prop
  | [] => True
  | (_, value) :: rest => value.WellFormed ∧ WellFormedEntries rest

end

mutual

def sets : Value → List (List String)
  | .null | .bool _ | .int _ | .float _ | .str _ => []
  | .list items => setsOfItems items
  | .dict entries => setsOfEntries entries
  | .set items => [items]
  | .model fields => setsOfEntries fields

def setsOfItems : List Value → List (List String)
  | [] => []
  | item :: rest => item.sets ++ setsOfItems rest

def setsOfEntries : List (String × Value) → List (List String)
  | [] => []
  | (_, value) :: rest => value.sets ++ setsOfEntries rest

end

mutual

def mapSets (f : List String → List String) : Value → Value
  | .null => .null
  | .bool value => .bool value
  | .int value => .int value
  | .float value => .float value
  | .str value => .str value
  | .list items => .list (mapSetsOfItems f items)
  | .dict entries => .dict (mapSetsOfEntries f entries)
  | .set items => .set (f items)
  | .model fields => .model (mapSetsOfEntries f fields)

def mapSetsOfItems (f : List String → List String) : List Value → List Value
  | [] => []
  | item :: rest => item.mapSets f :: mapSetsOfItems f rest

def mapSetsOfEntries (f : List String → List String) : List (String × Value) → List (String × Value)
  | [] => []
  | (key, value) :: rest => (key, value.mapSets f) :: mapSetsOfEntries f rest

end

mutual

/-- The value with all its sets and dictionaries in the order of their elements and keys. -/
def sorted : Value → Value
  | .null => .null
  | .bool value => .bool value
  | .int value => .int value
  | .float value => .float value
  | .str value => .str value
  | .list items => .list (sortedItems items)
  | .dict entries => .dict (sortByKey (sortedEntries entries))
  | .set items => .set (items.insertionSort (· ≤ ·))
  | .model fields => .model (sortedEntries fields)

def sortedItems : List Value → List Value
  | [] => []
  | item :: rest => item.sorted :: sortedItems rest

def sortedEntries : List (String × Value) → List (String × Value)
  | [] => []
  | (key, value) :: rest => (key, value.sorted) :: sortedEntries rest

end

/-- Equal, in whatever order sets and dictionaries were filled. -/
def Equal (left right : Value) : Prop := left.sorted = right.sorted

theorem equal_refl (value : Value) : Equal value value := rfl

section Parts

variable {items : List Value} {entries : List (String × Value)} {excludeNone : Bool}
  {f : List String → List String}

@[elab_as_elim]
theorem induct {motive : Value → Prop} (null : motive .null) (bool : ∀ value, motive (.bool value))
    (int : ∀ value, motive (.int value)) (float : ∀ value, motive (.float value))
    (str : ∀ value, motive (.str value))
    (list : ∀ items, (∀ item ∈ items, motive item) → motive (.list items))
    (dict : ∀ entries, (∀ entry ∈ entries, motive entry.2) → motive (.dict entries))
    (set : ∀ items, motive (.set items))
    (model : ∀ fields, (∀ entry ∈ fields, motive entry.2) → motive (.model fields)) (value : Value) :
    motive value := by
  refine @Value.rec motive (fun items => ∀ item ∈ items, motive item)
    (fun entries => ∀ entry ∈ entries, motive entry.2) (fun entry => motive entry.2)
    null bool int float str list dict set model ?_ ?_ ?_ ?_ ?_ value
  · exact fun _ hmem => absurd hmem List.not_mem_nil
  · intro item rest hitem hrest
    exact List.forall_mem_cons.mpr ⟨hitem, hrest⟩
  · exact fun _ hmem => absurd hmem List.not_mem_nil
  · intro entry rest hentry hrest
    exact List.forall_mem_cons.mpr ⟨hentry, hrest⟩
  · exact fun _ _ hvalue => hvalue

theorem dumpItems_eq : dumpItems excludeNone items = items.map (modelDump excludeNone) := by
  induction items with
  | nil => rfl
  | cons item items ih => exact congrArg (List.cons _) ih

theorem dumpEntries_eq : dumpEntries excludeNone entries =
    entries.map fun entry => (entry.1, entry.2.modelDump excludeNone) := by
  induction entries with
  | nil => rfl
  | cons entry entries ih => exact congrArg (List.cons _) ih

theorem dumpFields_eq : dumpFields excludeNone entries =
    (entries.filter fun entry => !(excludeNone && entry.2.isNone)).map
      fun entry => (entry.1, entry.2.modelDump excludeNone) := by
  induction entries with
  | nil => rfl
  | cons entry entries ih =>
    rw [dumpFields, ih]
    split
    · rename_i hexcluded
      rw [List.filter_cons_of_neg (by simp [hexcluded])]
    · rename_i hkept
      rw [List.filter_cons_of_pos (by rw [Bool.eq_false_iff.mpr hkept]; rfl), List.map_cons]

theorem wellFormedItems_iff : WellFormedItems items ↔ ∀ item ∈ items, item.WellFormed := by
  induction items with
  | nil => exact iff_of_true trivial (List.forall_mem_nil _)
  | cons item items ih =>
    rw [List.forall_mem_cons]
    exact and_congr_right fun _ => ih

theorem wellFormedEntries_iff : WellFormedEntries entries ↔ ∀ entry ∈ entries, entry.2.WellFormed := by
  induction entries with
  | nil => exact iff_of_true trivial (List.forall_mem_nil _)
  | cons entry entries ih =>
    rw [List.forall_mem_cons]
    exact and_congr_right fun _ => ih

theorem setsOfItems_eq : setsOfItems items = items.flatMap sets := by
  induction items with
  | nil => rfl
  | cons item items ih => exact congrArg (item.sets ++ ·) ih

theorem setsOfEntries_eq : setsOfEntries entries = entries.flatMap fun entry => entry.2.sets := by
  induction entries with
  | nil => rfl
  | cons entry entries ih => exact congrArg (entry.2.sets ++ ·) ih

theorem mapSetsOfItems_eq : mapSetsOfItems f items = items.map (mapSets f) := by
  induction items with
  | nil => rfl
  | cons item items ih => exact congrArg (List.cons _) ih

theorem mapSetsOfEntries_eq : mapSetsOfEntries f entries =
    entries.map fun entry => (entry.1, entry.2.mapSets f) := by
  induction entries with
  | nil => rfl
  | cons entry entries ih => exact congrArg (List.cons _) ih

theorem sortedItems_eq : sortedItems items = items.map sorted := by
  induction items with
  | nil => rfl
  | cons item items ih => exact congrArg (List.cons _) ih

theorem sortedEntries_eq : sortedEntries entries = entries.map fun entry => (entry.1, entry.2.sorted) := by
  induction entries with
  | nil => rfl
  | cons entry entries ih => exact congrArg (List.cons _) ih

theorem modelDump_list : (Value.list items).modelDump excludeNone =
    .list (items.map (modelDump excludeNone)) := congrArg Json.list dumpItems_eq

theorem modelDump_dict : (Value.dict entries).modelDump excludeNone =
    .dict (entries.map fun entry => (entry.1, entry.2.modelDump excludeNone)) := congrArg Json.dict dumpEntries_eq

theorem wellFormed_list : (Value.list items).WellFormed ↔ ∀ item ∈ items, item.WellFormed := wellFormedItems_iff

theorem wellFormed_dict : (Value.dict entries).WellFormed ↔
    (entries.map Prod.fst).Nodup ∧ ∀ entry ∈ entries, entry.2.WellFormed :=
  and_congr_right fun _ => wellFormedEntries_iff

theorem wellFormed_model : (Value.model entries).WellFormed ↔
    (entries.map Prod.fst).Nodup ∧ ∀ entry ∈ entries, entry.2.WellFormed :=
  and_congr_right fun _ => wellFormedEntries_iff

theorem sets_list : (Value.list items).sets = items.flatMap sets := setsOfItems_eq

theorem sets_dict : (Value.dict entries).sets = entries.flatMap fun entry => entry.2.sets := setsOfEntries_eq

theorem sets_model : (Value.model entries).sets = entries.flatMap fun entry => entry.2.sets := setsOfEntries_eq

theorem mapSets_list : (Value.list items).mapSets f = .list (items.map (mapSets f)) :=
  congrArg Value.list mapSetsOfItems_eq

theorem mapSets_dict : (Value.dict entries).mapSets f =
    .dict (entries.map fun entry => (entry.1, entry.2.mapSets f)) := congrArg Value.dict mapSetsOfEntries_eq

theorem mapSets_model : (Value.model entries).mapSets f =
    .model (entries.map fun entry => (entry.1, entry.2.mapSets f)) := congrArg Value.model mapSetsOfEntries_eq

theorem sorted_list : (Value.list items).sorted = .list (items.map sorted) := congrArg Value.list sortedItems_eq

theorem sorted_dict : (Value.dict entries).sorted =
    .dict (sortByKey (entries.map fun entry => (entry.1, entry.2.sorted))) :=
  congrArg (fun sorted => Value.dict (sortByKey sorted)) sortedEntries_eq

theorem sorted_model : (Value.model entries).sorted =
    .model (entries.map fun entry => (entry.1, entry.2.sorted)) := congrArg Value.model sortedEntries_eq

end Parts

end Value

/-- An instance of a class. -/
structure SchemaModel where
  value : Value
  wellFormed : value.WellFormed

end KubeOps.Models
