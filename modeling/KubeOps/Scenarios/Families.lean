import KubeOps.Foundation.Program
import KubeOps.Foundation.Sorting
import KubeOps.Models.Python

/-! Families of scenarios are merged with their parents: dictionaries key by key, named lists item by
item. What is merged are whole dumps. -/
namespace KubeOps.Scenarios

open KubeOps.Foundation KubeOps.Models

section DeepMerge

def lookup (key : String) (entries : List (String × Json)) : Option Json :=
  (entries.find? fun entry => entry.1 = key).map Prod.snd

/-- `result[key] = value` -/
def setEntry (key : String) (value : Json) (entries : List (String × Json)) : List (String × Json) :=
  if entries.any fun entry => entry.1 = key then
    entries.map fun entry => if entry.1 = key then (key, value) else entry
  else entries ++ [(key, value)]

mutual

/-- What the value under a key becomes: dictionaries are merged, all else is replaced. -/
def mergeInto : Json → Option Json → Json
  | .dict new, some (.dict old) => .dict (mergeEntries new old)
  | .dict new, _ => .dict new
  | .null, _ => .null
  | .bool value, _ => .bool value
  | .int value, _ => .int value
  | .float value, _ => .float value
  | .str value, _ => .str value
  | .list items, _ => .list items

def mergeEntries : List (String × Json) → List (String × Json) → List (String × Json)
  | [], result => result
  | (key, value) :: rest, result => mergeEntries rest
      (setEntry key (mergeInto value (lookup key result)) result)

end

/-- `deep_merge` -/
def deepMerge (base overlay : JsonObject) : JsonObject :=
  overlay.entries.foldl (fun result entry => result.set entry.1 (mergeInto entry.2 (result.get? entry.1))) base

def isDict : Json → Bool
  | .dict _ => true
  | _ => false

theorem mergeInto_of_not_dict {value : Json} (old : Option Json) (h : isDict value = false) :
    mergeInto value old = value := by
  cases value with
  | dict entries => cases h
  | null => rfl
  | bool value => rfl
  | int value => rfl
  | float value => rfl
  | str value => rfl
  | list items => rfl

theorem isDict_mergeInto (old : Option Json) (value : Json) : isDict (mergeInto value old) = isDict value := by
  cases hvalue : isDict value with
  | false => rw [mergeInto_of_not_dict old hvalue, hvalue]
  | true =>
    cases value with
    | dict entries =>
      rcases old with _ | old
      · rfl
      · cases old with
        | dict entries => rfl
        | null => rfl
        | bool value => rfl
        | int value => rfl
        | float value => rfl
        | str value => rfl
        | list items => rfl
    | null => cases hvalue
    | bool value => cases hvalue
    | int value => cases hvalue
    | float value => cases hvalue
    | str value => cases hvalue
    | list items => cases hvalue

theorem mergeInto_eq_iff {old : Option Json} {value result : Json} (h : isDict result = false) :
    mergeInto value old = result ↔ value = result := by
  constructor
  · intro heq
    have hvalue : isDict value = false := by rw [← isDict_mergeInto old value, heq, h]
    rw [← mergeInto_of_not_dict old hvalue, heq]
  · rintro rfl
    exact mergeInto_of_not_dict old h

private theorem get?_foldl_merge (entries : List (String × Json)) (hnodup : (entries.map Prod.fst).Nodup)
    (base : JsonObject) (key : String) :
    (entries.foldl (fun result entry => result.set entry.1 (mergeInto entry.2 (result.get? entry.1)))
      base).get? key =
      (((entries.find? fun entry => entry.1 = key).map fun entry => mergeInto entry.2 (base.get? key)).or
        (base.get? key)) := by
  induction entries generalizing base with
  | nil => rfl
  | cons entry rest ih =>
    rw [List.map_cons, List.nodup_cons] at hnodup
    rw [List.foldl_cons, ih hnodup.2, List.find?_cons]
    by_cases hkey : entry.1 = key
    · have hrest : (rest.find? fun other => other.1 = key) = none := by
        apply List.find?_eq_none.mpr
        intro other hother hsame
        exact hnodup.1 (List.mem_map.mpr ⟨other, hother, (of_decide_eq_true hsame).trans hkey.symm⟩)
      rw [hrest, hkey, Dict.get?_set]
      simp
    · rw [Dict.get?_set_ne base _ fun h => hkey h.symm]
      simp [hkey]

theorem get?_deepMerge (base overlay : JsonObject) (key : String) : (deepMerge base overlay).get? key =
    ((overlay.get? key).map fun value => mergeInto value (base.get? key)).or (base.get? key) := by
  have hoverlay : overlay.get? key = (overlay.entries.find? fun entry => entry.1 = key).map Prod.snd := rfl
  rw [deepMerge, get?_foldl_merge _ overlay.nodup, hoverlay, Option.map_map]
  rfl

end DeepMerge

section Named

/-- `item[key]`, which is a text. -/
def identity? (key : String) (item : JsonObject) : Option String :=
  match item.get? key with
  | some (.str name) => some name
  | _ => none

def withIdentity (key : String) (item : JsonObject) : Except PyError (String × JsonObject) :=
  match identity? key item with
  | some name => .ok (name, item)
  | none => .error (.keyError key)

/-- `merged[identity] = deep_merge(merged.get(identity, {}), item)` -/
def mergeItem (merged : Dict String JsonObject) (item : String × JsonObject) : Dict String JsonObject :=
  merged.set item.1 (deepMerge ((merged.get? item.1).getD ∅) item.2)

/-- `_merge_named` -/
def mergeNamed (key : String) (parent child : List JsonObject) : Except PyError (List JsonObject) := do
  let own ← parent.mapM (withIdentity key)
  let added ← child.mapM (withIdentity key)
  return (sortByKey (added.foldl mergeItem (Dict.ofList own)).entries).map Prod.snd

def named (key : String) (items : List JsonObject) : Dict String JsonObject :=
  Dict.ofList (items.filterMap fun item => (identity? key item).map fun name => (name, item))

variable {key name : String} {items parent child : List JsonObject}

theorem withIdentity_eq_ok {item : JsonObject} {entry : String × JsonObject}
    (h : withIdentity key item = .ok entry) :
    entry.2 = item ∧ identity? key item = some entry.1 := by
  unfold withIdentity at h
  split at h
  · rename_i found hfound
    obtain rfl := Except.ok.inj h
    exact ⟨rfl, hfound⟩
  · cases h

theorem named_of_mapM {entries : List (String × JsonObject)} (h : items.mapM (withIdentity key) = .ok entries) :
    named key items = Dict.ofList entries := by
  obtain ⟨hall, rfl⟩ := mapM_eq_ok_iff.mp h
  rw [named]
  congr 1
  apply List.filterMap_congr
  intro item hitem
  obtain ⟨entry, hentry⟩ := hall item hitem
  obtain ⟨rfl, hname⟩ := withIdentity_eq_ok hentry
  rw [hentry, hname]
  rfl

def mergedInto (name : String) (old : Option JsonObject) (added : List (String × JsonObject)) :
    Option JsonObject :=
  (added.filter fun entry => entry.1 = name).foldl
    (fun found entry => some (deepMerge (found.getD ∅) entry.2)) old

theorem get?_foldl_mergeItem (added : List (String × JsonObject)) (merged : Dict String JsonObject) :
    (added.foldl mergeItem merged).get? name = mergedInto name (merged.get? name) added := by
  induction added generalizing merged with
  | nil => rfl
  | cons entry rest ih =>
    rw [List.foldl_cons, ih, mergedInto, mergedInto, mergeItem, List.filter_cons]
    by_cases hname : entry.1 = name
    · rw [if_pos (decide_eq_true hname), List.foldl_cons, ← hname, Dict.get?_set]
      simp
    · rw [if_neg (by simpa using hname), Dict.get?_set_ne _ _ fun h => hname h.symm]

def Identified (key : String) (merged : Dict String JsonObject) : Prop :=
  ∀ entry ∈ merged.entries, identity? key entry.2 = some entry.1

theorem identity?_deepMerge {old item : JsonObject} (h : identity? key item = some name) :
    identity? key (deepMerge old item) = some name := by
  unfold identity? at h
  split at h
  · rename_i text hfound
    obtain rfl := Option.some.inj h
    unfold identity?
    rw [get?_deepMerge, hfound]
    rfl
  · cases h

theorem identified_foldl {added : List (String × JsonObject)} {merged : Dict String JsonObject}
    (hmerged : Identified key merged) (hadded : ∀ entry ∈ added, identity? key entry.2 = some entry.1) :
    Identified key (added.foldl mergeItem merged) := by
  induction added generalizing merged with
  | nil => exact hmerged
  | cons entry rest ih =>
    apply ih
    · intro other hother
      rcases Dict.mem_entries_set.mp hother with rfl | ⟨-, hold⟩
      · exact identity?_deepMerge (hadded entry List.mem_cons_self)
      · exact hmerged other hold
    · exact fun other hother => hadded other (List.mem_cons_of_mem _ hother)

theorem identity?_of_mapM {entries : List (String × JsonObject)}
    (h : items.mapM (withIdentity key) = .ok entries) :
    ∀ entry ∈ entries, identity? key entry.2 = some entry.1 := by
  intro entry hentry
  obtain ⟨item, -, hitem⟩ := mem_of_mapM h hentry
  obtain ⟨rfl, hname⟩ := withIdentity_eq_ok hitem
  exact hname

theorem named_values {merged : Dict String JsonObject} (h : Identified key merged) :
    named key ((sortByKey merged.entries).map Prod.snd) = Dict.ofList (sortByKey merged.entries) := by
  rw [named, List.filterMap_map]
  congr 1
  have hsome : ∀ entry ∈ sortByKey merged.entries,
      (fun item => (identity? key item).map fun name => (name, item)) (Prod.snd entry) = some entry := by
    intro entry hentry
    show ((identity? key entry.2).map fun name => (name, entry.2)) = some entry
    rw [h entry ((perm_sortByKey _).mem_iff.mp hentry)]
    rfl
  exact (List.filterMap_congr hsome).trans List.filterMap_some

theorem get?_named_mergeNamed (h : mergeNamed key parent child = .ok items) : ∃ added,
    child.mapM (withIdentity key) = .ok added ∧
      (named key items).get? name = mergedInto name ((named key parent).get? name) added := by
  obtain ⟨own, hown, h⟩ := except_bind_eq_ok h
  obtain ⟨added, hadded, h⟩ := except_bind_eq_ok h
  obtain rfl := Except.ok.inj h
  refine ⟨added, hadded, ?_⟩
  have hidentified : Identified key (added.foldl mergeItem (Dict.ofList own)) :=
    identified_foldl (fun entry hentry => identity?_of_mapM hown entry (Dict.mem_of_mem_ofList hentry))
      (identity?_of_mapM hadded)
  have hnodup : ((sortByKey (added.foldl mergeItem (Dict.ofList own)).entries).map Prod.fst).Nodup :=
    ((perm_sortByKey _).map _).nodup_iff.mpr (Dict.keys_nodup _)
  rw [named_values hidentified, named_of_mapM hown, ← get?_foldl_mergeItem]
  apply Option.ext
  intro item
  rw [Dict.get?_ofList_eq_some hnodup, (perm_sortByKey _).mem_iff, Dict.get?_eq_some]

end Named

section Models

/-- A parameter as its document has it; `none` is a field that is left out. -/
structure ParameterDocument where
  name : String
  title : String
  parameterType : String
  description : Option String := none
  required : Option Bool := none
  default : Option Json := none
  options : Option (List Json) := none

structure SignatureDocument where
  invariantFamilies : List String
  disturbanceMechanisms : List String
  temporalForms : List String
  topologyPatterns : Option (List String) := none
  observationProfiles : Option (List String) := none
  recoveryStrategyClasses : Option (List String) := none
  coverageLabels : Option (List String) := none

/-- The items of a blueprint are not validated in a family, and stay as they are. -/
structure ScenarioBlueprint where
  entities : List JsonObject
  relationships : List JsonObject := []
  invariants : List JsonObject := []
  transitionRules : List JsonObject := []
  observationProfiles : List JsonObject := []

structure FamilyDocument where
  familyId : String
  version : String
  title : String
  description : String
  parentFamilyId : Option String := none
  abstract : Option Bool := none
  parameters : List ParameterDocument := []
  constraints : List Json := []
  signature : SignatureDocument
  blueprint : ScenarioBlueprint
  disturbances : List JsonObject
  defaultDisturbanceId : String
  defaultObservationProfileId : Option String := none
  tags : List String := []

/-- A dumped `ScenarioFamily`. -/
structure FamilyPayload where
  familyId : String
  version : String
  title : String
  description : String
  parentFamilyId : Option String
  abstract : Bool
  parameters : List JsonObject
  constraints : List Json
  signature : JsonObject
  blueprint : ScenarioBlueprint
  disturbances : List JsonObject
  defaultDisturbanceId : String
  defaultObservationProfileId : String
  tags : List String

end Models

section Code

/-- The fields of the parameter, with the defaults of `ParameterSpec`. -/
def ParameterDocument.fields (document : ParameterDocument) : List (String × Json) := [
  ("name", .str document.name),
  ("title", .str document.title),
  ("parameter_type", .str document.parameterType),
  ("description", .str (document.description.getD "")),
  ("required", .bool (document.required.getD true)),
  ("default", document.default.getD .null),
  ("options", .list (document.options.getD []))]

def ParameterDocument.dump (document : ParameterDocument) : JsonObject := Dict.ofList document.fields

/-- The fields of the signature, with the defaults of `FamilySignature`. -/
def SignatureDocument.fields (document : SignatureDocument) : List (String × Json) := [
  ("invariant_families", Json.strings document.invariantFamilies),
  ("disturbance_mechanisms", Json.strings document.disturbanceMechanisms),
  ("temporal_forms", Json.strings document.temporalForms),
  ("topology_patterns", Json.strings (document.topologyPatterns.getD [])),
  ("observation_profiles", Json.strings (document.observationProfiles.getD [])),
  ("recovery_strategy_classes", Json.strings (document.recoveryStrategyClasses.getD [])),
  ("coverage_labels", Json.strings (document.coverageLabels.getD []))]

def SignatureDocument.dump (document : SignatureDocument) : JsonObject := Dict.ofList document.fields

/-- `ScenarioFamily.model_validate(payload).model_dump(mode="python")` -/
def FamilyDocument.dump (document : FamilyDocument) : FamilyPayload where
  familyId := document.familyId
  version := document.version
  title := document.title
  description := document.description
  parentFamilyId := document.parentFamilyId
  abstract := document.abstract.getD false
  parameters := document.parameters.map ParameterDocument.dump
  constraints := document.constraints
  signature := document.signature.dump
  blueprint := document.blueprint
  disturbances := document.disturbances
  defaultDisturbanceId := document.defaultDisturbanceId
  defaultObservationProfileId := document.defaultObservationProfileId.getD "full"
  tags := document.tags

/-- `_merge_blueprints` -/
def mergeBlueprints (parent child : ScenarioBlueprint) : Except PyError ScenarioBlueprint := do
  let entities ← mergeNamed "entity_id" parent.entities child.entities
  let relationships ← mergeNamed "relationship_id" parent.relationships child.relationships
  let invariants ← mergeNamed "invariant_id" parent.invariants child.invariants
  let transitionRules ← mergeNamed "rule_id" parent.transitionRules child.transitionRules
  let observationProfiles ← mergeNamed "profile_id" parent.observationProfiles child.observationProfiles
  return { entities, relationships, invariants, transitionRules, observationProfiles }

/-- `_merge_family_payload` -/
def mergeFamilyPayload (parent child : FamilyPayload) : Except PyError FamilyPayload := do
  let parameters ← mergeNamed "name" parent.parameters child.parameters
  let blueprint ← mergeBlueprints parent.blueprint child.blueprint
  let disturbances ← mergeNamed "disturbance_id" parent.disturbances child.disturbances
  return { child with
    parentFamilyId := child.parentFamilyId.or parent.parentFamilyId
    parameters
    constraints := parent.constraints ++ child.constraints
    signature := deepMerge parent.signature child.signature
    blueprint
    disturbances
    tags := sortedSet (parent.tags ++ child.tags) }

/-- `_merge_lineage`, of the documents of a root and of the families below it. -/
def effectiveFamily (root : FamilyDocument) (rest : List FamilyDocument) : Except PyError FamilyPayload :=
  rest.foldlM (fun payload document => mergeFamilyPayload payload document.dump) root.dump

end Code

end KubeOps.Scenarios
