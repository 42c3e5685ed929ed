import KubeOps.Models.JsonTree
import KubeOps.Models.Lifecycle
import KubeOps.Models.SchemaModel

/-! Snapshots of an environment with the documents of their entities, and the diff of two
of them. -/
namespace KubeOps.Discovery

open KubeOps.Foundation KubeOps.Models

section Flatten

/-- `f"{prefix}.{key}" if prefix else str(key)` -/
def joined (path key : String) : String := if path = "" then key else path ++ "." ++ key

mutual

/-- The paths and values in the order in which `_flatten` stores them. -/
def flattenPairs (path : String) : Json → List (String × Json)
  | .dict entries => flattenEntries path entries
  | value => [(path, value)]

def flattenEntries (path : String) : List (String × Json) → List (String × Json)
  | [] => []
  | (key, child) :: rest => flattenPairs (joined path key) child ++ flattenEntries path rest

end

/-- `_flatten`; the value stored last under a path is the one that stays. -/
def flatten (value : Json) : Dict String Json := Dict.ofList (flattenPairs "" value)

end Flatten

section Documents

mutual

def valueOfJson : Json → Value
  | .null => .null
  | .bool value => .bool value
  | .int value => .int value
  | .float value => .float value
  | .str value => .str value
  | .list items => .list (valuesOfItems items)
  | .dict entries => .dict (valuesOfEntries entries)

def valuesOfItems : List Json → List Value
  | [] => []
  | item :: rest => valueOfJson item :: valuesOfItems rest

def valuesOfEntries : List (String × Json) → List (String × Value)
  | [] => []
  | (key, value) :: rest => (key, valueOfJson value) :: valuesOfEntries rest

end

def valueOfText : Option String → Value
  | some text => .str text
  | none => .null

/-- An entity with all its fields. The sets are lists in the order in which they are iterated
over, and the states are JSON documents. -/
structure EntityDocument extends OperationalEntity where
  schemaVersion : String := "kubeops.io/v1"
  capabilities : List String := []
  lineage_nodup : entityTypeLineage.Nodup
  capabilities_nodup : capabilities.Nodup
  desiredState_wellFormed : (Json.dict desiredState.entries).WellFormed
  observedState_wellFormed : (Json.dict observedState.entries).WellFormed
  extensions_wellFormed : (Json.dict extensions.entries).WellFormed

namespace EntityDocument

variable (entity : EntityDocument)

/-- The fields of the class `OperationalEntity`. -/
def fields : List (String × Value) := [
  ("entity_id", .str entity.entityId),
  ("entity_type", .str entity.entityType),
  ("entity_type_lineage", .set entity.entityTypeLineage),
  ("name", .str entity.name),
  ("plane", .str entity.plane.text),
  ("namespace", valueOfText entity.namespaceName),
  ("provider", valueOfText entity.provider),
  ("labels", .dict (entity.labels.entries.map fun label => (label.1, .str label.2))),
  ("desired_state", valueOfJson (.dict entity.desiredState.entries)),
  ("observed_state", valueOfJson (.dict entity.observedState.entries)),
  ("capabilities", .set entity.capabilities),
  ("extensions", valueOfJson (.dict entity.extensions.entries))]

def value : Value := .model (("schema_version", .str entity.schemaVersion) :: entity.fields)

def contentHash (python : Python) : String := entity.value.contentHash python

/-- `model_dump(mode="json", exclude={"schema_version"})` -/
def dump : Json := (Value.model entity.fields).modelDump false

end EntityDocument

/-- `canonicalJson` is the text of the whole document. -/
structure RelationshipDocument where
  relationshipId : String
  canonicalJson : String

def RelationshipDocument.contentHash (python : Python) (relationship : RelationshipDocument) : String :=
  python.sha256 relationship.canonicalJson

/-- The parts of an `EnvironmentSnapshot` that a diff compares. -/
structure SnapshotDocument where
  snapshotId : String
  environmentId : String
  entities : List EntityDocument := []
  relationships : List RelationshipDocument := []

end Documents

section Diff

structure FieldChange where
  path : String
  before : Json := .null
  after : Json := .null

inductive ChangeType where
  | added | removed | changed
deriving DecidableEq, Repr

structure EntityChange where
  entityId : String
  changeType : ChangeType
  beforeHash : Option String := none
  afterHash : Option String := none
  fieldChanges : List FieldChange := []

structure RelationshipChange where
  relationshipId : String
  changeType : ChangeType
  beforeHash : Option String := none
  afterHash : Option String := none

structure SnapshotDiff where
  diffId : String
  environmentId : String
  beforeSnapshotId : String
  afterSnapshotId : String
  createdAtIso : String
  entityChanges : List EntityChange
  relationshipChanges : List RelationshipChange
  summary : List (String × Nat)

/-- `flat.get(path)` -/
def valueOrNone (flat : Dict String Json) (path : String) : Json := (flat.get? path).getD .null

/-- The paths of two flattened documents under which they compare as different. -/
def fieldChanges (beforeFlat afterFlat : Dict String Json) : List FieldChange :=
  ((sortedSet (beforeFlat.keys ++ afterFlat.keys)).filter fun path =>
    !Json.pyEq (valueOrNone beforeFlat path) (valueOrNone afterFlat path)).map fun path =>
      { path, before := valueOrNone beforeFlat path, after := valueOrNone afterFlat path }

variable (python : Python)

/-- `_entity_change`, which is never asked about an entity in neither snapshot. -/
def entityChange : Option EntityDocument → Option EntityDocument → Option EntityChange
  | none, none => none
  | none, some after => some {
      entityId := after.entityId, changeType := .added, afterHash := some (after.contentHash python) }
  | some before, none => some {
      entityId := before.entityId, changeType := .removed, beforeHash := some (before.contentHash python) }
  | some before, some after => some {
      entityId := after.entityId, changeType := .changed
      beforeHash := some (before.contentHash python), afterHash := some (after.contentHash python)
      fieldChanges := fieldChanges (flatten before.dump) (flatten after.dump) }

/-- `_relationship_change` -/
def relationshipChange : Option RelationshipDocument → Option RelationshipDocument → Option RelationshipChange
  | none, none => none
  | none, some after => some {
      relationshipId := after.relationshipId, changeType := .added
      afterHash := some (after.contentHash python) }
  | some before, none => some {
      relationshipId := before.relationshipId, changeType := .removed
      beforeHash := some (before.contentHash python) }
  | some before, some after => some {
      relationshipId := after.relationshipId, changeType := .changed
      beforeHash := some (before.contentHash python), afterHash := some (after.contentHash python) }

/-- The change of one item, which is none when both of its versions have the same hash. -/
def changeOf {α β : Type} (hashOf : α → String) (change : Option α → Option α → Option β) :
    Option α → Option α → Option β
  | some old, some new => if hashOf old = hashOf new then none else change (some old) (some new)
  | old, new => change old new

/-- The items of two lists by their ids, in the order of the ids, with those that are in both
lists and have the same hash left out. -/
def changesBetween {α β : Type} (idOf hashOf : α → String) (change : Option α → Option α → Option β)
    (before after : List α) : List β :=
  let olds := Dict.ofList (before.map fun item => (idOf item, item))
  let news := Dict.ofList (after.map fun item => (idOf item, item))
  (sortedSet (olds.keys ++ news.keys)).filterMap fun id => changeOf hashOf change (olds.get? id) (news.get? id)

def entityChanges (before after : SnapshotDocument) : List EntityChange :=
  changesBetween (fun entity => entity.entityId) (fun entity => entity.contentHash python)
    (entityChange python) before.entities after.entities

def relationshipChanges (before after : SnapshotDocument) : List RelationshipChange :=
  changesBetween (fun relationship => relationship.relationshipId)
    (fun relationship => relationship.contentHash python) (relationshipChange python)
    before.relationships after.relationships

/-- The identifier and the time are those of the call. -/
def diffSnapshots (uuid createdAtIso : String) (before after : SnapshotDocument) :
    Except PyError SnapshotDiff :=
  if before.environmentId ≠ after.environmentId then
    .error (.valueError "snapshots belong to different environments")
  else
    let entities := entityChanges python before after
    let relationships := relationshipChanges python before after
    .ok {
      diffId := s!"snapshot-diff:{uuid}", environmentId := before.environmentId
      beforeSnapshotId := before.snapshotId, afterSnapshotId := after.snapshotId, createdAtIso
      entityChanges := entities, relationshipChanges := relationships
      summary := [
        ("entities_added", entities.countP fun item => item.changeType = .added),
        ("entities_removed", entities.countP fun item => item.changeType = .removed),
        ("entities_changed", entities.countP fun item => item.changeType = .changed),
        ("relationships_added", relationships.countP fun item => item.changeType = .added),
        ("relationships_removed", relationships.countP fun item => item.changeType = .removed),
        ("relationships_changed", relationships.countP fun item => item.changeType = .changed)] }

end Diff

end KubeOps.Discovery
