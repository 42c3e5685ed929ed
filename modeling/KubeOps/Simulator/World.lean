import KubeOps.Invariants.Engine

/-! The simulated world: the states of its entities, and the mutations of them. -/
namespace KubeOps.Simulator

open KubeOps.Foundation KubeOps.Models KubeOps.Discovery KubeOps.Invariants

section Models

inductive MutationType where
  | setState | deleteEntity | createEntity
deriving DecidableEq, Repr

structure StateMutation where
  mutationType : MutationType := .setState
  entityId : String
  path : Option String := none
  value : Json := .null
  entityPayload : Option JsonObject := none

structure ScheduledMutation where
  mutationId : String
  atSeconds : Nat
  description : String
  mutation : StateMutation

structure TransitionRule where
  ruleId : String
  title : String
  conditions : List Predicate := []
  effects : List StateMutation := []
  delaySeconds : Nat := 0
  fireOnce : Bool := false

end Models

section Payloads

def stringOf : Json → Option String
  | .str text => some text
  | _ => none

/-- A field of a text, which may be `None`. -/
def optionalTextOf : Json → Option (Option String)
  | .null => some none
  | .str text => some (some text)
  | _ => none

def textSetOf : Json → Option (List String)
  | .list items => (items.mapM stringOf).map List.dedup
  | _ => none

def textDictOf : Json → Option (List (String × String))
  | .dict entries => entries.mapM fun entry => (stringOf entry.2).map fun text => (entry.1, text)
  | _ => none

def dictOf : Json → Option (List (String × Json))
  | .dict entries => some entries
  | _ => none

def planeTexts : List String := ["external", "host", "runtime", "control_plane", "node", "platform", "workload",
  "application", "operational_tooling"]

def entityFields : List String :=
  ["schema_version", "entity_id", "entity_type", "entity_type_lineage", "name", "plane",
  "namespace", "provider", "labels", "desired_state", "observed_state", "capabilities", "extensions"]

def fieldOr {α : Type} (read : Json → Option α) (standard : α) (value : Option Json) : Option α :=
  match value with
  | some value => read value
  | none => some standard

/-- A field that is a text of at least one sign. -/
def requiredText (value : Option Json) : Option String := (value.bind stringOf).filter fun text => text ≠ ""

/-- The fields of an entity other than its id, as `model_dump(mode="python")` gives them. -/
def otherFields (payload : JsonObject) : Option (List (String × Value)) := do
  guard (payload.keys.all fun key => key ∈ entityFields)
  let _ ← fieldOr stringOf "kubeops.io/v1" (payload.get? "schema_version")
  let entityType ← requiredText (payload.get? "entity_type")
  let lineage ← fieldOr textSetOf [] (payload.get? "entity_type_lineage")
  let name ← requiredText (payload.get? "name")
  let plane ← (payload.get? "plane").bind stringOf
  guard (plane ∈ planeTexts)
  let namespaceName ← fieldOr optionalTextOf none (payload.get? "namespace")
  let provider ← fieldOr optionalTextOf none (payload.get? "provider")
  let labels ← fieldOr textDictOf [] (payload.get? "labels")
  let desired ← fieldOr dictOf [] (payload.get? "desired_state")
  let observed ← fieldOr dictOf [] (payload.get? "observed_state")
  let capabilities ← fieldOr textSetOf [] (payload.get? "capabilities")
  let extensions ← fieldOr dictOf [] (payload.get? "extensions")
  return [("entity_type", .str entityType), ("entity_type_lineage", .set lineage), ("name", .str name),
    ("plane", .str plane), ("namespace", valueOfText namespaceName), ("provider", valueOfText provider),
    ("labels", .dict (labels.map fun label => (label.1, .str label.2))),
      ("desired_state", valueOfJson (.dict desired)),
    ("observed_state", valueOfJson (.dict observed)), ("capabilities", .set capabilities),
    ("extensions", valueOfJson (.dict extensions))]

/-- `OperationalEntity.model_validate(payload)`: the id and the dumped state. -/
def validateEntity (payload : JsonObject) : Option (String × Value) := do
  let entityId ← requiredText (payload.get? "entity_id")
  let fields ← otherFields payload
  return (entityId, .dict (("entity_id", .str entityId) :: fields))

end Payloads

section Mutations

inductive MutationFailure where
  | setStateWithoutPath
  | createWithoutPayload
  | unknownEntity (entityId : String)
  | entityExists (entityId : String)
  | invalidPayload (payload : JsonObject)

structure FailureTexts where
  /-- `str(KeyError(message))` -/
  keyError : String → String
  /-- pydantic's text for a payload that is no entity. -/
  validationError : JsonObject → String

def MutationFailure.exceptionType : MutationFailure → String
  | .unknownEntity _ => "KeyError"
  | .invalidPayload _ => "ValidationError"
  | .setStateWithoutPath | .createWithoutPayload | .entityExists _ => "ValueError"

/-- `str(exc)` -/
def MutationFailure.title (texts : FailureTexts) : MutationFailure → String
  | .setStateWithoutPath => "set_state mutation requires path"
  | .createWithoutPayload => "create_entity mutation requires entity_payload"
  | .unknownEntity entityId => texts.keyError s!"unknown entity {entityId}"
  | .entityExists entityId => s!"entity {entityId} already exists"
  | .invalidPayload payload => texts.validationError payload

/-- `set_path` of the state of an entity, which is a dictionary. -/
def setIn (state : Value) (path : String) (value : Value) : Value :=
  match state with
  | .dict entries => .dict (Value.setPath entries path value)
  | other => other

/-- `delete_path` of the state of an entity. -/
def deleteIn (state : Value) (path : String) : Value :=
  match state with
  | .dict entries => .dict (Value.deletePath entries path)
  | other => other

/-- `MutableWorld.from_entities` -/
def fromEntities (entities : List EntityDocument) : World :=
  Dict.ofList (entities.map fun entity => (entity.entityId, .dict entity.fields))

/-- `_apply_mutation` -/
def applyMutation (world : World) (mutation : StateMutation) : Except MutationFailure World :=
  match mutation.mutationType with
  | .setState =>
    match mutation.path.filter fun path => path ≠ "" with
    | none => .error .setStateWithoutPath
    | some path =>
      match world.get? mutation.entityId with
      | none => .error (.unknownEntity mutation.entityId)
      | some state => .ok (world.set mutation.entityId (setIn state path (valueOfJson mutation.value)))
  | .deleteEntity => .ok (world.erase mutation.entityId)
  | .createEntity =>
    match mutation.entityPayload with
    | none => .error .createWithoutPayload
    | some payload =>
      match validateEntity payload with
      | none => .error (.invalidPayload payload)
      | some entity =>
        if (world.get? entity.1).isSome then .error (.entityExists entity.1)
        else .ok (world.set entity.1 entity.2)

end Mutations

end KubeOps.Simulator
