import KubeOps.Foundation.Program
import KubeOps.Models.Planning

/-! The action catalog and its check of an instance's parameters against the
schema of its action type. -/
namespace KubeOps.Actions

open KubeOps.Foundation KubeOps.Models

structure ActionCatalog where
  definitions : Dict String ActionTypeDefinition

namespace ActionCatalog

def get (catalog : ActionCatalog) (actionTypeId : String) : Except PyError ActionTypeDefinition :=
  match catalog.definitions.get? actionTypeId with
  | some definition => .ok definition
  | none => .error (.registryError s!"action catalog does not contain {actionTypeId}")

/-- The article and noun an unmet `type` is reported with. -/
def typeMismatch (expected : String) (value : Json) : Option String :=
  match expected, value with
  | "array", .list _ => none
  | "array", _ => some "an array"
  | "string", .str _ => none
  | "string", _ => some "a string"
  | "integer", .int _ => none
  | "integer", _ => some "an integer"
  | "boolean", .bool _ => none
  | "boolean", _ => some "a boolean"
  | _, _ => none

def validateProperty (python : Python) (action : ActionInstance) (name : String)
    (schema : PropertySchema) : Except PyError Unit :=
  match action.parameters.get? name with
  | none => .ok ()
  | some value =>
    match schema.const with
    | some const =>
      if value.pyEq const then checkType value
      else .error
        (.valueError
          s!"action {action.actionId} parameter {python.repr (Json.str name)} must equal {python.repr const}")
    | none => checkType value
where
  checkType (value : Json) : Except PyError Unit :=
    match schema.type.bind fun expected => typeMismatch expected value with
    | some noun =>
        .error (.valueError s!"action {action.actionId} parameter {python.repr (Json.str name)} must be {noun}")
    | none => .ok ()

def validateInstance (catalog : ActionCatalog) (python : Python) (action : ActionInstance) :
    Except PyError ActionTypeDefinition := do
  let definition ← catalog.get action.actionTypeId
  let missing := definition.parameterSchema.required.filter fun name =>
    ¬ action.parameters.contains name
  if missing ≠ [] then
    throw (.valueError
      s!"action {action.actionId} is missing required parameters: {python.repr (Json.strings (missing.insertionSort (· ≤ ·)))}")
  definition.parameterSchema.properties.entries.forM fun property =>
    validateProperty python action property.1 property.2
  return definition

end ActionCatalog

end KubeOps.Actions
