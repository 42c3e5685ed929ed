import KubeOps.Discovery.Normalize

/-! Collections of resources from a source, the bundle that is made of one, and the fixture
that a bundle is exported to. -/
namespace KubeOps.Discovery

open KubeOps.Foundation KubeOps.Models

section Sources

/-- The resources are grouped by the type under which a source was asked for them. -/
structure RawCollection where
  sourceType : String
  sourceFingerprint : String
  resources : Dict String (List JsonObject)
  issues : List Json := []
  permissionGaps : List Json := []
  metadata : JsonObject := ∅

/-- Every source sanitizes what it has read, document by document. -/
def sanitizeAll (resources : Dict String (List JsonObject)) : Dict String (List JsonObject) :=
  resources.mapValues (List.map sanitizeResource)

def objectsIn (items : List Json) : List JsonObject :=
  items.filterMap fun item =>
    match item with
    | .dict entries => some (Dict.ofList entries)
    | _ => none

/-- The answer of `kubectl get` for one type of resources. -/
inductive GetResult where
  | failed (stderr : String)
  | found (payload : JsonObject)

namespace KubectlDiscoverySource

/-- `process.stderr.strip()` is an argument. -/
def issue (strip : String → String) (resourceType stderr : String) : Json := .dict [
  ("severity", .str "warning"), ("collector_id", .str "kubectl"), ("resource_type", .str resourceType),
  ("message", .str (if strip stderr = "" then "collection failed" else strip stderr))]

def permissionGap (strip : String → String) (resourceType stderr : String) : Json := .dict [
  ("resource", .str resourceType), ("verb", .str "list"), ("scope", .str "cluster"),
  ("reason", .str (strip stderr)), ("required_for", Json.strings ["snapshot"])]

def isForbidden (lower : String → String) (stderr : String) : Bool :=
  holdsAny (lower stderr) ["forbidden", "cannot list"]

/-- `payload.get("items", [])`, of which the dictionaries count. -/
def itemsOf (payload : JsonObject) : Except PyError (List JsonObject) := do
  let items ← ((payload.get? "items").getD (.list [])).iterate
  return objectsIn items

/-- `validation` is the outcome of the validation that runs first. -/
def collect (lower strip : String → String) (fingerprint : String) (validationGaps : List Json)
    (validation : Json) (results : List (String × GetResult)) : Except PyError RawCollection := do
  let listed ← results.filterMapM fun result =>
    match result.2 with
    | .failed _ => Except.ok none
    | .found payload => return some (result.1, ← itemsOf payload)
  let failures := results.filterMap fun result =>
    match result.2 with
    | .failed stderr => some (result.1, stderr)
    | .found _ => none
  let issues := (failures.filter fun failure => !isForbidden lower failure.2).map fun failure =>
    issue strip failure.1 failure.2
  let gaps := validationGaps ++ (failures.filter fun failure => isForbidden lower failure.2).map fun failure =>
    permissionGap strip failure.1 failure.2
  return {
    sourceType := "live", sourceFingerprint := fingerprint
    resources := sanitizeAll (Dict.ofList listed)
    issues, permissionGaps := gaps
    metadata := Dict.ofList [("validation", validation),
      ("collection_status", .str (if issues = [] ∧ gaps = [] then "complete" else "partial"))] }

end KubectlDiscoverySource

namespace FixtureDiscoverySource

/-- What stands under a type: a list, or a dictionary with one under `items`. -/
def listOf (items : Json) : Option (List Json) :=
  match items with
  | .list items => some items
  | .dict _ =>
    match Json.entry? "items" items with
    | some (.list items) => some items
    | _ => none
  | _ => none

def documents (resources : List (String × Json)) (resourceTypes : Option (List String)) :
    Dict String (List JsonObject) :=
  let selected := match resourceTypes with
    | none | some [] => resources.map Prod.fst
    | some types => types
  Dict.ofList (resources.filterMap fun entry =>
    if entry.1 ∈ selected then (listOf entry.2).map fun items => (entry.1, objectsIn items) else none)

/-- `payload` is what the file at the path holds. -/
def collect (python : Python) (path : String) (payload : JsonObject) (resourceTypes : Option (List String)) :
    Except PyError RawCollection :=
  match (payload.get? "resources").getD (.dict []) with
  | .dict resources => do
    let issues ← ((payload.get? "issues").getD (.list [])).iterate
    let gaps ← ((payload.get? "permission_gaps").getD (.list [])).iterate
    return {
      sourceType := "fixture"
      sourceFingerprint :=
        match (payload.get? "source_fingerprint").filter Json.truthy with
        | some fingerprint => python.str fingerprint
        | none => s!"fixture:{path}"
      resources := sanitizeAll (documents resources resourceTypes)
      issues, permissionGaps := gaps
      metadata := Dict.ofList [("fixture_path", .str path),
        ("fixture_metadata", (payload.get? "metadata").getD (.dict []))] }
  | other => .error (.attributeError s!"'{other.typeName}' object has no attribute 'keys'")

end FixtureDiscoverySource

end Sources

section Bundles

structure DiscoveryIssue where
  issueId : String
  severity : String
  collectorId : String
  resourceType : Option String
  message : String
  details : JsonObject

structure EntityObservation where
  entity : NormalizedEntity
  observedAtIso : String
  source : String
  authority : String
  profileId : String

structure DiscoveryBundle where
  bundleId : String
  environmentId : String
  collectorId : String
  sourceType : String
  startedAtIso : String
  completedAtIso : String
  status : String
  sourceFingerprint : String
  resources : List ResourceDocument
  entities : List NormalizedEntity
  relationships : List GraphRelationship
  observations : List EntityObservation
  issues : List DiscoveryIssue
  permissionGaps : List Json
  metadata : JsonObject

def textField (item : Json) (key default : String) : Except PyError String :=
  match Json.entry? key item with
  | none => .ok default
  | some (.str text) => .ok text
  | some _ => .error (.validationError key)

def readIssue (sourceId uuid : String) (item : Json) : Except PyError DiscoveryIssue := do
  let severity ← textField item "severity" "warning"
  let collectorId ← textField item "collector_id" sourceId
  let message ← textField item "message" "unspecified discovery issue"
  let resourceType ← namespaceOf (Json.entry? "resource_type" item)
  if severity ∉ ["info", "warning", "error"] then throw (.validationError "severity")
  match Json.entry? "details" item with
  | none => return ⟨uuid, severity, collectorId, resourceType, message, ∅⟩
  | some (.dict details) => return ⟨uuid, severity, collectorId, resourceType, message, Dict.ofList details⟩
  | some _ => throw (.validationError "details")

/-- `normalize_observation` -/
def normalizeObservation (entity : NormalizedEntity) (observedAtIso source : String) : EntityObservation where
  entity
  observedAtIso
  source
  authority := if source ≠ "fixture" then "kubernetes_api" else "recorded_fixture"
  profileId := if source ≠ "fixture" then "live" else "fixture"

structure CollectorCall where
  sourceId : String
  environmentId : String
  startedAtIso : String
  completedAtIso : String
  bundleId : String
  issueId : Nat → String

variable (python : Python) (lower : String → String)

def inTypeOrder (resources : Dict String (List JsonObject)) : List JsonObject :=
  (resources.keys.insertionSort (· ≤ ·)).flatMap fun resourceType => (resources.get? resourceType).getD []

def documentsOf (call : CollectorCall) (resources : Dict String (List JsonObject)) :
    Except PyError (List ResourceDocument) :=
  (inTypeOrder resources).mapM fun item =>
    resourceDocument python lower item call.sourceId call.completedAtIso

/-- `DiscoveryCollector.collect` without a pack runtime. -/
def DiscoveryCollector.collect (call : CollectorCall) (raw : RawCollection) :
    Except PyError DiscoveryBundle := do
  let resources ← documentsOf python lower call raw.resources
  let entities ← resources.mapM (normalizeEntity python lower)
  let issues ← (raw.issues.zipIdx).mapM fun item => readIssue call.sourceId (call.issueId item.2) item.1
  return {
    bundleId := call.bundleId, environmentId := call.environmentId, collectorId := call.sourceId
    sourceType := raw.sourceType, startedAtIso := call.startedAtIso, completedAtIso := call.completedAtIso
    status := if issues.isEmpty ∧ raw.permissionGaps.isEmpty then "complete" else "partial"
    sourceFingerprint := raw.sourceFingerprint
    resources, entities
    relationships := ownerRelationships python entities
    observations := entities.map fun entity => normalizeObservation entity call.completedAtIso call.sourceId
    issues, permissionGaps := raw.permissionGaps, metadata := raw.metadata }

end Bundles

section Export

def issueJson (issue : DiscoveryIssue) : Json := .dict [
  ("schema_version", .str "kubeops.io/v1"), ("issue_id", .str issue.issueId),
  ("severity", .str issue.severity), ("collector_id", .str issue.collectorId),
  ("resource_type", (issue.resourceType.map Json.str).getD .null), ("message", .str issue.message),
  ("details", .dict issue.details.entries)]

/-- The payloads by the kinds of their documents. -/
def exportedResources (resources : List ResourceDocument) : Dict String (List JsonObject) :=
  resources.foldl (fun grouped document =>
    grouped.set document.resourceKind
      ((grouped.get? document.resourceKind).getD [] ++ [document.payload])) ∅

def exportDiscoveryFixture (bundle : DiscoveryBundle) (snapshotId : Option String) : JsonObject :=
  let metadata := bundle.metadata.set "exported_from_bundle_id" (.str bundle.bundleId)
  let metadata := match snapshotId with
    | some snapshotId => metadata.set "exported_from_snapshot_id" (.str snapshotId)
    | none => metadata
  Dict.ofList [
    ("api_version", .str "kubeops.io/discovery-fixture/v1"),
    ("source_fingerprint", .str bundle.sourceFingerprint),
    ("metadata", .dict metadata.entries),
    ("resources", .dict ((exportedResources bundle.resources).entries.map fun entry =>
      (entry.1, .list (entry.2.map fun payload => .dict payload.entries)))),
    ("issues", .list (bundle.issues.map issueJson)),
    ("permission_gaps", .list bundle.permissionGaps)]

end Export

end KubeOps.Discovery
