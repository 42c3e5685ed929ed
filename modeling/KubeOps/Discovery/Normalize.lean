import KubeOps.Models.JsonTree
import KubeOps.Models.Lifecycle
import Mathlib.Data.List.Infix

/-! Resource documents: what a source keeps of them, and that nothing else about them can be told
from it; the entities they are normalized to, and who owns whom. -/
namespace KubeOps.Discovery

open KubeOps.Foundation KubeOps.Models

section Code

/-- `SENSITIVE_KEYS` -/
def sensitiveKeys : List String := [
  "data", "stringData", "token", "password", "clientSecret", "client_secret", "privateKey", "private_key",
  "certificate-authority-data", "client-certificate-data", "client-key-data"]

def redacted : Json := .str "<redacted>"

/-- A key `data` in a document of kind `Secret` is exempt, at whatever depth it stands. -/
def isHidden (secret : Bool) (key : String) : Bool := key ∈ sensitiveKeys ∧ ¬ (secret ∧ key = "data")

mutual

def walk (secret : Bool) : Json → Json
  | .dict entries => .dict (walkEntries secret entries)
  | .list items => .list (walkItems secret items)
  | value => value

def walkEntries (secret : Bool) : List (String × Json) → List (String × Json)
  | [] => []
  | (key, child) :: rest =>
    (key, if isHidden secret key then redacted else walk secret child) :: walkEntries secret rest

def walkItems (secret : Bool) : List Json → List Json
  | [] => []
  | item :: rest => walk secret item :: walkItems secret rest

end

/-- `sorted(data.keys()) if isinstance(data, dict) else []` -/
def keyNames : Option Json → List String
  | some (.dict entries) => (entries.map Prod.fst).insertionSort (· ≤ ·)
  | _ => []

def redaction (dataKeys stringDataKeys : List String) : Json := .dict [
  ("data_keys", Json.strings dataKeys), ("string_data_keys", Json.strings stringDataKeys),
  ("values_removed", .bool true)]

/-- The text of the kind is `Secret` only where it is this text itself. -/
def isSecret (resource : JsonObject) : Bool := resource.get? "kind" = some (.str "Secret")

/-- The document without its two mappings of values, and their keys listed instead. -/
def summarized (resource : JsonObject) : JsonObject :=
  ((resource.erase "data").erase "stringData").set "redaction"
    (redaction (keyNames (resource.get? "data")) (keyNames (resource.get? "stringData")))

def sanitizeResource (resource : JsonObject) : JsonObject :=
  let secret := isSecret resource
  (if secret then summarized resource else resource).mapEntries fun key child =>
    if isHidden secret key then redacted else walk secret child

end Code

section Outlines

mutual

def withoutValues : Json → Json
  | .dict entries => .dict (withoutValuesInEntries entries)
  | .list items => .list (withoutValuesInItems items)
  | value => value

def withoutValuesInEntries : List (String × Json) → List (String × Json)
  | [] => []
  | (key, child) :: rest =>
    (key, if key ∈ sensitiveKeys then .null else withoutValues child) :: withoutValuesInEntries rest

def withoutValuesInItems : List Json → List Json
  | [] => []
  | item :: rest => withoutValues item :: withoutValuesInItems rest

end

/-- What is left of the value under a key of a document: of the two mappings of a secret, which
keys they have. -/
def outlineOf (secret : Bool) (key : String) (child : Json) : Json :=
  if secret ∧ (key = "data" ∨ key = "stringData") then Json.strings (keyNames (some child))
  else if key ∈ sensitiveKeys then .null
  else withoutValues child

/-- A document without the values in the mappings of a secret and those under sensitive keys. -/
def outline (resource : JsonObject) : JsonObject := resource.mapEntries (outlineOf (isSecret resource))

mutual

/-- A key `data` stands somewhere in the value, and not under a sensitive key. -/
def exposesData : Json → Bool
  | .dict entries => exposesDataInEntries entries
  | .list items => exposesDataInItems items
  | _ => false

def exposesDataInEntries : List (String × Json) → Bool
  | [] => false
  | (key, child) :: rest =>
    (key = "data" || (key ∉ sensitiveKeys && exposesData child)) || exposesDataInEntries rest

def exposesDataInItems : List Json → Bool
  | [] => false
  | item :: rest => exposesData item || exposesDataInItems rest

end

/-- A secret in which a key `data` stands below the top level, outside the part that is replaced. -/
def Exposed (resource : JsonObject) : Prop :=
  isSecret resource = true ∧ ∃ entry ∈ resource.entries,
    entry.1 ∉ sensitiveKeys ∧ entry.1 ≠ "redaction" ∧ exposesData entry.2 = true

instance (resource : JsonObject) : Decidable (Exposed resource) :=
  inferInstanceAs (Decidable (_ ∧ ∃ entry ∈ resource.entries, _ ∧ _ ∧ _))

end Outlines

/-- A sanitized API object. -/
structure ResourceDocument where
  resourceId : String
  apiVersion : String
  resourceKind : String
  name : String
  namespaceName : Option String
  payload : JsonObject
  source : String
  observedAtIso : String

structure NormalizedEntity extends OperationalEntity where
  capabilities : List String

/-- A relationship with what it says beside its ends. -/
structure GraphRelationship extends Relationship where
  contract : JsonObject := ∅
  propagation : JsonObject := ∅
  confidence : Rat := 1
  provenance : String := "scenario"
  extensions : JsonObject := ∅

section Names

def workloadKinds : List String := ["Deployment", "StatefulSet", "DaemonSet", "ReplicaSet", "Job", "CronJob"]

def controlPlaneNames : List String := ["kube-apiserver", "kube-scheduler", "kube-controller-manager", "etcd"]

def platformNames : List String := ["coredns", "kube-proxy", "ingress-nginx", "argocd", "metrics-server"]

/-- `namespace or "_cluster"` -/
def scopeOf (namespaceName : Option String) : String :=
  if Text.truthy namespaceName then namespaceName.getD "" else "_cluster"

variable (lower : String → String)

def canonicalResourceId (kind : String) (namespaceName : Option String) (name : String) : String :=
  "k8s/" ++ (lower kind ++ "/" ++ scopeOf namespaceName ++ "/" ++ name)

theorem canonicalResourceId_ne (kind : String) (namespaceName : Option String) (name : String) :
    canonicalResourceId lower kind namespaceName name ≠ "" := by
  intro h
  have hlist := congrArg String.toList h
  rw [canonicalResourceId, String.toList_append] at hlist
  exact absurd (List.append_eq_nil_iff.mp hlist).1 (by decide)

/-- `any(token in text for token in tokens)` -/
def holdsAny (text : String) (tokens : List String) : Bool :=
  tokens.any fun token => token.toList <:+: text.toList

def planeOf (kind name : String) (namespaceName : Option String) : OperationalPlane :=
  if kind = "Node" then .node
  else if kind ∈ ["Namespace", "CustomResourceDefinition", "StorageClass", "ClusterRole", "ClusterRoleBinding",
      "PersistentVolume"] then .controlPlane
  else if holdsAny (lower name) controlPlaneNames then .controlPlane
  else if namespaceName ∈ ["kube-system", "argocd", "ingress-nginx", "cert-manager", "monitoring"].map some ∨
      holdsAny (lower name) platformNames then .platform
  else if kind ∈ workloadKinds ++ ["Pod", "Service", "EndpointSlice", "Ingress", "PersistentVolumeClaim",
      "ConfigMap", "Secret", "ServiceAccount", "Role", "RoleBinding"] then .workload
  else .application

end Names

section States

variable (python : Python)

/-- The conditions of a status by their types, with `"True"` and `"False"` read as truth values. -/
def conditionsOf (status : Json) : Except PyError JsonObject := do
  let conditions ← (Json.orEmpty (Json.entry? "conditions" status)).iterate
  conditions.foldlM (fun result condition =>
    match condition with
    | .dict entries =>
      match Json.entry? "type" condition with
      | none => .ok result
      | some conditionType =>
        if conditionType.truthy then
          match Json.entry? "status" condition with
          | some (.list _) => .error (.typeError "unhashable type: 'list'")
          | some (.dict _) => .error (.typeError "unhashable type: 'dict'")
          | some (.str text) =>
            if text = "True" ∨ text = "False" then
              .ok (result.set (python.str conditionType)
                (.dict ((Dict.ofList entries).set "status" (.bool (text = "True"))).entries))
            else .ok (result.set (python.str conditionType) condition)
          | _ => .ok (result.set (python.str conditionType) condition)
        else .ok result
    | _ => .ok result) ∅

/-- `_conditions(status).get("Ready", {}).get("status")` -/
def readyStatus (conditions : JsonObject) : Json :=
  ((conditions.get? "Ready").bind (Json.entry? "status")).getD .null

/-- `_pod_ready` -/
def podReady (conditions : JsonObject) : Json :=
  match readyStatus conditions with
  | .bool ready => .bool ready
  | _ => .null

def desiredStateOf (resource : JsonObject) : JsonObject :=
  let spec := Json.objectOr (resource.get? "spec")
  ["replicas", "selector", "serviceName", "type", "storageClassName", "accessModes", "volumeName", "suspend",
    "parallelism", "completions"].foldl (fun desired key =>
      match Json.entry? key spec with
      | some value => desired.set key value
      | none => desired) ((∅ : JsonObject).set "exists" (.bool true))

/-- An underscore before each capital letter but the first character, in small letters. -/
def snakeCase (key : String) : String :=
  match key.toList with
  | [] => ""
  | first :: rest => String.ofList (first.toLower :: rest.flatMap fun c =>
      if c.isUpper then ['_', c.toLower] else [c])

def statusKeys : List String := [
  "phase", "observedGeneration", "replicas", "readyReplicas", "availableReplicas", "updatedReplicas",
  "currentReplicas", "succeeded", "failed", "active", "numberReady", "numberAvailable",
  "desiredNumberScheduled", "currentNumberScheduled", "capacity", "allocatable", "podIP", "hostIP"]

def restartCount (statuses : List Json) : Except PyError Int :=
  (statuses.filter Json.isDict).foldlM (fun total item => do
    let count ← ((Json.entry? "restartCount" item).getD (.int 0)).toInt python
    return total + count) 0

def observedOfKind (kind : String) (resource : JsonObject) (status : Json) (conditions : JsonObject)
    (observed : JsonObject) : Except PyError JsonObject := do
  let observed ← if kind = "Pod" then do
      let statuses ← (Json.orEmpty (Json.entry? "containerStatuses" status)).iterate
      let restarts ← restartCount python statuses
      let states := (statuses.filter Json.isDict).map fun item => (Json.entry? "state" item).getD (.dict [])
      pure (((observed.set "ready" (podReady conditions)).set "restart_count" (.int restarts)).set
        "container_states" (.list states))
    else if kind = "Node" then pure (observed.set "ready" (readyStatus conditions))
    else pure observed
  let observed := if kind ∈ workloadKinds then
      (observed.set "desired_replicas"
        (((Json.dict resource.entries).getPath "spec.replicas").getD (.int 1))).set
        "ready_replicas" ((observed.get? "ready_replicas").getD (.int 0))
    else observed
  return if kind = "PersistentVolumeClaim" then
      observed.set "bound" (.bool (((Json.entry? "phase" status).getD .null).pyEq (.str "Bound")))
    else observed

def observedStateOf (resource : JsonObject) : Except PyError JsonObject := do
  let metadata := Json.objectOr (resource.get? "metadata")
  let status := Json.objectOr (resource.get? "status")
  let kind := ((resource.get? "kind").map python.str).getD "Unknown"
  let conditions ← conditionsOf python status
  let observed := (((((∅ : JsonObject).set "exists" (.bool true)).set
    "generation" ((Json.entry? "generation" metadata).getD .null)).set
    "resource_version" ((Json.entry? "resourceVersion" metadata).getD .null)).set
    "deleting" (.bool ((Json.entry? "deletionTimestamp" metadata).getD .null).truthy)).set
    "conditions" (.dict conditions.entries)
  let observed := statusKeys.foldl (fun observed key =>
    match Json.entry? key status with
    | some value => observed.set (snakeCase key) value
    | none => observed) observed
  observedOfKind python kind resource status conditions observed

end States

section Documents

variable (python : Python) (lower : String → String)

def namespaceOf : Option Json → Except PyError (Option String)
  | none | some .null => .ok none
  | some (.str text) => .ok (some text)
  | some _ => .error (.validationError "namespace")

def resourceDocument (resource : JsonObject) (source observedAtIso : String) :
    Except PyError ResourceDocument := do
  let metadata := Json.objectOr (resource.get? "metadata")
  let kind := ((resource.get? "kind").map python.str).getD "Unknown"
  let name := ((Json.entry? "name" metadata).map python.str).getD "unknown"
  let namespaceName ← namespaceOf (Json.entry? "namespace" metadata)
  return {
    resourceId := canonicalResourceId lower kind namespaceName name
    apiVersion := ((resource.get? "apiVersion").map python.str).getD "unknown"
    resourceKind := kind, name, namespaceName, payload := resource, source, observedAtIso }

def labelsOf (labels : Json) : Except PyError (Dict String String) :=
  match labels with
  | .dict entries => do
    let labels ← entries.mapM fun entry =>
      match entry.2 with
      | .str value => Except.ok (entry.1, value)
      | _ => Except.error (PyError.validationError "labels")
    return Dict.ofList labels
  | _ => .ok ∅

/-- `extensions["kubernetes"]` of an entity. -/
def kubernetesExtension (document : ResourceDocument) : Json :=
  let metadata := Json.objectOr (document.payload.get? "metadata")
  let field key := (Json.entry? key metadata).getD .null
  .dict [
    ("api_version", .str document.apiVersion),
    ("kind", .str document.resourceKind),
    ("uid", field "uid"),
    ("generation", field "generation"),
    ("resource_version", field "resourceVersion"),
    ("creation_timestamp", field "creationTimestamp"),
    ("owner_references", match Json.entry? "ownerReferences" metadata with
      | some (.list references) => .list references
      | _ => .list []),
    ("annotations", Json.objectOr (Json.entry? "annotations" metadata)),
    ("sanitized_resource", .dict document.payload.entries)]

def normalizeEntity (document : ResourceDocument) : Except PyError NormalizedEntity := do
  let metadata := Json.objectOr (document.payload.get? "metadata")
  let observedState ← observedStateOf python document.payload
  let labels ← labelsOf (Json.objectOr (Json.entry? "labels" metadata))
  if hid : document.resourceId = "" then throw (.validationError "entity_id")
  else if document.name = "" then throw (.validationError "name")
  else return {
    entityId := document.resourceId
    entityId_ne := hid
    entityType := "kubernetes." ++ lower document.resourceKind
    entityTypeLineage := ["kubernetes." ++ lower document.resourceKind]
    name := document.name
    plane := planeOf lower document.resourceKind document.name document.namespaceName
    namespaceName := document.namespaceName
    provider := some "kubernetes"
    labels
    desiredState := desiredStateOf document.payload
    observedState
    capabilities := ["observable", "kubernetes_resource"]
    extensions := (∅ : JsonObject).set "kubernetes" (kubernetesExtension document) }

end Documents

section Owners

variable (python : Python)

/-- `entity.extensions.get("kubernetes", {})` of a normalized entity. -/
def kubernetesOf (entity : OperationalEntity) : Json := Json.objectOr (entity.extensions.get? "kubernetes")

/-- The text of the `uid`, where there is one. -/
def uidOf (entity : OperationalEntity) : Option String :=
  ((Json.entry? "uid" (kubernetesOf entity)).filter Json.truthy).map python.str

/-- `str(found.get(key, default))` -/
def textOf (value : Json) (key default : String) : String :=
  ((Json.entry? key value).map python.str).getD default

/-- `by_uid`; the entity that comes last stays. -/
def byUid {ε : Type} (entityOf : ε → OperationalEntity) (entities : List ε) : Dict String ε :=
  Dict.ofList (entities.filterMap fun entity => (uidOf python (entityOf entity)).map fun uid => (uid, entity))

/-- `by_scope_kind_name` -/
def byScopeKindName (entities : List NormalizedEntity) :
    Dict (Option String × String × String) NormalizedEntity :=
  Dict.ofList (entities.map fun entity =>
    ((entity.namespaceName, textOf python (kubernetesOf entity.toOperationalEntity) "kind" "",
      entity.name), entity))

def ownerRelationship (child parent : NormalizedEntity) (owner : Json) : GraphRelationship where
  relationshipId := s!"owner:{child.entityId}->{parent.entityId}"
  sourceId := child.entityId
  targetId := parent.entityId
  relationshipType := "owned_by"
  provenance := "kubernetes.ownerReferences"
  contract := (∅ : JsonObject).set "controller" (.bool ((Json.entry? "controller" owner).getD .null).truthy)

def parentOf (entities : List NormalizedEntity) (child : NormalizedEntity) (owner : Json) :
    Option NormalizedEntity :=
  ((byUid python NormalizedEntity.toOperationalEntity entities).get? (textOf python owner "uid" "")).or
    ((byScopeKindName python entities).get?
      (child.namespaceName, textOf python owner "kind" "", textOf python owner "name" ""))

/-- `k8s.get("owner_references", []) or []`, which is a list in a normalized entity. -/
def ownerReferences (entity : NormalizedEntity) : List Json :=
  match Json.entry? "owner_references" (kubernetesOf entity.toOperationalEntity) with
  | some (.list references) => references
  | _ => []

def ownersOf (entities : List NormalizedEntity) (child : NormalizedEntity) : List GraphRelationship :=
  ((ownerReferences child).filter Json.isDict).filterMap fun owner =>
    (parentOf python entities child owner).map fun parent => ownerRelationship child parent owner

def ownerRelationships (entities : List NormalizedEntity) : List GraphRelationship :=
  entities.flatMap (ownersOf python entities)

end Owners

end KubeOps.Discovery
