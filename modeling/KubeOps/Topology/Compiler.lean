import KubeOps.Discovery.Normalize
import KubeOps.Foundation.Grouping

/-! Which entities the compiler links, and the graph it makes of them. -/
namespace KubeOps.Topology

open KubeOps.Foundation KubeOps.Models KubeOps.Discovery

variable (python : Python)

section Documents

/-- `_resource` -/
def resourceOf (entity : OperationalEntity) : Json :=
  Json.objectOr (Json.entry? "sanitized_resource" (kubernetesOf entity))

/-- `_kind` -/
def kindOf (entity : OperationalEntity) : String := textOf python (kubernetesOf entity) "kind" ""

/-- `str(value)` of a value that is there and counts as true. -/
def trueText (value : Option Json) : Option String := (value.filter Json.truthy).map python.str

/-- `value.get(key)` where the value may be no dictionary. -/
def getOf (value : Json) (key : String) : Except PyError (Option Json) :=
  match value with
  | .dict entries => .ok ( Json.entry? key (.dict entries))
  | value => .error (.attributeError s!"'{value.typeName}' object has no attribute 'get'")

/-- `get_path(data, path, []) or []`, as a loop runs through it. -/
def itemsAt (data : Json) (path : String) : Except PyError (List Json) :=
  (Json.orEmpty (data.getPath path)).iterate

/-- `value[key][field]` where there is a dictionary under the key. -/
def nameUnder (value : Json) (key field : String) : Option String :=
  trueText python (Json.entry? field (Json.objectOr (Json.entry? key value)))

end Documents

section References

/-- The kinds of the objects a pod document names. -/
inductive ReferenceKind where
  | configMap | secret | persistentVolumeClaim
deriving DecidableEq, Repr

def ReferenceKind.text : ReferenceKind → String
  | .configMap => "ConfigMap"
  | .secret => "Secret"
  | .persistentVolumeClaim => "PersistentVolumeClaim"

def ReferenceKind.relationshipType : ReferenceKind → String
  | .configMap => "references_config"
  | .secret => "references_secret"
  | .persistentVolumeClaim => "mounts_claim"

def named (names : List (ReferenceKind × Option String)) : List (ReferenceKind × String) :=
  names.filterMap fun item => item.2.map fun name => (item.1, name)

def projectedReferences (source : Json) : List (ReferenceKind × String) :=
  named [(.secret, nameUnder python source "secret" "name"),
    (.configMap, nameUnder python source "configMap" "name")]

def volumeReferences (volume : Json) : Except PyError (List (ReferenceKind × String)) :=
  if volume.isDict then do
    let sources ← itemsAt (Json.objectOr (Json.entry? "projected" volume)) "sources"
    return named [
      (.configMap, nameUnder python volume "configMap" "name"),
      (.secret, nameUnder python volume "secret" "secretName"),
      (.persistentVolumeClaim, nameUnder python volume "persistentVolumeClaim" "claimName")] ++
        sources.flatMap (projectedReferences python)
  else .ok []

def envFromReferences (envFrom : Json) : List (ReferenceKind × String) :=
  named [(.secret, nameUnder python envFrom "secretRef" "name"),
    (.configMap, nameUnder python envFrom "configMapRef" "name")]

/-- A `valueFrom` that is no dictionary has no attribute `get`. -/
def envReferences (env : Json) : Except PyError (List (ReferenceKind × String)) :=
  match ( Json.entry? "valueFrom" env).getD (.dict []) with
  | .dict entries => .ok (named [(.secret, nameUnder python (.dict entries) "secretKeyRef" "name"),
      (.configMap, nameUnder python (.dict entries) "configMapKeyRef" "name")])
  | value => .error (.attributeError s!"'{value.typeName}' object has no attribute 'get'")

def containerReferences (container : Json) : Except PyError (List (ReferenceKind × String)) :=
  if container.isDict then do
    let envFrom ← itemsAt container "envFrom"
    let env ← itemsAt container "env"
    let values ← env.mapM (envReferences python)
    return envFrom.flatMap (envFromReferences python) ++ values.flatten
  else .ok []

/-- `refs`, as a list without repetitions. -/
def references (resource : Json) : Except PyError (List (ReferenceKind × String)) := do
  let volumes ← itemsAt resource "spec.volumes"
  let mounted ← volumes.mapM (volumeReferences python)
  let initContainers ← itemsAt resource "spec.initContainers"
  let containers ← itemsAt resource "spec.containers"
  let read ← (initContainers ++ containers).mapM (containerReferences python)
  return (mounted.flatten ++ read.flatten).dedup

end References

section Links

def linkId (relationshipType sourceId targetId : String) : String :=
  relationshipType ++ (":" ++ (sourceId ++ ("->" ++ targetId)))

/-- `_relationship` -/
def relationship (source target : OperationalEntity) (relationshipType provenance : String)
    (contract : JsonObject) : GraphRelationship where
  relationshipId := linkId relationshipType source.entityId target.entityId
  sourceId := source.entityId
  targetId := target.entityId
  relationshipType
  provenance
  contract

/-- The three maps over the entities, as far as the passes use them. -/
structure EntityIndex where
  named : String × Option String × String → Option OperationalEntity
  withUid : String → Option OperationalEntity
  pods : List OperationalEntity

def ofKind (entities : List OperationalEntity) (kind : String) : List OperationalEntity :=
  entities.filter fun entity => kindOf python entity = kind

def EntityIndex.ofEntities (entities : List OperationalEntity) : EntityIndex where
  named key := (Dict.ofList (entities.map fun entity =>
    ((kindOf python entity, entity.namespaceName, entity.name), entity))).get? key
  withUid uid := (byUid python (fun entity => entity) entities).get? uid
  pods := ofKind python entities "Pod"

variable (index : EntityIndex)

def linkTo (target : Option OperationalEntity) (link : OperationalEntity → GraphRelationship) :
    List GraphRelationship :=
  (target.map link).toList

/-- `_compile_workload_pod_control`, for one child -/
def workloadPodControl (child : OperationalEntity) : Except PyError (List GraphRelationship) := do
  let owners ← (Json.orEmpty (Json.entry? "owner_references" (kubernetesOf child))).iterate
  let links ← owners.mapM fun owner => do
    let uid ← getOf owner "uid"
    return linkTo (index.withUid ((uid.map python.str).getD "")) fun parent =>
      relationship parent child "controls" "kubernetes.ownerReferences"
        ((∅ : JsonObject).set "controller" (.bool ((Json.entry? "controller" owner).getD .null).truthy))
  return links.flatten

/-- `_compile_pod_dependencies`, for one pod -/
def podDependencies (pod : OperationalEntity) : Except PyError (List GraphRelationship) := do
  let resource := resourceOf pod
  let node := (trueText python (resource.getPath "spec.nodeName")).bind fun name =>
    index.named ("Node", none, name)
  let serviceAccount := python.str ((resource.getPath "spec.serviceAccountName").getD (.str "default"))
  let refs ← references python resource
  return linkTo node (fun node => relationship pod node "scheduled_on" "pod.spec.nodeName" ∅) ++
    linkTo (index.named ("ServiceAccount", pod.namespaceName, serviceAccount))
      (fun account => relationship pod account "uses_identity" "pod.spec.serviceAccountName" ∅) ++
    refs.flatMap fun ref => linkTo (index.named (ref.1.text, pod.namespaceName, ref.2)) fun target =>
      relationship pod target ref.1.relationshipType "pod.spec" ∅

/-- A label that is missing is `None`, which a selector can ask for. -/
def matchesSelector (selector : List (String × Json)) (pod : OperationalEntity) : Bool :=
  selector.all fun item => (((pod.labels.get? item.1).map Json.str).getD .null).pyEq item.2

/-- `_compile_services`, for one service -/
def serviceSelection (service : OperationalEntity) : List GraphRelationship :=
  match (resourceOf service).getPath "spec.selector" with
  | some (.dict selector) =>
    if selector = [] then []
    else (index.pods.filter fun pod => pod.namespaceName = service.namespaceName ∧
      matchesSelector selector pod).map
      fun pod => relationship service pod "selects" "service.spec.selector"
        ((∅ : JsonObject).set "selector" (.dict selector))
  | _ => []

def endpointTarget (endpointSlice : OperationalEntity) (endpoint : Json) : Option OperationalEntity :=
  let ref := Json.objectOr (Json.entry? "targetRef" endpoint)
  (index.withUid (textOf python ref "uid" "")).or
    (index.named (textOf python ref "kind" "Pod", endpointSlice.namespaceName, textOf python ref "name" ""))

/-- `_compile_endpoint_slices`, for one slice -/
def endpointSliceLinks (endpointSlice : OperationalEntity) : Except PyError (List GraphRelationship) := do
  let service := (endpointSlice.labels.get? "kubernetes.io/service-name").filter fun name => name ≠ ""
  let endpoints ← itemsAt (resourceOf endpointSlice) "endpoints"
  return linkTo (service.bind fun name => index.named ("Service", endpointSlice.namespaceName, name))
      (fun service => relationship service endpointSlice "publishes_endpoints" "endpointslice.label" ∅) ++
    (endpoints.filter Json.isDict).flatMap fun endpoint =>
      linkTo (endpointTarget python index endpointSlice endpoint) fun target =>
        relationship endpointSlice target "routes_to" "endpointslice.endpoints"
          ((∅ : JsonObject).set "ready" ((endpoint.getPath "conditions.ready").getD .null))

def backends (resource : Json) : Except PyError (List Json) := do
  let rules ← itemsAt resource "spec.rules"
  let paths ← rules.mapM fun rule => itemsAt rule "http.paths"
  return ((resource.getPath "spec.defaultBackend").toList ++
    paths.flatten.filterMap (Json.entry? "backend")).filter Json.isDict

/-- `_compile_ingresses`, for one ingress -/
def ingressLinks (ingress : OperationalEntity) : Except PyError (List GraphRelationship) := do
  let found ← backends (resourceOf ingress)
  return found.flatMap fun backend =>
    linkTo ((trueText python (backend.getPath "service.name")).bind fun name =>
        index.named ("Service", ingress.namespaceName, name)) fun service =>
      relationship ingress service "routes_to" "ingress.spec" ((∅ : JsonObject).set "backend" backend)

/-- `_compile_storage`, for one claim -/
def storageLinks (claim : OperationalEntity) : List GraphRelationship :=
  let resource := resourceOf claim
  linkTo ((trueText python (resource.getPath "spec.volumeName")).bind fun name =>
      index.named ("PersistentVolume", none, name))
    (fun volume => relationship claim volume "binds_to" "pvc.spec.volumeName" ∅) ++
  linkTo ((trueText python (resource.getPath "spec.storageClassName")).bind fun name =>
      index.named ("StorageClass", none, name))
    fun storageClass => relationship claim storageClass "uses_storage_class" "pvc.spec.storageClassName" ∅

/-- `by_key.get((kind, namespace, name))` with a namespace from a document. -/
def lookup (kind : String) (namespaceName : Option Json) (name : String) :
    Except PyError (Option OperationalEntity) :=
  match namespaceName with
  | none | some .null => .ok (index.named (kind, none, name))
  | some (.str text) => .ok (index.named (kind, some text, name))
  | some (.list _) => .error (.typeError "unhashable type: 'list'")
  | some (.dict _) => .error (.typeError "unhashable type: 'dict'")
  | some _ => .ok none

/-- A role is looked for only where `roleRef` is a dictionary, as it is when it is missing. -/
def grantedRole (binding : OperationalEntity) (resource : Json) : Option OperationalEntity :=
  match (resource.getPath "roleRef").getD (.dict []) with
  | .dict entries =>
    let kind := textOf python (.dict entries) "kind" "Role"
    index.named (kind, if kind = "ClusterRole" then none else binding.namespaceName,
      textOf python (.dict entries) "name" "")
  | _ => none

def boundSubject (subject : Json) : Except PyError (Option OperationalEntity) :=
  let kind := textOf python subject "kind" ""
  lookup index kind (if kind = "ServiceAccount" then Json.entry? "namespace" subject else none)
    (textOf python subject "name" "")

/-- `_compile_rbac`, for one binding -/
def rbacLinks (binding : OperationalEntity) : Except PyError (List GraphRelationship) := do
  let resource := resourceOf binding
  let subjects ← itemsAt resource "subjects"
  let targets ← (subjects.filter Json.isDict).mapM (boundSubject python index)
  return linkTo (grantedRole python index binding resource)
      (fun role => relationship binding role "grants_role" "rolebinding.roleRef" ∅) ++
    targets.flatMap fun target => linkTo target fun target =>
      relationship binding target "binds_subject" "rolebinding.subjects" ∅

end Links

section Compilation

/-- A loop over the entities of one kind, with the links it adds for each. -/
structure Pass where
  kind : String
  links : OperationalEntity → Except PyError (List GraphRelationship)

/-- The loops in the order in which they run. -/
def passes (index : EntityIndex) : List Pass := [
  ⟨"Pod", workloadPodControl python index⟩,
  ⟨"ReplicaSet", workloadPodControl python index⟩,
  ⟨"Pod", podDependencies python index⟩,
  ⟨"Service", fun service => .ok (serviceSelection index service)⟩,
  ⟨"EndpointSlice", endpointSliceLinks python index⟩,
  ⟨"Ingress", ingressLinks python index⟩,
  ⟨"PersistentVolumeClaim", fun claim => .ok (storageLinks python index claim)⟩,
  ⟨"RoleBinding", rbacLinks python index⟩,
  ⟨"ClusterRoleBinding", rbacLinks python index⟩]

def addedLinks (entities : List OperationalEntity) : Except PyError (List GraphRelationship) := do
  let added ← (passes python (.ofEntities python entities)).mapM fun pass => do
    let links ← (ofKind python entities pass.kind).mapM pass.links
    return links.flatten
  return added.flatten

/-- Relationships by their identifiers; a later one replaces an earlier one. -/
def byIdentifier (relationships : List GraphRelationship) : Dict String GraphRelationship :=
  Dict.ofList (relationships.map fun item => (item.relationshipId, item))

/-- `str(namespace)` of an entity -/
def namespaceText (entity : OperationalEntity) : String := entity.namespaceName.getD "None"

def backingTypes : List String := ["selects", "publishes_endpoints"]

def warningsOf (relationships : List GraphRelationship) (entity : OperationalEntity) : List String :=
  let outgoing := relationships.filter fun item => item.sourceId = entity.entityId
  (if kindOf python entity = "Service" ∧
      (((resourceOf entity).getPath "spec.selector").getD (.dict [])).truthy ∧
      ¬ outgoing.any fun item => item.relationshipType ∈ backingTypes then
    [s!"Service {namespaceText entity}/{entity.name} has a selector but no discovered backing relationship"]
  else []) ++
  if kindOf python entity = "Ingress" ∧ ¬ outgoing.any fun item => item.relationshipType = "routes_to" then
    [s!"Ingress {namespaceText entity}/{entity.name} has no discovered Service backend"]
  else []

def counted (texts : List String) : List (String × Nat) :=
  (sortedSet texts).map fun text => (text, texts.count text)

structure TopologyStatistics where
  entityCount : Nat
  relationshipCount : Nat
  entityKinds : List (String × Nat)
  relationshipTypes : List (String × Nat)
  namespaceCount : Nat
  warningCount : Nat
deriving DecidableEq, Repr

structure TopologyGraph where
  entities : List OperationalEntity
  relationships : List GraphRelationship
  layers : Dict String (List String)
  statistics : TopologyStatistics
  warnings : List String

/-- `_kind(entity) or entity.entity_type` -/
def statisticKind (entity : OperationalEntity) : String :=
  if kindOf python entity = "" then entity.entityType else kindOf python entity

def graphOf (entities : List OperationalEntity) (relationships : List GraphRelationship) : TopologyGraph :=
  let warnings := entities.flatMap (warningsOf python relationships)
  { entities := sortedBy (fun entity => entity.entityId) entities
    relationships
    layers :=
      (Dict.grouped (fun entity => entity.plane.text) (fun entity => entity.entityId) entities).mapValues
      (List.insertionSort (· ≤ ·))
    statistics := {
      entityCount := entities.length
      relationshipCount := relationships.length
      entityKinds := counted (entities.map (statisticKind python))
      relationshipTypes := counted (relationships.map fun item => item.relationshipType)
      namespaceCount := ((entities.filterMap fun entity => entity.namespaceName).filter (· ≠ "")).dedup.length
      warningCount := warnings.length }
    warnings }

/-- `TopologyCompiler._compile` without a pack runtime. -/
def TopologyCompiler.compile (entities : List OperationalEntity) (baseRelationships : List GraphRelationship) :
    Except PyError TopologyGraph := do
  let added ← addedLinks python entities
  let relationships := byIdentifier (baseRelationships ++ added)
  return graphOf python entities (sortedBy (fun item => item.relationshipId) relationships.values)

end Compilation

end KubeOps.Topology
