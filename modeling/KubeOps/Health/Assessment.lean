import KubeOps.Foundation.Sorting
import KubeOps.Invariants.Engine
import KubeOps.Models.JsonTree

/-! The health of an environment: templates are made into invariants of the entities that they
select, and what is said of these makes up the status. -/
namespace KubeOps.Health

open KubeOps.Foundation KubeOps.Models KubeOps.Discovery KubeOps.Invariants

section Models

structure EntitySelector where
  entityTypes : List String := []
  planes : List String := []
  namespaces : List String := []
  names : List String := []
  labels : Dict String String := ∅
  excludeNamespaces : List String := []
  includeClusterScoped : Bool := true

inductive CheckType where
  | entityObserved | fieldEquals | fieldGte | fieldsEqual | nodeReady | podReady | workloadAvailable
  | controllerProgress | serviceHasReadyEndpoints | pvcBound
deriving DecidableEq, Repr

structure InvariantTemplate where
  templateId : String
  title : String
  description : String := ""
  family : InvariantFamily
  selector : EntitySelector := {}
  checkType : CheckType
  parameters : JsonObject := ∅
  temporal : TemporalRequirement := {}
  required : Bool := true
  affectedObjectives : List String := []

structure OperationalProfileSpec where
  profileId : String
  version : String := "1.0.0"
  invariantTemplates : List InvariantTemplate := []

/-- The parts of an `EnvironmentSnapshot` that are assessed. -/
structure AssessedSnapshot where
  snapshotId : String
  environmentId : String
  completedAtIso : String
  entities : List EntityDocument := []
  relationships : List Relationship := []

structure CompiledOperationalProfile where
  profileId : String
  version : String
  environmentId : String
  snapshotId : String
  compiledAtIso : String
  invariants : List InvariantDefinition := []
  requiredInvariantIds : List String := []
  optionalInvariantIds : List String := []
  unmatchedTemplates : List String := []

structure OperationalProfileAssessment where
  assessmentId : String
  profileId : String
  profileVersion : String
  environmentId : String
  snapshotId : String
  evaluatedAtIso : String
  status : HealthStatus
  evaluations : List InvariantEvaluation
  requiredInvariantIds : List String
  optionalInvariantIds : List String
  violatedInvariantIds : List String
  unknownInvariantIds : List String
  pendingInvariantIds : List String
  counts : Dict HealthStatus Nat
  objectiveImpact : Dict String (List String)
  unmatchedTemplates : List String
  compiledInvariantCount : Nat

end Models

section Compiler

/-- `_matches` -/
def matchesSelector (entity : EntityDocument) (selector : EntitySelector) : Bool :=
  (selector.entityTypes.isEmpty || (entity.entityType :: entity.entityTypeLineage).any
    (· ∈ selector.entityTypes)) &&
  (selector.planes.isEmpty || entity.plane.text ∈ selector.planes) &&
  (selector.names.isEmpty || entity.name ∈ selector.names) &&
  (selector.namespaces.isEmpty || (entity.namespaceName.filter (· ≠ "")).getD "_cluster" ∈
    selector.namespaces) &&
  !entity.namespaceName.any (· ∈ selector.excludeNamespaces) &&
  (entity.namespaceName.isSome || selector.includeClusterScoped) &&
  selector.labels.entries.all fun label => entity.labels.get? label.1 = some label.2

/-- `_safe_id` -/
def safeId (value : String) : String :=
  Text.replaceChar (Text.replaceChar (Text.replaceChar value '/' "_") ':' "_") '.' "_"

-- `parseFloat` is `float(text)`, `none` where it raises `ValueError`.
variable (python : Python) (parseFloat : String → Option Rat)

/-- `float(value)` -/
def toFloat : Json → Except PyError Rat
  | .bool value => .ok (if value then 1 else 0)
  | .int value => .ok value
  | .float value => .ok value
  | .str value =>
    match parseFloat value with
    | some number => .ok number
    | none => .error (.valueError s!"could not convert string to float: {python.repr (.str value)}")
  | value => .error (.typeError s!"float() argument must be a string or a real number, not '{value.typeName}'")

/-- `params[key]` -/
def parameter (parameters : JsonObject) (key : String) : Except PyError Json :=
  match parameters.get? key with
  | some value => .ok value
  | none => .error (.keyError key)

/-- `value or 0` -/
def orZero (value : Json) : Json := if value.truthy then value else .int 0

/-- The replicas that a workload is to have, with the path of those that it has. -/
def desiredReplicas (entity : EntityDocument) : Except PyError (Int × String) := do
  let kind := ((Json.dict entity.extensions.entries).getPath "kubernetes.kind").getD (.str "")
  if python.str kind = "DaemonSet" then
    let desired ← (orZero ((entity.observedState.get? "desired_number_scheduled").getD (.int 0))).toInt python
    return (desired, "observed_state.number_ready")
  else
    let desired ← (orZero ((entity.desiredState.get? "replicas").getD (.int 1))).toInt python
    return (desired, "observed_state.ready_replicas")

def compilePredicate (template : InvariantTemplate) (entity : EntityDocument) : Except PyError Predicate :=
  let params := template.parameters
  match template.checkType with
  | .entityObserved => .ok (.fieldExists entity.entityId "observed_state.exists" true)
  | .fieldEquals => do
    let path ← parameter params "path"
    return .fieldEquals entity.entityId (python.str path) ((params.get? "value").getD .null)
  | .fieldGte => do
    let path ← parameter params "path"
    let value ← toFloat python parseFloat ((params.get? "value").getD (.int 0))
    return .fieldGte entity.entityId (python.str path) value
  | .fieldsEqual => do
    let left ← parameter params "left_path"
    let right ← parameter params "right_path"
    return .fieldsEqual entity.entityId (python.str left) entity.entityId (python.str right)
  | .nodeReady | .podReady => .ok (.fieldEquals entity.entityId "observed_state.ready" (.bool true))
  | .workloadAvailable => do
    let desired ← desiredReplicas python entity
    return .fieldGte entity.entityId desired.2 desired.1
  | .controllerProgress =>
    .ok (.fieldsEqual entity.entityId "observed_state.generation" entity.entityId
      "observed_state.observed_generation")
  | .serviceHasReadyEndpoints => do
    let minimum ← ((params.get? "minimum").getD (.int 1)).toInt python
    if minimum < 0 then throw (.validationError "Input should be greater than or equal to 0")
    return .relatedCountGte entity.entityId ["selects"] .outgoing (some "observed_state.ready") (.bool true)
      minimum.toNat
  | .pvcBound => .ok (.fieldEquals entity.entityId "observed_state.bound" (.bool true))

def invariantIdOf (template : InvariantTemplate) (entity : EntityDocument) : String :=
  s!"{template.templateId}:{safeId entity.entityId}"

/-- `_compile_template` -/
def compileTemplate (template : InvariantTemplate) (entity : EntityDocument) :
    Except PyError InvariantDefinition := do
  let predicate ← compilePredicate python parseFloat template entity
  let qualifier := ((entity.namespaceName.filter (· ≠ "")).map (· ++ "/")).getD ""
  return {
    invariantId := invariantIdOf template entity
    title := s!"{template.title}: {qualifier}{entity.name}"
    family := template.family
    subjectId := entity.entityId
    predicate
    temporal := template.temporal
    description := template.description
    affectedObjectives := template.affectedObjectives }

def matched (snapshot : AssessedSnapshot) (template : InvariantTemplate) : List EntityDocument :=
  snapshot.entities.filter fun entity => matchesSelector entity template.selector

/-- One turn of the loop over the templates. -/
def compileStep (snapshot : AssessedSnapshot) (compiled : CompiledOperationalProfile)
    (template : InvariantTemplate) :
    Except PyError CompiledOperationalProfile :=
  match matched snapshot template with
  | [] => .ok { compiled with unmatchedTemplates := compiled.unmatchedTemplates ++ [template.templateId] }
  | first :: rest => do
    let invariants ← (first :: rest).mapM (compileTemplate python parseFloat template)
    let ids := invariants.map fun invariant => invariant.invariantId
    let compiled := { compiled with invariants := compiled.invariants ++ invariants }
    if template.required then
      return { compiled with requiredInvariantIds := compiled.requiredInvariantIds ++ ids }
    else return { compiled with optionalInvariantIds := compiled.optionalInvariantIds ++ ids }

/-- `ProfileCompiler.compile` -/
def compile (profile : OperationalProfileSpec) (snapshot : AssessedSnapshot) (nowIso : String) :
    Except PyError CompiledOperationalProfile :=
  profile.invariantTemplates.foldlM (compileStep python parseFloat snapshot) {
    profileId := profile.profileId
    version := profile.version
    environmentId := snapshot.environmentId
    snapshotId := snapshot.snapshotId
    compiledAtIso := nowIso }

end Compiler

section Engine

-- `localOffset` is the offset of the system's time zone at a wall time.
variable (python : Python) (parseFloat : String → Option Rat) (texts : ValueTexts) (localOffset : Int → Int)

/-- `_seconds` -/
def seconds (value : String) : Except PyError Int :=
  let value := Text.replaceChar value 'Z' "+00:00"
  match python.fromIsoFormat value with
  | some datetime =>
    let offset := datetime.utcOffset.getD (localOffset datetime.wallMicroseconds)
    .ok ((datetime.wallMicroseconds - offset).tdiv 1000000)
  | none => .error (.valueError s!"Invalid isoformat string: {python.repr (.str value)}")

/-- `model_dump(mode="json")` of the entities, by their ids. -/
def worldOf (entities : List EntityDocument) : World :=
  Dict.ofList (entities.map fun entity => (entity.entityId, valueOfJson (entity.value.modelDump false)))

/-- What the invariants are evaluated on. -/
structure Observed where
  world : World
  currentTime : Int
  history : History
  relationships : List Relationship

def historyItem (item : AssessedSnapshot) : Except PyError (Int × World) :=
  (seconds python localOffset item.completedAtIso).map fun time => (time, worldOf item.entities)

/-- The part of `assess` before the evaluation. -/
def observe (snapshot : AssessedSnapshot) (history : List AssessedSnapshot) : Except PyError Observed := do
  let world := worldOf snapshot.entities
  let currentTime ← seconds python localOffset snapshot.completedAtIso
  let items := sortedBy (fun item => item.completedAtIso) (if history.isEmpty then [snapshot] else history)
  let observedHistory ← (items.filter fun item =>
    item.environmentId = snapshot.environmentId ∧ item.completedAtIso ≤ snapshot.completedAtIso).mapM
      (historyItem python localOffset)
  let observedHistory := if observedHistory.isEmpty then [(currentTime, world)] else observedHistory
  return { world, currentTime, history := observedHistory, relationships := snapshot.relationships }

def evaluationsById (evaluations : List InvariantEvaluation) : Dict String InvariantEvaluation :=
  Dict.ofList (evaluations.map fun item => (item.invariantId, item))

/-- `_aggregate` -/
def aggregate (required optional : List InvariantEvaluation) (unmatchedTemplates : List String) :
    HealthStatus :=
  if required.any fun item => item.status = .unhealthy then .unhealthy
  else if (required.any fun item => item.status = .unknown) ∨
    (required.isEmpty ∧ unmatchedTemplates ≠ []) then .unknown
  else if required.any fun item => item.status = .pending then .pending
  else if optional.any fun item => item.status ∈ [HealthStatus.unhealthy, .unknown, .pending] then .degraded
  else .healthy

def withStatus (status : HealthStatus) (evaluations : List InvariantEvaluation) : List String :=
  (evaluations.filter fun item => item.status = status).map fun item => item.invariantId

def countsOf (evaluations : List InvariantEvaluation) : Dict HealthStatus Nat :=
  evaluations.foldl (fun counts item => counts.set item.status ((counts.get? item.status).getD 0 + 1)) ∅

def objectiveImpact (definitions : Dict String InvariantDefinition) (invariantIds : List String) :
    Dict String (List String) :=
  invariantIds.foldl (fun impact invariantId =>
    (((definitions.get? invariantId).map InvariantDefinition.affectedObjectives).getD []).foldl
      (fun impact objective => impact.set objective
        ((impact.get? objective).getD [] ++ [invariantId])) impact) ∅

/-- `HealthAssessmentEngine.assess`, with the id and the times it makes up. -/
def assess (profile : OperationalProfileSpec) (snapshot : AssessedSnapshot) (history : List AssessedSnapshot)
    (assessmentId compiledAtIso evaluatedAtIso : String) : Except PyError OperationalProfileAssessment := do
  let compiled ← compile python parseFloat profile snapshot compiledAtIso
  let observed ← observe python localOffset snapshot history
  let evaluations ← evaluateAll texts compiled.invariants observed.world observed.currentTime
    (some observed.history) (some observed.relationships)
  let byId := evaluationsById evaluations
  let requiredEvals := compiled.requiredInvariantIds.filterMap byId.get?
  let optionalEvals := compiled.optionalInvariantIds.filterMap byId.get?
  let violated := withStatus .unhealthy evaluations
  let unknown := withStatus .unknown evaluations
  let pending := withStatus .pending evaluations
  let definitions := Dict.ofList (compiled.invariants.map fun item => (item.invariantId, item))
  return {
    assessmentId
    profileId := profile.profileId
    profileVersion := profile.version
    environmentId := snapshot.environmentId
    snapshotId := snapshot.snapshotId
    evaluatedAtIso
    status := aggregate requiredEvals optionalEvals compiled.unmatchedTemplates
    evaluations
    requiredInvariantIds := compiled.requiredInvariantIds
    optionalInvariantIds := compiled.optionalInvariantIds
    violatedInvariantIds := violated
    unknownInvariantIds := unknown
    pendingInvariantIds := pending
    counts := countsOf evaluations
    objectiveImpact := objectiveImpact definitions (violated ++ unknown ++ pending)
    unmatchedTemplates := compiled.unmatchedTemplates
    compiledInvariantCount := compiled.invariants.length }

end Engine

end KubeOps.Health
