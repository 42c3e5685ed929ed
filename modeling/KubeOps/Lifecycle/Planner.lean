import KubeOps.Actions
import KubeOps.Models.Lifecycle

/-! The lifecycle planner. Stages are compiled in the order in which the profile
lists them, and a stage is linked to the stages compiled before it. -/
namespace KubeOps.Lifecycle

open KubeOps.Foundation KubeOps.Models KubeOps.Actions

/-- `PredicateEvaluator.evaluate(...).satisfied`, where `none` is unknown. -/
structure PredicateEvaluator where
  evaluate : Predicate → WorldState → List Relationship → Except PyError (Option Bool)

structure LifecyclePlanner where
  actions : ActionCatalog
  predicates : PredicateEvaluator
  python : Python

def optionalText : Option String → Json
  | none => .null
  | some text => .str text

section Selectors

variable (entity : OperationalEntity)

def entityState : Json := .dict [
  ("entity_id", .str entity.entityId),
  ("entity_type", .str entity.entityType),
  ("entity_type_lineage", Json.strings (sortedSet entity.entityTypeLineage)),
  ("plane", .str entity.plane.text),
  ("name", .str entity.name),
  ("namespace", optionalText entity.namespaceName),
  ("provider", optionalText entity.provider),
  ("labels", .dict (entity.labels.entries.map fun label => (label.1, .str label.2))),
  ("desired_state", .dict entity.desiredState.entries),
  ("observed_state", .dict entity.observedState.entries),
  ("extensions", .dict entity.extensions.entries)]

/-- `_world` -/
def world (snapshot : EnvironmentSnapshot) : WorldState :=
  (Dict.ofList (snapshot.entities.map fun entity => (entity.entityId, entityState entity))).entries

/-- One round of the loop over the selector; `false` ends the loop. -/
def matchesEntry (key : String) (expected : Json) : Except PyError Bool :=
  match key, expected with
  | "entity_id", expected => .ok ((Json.str entity.entityId).pyEq expected)
  | "entity_type", .list _ => .error (.typeError "unhashable type: 'list'")
  | "entity_type", .dict _ => .error (.typeError "unhashable type: 'dict'")
  | "entity_type", expected => .ok ((entity.entityType :: entity.entityTypeLineage).any fun entityType =>
      (Json.str entityType).pyEq expected)
  | "plane", expected => .ok ((Json.str entity.plane.text).pyEq expected)
  | "namespace", expected => .ok ((optionalText entity.namespaceName).pyEq expected)
  | "name", expected => .ok ((Json.str entity.name).pyEq expected)
  | "provider", expected => .ok ((optionalText entity.provider).pyEq expected)
  | "labels", .dict labels => .ok (labels.all fun label =>
      (optionalText (entity.labels.get? label.1)).pyEq label.2)
  | "labels", value =>
    .error (.attributeError s!"'{value.typeName}' object has no attribute 'items'")
  | _, _ => .ok true

/-- `_matches` -/
def matchesSelector : List (String × Json) → Except PyError Bool
  | [] => .ok true
  | (key, expected) :: rest => do
    if ← matchesEntry entity key expected then matchesSelector rest else return false

end Selectors

section Rendering

variable (python : Python) (bindings : Dict String Json)

/-- The name in a placeholder at the start of the text, and what follows the placeholder. -/
def placeholder? : List Char → Option (List Char × List Char)
  | '$' :: '\x7b' :: rest =>
    let name := rest.takeWhile (· ≠ '\x7d')
    match rest.dropWhile (· ≠ '\x7d') with
    | [] => none
    | _ :: after => if name = [] then none else some (name, after)
  | _ => none

/-- `str(variables.get(name, placeholder))` -/
def substitution (name : List Char) : List Char :=
  match bindings.get? (String.ofList name) with
  | some value => (python.str value).toList
  | none => '$' :: '\x7b' :: name ++ ['\x7d']

/-- `_PLACEHOLDER.sub`, where the first `skipped` characters belong to a placeholder. -/
def substitute : Nat → List Char → List Char
  | _, [] => []
  | skipped + 1, _ :: rest => substitute skipped rest
  | 0, c :: rest =>
    match placeholder? (c :: rest) with
    | some (name, _) => substitution python bindings name ++ substitute (name.length + 2) rest
    | none => c :: substitute 0 rest

/-- A text that is one placeholder becomes the value itself. -/
def renderText (text : String) : Json :=
  match placeholder? text.toList with
  | some (name, []) => (bindings.get? (String.ofList name)).getD (.str text)
  | _ => .str (String.ofList (substitute python bindings 0 text.toList))

mutual

/-- `_render` -/
def render : Json → Json
  | .dict entries => .dict (renderEntries entries)
  | .list items => .list (renderItems items)
  | .str text => renderText python bindings text
  | value => value

def renderItems : List Json → List Json
  | [] => []
  | item :: rest => render item :: renderItems rest

def renderEntries : List (String × Json) → List (String × Json)
  | [] => []
  | (key, item) :: rest => (key, render item) :: renderEntries rest

end

theorem keys_renderEntries (entries : List (String × Json)) :
    (renderEntries python bindings entries).map Prod.fst = entries.map Prod.fst := by
  induction entries with
  | nil => simp [renderEntries]
  | cons entry entries ih =>
    obtain ⟨key, item⟩ := entry
    simp [renderEntries, ih]

def renderParameters (parameters : JsonObject) : JsonObject where
  entries := renderEntries python bindings parameters.entries
  nodup := by
    rw [keys_renderEntries]
    exact parameters.nodup

end Rendering

def bindings (snapshot : EnvironmentSnapshot) (entity : Option OperationalEntity) : Dict String Json :=
  Dict.ofList [
    ("entity_id", .str ((entity.map OperationalEntity.entityId).getD "environment")),
    ("entity_name", .str ((entity.map OperationalEntity.name).getD snapshot.environmentId)),
    ("namespace", optionalText (entity.bind OperationalEntity.namespaceName)),
    ("environment_id", .str snapshot.environmentId)]

def slice (text : String) (count : Nat) : String := String.ofList (text.toList.take count)

namespace LifecyclePlanner

variable (planner : LifecyclePlanner) (snapshot : EnvironmentSnapshot)

/-- `any(predicates.evaluate(...).satisfied ... for predicate in predicates)` -/
def anyPredicate (chosen : Option Bool → Bool) : List Predicate → Except PyError Bool
  | [] => .ok false
  | predicate :: rest => do
    let satisfied ← planner.predicates.evaluate predicate (world snapshot) snapshot.relationships
    if chosen satisfied then return true else anyPredicate chosen rest

/-- Whether the two `continue` guards let a candidate through. -/
def applies (template : LifecycleActionTemplate) : Except PyError Bool := do
  if ← planner.anyPredicate snapshot (· ≠ some true) template.applyWhen then return false
  else
    let skipped ← planner.anyPredicate snapshot (· = some true) template.skipWhen
    return !skipped

def targetIds (entity : Option OperationalEntity) : List String :=
  (entity.map OperationalEntity.entityId).toList

/-- `':'.join(target_ids) or template.template_id` -/
def subject (template : LifecycleActionTemplate) (entity : Option OperationalEntity) : String :=
  let joined := String.intercalate ":" (targetIds entity)
  if joined = "" then template.templateId else joined

def idempotencyKey (template : LifecycleActionTemplate) (entity : Option OperationalEntity) : String :=
  s!"{snapshot.environmentId}:{template.actionTypeId}:{subject template entity}"

/-- `{"template_id": ..., "on_failure": ..., **template.metadata}` -/
def templateMetadata (template : LifecycleActionTemplate) (onFailure : FailureBehavior) : JsonObject :=
  Dict.ofList ([("template_id", .str template.templateId), ("on_failure", .str onFailure.text)] ++
    template.metadata.entries)

def instantiate (definition : ActionTypeDefinition) (template : LifecycleActionTemplate)
    (stageId : String) (onFailure : FailureBehavior) (index : Nat)
    (entity : Option OperationalEntity) : ActionInstance :=
  let risk := match template.riskOverride with
    | some riskClass => { definition.defaultRisk with riskClass }
    | none => definition.defaultRisk
  { actionId := s!"action:{stageId}:{template.templateId}:{index}:{slice (snapshot.contentHash planner.python) 8}"
    actionTypeId := template.actionTypeId
    title := template.title
    targetIds := targetIds entity
    parameters := renderParameters planner.python (bindings snapshot entity) template.parameters
    risk
    idempotencyKey := some (idempotencyKey snapshot template entity)
    stageId := some stageId
    checkpointBefore := risk.riskClass ∈ [.r3, .r4, .r5]
    isOptional := template.isOptional
    metadata := templateMetadata template onFailure }

/-- The entities the selector matches, or the environment where there is no selector. -/
def candidates (template : LifecycleActionTemplate) : Except PyError (List (Option OperationalEntity)) := do
  let matching ← snapshot.entities.filterM fun entity =>
    matchesSelector entity template.targetSelector.entries
  if template.targetSelector.entries = [] then return [none] else return matching.map some

/-- The loop over the candidates from the given index on. -/
def compileCandidates (definition : ActionTypeDefinition) (template : LifecycleActionTemplate)
    (stageId : String) (onFailure : FailureBehavior) :
    Nat → List (Option OperationalEntity) → Except PyError (List ActionInstance)
  | _, [] => .ok []
  | index, entity :: rest => do
    if ← planner.applies snapshot template then
      let action := planner.instantiate snapshot definition template stageId onFailure index entity
      let _ ← planner.actions.validateInstance planner.python action
      let compiled ← compileCandidates definition template stageId onFailure (index + 1) rest
      return action :: compiled
    else compileCandidates definition template stageId onFailure (index + 1) rest

def compileTemplate (template : LifecycleActionTemplate) (stageId : String)
    (onFailure : FailureBehavior) : Except PyError (List ActionInstance) := do
  let definition ← planner.actions.get template.actionTypeId
  let candidates ← candidates snapshot template
  planner.compileCandidates snapshot definition template stageId onFailure 0 candidates

/-- `candidate.metadata.get("template_id") in template.depends_on_template_ids` -/
def isInternal (template : LifecycleActionTemplate) (candidate : ActionInstance) : Bool :=
  (candidate.metadata.get? "template_id").any fun templateId =>
    template.dependsOnTemplateIds.any fun dependency => (Json.str dependency).pyEq templateId

def link (externalDependencies : List String) (template : LifecycleActionTemplate)
    (stageActions : List ActionInstance) (action : ActionInstance) : List ActionInstance :=
  let internal := (stageActions.filter (isInternal template)).map ActionInstance.actionId
  stageActions ++
    [{ action with dependsOnActionIds := sortedSet (externalDependencies ++ internal) }]

def addTemplate (externalDependencies : List String) (stage : LifecycleStageDefinition)
    (stageActions : List ActionInstance) (template : LifecycleActionTemplate) :
    Except PyError (List ActionInstance) := do
  let compiled ← planner.compileTemplate snapshot template stage.stageId stage.onFailure
  return compiled.foldl (link externalDependencies template) stageActions

def compileStage (externalDependencies : List String) (stage : LifecycleStageDefinition) :
    Except PyError (List ActionInstance) :=
  stage.actionTemplates.foldlM (planner.addTemplate snapshot externalDependencies stage) []

def terminalActions (stageActions : List ActionInstance) (externalDependencies : List String) :
    List String :=
  let terminal := (stageActions.filter fun action =>
    ¬ stageActions.any fun other => action.actionId ∈ other.dependsOnActionIds).map
      ActionInstance.actionId
  if terminal = [] then externalDependencies else terminal

/-- The locals of the loop over the stages. -/
structure Compilation where
  actions : List ActionInstance := []
  stageTerminalActions : Dict String (List String) := ∅

def externalDependencies (compilation : Compilation) (stage : LifecycleStageDefinition) : List String :=
  stage.dependsOnStageIds.flatMap fun dependency =>
    (compilation.stageTerminalActions.get? dependency).getD []

def Compilation.add (compilation : Compilation) (stage : LifecycleStageDefinition)
    (stageActions : List ActionInstance) : Compilation where
  actions := compilation.actions ++ stageActions
  stageTerminalActions := compilation.stageTerminalActions.set stage.stageId
    (terminalActions stageActions (externalDependencies compilation stage))

def addStage (compilation : Compilation) (stage : LifecycleStageDefinition) :
    Except PyError Compilation := do
  let stageActions ← planner.compileStage snapshot (externalDependencies compilation stage) stage
  return compilation.add stage stageActions

def compile (profile : LifecycleProfile) : Except PyError Compilation :=
  profile.stages.foldlM (planner.addStage snapshot) {}

def planId (profile : LifecycleProfile) : String :=
  s!"plan:{profile.profileId}:{snapshot.snapshotId}:{slice (snapshot.contentHash planner.python) 12}"

def plan (profile : LifecycleProfile) (mode : PlanMode) (policyId : Option String) :
    Except PyError RecoveryPlan := do
  let compilation ← planner.compile snapshot profile
  let plan : RecoveryPlan := {
    planId := planner.planId snapshot profile
    operationType := profile.operationType.operationType
    objectiveId := profile.targetOperationalProfileId
    actions := compilation.actions
    verificationConditions := profile.stages.flatMap LifecycleStageDefinition.completionConditions
    mode
    policyId := if Text.truthy policyId then policyId else profile.defaultPolicyId }
  plan.validateActionGraph planner.python
  return plan

end LifecyclePlanner

/-! One host, with two of the built-in action types. -/
namespace LocalDevelopment

def waitForCondition : ActionTypeDefinition where
  actionTypeId := "operation.wait_for_condition.v1"
  requiredCapabilities := ["observe"]
  supportedModes := [.simulation, .fixture, .live]
  executorId := "builtin.wait"
  maxAttempts_pos := Nat.one_pos

def processStart : ActionTypeDefinition where
  actionTypeId := "local.process.start.v1"
  parameterSchema := {
    required := ["argv"]
    properties := Dict.ofList [("argv", { type := some "array" })] }
  expectedEffects := ["process_running"]
  requiredCapabilities := ["host.process.start"]
  supportedModes := [.simulation, .live]
  executorId := "local.process"
  defaultRisk := { riskClass := .r1 }
  rollbackActionTypeId := some "local.process.stop.v1"
  maxAttempts_pos := Nat.one_pos

def host : OperationalEntity where
  entityId := "host/local"
  entityType := "host.machine"
  name := "local"
  plane := .host

/-- `canonical_json()` of the snapshot with this id. -/
def document (snapshotId : String) : String :=
  Json.compact <| .dict [
    ("captured_at_iso", .str "2026-01-01T00:00:00Z"),
    ("collection_summary", .dict []),
    ("completed_at_iso", .str "2026-01-01T00:00:00Z"),
    ("entities", .list [.dict [
      ("capabilities", .list []),
      ("desired_state", .dict []),
      ("entity_id", .str "host/local"),
      ("entity_type", .str "host.machine"),
      ("entity_type_lineage", .list []),
      ("extensions", .dict []),
      ("labels", .dict []),
      ("name", .str "local"),
      ("observed_state", .dict []),
      ("plane", .str "host"),
      ("schema_version", .str "kubeops.io/v1")]]),
    ("environment_id", .str "local"),
    ("issues", .list []),
    ("metadata", .dict []),
    ("observations", .list []),
    ("permission_gaps", .list []),
    ("raw_artifact_ids", .list []),
    ("raw_resource_count", .int 0),
    ("relationships", .list []),
    ("schema_version", .str "kubeops.io/v1"),
    ("snapshot_id", .str snapshotId),
    ("source_fingerprint", .str "fixture"),
    ("source_type", .str "fixture"),
    ("started_at_iso", .str "2026-01-01T00:00:00Z"),
    ("status", .str "complete")]

def snapshotNamed (snapshotId : String) : EnvironmentSnapshot where
  snapshotId := snapshotId
  environmentId := "local"
  entities := [host]
  canonicalJson := document snapshotId

def snapshot : EnvironmentSnapshot := snapshotNamed "snapshot:local:1"

def laterSnapshot : EnvironmentSnapshot := snapshotNamed "snapshot:local:2"

/-- The digests are those of the documents of the two snapshots. -/
def planner : LifecyclePlanner where
  actions := ⟨Dict.ofList ([waitForCondition, processStart].map fun definition =>
    (definition.actionTypeId, definition))⟩
  predicates := ⟨fun _ _ _ => .ok none⟩
  python := { Python.plain with
    sha256 := fun text =>
      if text = snapshot.canonicalJson then
        "5971f9f8af9448b672ee3f69220910467a1b814c70ed33963274dd43eabf0111"
      else "b175e8600f455e3aebd635c3d648c1be8a1c7c544264a95791678354fce9c71f" }

def waitTemplate (templateId : String) : LifecycleActionTemplate where
  templateId := templateId
  actionTypeId := waitForCondition.actionTypeId
  title := "Wait for condition"

def startup (stages : List LifecycleStageDefinition) : LifecycleProfile where
  profileId := "local-development-startup.v1"
  operationType := .startup
  targetOperationalProfileId := "local-development-usable.v1"
  stages := stages

def shutdown (stages : List LifecycleStageDefinition) : LifecycleProfile where
  profileId := "local-development-shutdown.v1"
  operationType := .shutdown
  targetOperationalProfileId := "local-development-quiesced.v1"
  stages := stages

end LocalDevelopment

end KubeOps.Lifecycle
