import KubeOps.Models.Planning

/-! Environment snapshots and lifecycle profiles, with the validator that accepts
a profile. -/
namespace KubeOps.Models

open KubeOps.Foundation

inductive OperationalPlane where
  | external | host | runtime | controlPlane | node | platform | workload | application
  | operationalTooling
deriving DecidableEq, Repr

def OperationalPlane.text : OperationalPlane → String
  | .external => "external"
  | .host => "host"
  | .runtime => "runtime"
  | .controlPlane => "control_plane"
  | .node => "node"
  | .platform => "platform"
  | .workload => "workload"
  | .application => "application"
  | .operationalTooling => "operational_tooling"

structure OperationalEntity where
  entityId : String
  entityId_ne : entityId ≠ "" := by decide
  entityType : String
  entityTypeLineage : List String := []
  name : String
  plane : OperationalPlane
  namespaceName : Option String := none
  provider : Option String := none
  labels : Dict String String := ∅
  desiredState : JsonObject := ∅
  observedState : JsonObject := ∅
  extensions : JsonObject := ∅

/-- `canonicalJson` is the text of the whole document. -/
structure EnvironmentSnapshot where
  snapshotId : String
  environmentId : String
  entities : List OperationalEntity := []
  relationships : List Relationship := []
  canonicalJson : String

def EnvironmentSnapshot.contentHash (python : Python) (snapshot : EnvironmentSnapshot) : String :=
  python.sha256 snapshot.canonicalJson

structure LifecycleActionTemplate where
  templateId : String
  actionTypeId : String
  title : String
  targetSelector : JsonObject := ∅
  parameters : JsonObject := ∅
  dependsOnTemplateIds : List String := []
  applyWhen : List Predicate := []
  skipWhen : List Predicate := []
  riskOverride : Option RiskClass := none
  isOptional : Bool := false
  metadata : JsonObject := ∅

inductive FailureBehavior where
  | stop | pause | rollback | continue
deriving DecidableEq, Repr

def FailureBehavior.text : FailureBehavior → String
  | .stop => "stop"
  | .pause => "pause"
  | .rollback => "rollback"
  | .continue => "continue"

structure LifecycleStageDefinition where
  stageId : String
  dependsOnStageIds : List String := []
  actionTemplates : List LifecycleActionTemplate := []
  completionConditions : List VerificationCondition := []
  onFailure : FailureBehavior := .stop

inductive LifecycleOperationType where
  | startup | shutdown | maintenance
deriving DecidableEq, Repr

def LifecycleOperationType.operationType : LifecycleOperationType → OperationType
  | .startup => .startup
  | .shutdown => .shutdown
  | .maintenance => .maintenance

structure LifecycleProfile where
  profileId : String
  operationType : LifecycleOperationType
  targetOperationalProfileId : String
  stages : List LifecycleStageDefinition
  defaultPolicyId : Option String := none

namespace LifecycleProfile

/-- `_assert_acyclic`, which traverses as the validator of plans does. -/
def assertAcyclic (dependencies : Dict String (List String)) (label : String) : Except PyError Unit :=
  let finished := RecoveryPlan.traverse (RecoveryPlan.traversalBound dependencies)
    (RecoveryPlan.startTraversal dependencies)
  if finished.visited.length ≠ dependencies.size then
    .error (.valueError s!"{label} must be acyclic")
  else .ok ()

variable (python : Python)

def checkTemplate (stageId : String) (templateIds : List String) (template : LifecycleActionTemplate) :
    Except PyError Unit :=
  let unknown := template.dependsOnTemplateIds.filter (· ∉ templateIds)
  if unknown ≠ [] then
    .error (.valueError
      s!"template {template.templateId} depends on unknown templates in stage {stageId}: {python.repr (Json.strings (sortedSet unknown))}")
  else if template.templateId ∈ template.dependsOnTemplateIds then
    .error (.valueError s!"template {template.templateId} cannot depend on itself")
  else .ok ()

def checkStage (stageIds : List String) (stage : LifecycleStageDefinition) : Except PyError Unit := do
  let unknown := stage.dependsOnStageIds.filter (· ∉ stageIds)
  if unknown ≠ [] then
    throw (.valueError
      s!"stage {stage.stageId} depends on unknown stages: {python.repr (Json.strings (sortedSet unknown))}")
  if stage.stageId ∈ stage.dependsOnStageIds then
    throw (.valueError s!"stage {stage.stageId} cannot depend on itself")
  let templateIds := stage.actionTemplates.map LifecycleActionTemplate.templateId
  if templateIds.dedup.length ≠ stage.actionTemplates.length then
    throw (.valueError s!"action template ids must be unique within stage {stage.stageId}")
  stage.actionTemplates.forM (checkTemplate python stage.stageId templateIds)
  assertAcyclic
    (Dict.ofList (stage.actionTemplates.map fun template =>
      (template.templateId, template.dependsOnTemplateIds)))
    s!"action-template graph in stage {stage.stageId}"

def stageIds (profile : LifecycleProfile) : List String :=
  profile.stages.map LifecycleStageDefinition.stageId

def validateGraph (profile : LifecycleProfile) : Except PyError Unit := do
  if profile.stageIds.dedup.length ≠ profile.stages.length then
    throw (.valueError "lifecycle stage ids must be unique")
  profile.stages.forM (checkStage python profile.stageIds)
  assertAcyclic
    (Dict.ofList (profile.stages.map fun stage => (stage.stageId, stage.dependsOnStageIds)))
    "lifecycle stage graph"

def Accepted (profile : LifecycleProfile) : Prop := profile.validateGraph python = .ok ()

instance (profile : LifecycleProfile) : Decidable (profile.Accepted python) := by
  unfold Accepted
  infer_instance

variable {python}

theorem Accepted.nodup {profile : LifecycleProfile} (h : profile.Accepted python) :
    profile.stageIds.Nodup := by
  by_contra hrepeated
  have hlength : profile.stageIds.dedup.length ≠ profile.stages.length := by
    intro hsame
    apply hrepeated
    rw [← (List.dedup_sublist profile.stageIds).eq_of_length (by simpa [stageIds] using hsame)]
    exact List.nodup_dedup _
  simp [Accepted, validateGraph, hlength, bind, Except.bind, throw, throwThe,
    MonadExceptOf.throw] at h

end LifecycleProfile

end KubeOps.Models
