import KubeOps.Models.Verification

/-! Action types, action instances, execution policies and recovery plans, with
the validator that accepts a plan. -/
namespace KubeOps.Models

open KubeOps.Foundation

inductive RiskClass where
  | r0 | r1 | r2 | r3 | r4 | r5
deriving DecidableEq, Repr

def RiskClass.text : RiskClass → String
  | .r0 => "R0"
  | .r1 => "R1"
  | .r2 => "R2"
  | .r3 => "R3"
  | .r4 => "R4"
  | .r5 => "R5"

structure RiskAssessment where
  riskClass : RiskClass := .r0
deriving DecidableEq, Repr

inductive SupportedMode where
  | simulation | fixture | live
deriving DecidableEq, Repr

def SupportedMode.text : SupportedMode → String
  | .simulation => "simulation"
  | .fixture => "fixture"
  | .live => "live"

/-- One entry of a parameter schema's `properties`. -/
structure PropertySchema where
  const : Option Json := none
  type : Option String := none

structure ParameterSchema where
  required : List String := []
  properties : Dict String PropertySchema := ∅

theorem defaultTimeout_pos : 1 ≤ 120 := by decide

structure ActionTypeDefinition where
  actionTypeId : String
  parameterSchema : ParameterSchema := {}
  expectedEffects : List String := []
  requiredCapabilities : List String := []
  supportedModes : List SupportedMode := [.simulation]
  executorId : String := "simulation"
  defaultRisk : RiskAssessment := {}
  rollbackActionTypeId : Option String := none
  timeoutSeconds : Nat := 120
  timeoutSeconds_pos : 1 ≤ timeoutSeconds := by first | exact defaultTimeout_pos | decide
  maxAttempts : Nat := 1
  maxAttempts_pos : 1 ≤ maxAttempts := by decide

inductive ActionStatus where
  | proposed
  | approvalRequired
  | authorized
  | running
  | completed
  | failed
  | skipped
  | rolledBack
  | blocked
deriving DecidableEq, Repr

structure ActionInstance where
  actionId : String
  actionTypeId : String
  title : String := ""
  targetIds : List String := []
  parameters : JsonObject := ∅
  dependsOnActionIds : List String := []
  risk : RiskAssessment := {}
  status : ActionStatus := .proposed
  idempotencyKey : Option String := none
  stageId : Option String := none
  checkpointBefore : Bool := false
  isOptional : Bool := false
  metadata : JsonObject := ∅

/-- The instance apart from its status mark, which only records progress. -/
def ActionInstance.unmarked (action : ActionInstance) : ActionInstance :=
  { action with status := .proposed }

structure ExecutionPolicy where
  policyId : String
  environmentClasses : List String := []
  allowedRiskClasses : List RiskClass := [.r0]
  allowedActionTypeIds : List String := []
  deniedActionTypeIds : List String := []
  requiredApprovalsByRisk : Dict RiskClass Int := ∅
  requireCheckpointForRisk : List RiskClass := []
  requireTargetFingerprint : Bool := true
  allowedTargetPatterns : List String := []
  mutationBudget : Option Nat := none
  capabilityGrants : List String := []
  breakGlassAllowed : Bool := false

inductive PolicyOutcome where
  | allow | deny | approvalRequired
deriving DecidableEq, Repr

structure PolicyDecision where
  decisionId : String
  policyId : String
  actionId : String
  outcome : PolicyOutcome
  reasons : List String := []
  requiredApprovalCount : Nat := 0
  evaluatedAtIso : Option String := none
  capabilityGaps : List String := []
  requiresCheckpoint : Bool := false
  metadata : JsonObject := ∅

inductive OperationType where
  | startup | shutdown | recovery | maintenance | verification
deriving DecidableEq, Repr

inductive PlanMode where
  | guidance | dryRun | guardedExecution
deriving DecidableEq, Repr

structure RecoveryPlan where
  planId : String
  incidentId : Option String := none
  operationType : OperationType := .recovery
  objectiveId : String
  actions : List ActionInstance := []
  verificationConditions : List VerificationCondition := []
  mode : PlanMode := .guidance
  policyId : Option String := none

namespace RecoveryPlan

/-- The locals of `_assert_acyclic`'s loop; `ready` is a stack whose top is last. -/
structure Traversal where
  dependencies : Dict String (List String)
  ready : List String
  visited : List String

/-- The dependency sets are emptied in place and whatever became free is pushed,
also an id that is on the stack already. -/
def Traversal.visit (traversal : Traversal) (actionId : String) : Traversal :=
  let visited := traversal.visited ++ [actionId]
  let dependencies := traversal.dependencies.mapValues (List.filter (· ≠ actionId))
  { dependencies, visited
    ready := traversal.ready.dropLast ++
      (dependencies.entries.filter fun entry => entry.2 = [] ∧ entry.1 ∉ visited).map Prod.fst }

def traverse : Nat → Traversal → Traversal
  | 0, traversal => traversal
  | fuel + 1, traversal =>
    match traversal.ready.getLast? with
    | none => traversal
    | some actionId =>
      if actionId ∈ traversal.visited then
        traverse fuel { traversal with ready := traversal.ready.dropLast }
      else traverse fuel (traversal.visit actionId)

def startTraversal (dependencies : Dict String (List String)) : Traversal where
  dependencies := dependencies
  ready := (dependencies.entries.filter fun entry => entry.2 = []).map Prod.fst
  visited := []

/-- Every id enters the stack at most once for each visit, and at the start. -/
def traversalBound (dependencies : Dict String (List String)) : Nat :=
  dependencies.size + dependencies.size * dependencies.size

def dependencies (plan : RecoveryPlan) : Dict String (List String) :=
  Dict.ofList (plan.actions.map fun action => (action.actionId, action.dependsOnActionIds))

def assertAcyclic (plan : RecoveryPlan) : Except PyError Unit :=
  let dependencies := plan.dependencies
  let finished := traverse (traversalBound dependencies) (startTraversal dependencies)
  if finished.visited.length ≠ dependencies.size then
    .error (.valueError "recovery-plan action graph must be acyclic")
  else .ok ()

def actionIds (plan : RecoveryPlan) : List String := plan.actions.map ActionInstance.actionId

def checkDependencies (python : Python) (actionIds : List String) (action : ActionInstance) :
    Except PyError Unit :=
  let unknown := action.dependsOnActionIds.filter (· ∉ actionIds)
  if unknown ≠ [] then
    .error (.valueError
      s!"action {action.actionId} depends on unknown actions: {python.repr (Json.strings (sortedSet unknown))}")
  else if action.actionId ∈ action.dependsOnActionIds then
    .error (.valueError s!"action {action.actionId} cannot depend on itself")
  else .ok ()

/-- `len(set(ids)) != len(ids)` says that an id is repeated. -/
def validateActionGraph (python : Python) (plan : RecoveryPlan) : Except PyError Unit := do
  if plan.actionIds.dedup.length ≠ plan.actions.length then
    throw (.valueError "recovery-plan action ids must be unique")
  plan.actions.forM (checkDependencies python plan.actionIds)
  plan.assertAcyclic

def Accepted (python : Python) (plan : RecoveryPlan) : Prop :=
  plan.validateActionGraph python = .ok ()

instance (python : Python) (plan : RecoveryPlan) : Decidable (plan.Accepted python) := by
  unfold Accepted
  infer_instance

end RecoveryPlan

end KubeOps.Models
