import KubeOps.Models.Python

/-! Verification conditions, their results and the certificates that seal an
operation. -/
namespace KubeOps.Models

inductive RelationshipDirection where
  | outgoing | incoming | either
deriving DecidableEq, Repr

inductive Predicate where
  | fieldEquals (entityId path : String) (value : Json)
  | fieldNotEquals (entityId path : String) (value : Json)
  | fieldExists (entityId path : String) (expected : Bool)
  | fieldGte (entityId path : String) (value : Rat)
  | fieldLte (entityId path : String) (value : Rat)
  | fieldsEqual (leftEntityId leftPath rightEntityId rightPath : String)
  | relatedCountGte (sourceEntityId : String) (relationshipTypes : List String)
      (direction : RelationshipDirection) (targetPath : Option String) (targetEquals : Json)
      (minimum : Nat)
  | allOf (predicates : List Predicate)
  | anyOf (predicates : List Predicate)
  | not (predicate : Predicate)

inductive TemporalOperator where
  | immediate | eventually | stableFor
deriving DecidableEq, Repr

structure TemporalRequirement where
  operator : TemporalOperator := .immediate
  withinSeconds : Option Nat := none
  stableForSeconds : Option Nat := none

inductive ConditionLevel where
  | actionCompletion
  | resourceConvergence
  | dependencyRestoration
  | semanticHealth
  | endToEnd
  | stability
  | sideEffectGuard
deriving DecidableEq, Repr

structure VerificationCondition where
  conditionId : String
  title : String
  predicate : Predicate
  temporal : TemporalRequirement := {}
  level : ConditionLevel
  required : Bool := true

inductive HealthStatus where
  | healthy | degraded | unhealthy | unknown | notApplicable | pending
deriving DecidableEq, Repr

structure VerificationResult where
  resultId : String
  conditionId : String
  status : HealthStatus
  evaluatedAtSeconds : Nat
  explanation : String
  evidenceIds : List String
  actualValue : Json

structure Relationship where
  relationshipId : String
  sourceId : String
  targetId : String
  relationshipType : String

inductive CertificateStatus where
  | recovered
  | partiallyRecovered
  | recoveryFailed
  | rollbackCompleted
  | noSafeRecovery
deriving DecidableEq, Repr

def CertificateStatus.text : CertificateStatus → String
  | .recovered => "recovered"
  | .partiallyRecovered => "partially_recovered"
  | .recoveryFailed => "recovery_failed"
  | .rollbackCompleted => "rollback_completed"
  | .noSafeRecovery => "no_safe_recovery"

structure RecoveryCertificate where
  certificateId : String
  incidentId : Option String := none
  operationId : Option String := none
  planId : String
  status : CertificateStatus
  restoredInvariantIds : List String := []
  unresolvedInvariantIds : List String := []
  actionReceiptIds : List String := []
  verificationResultIds : List String := []
  residualRisks : List String := []
  metadata : JsonObject := ∅

/-- `dict[str, dict]`: entity states by entity id. -/
abbrev WorldState := List (String × Json)

end KubeOps.Models

/-! The verdict on verification results. Evaluating the predicates is the
engine's own business and stays a parameter here. -/
namespace KubeOps.Verification

open KubeOps.Foundation KubeOps.Models

structure VerificationEngine where
  evaluate : List VerificationCondition → WorldState → List Relationship →
    Except PyError (List VerificationResult)

/-- `{item.condition_id: item.status for item in results}` -/
def statuses (results : List VerificationResult) : Dict String HealthStatus :=
  Dict.ofList (results.map fun result => (result.conditionId, result.status))

def successful (conditions : List VerificationCondition) (results : List VerificationResult) : Bool :=
  (conditions.filter VerificationCondition.required).all fun condition =>
    (statuses results).get? condition.conditionId = some .healthy

def protectedViolation (conditions : List VerificationCondition)
    (results : List VerificationResult) : Bool :=
  (conditions.filter fun condition => condition.level = .sideEffectGuard).any fun condition =>
    (statuses results).get? condition.conditionId = some .unhealthy

end KubeOps.Verification
