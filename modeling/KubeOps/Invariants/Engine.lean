import KubeOps.Foundation.Program
import KubeOps.Invariants.Evaluator

/-! The verdicts on invariants at a moment, given what has been observed until then. -/
namespace KubeOps.Invariants

open KubeOps.Foundation KubeOps.Models KubeOps.Discovery

inductive InvariantFamily where
  | existence | identityResolution | structural | configuration | compatibility | reachability | authentication
  | authorization | capacity | placement | lifecycleProgress | readiness | liveness | ordering | idempotency
  | consistency | freshness | durability | isolation | quorum | performance | observability | recoverability
deriving DecidableEq, Repr

def InvariantFamily.text : InvariantFamily → String
  | .existence => "existence"
  | .identityResolution => "identity_resolution"
  | .structural => "structural"
  | .configuration => "configuration"
  | .compatibility => "compatibility"
  | .reachability => "reachability"
  | .authentication => "authentication"
  | .authorization => "authorization"
  | .capacity => "capacity"
  | .placement => "placement"
  | .lifecycleProgress => "lifecycle_progress"
  | .readiness => "readiness"
  | .liveness => "liveness"
  | .ordering => "ordering"
  | .idempotency => "idempotency"
  | .consistency => "consistency"
  | .freshness => "freshness"
  | .durability => "durability"
  | .isolation => "isolation"
  | .quorum => "quorum"
  | .performance => "performance"
  | .observability => "observability"
  | .recoverability => "recoverability"

structure InvariantDefinition where
  invariantId : String
  title : String
  family : InvariantFamily
  subjectId : String
  predicate : Predicate
  temporal : TemporalRequirement := {}
  description : String := ""
  affectedObjectives : List String := []

structure InvariantEvaluation where
  invariantId : String
  status : HealthStatus
  evaluatedAt : Int
  actualValue : Value
  expected : Value
  explanation : String
  evidenceEntityIds : List String

/-- Worlds with the seconds at which they were observed, the oldest first. -/
abbrev History := List (Int × World)

section Code

variable (texts : ValueTexts)

/-- `_status` -/
def statusOf : Option Bool → HealthStatus
  | some true => .healthy
  | some false => .unhealthy
  | none => .unknown

def baselineOf (windowStart : Int) (history : History) : Option (Int × World) :=
  (history.filter fun item => item.1 ≤ windowStart).getLast?

def changesOf (windowStart atSeconds : Int) (history : History) : History :=
  history.filter fun item => windowStart < item.1 ∧ item.1 ≤ atSeconds

/-- `_apply_temporal` with the operator `eventually` -/
def applyEventually (temporal : TemporalRequirement) (satisfied : Option Bool) (atSeconds : Int) :
    HealthStatus × String :=
  if satisfied = some true then (.healthy, "bounded eventuality has been satisfied")
  else match temporal.withinSeconds with
    | none => (.pending, "waiting for eventual satisfaction without a deadline")
    | some deadline =>
      if atSeconds < deadline then (.pending, s!"waiting until the {deadline}s deadline")
      else if satisfied = none then (.unknown, s!"deadline {deadline}s reached without sufficient evidence")
      else (.unhealthy, s!"deadline {deadline}s elapsed before satisfaction")

/-- `_apply_temporal` with the operator `stable_for` -/
def applyStable (invariant : InvariantDefinition) (satisfied : Option Bool) (atSeconds : Int)
    (history : History)
    (relationships : List Relationship) : HealthStatus × String :=
  match satisfied with
  | some false => (.unhealthy, "current state violates the stability predicate")
  | none => (.unknown, "current stability state is unobservable")
  | some true =>
    let required := invariant.temporal.stableForSeconds.getD 0
    let windowStart := atSeconds - required
    match baselineOf windowStart history with
    | none => (.pending, s!"less than {required}s of observation history is available")
    | some baseline =>
      let results := (baseline :: changesOf windowStart atSeconds history).map fun item =>
        (evaluate texts item.2 relationships invariant.predicate).satisfied
      if results.any fun satisfied => satisfied = none then
        (.unknown, "the stability window contains unknown observations")
      else if results.any fun satisfied => satisfied = some false then
        (.pending, s!"predicate has not remained true for {required}s")
      else (.healthy, s!"predicate remained true for at least {required}s")

/-- `_apply_temporal` -/
def applyTemporal (invariant : InvariantDefinition) (satisfied : Option Bool) (atSeconds : Int)
    (history : History)
    (relationships : List Relationship) : HealthStatus × String :=
  match invariant.temporal.operator with
  | .immediate => (statusOf satisfied, "")
  | .eventually => applyEventually invariant.temporal satisfied atSeconds
  | .stableFor => applyStable texts invariant satisfied atSeconds history relationships

/-- One turn of the loop of `evaluate_all`. -/
def evaluation (world : World) (atSeconds : Int) (history : History) (relationships : List Relationship)
    (invariant : InvariantDefinition) : InvariantEvaluation :=
  let result := evaluate texts world relationships invariant.predicate
  let applied := applyTemporal texts invariant result.satisfied atSeconds history relationships
  { invariantId := invariant.invariantId
    status := applied.1
    evaluatedAt := atSeconds
    actualValue := result.actual
    expected := result.expected
    explanation := if applied.2 = "" then result.explanation else result.explanation ++ "; " ++ applied.2
    evidenceEntityIds :=
      if result.evidenceEntityIds = [] then [invariant.subjectId] else result.evidenceEntityIds }

/-- An evaluation is only made at a time `ge=0`. -/
def InvariantEvaluation.validate (evaluation : InvariantEvaluation) : Except PyError InvariantEvaluation :=
  if evaluation.evaluatedAt < 0 then .error (.validationError "Input should be greater than or equal to 0")
  else .ok evaluation

/-- `InvariantEngine.evaluate_all` -/
def evaluateAll (invariants : List InvariantDefinition) (observedWorld : World) (atSeconds : Int)
    (observedHistory : Option History) (relationships : Option (List Relationship)) :
    Except PyError (List InvariantEvaluation) :=
  let history := match observedHistory with
    | some (first :: rest) => first :: rest
    | _ => [(atSeconds, observedWorld)]
  invariants.mapM fun invariant =>
    (evaluation texts observedWorld atSeconds history (relationships.getD []) invariant).validate

end Code

section Facts

variable {texts : ValueTexts} {invariants : List InvariantDefinition} {world : World} {atSeconds : Int}
variable {history : History} {relationships : Option (List Relationship)}
  {evaluations : List InvariantEvaluation}

theorem validate_eq_ok {made checked : InvariantEvaluation} (h : made.validate = .ok checked) :
    checked = made := by
  unfold InvariantEvaluation.validate at h
  split at h
  · cases h
  · exact (Except.ok.inj h).symm

theorem evaluateAll_eq_ok (hhistory : history ≠ [])
    (h : evaluateAll texts invariants world atSeconds (some history) relationships = .ok evaluations) :
    evaluations = invariants.map (evaluation texts world atSeconds history (relationships.getD [])) := by
  cases history with
  | nil => exact absurd rfl hhistory
  | cons first rest =>
    rw [← List.map_id evaluations]
    exact map_eq_of_mapM h fun _ _ hchecked => validate_eq_ok hchecked

theorem evaluateAll_ok (hhistory : history ≠ []) (htime : 0 ≤ atSeconds) :
    evaluateAll texts invariants world atSeconds (some history) relationships =
      .ok (invariants.map (evaluation texts world atSeconds history (relationships.getD []))) := by
  cases hresult : evaluateAll texts invariants world atSeconds (some history) relationships with
  | ok evaluations => rw [evaluateAll_eq_ok hhistory hresult]
  | error error =>
    cases history with
    | nil => exact absurd rfl hhistory
    | cons first rest =>
      have hok : ∀ invariant ∈ invariants, ∃ value,
          (evaluation texts world atSeconds (first :: rest) (relationships.getD []) invariant).validate =
            .ok value := by
        intro invariant _
        refine ⟨_, if_neg ?_⟩
        exact not_lt.mpr htime
      obtain ⟨values, hvalues⟩ := exists_mapM_ok hok
      rw [evaluateAll, hvalues] at hresult
      cases hresult

theorem status_applyStable (invariant : InvariantDefinition) (satisfied : Option Bool)
    (relationships : List Relationship) :
    (applyStable texts invariant satisfied atSeconds history relationships).1 ∈
      [HealthStatus.healthy, .unhealthy, .unknown, .pending] := by
  unfold applyStable
  cases satisfied with
  | none => simp
  | some satisfied =>
    cases satisfied with
    | false => simp
    | true =>
      dsimp only
      cases baselineOf (atSeconds - invariant.temporal.stableForSeconds.getD 0) history with
      | none => simp
      | some baseline =>
        dsimp only
        split
        · simp
        · split <;> simp

theorem status_evaluation (invariant : InvariantDefinition) (relationships : List Relationship) :
    (evaluation texts world atSeconds history relationships invariant).status ∈
      [HealthStatus.healthy, .unhealthy, .unknown, .pending] := by
  show (applyTemporal texts invariant _ atSeconds history relationships).1 ∈ _
  generalize (evaluate texts world relationships invariant.predicate).satisfied = satisfied
  unfold applyTemporal
  cases invariant.temporal.operator with
  | immediate => rcases satisfied with _ | _ | _ <;> simp [statusOf]
  | eventually =>
    dsimp only [applyEventually]
    split
    · simp
    · cases invariant.temporal.withinSeconds with
      | none => simp
      | some deadline =>
        dsimp only
        split
        · simp
        · split <;> simp
  | stableFor => exact status_applyStable invariant satisfied relationships

end Facts

end KubeOps.Invariants
