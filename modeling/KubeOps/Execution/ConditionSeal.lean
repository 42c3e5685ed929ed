import KubeOps.Execution.Certificates
import KubeOps.Invariants.Temporal
import KubeOps.Lifecycle.Planner

/-! Whether a seal says of an operation what its verification conditions say of the world: results are
looked up by the ids of the conditions, so that the last condition with an id speaks for all of them. -/
namespace KubeOps.Verification

open KubeOps.Foundation KubeOps.Models KubeOps.Discovery KubeOps.Invariants KubeOps.Lifecycle

section Engine

/-- `_subject` -/
def subjectOf (condition : VerificationCondition) : String :=
  let named := match condition.predicate with
    | .fieldEquals entityId _ _ | .fieldNotEquals entityId _ _ | .fieldExists entityId _ _ |
        .fieldGte entityId _ _
    | .fieldLte entityId _ _ => entityId
    | .relatedCountGte sourceEntityId _ _ _ _ _ => sourceEntityId
    | .fieldsEqual leftEntityId _ _ _ => leftEntityId
    | .allOf _ | .anyOf _ | .not _ => ""
  if named = "" then "environment" else named

def invariantOf (condition : VerificationCondition) : InvariantDefinition where
  invariantId := condition.conditionId
  title := condition.title
  family := .recoverability
  subjectId := subjectOf condition
  predicate := condition.predicate
  temporal := condition.temporal

def resultOf (atSeconds : Nat) (evaluation : InvariantEvaluation) : VerificationResult where
  resultId := s!"verification:{evaluation.invariantId}:{atSeconds}"
  conditionId := evaluation.invariantId
  status := evaluation.status
  evaluatedAtSeconds := atSeconds
  explanation := evaluation.explanation
  evidenceIds := evaluation.evidenceEntityIds
  actualValue := evaluation.actualValue.modelDump false

def worldOf (world : WorldState) : World := Dict.ofList (world.map fun entry => (entry.1, valueOfJson entry.2))

variable (texts : ValueTexts)

/-- `VerificationEngine.evaluate` -/
def VerificationEngine.evaluateAt (conditions : List VerificationCondition) (world : WorldState)
    (relationships : Option (List Relationship)) (atSeconds : Nat) (history : Option History) :
    Except PyError (List VerificationResult) := do
  let evaluations ← evaluateAll texts (conditions.map invariantOf) (worldOf world) atSeconds history
    (some (relationships.getD []))
  return evaluations.map (resultOf atSeconds)

def statusIn (world : WorldState) (relationships : Option (List Relationship)) (atSeconds : Nat)
    (history : Option History) (condition : VerificationCondition) : Option HealthStatus :=
  reported texts (invariantOf condition) (worldOf world) atSeconds history (some (relationships.getD []))

variable {texts} {conditions : List VerificationCondition} {world : WorldState}
variable {relationships : Option (List Relationship)} {atSeconds : Nat} {history : Option History}

theorem evaluateAt_ok : ∃ results,
    VerificationEngine.evaluateAt texts conditions world relationships atSeconds history = .ok results ∧
      results.map (fun result => (result.conditionId, some result.status)) =
        conditions.map fun condition =>
          (condition.conditionId, statusIn texts world relationships atSeconds history condition) := by
  refine ⟨_, by rw [VerificationEngine.evaluateAt, evaluateAll_eq]; rfl, ?_⟩
  simp only [List.map_map, statusIn, reported_eq]
  rfl

end Engine

section Lookup

variable {conditions : List VerificationCondition} {results : List VerificationResult}
variable {status : VerificationCondition → Option HealthStatus}

def speaker (conditions : List VerificationCondition) (condition : VerificationCondition) :
    VerificationCondition :=
  ((conditions.filter fun other => other.conditionId = condition.conditionId).getLast?).getD condition

theorem get?_statuses (hresults : results.map (fun result => (result.conditionId, some result.status)) =
      conditions.map fun condition => (condition.conditionId, status condition))
    {condition : VerificationCondition} (hcondition : condition ∈ conditions) :
    (statuses results).get? condition.conditionId = status (speaker conditions condition) := by
  obtain ⟨last, hlast⟩ : ∃ last,
      (conditions.filter fun other => other.conditionId = condition.conditionId).getLast? = some last := by
    apply Option.isSome_iff_exists.mp
    rw [List.getLast?_isSome]
    exact List.ne_nil_of_mem (List.mem_filter.mpr ⟨hcondition, decide_eq_true rfl⟩)
  have hfound := congrArg (fun pairs : List (String × Option HealthStatus) =>
    ((pairs.filter fun pair => pair.1 = condition.conditionId).getLast?).map Prod.snd) hresults
  simp only [List.filter_map, List.getLast?_map, Option.map_map, Function.comp_def, hlast,
    Option.map_some] at hfound
  rw [speaker, hlast, Option.getD_some, statuses, Dict.get?_ofList, List.filter_map, List.getLast?_map,
    Option.map_map]
  obtain ⟨result, hresult, hstatus⟩ := Option.map_eq_some_iff.mp hfound
  rw [← hstatus]
  exact congrArg (Option.map _) hresult

structure Passes (condition : VerificationCondition) (status : Option HealthStatus) : Prop where
  healthy : condition.required = true → status = some .healthy
  unviolated : condition.level = .sideEffectGuard → status ≠ some .unhealthy

theorem sealed_iff (hresults : results.map (fun result => (result.conditionId, some result.status)) =
      conditions.map fun condition => (condition.conditionId, status condition)) :
    successful conditions results = true ∧ protectedViolation conditions results = false ↔
      ∀ condition ∈ conditions, Passes condition (status (speaker conditions condition)) := by
  rw [← Execution.verified_iff]
  constructor
  · intro h condition hcondition
    rw [← get?_statuses hresults hcondition]
    exact ⟨h.healthy condition hcondition, h.unviolated condition hcondition⟩
  · intro h
    constructor
    · intro condition hcondition hrequired
      rw [get?_statuses hresults hcondition]
      exact (h condition hcondition).healthy hrequired
    · intro condition hcondition hlevel
      rw [get?_statuses hresults hcondition]
      exact (h condition hcondition).unviolated hlevel

end Lookup

section Seals

variable (texts : ValueTexts) (conditions : List VerificationCondition) (world : WorldState)
variable (relationships : Option (List Relationship)) (atSeconds : Nat) (history : Option History)

/-- The seal is a success if and only if each condition passes as it is found itself. -/
def SealsEach : Prop :=
  ∃ results, VerificationEngine.evaluateAt texts conditions world relationships atSeconds
    history = .ok results ∧
    (successful conditions results = true ∧ protectedViolation conditions results = false ↔
      ∀ condition ∈ conditions,
        Passes condition (statusIn texts world relationships atSeconds history condition))

/-- A condition that does not pass is hidden by the last one with its id, and nothing else stands in the way. -/
structure Hides : Prop where
  fails : ∃ condition ∈ conditions,
    ¬ Passes condition (statusIn texts world relationships atSeconds history condition)
  hidden : ∀ condition ∈ conditions,
    Passes condition (statusIn texts world relationships atSeconds history (speaker conditions condition))

/-- All conditions pass, but one of them does not pass with what the last one with its id was found to be. -/
structure Blames : Prop where
  passes : ∀ condition ∈ conditions,
    Passes condition (statusIn texts world relationships atSeconds history condition)
  blamed : ∃ condition ∈ conditions,
    ¬ Passes condition (statusIn texts world relationships atSeconds history (speaker conditions condition))

variable {texts conditions world relationships atSeconds history}

theorem sealsEach_iff : SealsEach texts conditions world relationships atSeconds history ↔
    ¬ Hides texts conditions world relationships atSeconds history ∧
      ¬ Blames texts conditions world relationships atSeconds history := by
  obtain ⟨results, hresults, hmap⟩ := @evaluateAt_ok texts conditions world relationships atSeconds history
  have hseal := sealed_iff hmap
  constructor
  · rintro ⟨found, hfound, hiff⟩
    obtain rfl := Except.ok.inj (hresults.symm.trans hfound)
    rw [hseal] at hiff
    constructor
    · rintro ⟨⟨condition, hcondition, hfails⟩, hhidden⟩
      exact hfails (hiff.mp hhidden condition hcondition)
    · rintro ⟨hpasses, condition, hcondition, hblamed⟩
      exact hblamed (hiff.mpr hpasses condition hcondition)
  · rintro ⟨hhides, hblames⟩
    refine ⟨results, hresults, hseal.trans ?_⟩
    constructor
    · intro hhidden
      by_contra hnot
      push Not at hnot
      exact hhides ⟨hnot, hhidden⟩
    · intro hpasses
      by_contra hnot
      push Not at hnot
      exact hblames ⟨hpasses, hnot⟩

end Seals

section Example

def readyCondition (entityId : String) : VerificationCondition where
  conditionId := "ready"
  title := "ready"
  predicate := .fieldEquals entityId "ready" (.bool true)
  level := .semanticHealth

def twoStages : LifecycleProfile :=
  LocalDevelopment.startup [{ stageId := "data", completionConditions := [readyCondition "database"] },
    { stageId := "web", dependsOnStageIds := ["data"], completionConditions := [readyCondition "web"] }]

def stagedConditions : List VerificationCondition :=
  twoStages.stages.flatMap LifecycleStageDefinition.completionConditions

def databaseDown : WorldState :=
  [("database", .dict [("ready", .bool false)]), ("web", .dict [("ready", .bool true)])]

def verdictOf (results : List VerificationResult) : Bool × Bool :=
  (successful stagedConditions results, protectedViolation stagedConditions results)

/-- The web server speaks for the database. -/
theorem staged_not_sealed_each :
    (∃ results, VerificationEngine.evaluateAt plainTexts stagedConditions databaseDown none
      0 none = .ok results ∧
      successful stagedConditions results = true ∧ protectedViolation stagedConditions results = false) ∧
    statusIn plainTexts databaseDown none 0 none (readyCondition "database") = some .unhealthy ∧
    ¬ SealsEach plainTexts stagedConditions databaseDown none 0 none := by
  have hverdict :
    (VerificationEngine.evaluateAt plainTexts stagedConditions databaseDown none 0 none).map verdictOf =
      .ok (true, false) := by decide
  have hstatus : statusIn plainTexts databaseDown none 0 none (readyCondition "database") =
    some .unhealthy := by decide
  cases hresults : VerificationEngine.evaluateAt plainTexts stagedConditions databaseDown none 0 none with
  | error error =>
    rw [hresults] at hverdict
    cases hverdict
  | ok results =>
    rw [hresults] at hverdict
    obtain ⟨hsuccessful, hprotected⟩ := Prod.mk.inj (Except.ok.inj hverdict)
    refine ⟨⟨results, rfl, hsuccessful, hprotected⟩, hstatus, ?_⟩
    rintro ⟨found, hfound, hiff⟩
    obtain rfl := Except.ok.inj (hresults.symm.trans hfound)
    have hpasses := hiff.mp ⟨hsuccessful, hprotected⟩ (readyCondition "database") List.mem_cons_self
    have hhealthy := hpasses.healthy rfl
    rw [hstatus] at hhealthy
    cases hhealthy

end Example

end KubeOps.Verification
