import KubeOps.Diagnosis.ProbeCoverage

/-! Symptoms and the facts behind them, from what the invariants of a profile were found to be. -/
namespace KubeOps.Diagnosis

open KubeOps.Foundation KubeOps.Models KubeOps.Invariants KubeOps.Health

section Code

/-- `_family_violation_fact`: type, statement and value. -/
def familyViolationFact (family : InvariantFamily) (actual : Value) : Option (String × String × Value) :=
  match family with
  | .existence => some ("entity.exists.false", "required entity does not exist", .bool false)
  | .reachability => some ("endpoint.reachable.false", "required endpoint is unreachable", .bool false)
  | .authentication => some ("authentication.state.failed", "authentication contract failed", actual)
  | .authorization => some ("authorization.denied", "authorization contract was denied", actual)
  | .placement => some ("placement.unsatisfied_constraint", "placement constraints are unsatisfied", actual)
  | .lifecycleProgress => some ("controller.progress.false", "controller is not converging", actual)
  | .readiness => some ("entity.ready.false", "component is not ready", .bool false)
  | .liveness => some ("entity.serviceable.false", "component is not live or serviceable", .bool false)
  | .capacity => some ("capacity.exhausted", "required capacity is exhausted", actual)
  | .consistency => some ("state.divergence", "state representations diverge", actual)
  | .freshness => some ("state.stale", "required state is stale", actual)
  | .observability => some ("observability.gap", "required evidence is unavailable", actual)
  | .configuration => some ("configuration.reference_invalid", "configuration contract is invalid", actual)
  | .structural => some ("configuration.reference_invalid", "structural relationship is invalid", actual)
  | .identityResolution => some ("configuration.reference_invalid",
      "identity or reference resolution failed", actual)
  | .compatibility | .ordering | .idempotency | .durability | .isolation | .quorum | .performance
  | .recoverability => none

def statusText : HealthStatus → String
  | .healthy => "healthy"
  | .degraded => "degraded"
  | .unhealthy => "unhealthy"
  | .unknown => "unknown"
  | .notApplicable => "not_applicable"
  | .pending => "pending"

variable (python : Python) (texts : ValueTexts)

def baseId (definition : InvariantDefinition) (evaluation : InvariantEvaluation)
    (assessmentId : String) : String :=
  let token :=
    s!"{assessmentId}:{definition.invariantId}:{statusText evaluation.status}:{texts.str evaluation.actualValue}"
  String.ofList ((python.sha256 token).toList.take 18)

def evaluationFact (definition : InvariantDefinition) (evaluation : InvariantEvaluation)
    (assessment : OperationalProfileAssessment) (suffix factType statement : String) (value : Value) :
      EvidenceFact where
  evidenceId := s!"ev-{baseId python texts definition evaluation assessment.assessmentId}-{suffix}"
  factType
  statement
  value
  subjectIds := definition.subjectId :: evaluation.evidenceEntityIds.filter (· ≠ definition.subjectId)
  collectorId := "health.invariant_evaluation.v1"
  observedAtIso := assessment.evaluatedAtIso
  attributes := Dict.ofList [("invariant_id", .str definition.invariantId),
    ("invariant_family", .str definition.family.text), ("health_status", .str (statusText evaluation.status)),
    ("expected", evaluation.expected)]

/-- `_facts_for_evaluation` -/
def factsForEvaluation (definition : InvariantDefinition) (evaluation : InvariantEvaluation)
    (assessment : OperationalProfileAssessment) : List EvidenceFact :=
  let status := statusText evaluation.status
  let fact := evaluationFact python texts definition evaluation assessment
  let facts := [
    fact "invariant" (if evaluation.status = .unhealthy then "invariant.violated" else s!"invariant.{status}")
      evaluation.explanation evaluation.actualValue,
    fact "family" s!"invariant.{definition.family.text}.{status}" evaluation.explanation evaluation.actualValue]
  if evaluation.status ≠ .unhealthy then facts
  else match familyViolationFact definition.family evaluation.actualValue with
    | none => facts
    | some (factType, statement, value) =>
        facts ++ [fact "semantic" factType s!"{definition.subjectId}: {statement}" value]

def symptomOf (definition : InvariantDefinition) (evaluation : InvariantEvaluation)
    (assessment : OperationalProfileAssessment) : Symptom where
  symptomId := "symptom-" ++ String.ofList ((python.sha256 evaluation.invariantId).toList.take 16)
  symptomType :=
    let status := if evaluation.status = .unhealthy then "violated" else statusText evaluation.status
    s!"invariant.{definition.family.text}.{status}"
  statement := evaluation.explanation
  subjectIds := distinct (definition.subjectId :: evaluation.evidenceEntityIds)
  invariantId := some definition.invariantId
  invariantFamily := some definition.family
  healthStatus := some evaluation.status
  causalRole := if evaluation.invariantId ∈ assessment.violatedInvariantIds then .initial else .unknown
  confidence := if evaluation.status = .unhealthy then 1 else 13 / 20
  evidenceIds := (factsForEvaluation python texts definition evaluation assessment).map fun item =>
    item.evidenceId
  firstObservedAtSeconds := some evaluation.evaluatedAt

/-- `existing.setdefault(fact.evidence_id, fact)` -/
def setDefault (existing : Dict String EvidenceFact) (fact : EvidenceFact) : Dict String EvidenceFact :=
  if existing.contains fact.evidenceId then existing else existing.set fact.evidenceId fact

def troubles (compiled : CompiledOperationalProfile) (assessment : OperationalProfileAssessment) :
    List (InvariantDefinition × InvariantEvaluation) :=
  let definitions := Dict.ofList (compiled.invariants.map fun item => (item.invariantId, item))
  assessment.evaluations.filterMap fun evaluation =>
    if evaluation.status = .healthy then none
    else (definitions.get? evaluation.invariantId).map fun definition => (definition, evaluation)

def evidenceById (evidence : List EvidenceFact) : Dict String EvidenceFact :=
  Dict.ofList (evidence.map fun item => (item.evidenceId, item))

def sortedFacts (existing : Dict String EvidenceFact) : List EvidenceFact :=
  sortedBy (fun item => item.evidenceId) existing.values

/-- `SymptomDeriver.derive` -/
def derive (compiled : CompiledOperationalProfile) (assessment : OperationalProfileAssessment)
    (evidence : List EvidenceFact) : List Symptom × List EvidenceFact :=
  let found := troubles compiled assessment
  let facts := found.flatMap fun trouble => factsForEvaluation python texts trouble.1 trouble.2 assessment
  (found.map fun trouble => symptomOf python texts trouble.1 trouble.2 assessment,
    sortedFacts (facts.foldl setDefault (evidenceById evidence)))

/-- `_merge_evidence` -/
def mergeEvidence (groups : List (List EvidenceFact)) : List EvidenceFact :=
  sortedFacts (evidenceById groups.flatten)

end Code

section Facts

variable {python : Python} {texts : ValueTexts} {compiled : CompiledOperationalProfile}
variable {assessment : OperationalProfileAssessment} {evidence : List EvidenceFact}

def idsOf (evidence : List EvidenceFact) : List String := evidence.map fun item => item.evidenceId

def Keyed (existing : Dict String EvidenceFact) : Prop :=
  ∀ entry ∈ existing.entries, entry.1 = entry.2.evidenceId

theorem keyed_set {existing : Dict String EvidenceFact} (h : Keyed existing) (fact : EvidenceFact) :
    Keyed (existing.set fact.evidenceId fact) := by
  intro entry hentry
  rcases Dict.mem_entries_set.mp hentry with rfl | ⟨-, hold⟩
  · rfl
  · exact h entry hold

theorem keyed_setDefault {existing : Dict String EvidenceFact} (h : Keyed existing) (fact : EvidenceFact) :
    Keyed (setDefault existing fact) := by
  unfold setDefault
  split
  · exact h
  · exact keyed_set h fact

theorem keyed_foldl_setDefault {existing : Dict String EvidenceFact} (h : Keyed existing)
    (facts : List EvidenceFact) :
    Keyed (facts.foldl setDefault existing) := by
  induction facts generalizing existing with
  | nil => exact h
  | cons fact rest ih => exact ih (keyed_setDefault h fact)

theorem keyed_evidenceById (evidence : List EvidenceFact) : Keyed (evidenceById evidence) := by
  intro entry hentry
  obtain ⟨item, -, rfl⟩ := List.mem_map.mp (Dict.mem_of_mem_ofList hentry)
  rfl

theorem perm_idsOf_sortedFacts {existing : Dict String EvidenceFact} (h : Keyed existing) :
    (idsOf (sortedFacts existing)).Perm existing.keys := by
  have hmap : existing.values.map (fun item => item.evidenceId) = existing.keys := by
    rw [Dict.values, Dict.keys, List.map_map]
    apply List.map_congr_left
    intro entry hentry
    exact (h entry hentry).symm
  rw [← hmap]
  exact (perm_sortedBy _ _).map _

theorem mem_keys_setDefault {existing : Dict String EvidenceFact} {fact : EvidenceFact} {evidenceId : String} :
    evidenceId ∈ (setDefault existing fact).keys ↔ evidenceId = fact.evidenceId ∨
      evidenceId ∈ existing.keys := by
  unfold setDefault
  split
  · rename_i hcontains
    exact ⟨Or.inr, fun h => h.elim (fun heq => heq ▸ of_decide_eq_true hcontains) id⟩
  · exact Dict.mem_keys_set

theorem mem_keys_foldl_setDefault {existing : Dict String EvidenceFact} {facts : List EvidenceFact}
    {evidenceId : String} :
    evidenceId ∈ (facts.foldl setDefault existing).keys ↔ evidenceId ∈ existing.keys ∨
      evidenceId ∈ idsOf facts := by
  induction facts generalizing existing with
  | nil => simp [idsOf]
  | cons fact rest ih =>
    rw [List.foldl_cons, ih, mem_keys_setDefault]
    simp only [idsOf, List.map_cons, List.mem_cons]
    tauto

theorem mem_keys_evidenceById {evidenceId : String} : evidenceId ∈ (evidenceById evidence).keys ↔
    evidenceId ∈ idsOf evidence := by
  rw [evidenceById, Dict.mem_keys_ofList, List.map_map]
  exact Iff.rfl

def troubleFacts (python : Python) (texts : ValueTexts) (compiled : CompiledOperationalProfile)
    (assessment : OperationalProfileAssessment) : List EvidenceFact :=
  (troubles compiled assessment).flatMap fun trouble =>
    factsForEvaluation python texts trouble.1 trouble.2 assessment

theorem mem_idsOf_derive {evidenceId : String} :
    evidenceId ∈ idsOf (derive python texts compiled assessment evidence).2 ↔
    evidenceId ∈ idsOf evidence ∨ evidenceId ∈ idsOf (troubleFacts python texts compiled assessment) := by
  have hkeyed := keyed_foldl_setDefault (keyed_evidenceById evidence)
    (troubleFacts python texts compiled assessment)
  show evidenceId ∈ idsOf (sortedFacts ((troubleFacts python texts compiled assessment).foldl setDefault
    (evidenceById evidence))) ↔ _
  rw [(perm_idsOf_sortedFacts hkeyed).mem_iff, mem_keys_foldl_setDefault, mem_keys_evidenceById]

theorem nodup_idsOf_derive : (idsOf (derive python texts compiled assessment evidence).2).Nodup :=
  (perm_idsOf_sortedFacts (keyed_foldl_setDefault (keyed_evidenceById evidence) _)).nodup_iff.mpr
    (Dict.keys_nodup _)

theorem mem_idsOf_mergeEvidence {groups : List (List EvidenceFact)} {evidenceId : String} :
    evidenceId ∈ idsOf (mergeEvidence groups) ↔ ∃ group ∈ groups, evidenceId ∈ idsOf group := by
  rw [mergeEvidence, (perm_idsOf_sortedFacts (keyed_evidenceById _)).mem_iff, mem_keys_evidenceById]
  simp only [idsOf, List.map_flatten, List.mem_flatten, List.mem_map]
  constructor
  · rintro ⟨_, ⟨group, hgroup, rfl⟩, hmem⟩
    exact ⟨group, hgroup, List.mem_map.mp hmem⟩
  · rintro ⟨group, hgroup, hmem⟩
    exact ⟨_, ⟨group, hgroup, rfl⟩, List.mem_map.mpr hmem⟩

theorem evidenceIds_of_mem_derive {symptom : Symptom}
    (h : symptom ∈ (derive python texts compiled assessment evidence).1) :
    ∀ evidenceId ∈ symptom.evidenceIds,
      evidenceId ∈ idsOf (derive python texts compiled assessment evidence).2 := by
  intro evidenceId hid
  obtain ⟨trouble, htrouble, rfl⟩ := List.mem_map.mp h
  obtain ⟨fact, hfact, rfl⟩ := List.mem_map.mp hid
  exact mem_idsOf_derive.mpr (.inr (List.mem_map_of_mem (List.mem_flatMap.mpr ⟨trouble, htrouble, hfact⟩)))

end Facts

end KubeOps.Diagnosis
