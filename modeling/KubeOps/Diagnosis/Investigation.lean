import KubeOps.Diagnosis.Symptoms

/-! Investigations are opened on a snapshot and a profile, and refined by probes, each of which
looks at a snapshot that may be a newer one. -/
namespace KubeOps.Diagnosis

open KubeOps.Foundation KubeOps.Models KubeOps.Invariants KubeOps.Health KubeOps.Topology

section Models

/-- What a handler passes to `_fact`. -/
structure FoundFact where
  factType : String
  statement : String
  subjects : List String
  value : Json := .null
  attributes : Option JsonObject := none
  authority : String := "authoritative"

inductive RunStatus where
  | completed | partly | failed | skipped
deriving DecidableEq, Repr

structure CollectorRunResult where
  collectorId : String
  intentId : String
  status : RunStatus
  evidence : List EvidenceFact := []

inductive CertificateVerdict where
  | rootCauseIdentified | failureClassIdentified | partialCausalChain | multiplePlausibleCauses
  | insufficientEvidence | unknownSemantics
deriving DecidableEq, Repr

structure DiagnosisCertificate where
  incidentId : String
  violatedInvariantIds : List String
  rootCauseHypothesisIds : List String
  ruledOutHypothesisIds : List String
  unresolvedHypothesisIds : List String
  unresolvedQuestions : List String
  evidenceIds : List String
  status : CertificateVerdict
  confidence : Rat
  nearestSupportedFamilyIds : List String

inductive IncidentStatus where
  | opened | investigating | diagnosed | insufficientEvidence | closed
deriving DecidableEq, Repr

structure IncidentTimelineEntry where
  sequence : Nat
  occurredAtIso : String
  eventType : String
  subjectIds : List String

structure HypothesisChange where
  familyId : String
  beforeStatus : Option HypothesisStatus
  afterStatus : HypothesisStatus
  beforeConfidence : Option Rat
  afterConfidence : Rat

structure ProbeRun where
  probe : ProbeIntent
  steps : List CollectorPlanStep
  collectorResults : List CollectorRunResult
  evidenceIds : List String
  status : RunStatus
  hypothesisChanges : List HypothesisChange

structure IncidentInvestigation where
  incidentId : String
  environmentId : String
  snapshotId : String
  profileId : String
  initialSymptom : String
  status : IncidentStatus
  createdAtIso : String
  updatedAtIso : String
  assessmentId : Option String
  violatedInvariantIds : List String
  symptoms : List Symptom
  evidence : List EvidenceFact
  hypotheses : List Hypothesis
  probePlan : List ProbeIntent
  probeRuns : List ProbeRun := []
  timeline : List IncidentTimelineEntry
  certificate : DiagnosisCertificate

/-- What a call of the service is given, with the identifiers and times that it makes up. -/
structure Inspection where
  snapshot : AssessedSnapshot
  sourceType : String
  profile : OperationalProfileSpec
  topology : TopologyGraph
  history : List AssessedSnapshot := []
  /-- The handlers, in the context of the call; an error is what a handler raises. -/
  handlers : String → Option (CollectorPlanStep → Except PyError (List FoundFact))
  evidenceBudget : Option Nat := some 5
  assessmentId : String
  compiledAtIso : String
  evaluatedAtIso : String
  nowIso : String
  newProbeId : String → String

end Models

section Validator

variable (python : Python)

/-- `sorted(missing)` -/
def missingIds (ids known : List String) : List String := (sortedSet ids).filter (· ∉ known)

def checkSymptom (evidenceIds : List String) (symptom : Symptom) : Except PyError Unit :=
  let missing := missingIds symptom.evidenceIds evidenceIds
  if missing ≠ [] then
    .error (.valueError ("symptom " ++ symptom.symptomId ++ " references unknown evidence " ++
      python.str (Json.strings missing)))
  else .ok ()

def checkHypothesis (evidenceIds symptomIds hypothesisIds : List String) (hypothesis : Hypothesis) :
    Except PyError Unit :=
  let missingSymptoms := missingIds hypothesis.explainsSymptomIds symptomIds
  let missingEvidence :=
    missingIds (hypothesis.supportingEvidenceIds ++ hypothesis.contradictingEvidenceIds) evidenceIds
  let start := "hypothesis " ++ hypothesis.hypothesisId ++ " references unknown "
  if missingSymptoms ≠ [] then .error
    (.valueError (start ++ "symptoms " ++ python.str (Json.strings missingSymptoms)))
  else if missingEvidence ≠ [] then .error
    (.valueError (start ++ "evidence " ++ python.str (Json.strings missingEvidence)))
  else match hypothesis.parentHypothesisId with
    | none => .ok ()
    | some parent =>
      if parent ≠ "" ∧ parent ∉ hypothesisIds then .error
        (.valueError (start ++ "parent " ++ parent)) else .ok ()

/-- `IncidentInvestigation.validate_references` -/
def IncidentInvestigation.validateReferences (incident : IncidentInvestigation) : Except PyError Unit := do
  let evidenceIds := idsOf incident.evidence
  let symptomIds := incident.symptoms.map fun item => item.symptomId
  let hypothesisIds := incident.hypotheses.map fun item => item.hypothesisId
  incident.symptoms.forM (checkSymptom python evidenceIds)
  incident.hypotheses.forM (checkHypothesis python evidenceIds symptomIds hypothesisIds)

end Validator

section Certificate

/-- `_minimal_roots` -/
def minimalRoots (items : List Hypothesis) : List Hypothesis :=
  items.filter fun item => match item.parentHypothesisId with
    | none => true
    | some parent => parent = "" || parent ∉ items.map fun other => other.hypothesisId

def isRejected (item : Hypothesis) : Bool := item.status ∈ [HypothesisStatus.ruledOut, .contradicted]

/-- `DiagnosisCertificateBuilder.build` -/
def buildCertificate (incidentId : String) (violatedInvariantIds : List String) (hypotheses : List Hypothesis)
    (evidence : List EvidenceFact) : DiagnosisCertificate :=
  let nonGeneric := hypotheses.filter fun item => !item.generic && !isRejected item
  let proven := nonGeneric.filter fun item => item.status = .proven
  let supported := nonGeneric.filter fun item => item.status = .supported
  let candidates := nonGeneric.filter fun item => item.status ∈ [HypothesisStatus.candidate, .unresolved]
  let generic := hypotheses.filter fun item => item.generic && !isRejected item
  let roots : List Hypothesis × CertificateVerdict :=
    if proven ≠ [] then
      (minimalRoots proven, if (minimalRoots proven).length =
        1 then .rootCauseIdentified else .multiplePlausibleCauses)
    else if supported ≠ [] then
      (minimalRoots supported,
        if (minimalRoots supported).length = 1 then .failureClassIdentified else .multiplePlausibleCauses)
    else if candidates ≠ [] then ([], .insufficientEvidence)
    else match generic with
      | first :: _ => ([first], .partialCausalChain)
      | [] => ([], .unknownSemantics)
  let rootIds := roots.1.map fun item => item.hypothesisId
  let selected := hypotheses.filter fun item => item.hypothesisId ∈ rootIds
  { incidentId
    violatedInvariantIds
    rootCauseHypothesisIds := rootIds
    ruledOutHypothesisIds := (hypotheses.filter isRejected).map fun item => item.hypothesisId
    unresolvedHypothesisIds := candidates.map fun item => item.hypothesisId
    unresolvedQuestions := sortedSet ((supported ++ candidates).flatMap fun item => item.requiredProbeIds)
    evidenceIds := idsOf evidence
    status := roots.2
    confidence := if selected = [] then 0
      else round4 ((selected.map fun item => item.confidence).sum / (selected.length : Rat))
    nearestSupportedFamilyIds := sortedSet ((selected ++ generic).map fun item => item.familyId) }

/-- `_incident_status` -/
def incidentStatus : CertificateVerdict → IncidentStatus
  | .rootCauseIdentified | .failureClassIdentified => .diagnosed
  | .insufficientEvidence | .unknownSemantics => .insufficientEvidence
  | .partialCausalChain | .multiplePlausibleCauses => .investigating

end Certificate

section Executor

variable (python : Python) (catalog : DiagnosticCatalog)

/-- `_fact`, of a snapshot -/
def collectedFact (snapshot : AssessedSnapshot) (step : CollectorPlanStep) (found : FoundFact) : EvidenceFact :=
  let attributesText :=
    (found.attributes.map fun attributes => python.str (.dict attributes.entries)).getD "None"
  let token := s!"{snapshot.snapshotId}:{step.collectorId}:{step.intentId}:{found.factType}:" ++
    s!"{python.str (Json.strings found.subjects)}:{python.str found.value}:{attributesText}"
  { evidenceId := "ev-" ++ String.ofList ((python.sha256 token).toList.take 20)
    factType := found.factType
    statement := found.statement
    value := Discovery.valueOfJson found.value
    subjectIds := found.subjects
    intentId := some step.intentId
    collectorId := step.collectorId
    observedAtIso := snapshot.completedAtIso
    authority := found.authority
    attributes := (found.attributes.getD ∅).mapValues Discovery.valueOfJson }

/-- One turn of `EvidenceExecutor.execute`. -/
def executeStep (call : Inspection) (step : CollectorPlanStep) : Except PyError CollectorRunResult :=
  match catalog.collectors.get? step.collectorId with
  | none => .error (.registryError s!"collectors does not contain {step.collectorId}")
  | some definition =>
    let result : RunStatus → List EvidenceFact → CollectorRunResult := fun status evidence =>
      { collectorId := definition.collectorId, intentId := step.intentId, status, evidence }
    match call.handlers definition.handlerId with
    | none => .ok (result .failed [])
    | some handler =>
      match handler step with
      | .error _ => .ok (result .failed [])
      | .ok [] => .ok (result .partly [])
      | .ok (first :: rest) =>
          .ok (result .completed ((first :: rest).map (collectedFact python call.snapshot step)))

def execute (call : Inspection) (steps : List CollectorPlanStep) : Except PyError (List CollectorRunResult) :=
  steps.mapM (executeStep python catalog call)

end Executor

section Service

-- `parseFloat`, `localOffset` and `formatClaim` are those of the health engine and of the hypotheses.
variable (python : Python) (parseFloat : String → Option Rat) (texts : ValueTexts) (localOffset : Int → Int)
  (formatClaim : String → String → String → String) (catalog : DiagnosticCatalog)

def Inspection.assess (call : Inspection) : Except PyError OperationalProfileAssessment :=
  Health.assess python parseFloat texts localOffset call.profile call.snapshot call.history call.assessmentId
    call.compiledAtIso call.evaluatedAtIso

def Inspection.compile (call : Inspection) : Except PyError CompiledOperationalProfile :=
  Health.compile python parseFloat call.profile call.snapshot call.compiledAtIso

def capabilities : List String := ["snapshot", "topology"]

/-- What both calls make of the evidence that is merged. -/
structure Refinement where
  symptoms : List Symptom
  evidence : List EvidenceFact
  hypotheses : List Hypothesis
  probePlan : List ProbeIntent
  certificate : DiagnosisCertificate

def diagnose (call : Inspection) (incidentId : String) (compiled : CompiledOperationalProfile)
    (assessment : OperationalProfileAssessment) (evidence : List EvidenceFact) : Except PyError Refinement := do
  let derived := derive python texts compiled assessment evidence
  let hypotheses ← generate python formatClaim catalog derived.1 derived.2 call.topology
  let probePlan ← ProbePlanner.plan catalog call.newProbeId hypotheses derived.2 call.evidenceBudget
  return { symptoms := derived.1, evidence := derived.2, hypotheses, probePlan
           certificate := buildCertificate incidentId assessment.violatedInvariantIds hypotheses derived.2 }

def baselineIntents (subjectIds : List String) : Except PyError (List EvidenceIntent) :=
  ["entity.current_state.v1", "dependency.path.v1", "observability.quality.v1"].mapM fun intentId =>
    (catalog.intent intentId).map fun intent => { intent with subjectIds }

def affectedSubjects (symptoms : List Symptom) : List String :=
  sortedSet (symptoms.flatMap fun item => item.subjectIds)

/-- `_initial_symptom` -/
def initialSymptomOf : List Symptom → String
  | [] => "No violated or unknown operational invariants were detected."
  | first :: _ => first.statement

def openingTimeline (nowIso : String) (subjectIds : List String) : List IncidentTimelineEntry := [
  ⟨0, nowIso, "incident.opened", subjectIds⟩,
  ⟨1, nowIso, "evidence.baseline_collected", subjectIds⟩,
  ⟨2, nowIso, "diagnosis.generated", subjectIds⟩]

/-- `InvestigationService.open` -/
def openIncident (call : Inspection) (incidentId : String) (initialSymptom : Option String) :
    Except PyError IncidentInvestigation := do
  let assessment ← call.assess python parseFloat texts localOffset
  let compiled ← call.compile python parseFloat
  let seed := derive python texts compiled assessment []
  let subjects := affectedSubjects seed.1
  let intents ← baselineIntents catalog subjects
  let plan := EvidencePlanner.plan catalog call.sourceType capabilities intents
    (seed.2.map fun item => item.factType)
  let results ← execute python catalog call plan.steps
  let evidence := mergeEvidence (seed.2 :: results.map fun result => result.evidence)
  let diagnosis ← diagnose python texts formatClaim catalog call incidentId compiled assessment evidence
  let incident : IncidentInvestigation := {
    incidentId
    environmentId := call.snapshot.environmentId
    snapshotId := call.snapshot.snapshotId
    profileId := call.profile.profileId
    initialSymptom := (initialSymptom.filter (· ≠ "")).getD (initialSymptomOf diagnosis.symptoms)
    status := incidentStatus diagnosis.certificate.status
    createdAtIso := call.nowIso
    updatedAtIso := call.nowIso
    assessmentId := some assessment.assessmentId
    violatedInvariantIds := assessment.violatedInvariantIds
    symptoms := diagnosis.symptoms
    evidence := diagnosis.evidence
    hypotheses := diagnosis.hypotheses
    probePlan := diagnosis.probePlan
    timeline := openingTimeline call.nowIso subjects
    certificate := diagnosis.certificate }
  incident.validateReferences python
  return incident

def changeOf (previous : Dict String Hypothesis) (item : Hypothesis) : Option HypothesisChange :=
  let before := previous.get? item.familyId
  if (before.map fun other => other.status) = some item.status ∧
    (before.map fun other => other.confidence) = some item.confidence
    then none
  else some ⟨item.familyId, before.map fun other => other.status, item.status,
    before.map fun other => other.confidence,
    item.confidence⟩

/-- The reported changes, the last of each family. -/
def hypothesisChanges (before after : List Hypothesis) : List HypothesisChange :=
  let previous := Dict.ofList (before.map fun item => (item.familyId, item))
  (Dict.ofList ((after.filterMap (changeOf previous)).map fun change => (change.familyId, change))).values

def collectForProbe (incident : IncidentInvestigation) (probe : ProbeIntent) (call : Inspection) :
    Except PyError (List CollectorPlanStep × List CollectorRunResult) := do
  let intent ← catalog.intent probe.evidenceIntentId
  let plan := EvidencePlanner.plan catalog call.sourceType capabilities [probedIntent intent probe]
    (incident.evidence.map fun item => item.factType)
  let results ← execute python catalog call plan.steps
  return (plan.steps, results)

def probeTimeline (incident : IncidentInvestigation) (probe : ProbeIntent) (nowIso : String) :
    List IncidentTimelineEntry :=
  incident.timeline ++ [
    ⟨incident.timeline.length, nowIso, "probe.completed", probe.subjectIds⟩,
    ⟨incident.timeline.length + 1, nowIso, "diagnosis.refined", probe.subjectIds⟩]

/-- `InvestigationService.run_probe` -/
def runProbe (incident : IncidentInvestigation) (probeId : String) (call : Inspection) :
    Except PyError IncidentInvestigation :=
  match incident.probePlan.find? fun item => item.probeId = probeId with
  | none => .error (.keyError s!"unknown probe {probeId}")
  | some probe => do
    let assessment ← call.assess python parseFloat texts localOffset
    let compiled ← call.compile python parseFloat
    let collected ← collectForProbe python catalog incident probe call
    let evidence := mergeEvidence (incident.evidence :: collected.2.map fun result => result.evidence)
    let diagnosis ← diagnose python texts formatClaim catalog call incident.incidentId compiled
      assessment evidence
    let run : ProbeRun := {
      probe
      steps := collected.1
      collectorResults := collected.2
      evidenceIds := collected.2.flatMap fun result => idsOf result.evidence
      status :=
        if collected.2 ≠ [] ∧
          (collected.2.all fun item => item.status = .completed) = true then .completed else .partly
      hypothesisChanges := hypothesisChanges incident.hypotheses diagnosis.hypotheses }
    return { incident with
      status := incidentStatus diagnosis.certificate.status
      updatedAtIso := call.nowIso
      symptoms := diagnosis.symptoms
      evidence := diagnosis.evidence
      hypotheses := diagnosis.hypotheses
      probePlan := diagnosis.probePlan
      probeRuns := incident.probeRuns ++ [run]
      timeline := probeTimeline incident probe call.nowIso
      certificate := diagnosis.certificate }

end Service

end KubeOps.Diagnosis
