import KubeOps.Diagnosis.Completeness
import KubeOps.Health.Masking

/-! The references of an incident resolve after every probe, and its timeline is numbered; what it
says to be violated stays that of the assessment it was opened on. -/
namespace KubeOps.Diagnosis

open KubeOps.Foundation KubeOps.Models KubeOps.Invariants KubeOps.Health KubeOps.Topology

variable {python : Python} {parseFloat : String → Option Rat} {texts : ValueTexts} {localOffset : Int → Int}
variable {formatClaim : String → String → String → String} {catalog : DiagnosticCatalog}
variable {symptoms : List Symptom} {evidence : List EvidenceFact} {hypotheses : List Hypothesis}
variable {topology : TopologyGraph} {incident next : IncidentInvestigation} {call : Inspection}

section Runs

variable (python parseFloat texts localOffset formatClaim catalog)

/-- What an incident goes through: it is opened, and probes are run on it, each with a call of its own.
The assessments are that of the opening and the latest. -/
inductive Investigated : IncidentInvestigation → OperationalProfileAssessment →
    OperationalProfileAssessment → Prop
  | opened {call : Inspection} {incidentId : String} {initialSymptom : Option String}
      {incident : IncidentInvestigation}
      {assessment : OperationalProfileAssessment} (hassess : call.assess python parseFloat texts localOffset =
        .ok assessment)
      (hopen : openIncident python parseFloat texts localOffset formatClaim catalog call incidentId
        initialSymptom = .ok incident) :
      Investigated incident assessment assessment
  | probed {incident next : IncidentInvestigation} {first last assessment : OperationalProfileAssessment}
      {call : Inspection} {probeId : String} (hincident : Investigated incident first last)
      (hassess : call.assess python parseFloat texts localOffset = .ok assessment)
      (hrun : runProbe python parseFloat texts localOffset formatClaim catalog incident probeId
        call = .ok next) :
      Investigated next first assessment

/-- One assessment is behind what is violated, the symptoms and the certificate. -/
def DescribesOne (incident : IncidentInvestigation) : Prop :=
  ∃ compiled assessment evidence, incident.violatedInvariantIds = assessment.violatedInvariantIds ∧
    incident.symptoms = (derive python texts compiled assessment evidence).1 ∧
    incident.certificate.violatedInvariantIds = assessment.violatedInvariantIds

/-- The references resolve, the timeline is numbered from nothing on, and one assessment is described. -/
structure SelfConsistent (incident : IncidentInvestigation) : Prop where
  references : incident.validateReferences python = .ok ()
  timeline : incident.timeline.map (fun item => item.sequence) = List.range incident.timeline.length
  describesOne : DescribesOne python texts incident

end Runs

section Steps

variable {compiled : CompiledOperationalProfile} {first last assessment : OperationalProfileAssessment}
variable {incidentId probeId : String} {initialSymptom : Option String} {refinement : Refinement}

theorem openIncident_eq_ok (hassess : call.assess python parseFloat texts localOffset = .ok assessment)
    (h : openIncident python parseFloat texts localOffset formatClaim catalog call incidentId initialSymptom =
      .ok incident) :
    ∃ compiled evidence refinement, call.compile python parseFloat = .ok compiled ∧
      diagnose python texts formatClaim catalog call incidentId compiled assessment evidence = .ok refinement ∧
      incident.symptoms = refinement.symptoms ∧ incident.evidence = refinement.evidence ∧
      incident.hypotheses = refinement.hypotheses ∧ incident.probePlan = refinement.probePlan ∧
      incident.certificate = refinement.certificate ∧
      incident.violatedInvariantIds = assessment.violatedInvariantIds ∧
      ∃ subjects, incident.timeline = openingTimeline call.nowIso subjects := by
  obtain ⟨found, hfound, h⟩ := except_bind_eq_ok h
  rw [hassess] at hfound
  obtain rfl := Except.ok.inj hfound
  obtain ⟨compiled, hcompiled, h⟩ := except_bind_eq_ok h
  obtain ⟨intents, -, h⟩ := except_bind_eq_ok h
  obtain ⟨results, -, h⟩ := except_bind_eq_ok h
  obtain ⟨refinement, hrefinement, h⟩ := except_bind_eq_ok h
  obtain ⟨-, -, h⟩ := except_bind_eq_ok h
  obtain rfl := Except.ok.inj h
  exact ⟨compiled, _, refinement, hcompiled, hrefinement, rfl, rfl, rfl, rfl, rfl, rfl, _, rfl⟩

theorem runProbe_eq_ok (hassess : call.assess python parseFloat texts localOffset = .ok assessment)
    (h : runProbe python parseFloat texts localOffset formatClaim catalog incident probeId call = .ok next) :
    ∃ compiled probe collected refinement, call.compile python parseFloat = .ok compiled ∧
      probe ∈ incident.probePlan ∧ collectForProbe python catalog incident probe call = .ok collected ∧
      diagnose python texts formatClaim catalog call incident.incidentId compiled assessment
        (mergeEvidence (incident.evidence :: collected.2.map fun result => result.evidence)) = .ok refinement ∧
      next.symptoms = refinement.symptoms ∧ next.evidence = refinement.evidence ∧
      next.hypotheses = refinement.hypotheses ∧ next.probePlan = refinement.probePlan ∧
      next.certificate = refinement.certificate ∧
      next.violatedInvariantIds = incident.violatedInvariantIds ∧
      next.timeline = probeTimeline incident probe call.nowIso := by
  unfold runProbe at h
  split at h
  · cases h
  · rename_i probe hprobe
    obtain ⟨found, hfound, h⟩ := except_bind_eq_ok h
    rw [hassess] at hfound
    obtain rfl := Except.ok.inj hfound
    obtain ⟨compiled, hcompiled, h⟩ := except_bind_eq_ok h
    obtain ⟨collected, hcollected, h⟩ := except_bind_eq_ok h
    obtain ⟨refinement, hrefinement, h⟩ := except_bind_eq_ok h
    obtain rfl := Except.ok.inj h
    exact ⟨compiled, probe, collected, refinement, hcompiled, List.mem_of_find?_eq_some hprobe,
      hcollected, hrefinement,
      rfl, rfl, rfl, rfl, rfl, rfl, rfl⟩

/-- What holds after the opening and after each probe. -/
structure Invariant (python : Python) (texts : ValueTexts) (first last : OperationalProfileAssessment)
    (incident : IncidentInvestigation) : Prop where
  resolved : Resolved incident.symptoms incident.evidence incident.hypotheses
  timeline : incident.timeline.map (fun item => item.sequence) = List.range incident.timeline.length
  symptoms : ∃ compiled evidence, incident.symptoms = (derive python texts compiled last evidence).1
  violated : incident.violatedInvariantIds = first.violatedInvariantIds
  certified : incident.certificate.violatedInvariantIds = last.violatedInvariantIds

theorem invariant_of_investigated
    (h : Investigated python parseFloat texts localOffset formatClaim catalog incident first last) :
    Invariant python texts first last incident := by
  induction h with
  | opened hassess hopen =>
    obtain ⟨compiled, evidence, refinement, -, hrefinement, hsymptoms, hevidence, hhypotheses, -,
      hcertificate, hviolated,
      subjects, htimeline⟩ := openIncident_eq_ok hassess hopen
    obtain ⟨hresolved, hderived, -, hcertified⟩ := diagnose_eq_ok hrefinement
    refine ⟨?_, ?_, ⟨compiled, evidence, hsymptoms.trans hderived⟩, hviolated, ?_⟩
    · rw [hsymptoms, hevidence, hhypotheses]
      exact hresolved
    · rw [htimeline]
      rfl
    · rw [hcertificate]
      exact hcertified
  | probed _ hassess hrun ih =>
    obtain ⟨compiled, probe, collected, refinement, -, -, -, hrefinement, hsymptoms, hevidence, hhypotheses,
      -, hcertificate,
      hviolated, htimeline⟩ := runProbe_eq_ok hassess hrun
    obtain ⟨hresolved, hderived, -, hcertified⟩ := diagnose_eq_ok hrefinement
    refine ⟨?_, ?_, ⟨compiled, _, hsymptoms.trans hderived⟩, hviolated.trans ih.violated, ?_⟩
    · rw [hsymptoms, hevidence, hhypotheses]
      exact hresolved
    · rw [htimeline, probeTimeline, List.map_append, ih.timeline, List.length_append]
      show _ = List.range (_ + 1 + 1)
      rw [List.range_succ, List.range_succ, List.append_assoc]
      rfl
    · rw [hcertificate]
      exact hcertified

theorem violated_of_describesOne
    (h : Investigated python parseFloat texts localOffset formatClaim catalog incident first last)
    (hone : DescribesOne python texts incident) : last.violatedInvariantIds = first.violatedInvariantIds := by
  have hinvariant := invariant_of_investigated h
  obtain ⟨compiled, assessment, evidence, hviolated, -, hcertified⟩ := hone
  rw [← hinvariant.certified, hcertified, ← hviolated, hinvariant.violated]

/-- An incident is consistent, after any probes, exactly where its latest assessment finds violated what
the first one found. -/
theorem selfConsistent_iff
    (h : Investigated python parseFloat texts localOffset formatClaim catalog incident first last) :
    SelfConsistent python texts incident ↔ last.violatedInvariantIds = first.violatedInvariantIds := by
  have hinvariant := invariant_of_investigated h
  constructor
  · intro hconsistent
    exact violated_of_describesOne h hconsistent.describesOne
  · intro hsame
    obtain ⟨compiled, evidence, hsymptoms⟩ := hinvariant.symptoms
    refine ⟨validateReferences_ok python hinvariant.resolved, hinvariant.timeline, compiled, last, evidence,
      ?_, hsymptoms,
      hinvariant.certified⟩
    rw [hinvariant.violated, hsame]

end Steps

section Example

def observabilityQuality : EvidenceIntent where
  intentId := "observability.quality.v1"
  questionsAnswered := ["missing_evidence", "stale_evidence", "contradictory_evidence", "permission_gap"]
  requiredFactTypes := ["observability.quality"]
  preferredCollectorIds := ["snapshot.observability_quality.v1", "snapshot.permission_gaps.v1"]

def incidentCatalog : DiagnosticCatalog :=
  { readinessCatalog with
    intents := readinessCatalog.intents.set "observability.quality.v1" observabilityQuality }

def podHandlers (handlerId : String) : Option (CollectorPlanStep → Except PyError (List FoundFact)) :=
  some fun _ => .ok (if handlerId = "entity_state" then
    [{
      factType := "entity.exists"
      statement := "pod.web exists."
      subjects := ["pod.web"]
      value := .bool true }] else [])

def podCall (ready : Bool) (assessmentId : String) : Inspection where
  snapshot := snapshotOf [podNamed "pod.web" dotted_ne ready]
  sourceType := "live"
  profile := podsReady
  topology := graphOf Python.plain [] []
  handlers := podHandlers
  assessmentId
  compiledAtIso := assessedAt
  evaluatedAtIso := assessedAt
  nowIso := assessedAt
  newProbeId := id

/-- Digests of 64 characters that tell the texts below apart by their ends. -/
def paddedDigest (text : String) : String :=
  String.ofList ((text.toList.take 6 ++ text.toList.reverse ++ List.replicate 64 '0').take 64)

def digestPython : Python := { clockPython with sha256 := paddedDigest }

def openPod : Except PyError IncidentInvestigation :=
  openIncident digestPython (fun _ => none) plainTexts (fun _ => 0) plainClaim incidentCatalog
    (podCall false "first")
    "incident" none

def probePod (ready : Bool) (incident : IncidentInvestigation) : Except PyError IncidentInvestigation :=
  runProbe digestPython (fun _ => none) plainTexts (fun _ => 0) plainClaim incidentCatalog incident
    "entity.current_state.v1" (podCall ready "later")

def assessPod (ready : Bool) (assessmentId : String) : Except PyError OperationalProfileAssessment :=
  (podCall ready assessmentId).assess digestPython (fun _ => none) plainTexts (fun _ => 0)

def PodInvestigated (incident : IncidentInvestigation) (first last : OperationalProfileAssessment) : Prop :=
  Investigated digestPython (fun _ => none) plainTexts
    (fun _ => 0) plainClaim incidentCatalog incident first last

theorem assessPod_unready : ∃ first, assessPod false "first" = .ok first ∧
    first.violatedInvariantIds = ["pods-ready:pod_web"] := exists_ok_of_toOption (by decide)

theorem complete_incidentCatalog : Complete incidentCatalog := by
  refine ⟨⟨invariantViolation, rfl⟩, ?_, ?_⟩
  · have hall : ∀ template ∈ incidentCatalog.templates.values, ∀ intentId ∈ template.evidenceIntentIds,
        (incidentCatalog.intents.get? intentId).isSome = true := by decide
    intro template htemplate intentId hid
    obtain ⟨intent, hintent⟩ := Option.isSome_iff_exists.mp (hall template htemplate intentId hid)
    exact ⟨intent, by rw [DiagnosticCatalog.intent, hintent]⟩
  · have hall : ∀ definition ∈ incidentCatalog.collectors.values,
        (incidentCatalog.collectors.get? definition.collectorId).isSome = true := by decide
    exact fun definition hdefinition => Option.isSome_iff_exists.mp (hall definition hdefinition)

theorem getElem?_paddedDigest {text : String} {one two three four : Char} {rest : List Char}
    (h : text.toList.reverse = one :: two :: three :: four :: rest) (hlong : 6 ≤ text.toList.length) :
    ((paddedDigest text).toList.take 18)[9]? = some four := by
  have htaken : (text.toList.take 6).length = 6 := by rw [List.length_take, Nat.min_eq_left hlong]
  rw [paddedDigest, String.toList_ofList, List.take_take, List.getElem?_take_of_lt (by decide), h,
    List.append_assoc,
    List.getElem?_append_right (by rw [htaken]; decide), htaken]
  rfl

theorem getElem?_hypothesisId {template : CausalTemplate} {one two three four : Char} {rest : List Char}
    (h : template.templateId.toList.reverse = one :: two :: three :: four :: rest)
    (hlong : 6 ≤ template.templateId.toList.length) (symptom : Symptom) :
    ((paddedDigest s!"{symptom.symptomId}:{template.templateId}").toList.take 18)[9]? = some four := by
  have htext : s!"{symptom.symptomId}:{template.templateId}".toList =
      (symptom.symptomId ++ ":").toList ++ template.templateId.toList := String.toList_append ..
  have hend : s!"{symptom.symptomId}:{template.templateId}".toList.reverse =
      one :: two :: three :: four :: (rest ++ (symptom.symptomId ++ ":").toList.reverse) := by
    rw [htext, List.reverse_append, h]
    rfl
  apply getElem?_paddedDigest hend
  rw [htext, List.length_append]
  omega

theorem hypothesisId_ne (one two : Symptom) :
    hypothesisId digestPython one invariantViolation ≠ hypothesisId digestPython two notServiceable := by
  intro h
  have hdigests := String.ofList_injective (String.append_right_inj _ |>.mp h)
  have hgeneric : invariantViolation.templateId.toList.reverse =
      '1' :: 'v' :: '.' :: 'n' :: (invariantViolation.templateId.toList.reverse.drop 4) := by decide
  have hspecific : notServiceable.templateId.toList.reverse =
      '1' :: 'v' :: '.' :: 'e' :: (notServiceable.templateId.toList.reverse.drop 4) := by decide
  have hfirst := getElem?_hypothesisId hgeneric (by decide) one
  have hsecond := getElem?_hypothesisId hspecific (by decide) two
  have hsame : ((paddedDigest s!"{one.symptomId}:{invariantViolation.templateId}").toList.take 18)[9]? =
      ((paddedDigest s!"{two.symptomId}:{notServiceable.templateId}").toList.take 18)[9]? := by
    exact congrArg (·[9]?) hdigests
  rw [hfirst, hsecond] at hsame
  exact absurd hsame (by decide)

theorem pod_templates : ∀ template ∈ incidentCatalog.templates.values,
    template = invariantViolation ∨ template = notServiceable := by decide

theorem known_baseline : ∀ intentId ∈ ["entity.current_state.v1", "dependency.path.v1",
    "observability.quality.v1"],
    ∃ intent, incidentCatalog.intent intentId = .ok intent := by
  have hall : ∀ intentId ∈ ["entity.current_state.v1", "dependency.path.v1", "observability.quality.v1"],
      (incidentCatalog.intents.get? intentId).isSome = true := by decide
  intro intentId hid
  obtain ⟨intent, hintent⟩ := Option.isSome_iff_exists.mp (hall intentId hid)
  exact ⟨intent, by rw [DiagnosticCatalog.intent, hintent]⟩

theorem exists_notServiceable {symptom : Symptom}
    (hgenerate : generate digestPython plainClaim incidentCatalog symptoms evidence topology = .ok hypotheses)
    (hsymptom : symptom ∈ symptoms) (hfamily : symptom.invariantFamily = some .readiness) :
    ∃ hypothesis ∈ hypotheses, ∃ other ∈ symptoms, ∃ parent unexplained,
      hypothesis = { hypothesisOf digestPython plainClaim evidence other parent notServiceable with
        unexplainedSymptomIds := unexplained } := by
  have hgeneric : incidentCatalog.template "operational.invariant_violation.v1" = .ok invariantViolation := rfl
  have hconsidered : notServiceable ∈ considered incidentCatalog invariantViolation topology symptom := by
    have hfound : notServiceable ∈ incidentCatalog.templatesForFamily .readiness := by decide
    refine List.mem_filter.mpr ⟨(List.mem_insertionSort _).mpr ?_, rfl⟩
    rw [hfamily]
    dsimp only
    split
    · exact hfound
    · exact List.mem_cons_of_mem _ hfound
  obtain ⟨hypothesis, hmem, hid⟩ := exists_mem_generate hgenerate hgeneric hsymptom hconsidered
  obtain ⟨generic, hsame, other, hother, template, htemplate, parent, unexplained, heq⟩ :=
    made_of_mem_generate hgenerate hmem
  obtain rfl := Except.ok.inj (hgeneric.symm.trans hsame)
  have hvalues := mem_templates_of_mem_considered (by decide) htemplate
  rcases pod_templates template hvalues with rfl | rfl
  · rw [heq] at hid
    exact absurd hid (hypothesisId_ne other symptom)
  · exact ⟨hypothesis, hmem, other, hother, parent, unexplained, heq⟩

def podTypes : List String :=
  ["invariant.violated", "invariant.readiness.unhealthy", "entity.ready.false", "entity.exists"]

theorem factType_of_collected {call : Inspection} {steps : List CollectorPlanStep}
    {results : List CollectorRunResult}
    (hhandlers : call.handlers = podHandlers)
    (hresults : execute digestPython incidentCatalog call steps = .ok results) :
    ∀ result ∈ results, ∀ item ∈ result.evidence, item.factType = "entity.exists" := by
  intro result hresult item hitem
  obtain ⟨step, -, hstep⟩ := mem_of_mapM hresults hresult
  unfold executeStep at hstep
  split at hstep
  · cases hstep
  rename_i definition _
  dsimp only at hstep
  rw [hhandlers] at hstep
  dsimp only [podHandlers] at hstep
  by_cases hstate : definition.handlerId = "entity_state"
  · rw [if_pos hstate] at hstep
    obtain rfl := Except.ok.inj hstep
    obtain rfl := List.mem_singleton.mp hitem
    rfl
  · rw [if_neg hstate] at hstep
    obtain rfl := Except.ok.inj hstep
    cases hitem

theorem exists_podTrouble : ∃ assessment compiled, assessPod false "first" = .ok assessment ∧
    (podCall false "first").compile digestPython (fun _ => none) = .ok compiled ∧
    (∃ trouble ∈ troubles compiled assessment, trouble.1.family = .readiness) ∧
    ∀ item ∈ troubleFacts digestPython plainTexts compiled assessment, item.factType ∈ podTypes := by
  have hmade : ((assessPod false "first").bind fun assessment => ((podCall false "first").compile digestPython
      (fun _ => none)).map fun compiled => (assessment, compiled)).toOption.map (fun made =>
        ((troubles made.2 made.1).any fun trouble => trouble.1.family = .readiness,
          (troubleFacts digestPython plainTexts made.2 made.1).all fun item => item.factType ∈ podTypes)) =
      some (true, true) := by decide
  obtain ⟨⟨assessment, compiled⟩, hok, hboth⟩ := exists_ok_of_toOption hmade
  obtain ⟨hany, hall⟩ := Prod.mk.inj hboth
  obtain ⟨found, hassess, hcompiled⟩ := except_bind_eq_ok hok
  obtain ⟨other, hcompile, heq⟩ := except_map_eq_ok hcompiled
  obtain ⟨rfl, rfl⟩ := Prod.mk.inj heq
  obtain ⟨trouble, htrouble, hfamily⟩ := List.any_eq_true.mp hany
  exact ⟨found, other, hassess, hcompile, ⟨trouble, htrouble, of_decide_eq_true hfamily⟩,
    fun item hitem => of_decide_eq_true (List.all_eq_true.mp hall item hitem)⟩

theorem notServiceable_open (htypes : ∀ item ∈ evidence, item.factType ∈ podTypes) (symptom : Symptom) :
    contradictingFacts notServiceable evidence symptom = [] ∧
      "kubernetes.condition" ∈ missingPredictions notServiceable evidence symptom ∧
      ∀ item ∈ evidence, factTypeMatches "kubernetes.condition" item.factType = false := by
  have hagainst : ∀ known ∈ podTypes, matchesAny notServiceable.contradictingFactTypes known = false := by
    decide
  have hconditions : ∀ known ∈ podTypes, factTypeMatches "kubernetes.condition" known = false := by
    decide
  have hopen : ∀ item ∈ evidence, factTypeMatches "kubernetes.condition" item.factType = false :=
    fun item hitem => hconditions _ (htypes item hitem)
  refine ⟨?_, ?_, hopen⟩
  · apply List.filter_eq_nil_iff.mpr
    intro item hitem
    rw [hagainst _ (htypes item (List.mem_filter.mp hitem).1)]
    exact Bool.false_ne_true
  · refine List.mem_filter.mpr ⟨mem_sortedSet.mpr (by decide), ?_⟩
    rw [Bool.not_eq_true', List.any_eq_false]
    intro item hitem
    rw [hopen item (List.mem_filter.mp hitem).1]
    exact Bool.false_ne_true

theorem exists_openPod : ∃ opened, openPod = .ok opened ∧
    ∃ probe ∈ opened.probePlan, probe.probeId = "entity.current_state.v1" := by
  obtain ⟨assessment, compiled, hassess, hcompile, ⟨trouble, htrouble, hfamily⟩, hfacts⟩ := exists_podTrouble
  obtain ⟨opened, steps, results, refinement, hopened, hresults, hrefinement, hplan⟩ :=
    exists_openIncident complete_incidentCatalog known_baseline hassess hcompile none
  refine ⟨opened, hopened, ?_⟩
  rw [hplan]
  obtain ⟨hypotheses, hgenerate, hrefinement⟩ := except_bind_eq_ok hrefinement
  obtain ⟨probes, hprobes, hrefinement⟩ := except_bind_eq_ok hrefinement
  obtain rfl := Except.ok.inj hrefinement
  have htypes : ∀ item ∈ (derive digestPython plainTexts compiled assessment (mergeEvidence
      ((derive digestPython plainTexts compiled assessment []).2 :: results.map fun result =>
        result.evidence))).2,
      item.factType ∈ podTypes := by
    intro item hitem
    rcases mem_derive hitem with hmerged | htroubles
    · obtain ⟨group, hgroup, hitem⟩ := mem_mergeEvidence hmerged
      rcases List.mem_cons.mp hgroup with rfl | hcollected
      · rcases mem_derive hitem with hnone | htroubles
        · cases hnone
        · exact hfacts item htroubles
      · obtain ⟨result, hresult, rfl⟩ := List.mem_map.mp hcollected
        rw [factType_of_collected rfl hresults result hresult item hitem]
        decide
    · exact hfacts item htroubles
  have hsymptom : symptomOf digestPython plainTexts trouble.1 trouble.2 assessment ∈
    (troubles compiled assessment).map
      fun trouble => symptomOf digestPython plainTexts trouble.1 trouble.2 assessment :=
        List.mem_map_of_mem htrouble
  obtain ⟨hypothesis, hmem, other, -, parent, unexplained, heq⟩ := exists_notServiceable hgenerate hsymptom
    (congrArg some hfamily)
  obtain ⟨hcontradicting, hmissing, hopen⟩ := notServiceable_open htypes other
  obtain ⟨hstatus, hrequired⟩ := @unsettled_of_missing digestPython plainClaim _ other notServiceable parent
    hcontradicting (List.ne_nil_of_mem hmissing)
  have hintent : incidentCatalog.intent "entity.current_state.v1" = .ok currentState := rfl
  have hcollector : incidentCatalog.collectors.get? "snapshot.conditions.v1" = some conditionsCollector := rfl
  have hdefinition : conditionsCollector ∈ incidentCatalog.collectorValues :=
    ((perm_sortByKey _).map _).mem_iff.mpr (List.mem_map_of_mem (Dict.get?_eq_some.mp hcollector))
  subst heq
  exact exists_probe hprobes (by decide) hmem (Bool.and_eq_true_iff.mpr ⟨decide_eq_true hstatus, rfl⟩)
    (by rw [hrequired]; decide) hintent hmissing hopen hdefinition (by decide) (by decide)

theorem exists_podCalls : ∃ opened, openPod = .ok opened ∧ (∃ incident, probePod true opened = .ok incident) ∧
    ∃ incident, probePod false opened = .ok incident := by
  obtain ⟨opened, hopened, hprobe⟩ := exists_openPod
  have hknown : ∀ probe ∈ opened.probePlan, ∃ intent, incidentCatalog.intent probe.evidenceIntentId =
    .ok intent := by
    obtain ⟨first, hfirst, -⟩ := assessPod_unready
    obtain ⟨compiled, evidence, refinement, -, hrefinement, -, -, -, hplan, -⟩ :=
      openIncident_eq_ok hfirst hopened
    rw [hplan]
    exact known_of_diagnose hrefinement
  have hprobed : ∀ ready, ∃ incident, probePod ready opened = .ok incident := by
    intro ready
    have hcalls : (assessPod ready "later").toOption.map (fun _ => ()) = some () ∧
        ((podCall ready "later").compile digestPython (fun _ => none)).toOption.map
          (fun _ => ()) = some () := by
      cases ready with
      | false => decide
      | true => decide
    obtain ⟨assessment, hassess, -⟩ := exists_ok_of_toOption hcalls.1
    obtain ⟨compiled, hcompile, -⟩ := exists_ok_of_toOption hcalls.2
    exact exists_runProbe complete_incidentCatalog hknown hassess hcompile hprobe
  exact ⟨opened, hopened, hprobed true, hprobed false⟩

/-- What is violated was just assessed. -/
theorem openedPod_selfConsistent : ∃ incident first, PodInvestigated incident first first ∧
    SelfConsistent digestPython plainTexts incident := by
  obtain ⟨first, hfirst, -⟩ := assessPod_unready
  obtain ⟨opened, hopened, -⟩ := exists_podCalls
  have hinvestigated : PodInvestigated opened first first := .opened hfirst hopened
  exact ⟨opened, first, hinvestigated, (selfConsistent_iff hinvestigated).mpr rfl⟩

/-- The pod is ready when it is looked at again, and the incident goes on to say it is not. -/
theorem recoveredPod_not_selfConsistent : ∃ incident first last, PodInvestigated incident first last ∧
    ¬ SelfConsistent digestPython plainTexts incident := by
  obtain ⟨first, hfirst, hviolated⟩ := assessPod_unready
  obtain ⟨last, hlast, hlater⟩ : ∃ last, assessPod true "later" = .ok last ∧
      last.violatedInvariantIds = [] := exists_ok_of_toOption (by decide)
  obtain ⟨opened, hopened, ⟨incident, hincident⟩, -⟩ := exists_podCalls
  have hinvestigated : PodInvestigated incident first last := .probed (.opened hfirst hopened) hlast hincident
  refine ⟨incident, first, last, hinvestigated, fun hconsistent => ?_⟩
  have hsame := violated_of_describesOne hinvestigated hconsistent.describesOne
  rw [hviolated, hlater] at hsame
  cases hsame

end Example

end KubeOps.Diagnosis
