import KubeOps.Diagnosis.FactTypes
import KubeOps.Health.Assessment
import KubeOps.Topology.Compiler
import Mathlib.Algebra.Order.Ring.Rat

/-! What is wrong and why: symptoms are derived from an assessment, and for each symptom the
templates of the catalog make hypotheses, which the evidence supports or contradicts. -/
namespace KubeOps.Diagnosis

open KubeOps.Foundation KubeOps.Models KubeOps.Invariants KubeOps.Topology

section Models

structure EvidenceIntent where
  intentId : String
  questionsAnswered : List String := []
  subjectIds : List String := []
  requiredFactTypes : List String := []
  preferredCollectorIds : List String := []
  requiredAuthority : String := "authoritative"
  costClass : String := "low"
  stoppingCondition : String := "all_required_facts"

structure CollectorDefinition where
  collectorId : String
  questionsAnswered : List String := []
  factTypes : List String := []
  supportedModes : List String := ["fixture", "live"]
  requiredCapabilities : List String := []
  requiredInputs : List String := []
  handlerId : String
  authority : String := "authoritative"
  costClass : String := "low"

/-- The sets are lists here; `supportedEntityTypes` is what the metadata holds under that name. -/
structure CausalTemplate where
  templateId : String
  familyId : String
  title : String
  claimTemplate : String
  invariantFamilies : List InvariantFamily := []
  symptomTypes : List String := []
  supportingFactTypes : List String := []
  contradictingFactTypes : List String := []
  predictedFactTypes : List String := []
  evidenceIntentIds : List String := []
  specificity : Nat := 0
  generic : Bool := false
  supportedEntityTypes : List String := []
deriving DecidableEq

structure DiagnosticCatalog where
  intents : Dict String EvidenceIntent := ∅
  collectors : Dict String CollectorDefinition := ∅
  templates : Dict String CausalTemplate := ∅

structure EvidenceFact where
  evidenceId : String
  factType : String
  statement : String
  value : Value := .null
  subjectIds : List String := []
  intentId : Option String := none
  collectorId : String
  observedAtIso : String
  authority : String := "authoritative"
  attributes : Dict String Value := ∅

inductive CausalRole where
  | initial | upstream | downstream | unknown
deriving DecidableEq, Repr

structure Symptom where
  symptomId : String
  symptomType : String
  statement : String
  subjectIds : List String := []
  invariantId : Option String := none
  invariantFamily : Option InvariantFamily := none
  healthStatus : Option HealthStatus := none
  causalRole : CausalRole := .unknown
  confidence : Rat := 1
  evidenceIds : List String := []
  firstObservedAtSeconds : Option Int := none

inductive HypothesisStatus where
  | candidate | supported | proven | contradicted | ruledOut | unresolved
deriving DecidableEq, Repr

structure Hypothesis where
  hypothesisId : String
  familyId : String
  claim : String
  templateId : Option String := none
  parentHypothesisId : Option String := none
  subjectIds : List String := []
  status : HypothesisStatus := .candidate
  confidence : Rat := 0
  explainsSymptomIds : List String := []
  unexplainedSymptomIds : List String := []
  supportingEvidenceIds : List String := []
  contradictingEvidenceIds : List String := []
  requiredProbeIds : List String := []
  predictions : List String := []
  scoreComponents : List (String × Rat) := []
  generic : Bool := false

end Models

section Catalog

namespace DiagnosticCatalog

variable (catalog : DiagnosticCatalog)

/-- `TypedRegistry.get` -/
def intent (intentId : String) : Except PyError EvidenceIntent :=
  match catalog.intents.get? intentId with
  | some intent => .ok intent
  | none => .error (.registryError s!"evidence intents does not contain {intentId}")

def template (templateId : String) : Except PyError CausalTemplate :=
  match catalog.templates.get? templateId with
  | some template => .ok template
  | none => .error (.registryError s!"causal templates does not contain {templateId}")

/-- `TypedRegistry.values` -/
def collectorValues : List CollectorDefinition := (sortByKey catalog.collectors.entries).map Prod.snd

def templateValues : List CausalTemplate := (sortByKey catalog.templates.entries).map Prod.snd

def templatesForFamily (family : InvariantFamily) : List CausalTemplate :=
  catalog.templateValues.filter fun template => family ∈ template.invariantFamilies

end DiagnosticCatalog

end Catalog

section Scores

/-- `_authority_confidence` -/
def authorityConfidence (authority : String) : Rat :=
  if authority = "authoritative" then 1
  else if authority = "high" then 17 / 20
  else if authority = "medium" then 13 / 20
  else if authority = "low" then 2 / 5
  else if authority = "heuristic" then 1 / 5
  else 1 / 2

/-- `round(value)`, to the even number where two are as near. -/
def roundHalfEven (value : Rat) : Int :=
  let rest := value - value.floor
  if rest < 1 / 2 then value.floor
  else if 1 / 2 < rest then value.floor + 1
  else if value.floor % 2 = 0 then value.floor else value.floor + 1

/-- `round(value, 4)` -/
def round4 (value : Rat) : Rat := roundHalfEven (value * 10000) / 10000

def authoritySum (facts : List EvidenceFact) : Rat :=
  (facts.map fun item => authorityConfidence item.authority).sum

structure Score where
  status : HypothesisStatus
  confidence : Rat
  components : List (String × Rat)

/-- `_score` -/
def scoreOf (generic : Bool) (specificity : Nat) (supporting contradicting : List EvidenceFact)
    (missingPredictions : List String) : Score :=
  let supportScore := authoritySum supporting
  let contradictionScore := authoritySum contradicting
  let specificityScore := min ((specificity : Rat) * (1 / 25)) (1 / 5)
  let missingPenalty := min ((missingPredictions.length : Rat) * (2 / 25)) (8 / 25)
  let base : Rat := if generic then 11 / 50 else 3 / 20
  let confidence := max (1 / 100) (min (99 / 100)
    (base + supportScore * (8 / 25) + specificityScore - contradictionScore * (21 / 50) - missingPenalty))
  { status :=
      if contradictionScore ≥ supportScore ∧ contradictionScore > 0 then
        if supportScore = 0 then .ruledOut else .contradicted
      else if supporting ≠ [] ∧ missingPredictions = [] ∧ supportScore ≥ 4 / 5 then .proven
      else if supporting ≠ [] then .supported
      else .candidate
    confidence := round4 confidence
    components :=
      [("base", base), ("support", round4 supportScore), ("contradiction", round4 contradictionScore),
      ("specificity", round4 specificityScore), ("missing_prediction_penalty", round4 missingPenalty)] }

end Scores

section Engine

/-- `_subjects_overlap` -/
def subjectsOverlap (left right : List String) : Bool :=
  left.isEmpty || right.isEmpty || left.any (· ∈ right)

def matchesAny (patterns : List String) (factType : String) : Bool :=
  patterns.any fun pattern => factTypeMatches pattern factType

def relatedEvidence (evidence : List EvidenceFact) (symptom : Symptom) : List EvidenceFact :=
  evidence.filter fun item => subjectsOverlap item.subjectIds symptom.subjectIds

def supportingFacts (template : CausalTemplate) (evidence : List EvidenceFact) (symptom : Symptom) :
    List EvidenceFact :=
  (relatedEvidence evidence symptom).filter fun item => matchesAny template.supportingFactTypes item.factType

def contradictingFacts (template : CausalTemplate) (evidence : List EvidenceFact) (symptom : Symptom) :
    List EvidenceFact :=
  (relatedEvidence evidence symptom).filter fun item => matchesAny template.contradictingFactTypes item.factType

def missingPredictions (template : CausalTemplate) (evidence : List EvidenceFact) (symptom : Symptom) :
    List String :=
  (sortedSet template.predictedFactTypes).filter fun prediction =>
    !(relatedEvidence evidence symptom).any fun item => factTypeMatches prediction item.factType

-- `formatClaim` is `claim_template.format(subject=…, family=…)`.
variable (python : Python) (formatClaim : String → String → String → String)

def hypothesisId (symptom : Symptom) (template : CausalTemplate) : String :=
  "hyp-" ++ String.ofList ((python.sha256 s!"{symptom.symptomId}:{template.templateId}").toList.take 18)

def hypothesisOf (evidence : List EvidenceFact) (symptom : Symptom) (parent : Option String)
    (template : CausalTemplate) : Hypothesis :=
  let supporting := supportingFacts template evidence symptom
  let contradicting := contradictingFacts template evidence symptom
  let missing := missingPredictions template evidence symptom
  let score := scoreOf template.generic template.specificity supporting contradicting missing
  { hypothesisId := hypothesisId python symptom template
    familyId := template.familyId
    templateId := some template.templateId
    parentHypothesisId := if template.generic then none else parent
    claim := formatClaim template.claimTemplate (symptom.subjectIds.head?.getD "unknown subject")
      ((symptom.invariantFamily.map InvariantFamily.text).getD "unknown")
    subjectIds := symptom.subjectIds
    status := score.status
    confidence := score.confidence
    explainsSymptomIds := [symptom.symptomId]
    supportingEvidenceIds := supporting.map fun item => item.evidenceId
    contradictingEvidenceIds := contradicting.map fun item => item.evidenceId
    requiredProbeIds :=
      if missing ≠ [] ∧ score.status ≠ .ruledOut ∧
        score.status ≠ .contradicted then template.evidenceIntentIds else []
    predictions := missing
    scoreComponents := score.components
    generic := template.generic }

def templatesFor (catalog : DiagnosticCatalog) (generic : CausalTemplate) (symptom : Symptom) :
    List CausalTemplate :=
  let templates := match symptom.invariantFamily with
    | none => [generic]
    | some family =>
      let found := catalog.templatesForFamily family
      if generic ∈ found then found else generic :: found
  templates.insertionSort fun left right => left.specificity < right.specificity ∨
    left.specificity = right.specificity ∧ left.templateId ≤ right.templateId

def entityTypesOf (topology : TopologyGraph) (subjectId : String) : List String :=
  (((Dict.ofList (topology.entities.map fun item =>
    (item.entityId, item.entityType :: item.entityTypeLineage))).get? subjectId).getD [])

def isApplicable (topology : TopologyGraph) (symptom : Symptom) (template : CausalTemplate) : Bool :=
  (template.symptomTypes.isEmpty || symptom.symptomType ∈ template.symptomTypes) &&
  (template.supportedEntityTypes.isEmpty ||
    symptom.subjectIds.any fun subjectId => (entityTypesOf topology subjectId).any
      (· ∈ template.supportedEntityTypes))

/-- The loop over the templates; a generic hypothesis is the parent of those after it. -/
def hypothesesFrom (evidence : List EvidenceFact) (symptom : Symptom) :
    Option String → List CausalTemplate → List Hypothesis
  | _, [] => []
  | parent, template :: rest =>
    hypothesisOf python formatClaim evidence symptom parent template ::
      hypothesesFrom evidence symptom
        (if template.generic then some (hypothesisId python symptom template) else parent) rest

/-- `by_id`: the first hypothesis under an identifier is kept. -/
def firstById (made : List Hypothesis) : List Hypothesis :=
  made.foldl (fun kept item => if kept.any fun other => other.hypothesisId = item.hypothesisId then kept
    else kept ++ [item]) []

theorem firstById_concat (made : List Hypothesis) (item : Hypothesis) :
    firstById (made ++ [item]) = if item.hypothesisId ∈ (firstById made).map fun other => other.hypothesisId then
      firstById made else firstById made ++ [item] := by
  have hany : ((firstById made).any fun other => other.hypothesisId = item.hypothesisId) = true ↔
      item.hypothesisId ∈ (firstById made).map fun other => other.hypothesisId := by
    simp
  rw [firstById, List.foldl_append, List.foldl_cons, List.foldl_nil, ← firstById]
  simp only [hany]

theorem mem_firstById {made : List Hypothesis} {hypothesis : Hypothesis} (h : hypothesis ∈ firstById made) :
    hypothesis ∈ made := by
  induction made using List.reverseRecOn with
  | nil => exact h
  | append_singleton made item ih =>
    rw [firstById_concat] at h
    split at h
    · exact List.mem_append_left _ (ih h)
    · rcases List.mem_append.mp h with hkept | hitem
      · exact List.mem_append_left _ (ih hkept)
      · exact List.mem_append_right _ hitem

theorem mem_ids_firstById {made : List Hypothesis} {hypothesisId : String} :
    hypothesisId ∈ ((firstById made).map fun item => item.hypothesisId) ↔
      hypothesisId ∈ made.map fun item => item.hypothesisId := by
  induction made using List.reverseRecOn with
  | nil => exact Iff.rfl
  | append_singleton made item ih =>
    rw [firstById_concat, List.map_append, List.mem_append, ← ih]
    split
    · rename_i hkept
      apply (or_iff_left_of_imp _).symm
      intro hitem
      rw [List.mem_singleton.mp hitem]
      exact hkept
    · rw [List.map_append, List.mem_append]

theorem nodup_firstById (made : List Hypothesis) :
    ((firstById made).map fun item => item.hypothesisId).Nodup := by
  induction made using List.reverseRecOn with
  | nil => exact List.nodup_nil
  | append_singleton made item ih =>
    rw [firstById_concat]
    split
    · exact ih
    · rename_i hnew
      rw [List.map_append, List.map_singleton, ← List.concat_eq_append]
      exact ih.concat hnew

/-- `_mark_unexplained` -/
def markUnexplained (hypotheses : List Hypothesis) (symptoms : List Symptom) : List Hypothesis :=
  hypotheses.map fun item => { item with
    unexplainedSymptomIds :=
      sortedSet ((symptoms.map fun symptom => symptom.symptomId).filter (· ∉ item.explainsSymptomIds)) }

def considered (catalog : DiagnosticCatalog) (generic : CausalTemplate) (topology : TopologyGraph)
    (symptom : Symptom) :
    List CausalTemplate :=
  (templatesFor catalog generic symptom).filter (isApplicable topology symptom)

/-- The hypotheses of `HypothesisEngine.generate`. -/
def generate (catalog : DiagnosticCatalog) (symptoms : List Symptom) (evidence : List EvidenceFact)
    (topology : TopologyGraph) : Except PyError (List Hypothesis) := do
  let generic ← catalog.template "operational.invariant_violation.v1"
  let made := symptoms.flatMap fun symptom =>
    hypothesesFrom python formatClaim evidence symptom none (considered catalog generic topology symptom)
  return (markUnexplained (firstById made) symptoms).insertionSort fun left right =>
    right.confidence < left.confidence ∨ right.confidence = left.confidence ∧
      (left.familyId < right.familyId ∨ left.familyId = right.familyId ∧ left.hypothesisId ≤ right.hypothesisId)

end Engine

end KubeOps.Diagnosis
