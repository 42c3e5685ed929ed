import KubeOps.Diagnosis.OneSided
import KubeOps.Foundation.Grouping

/-! What to look at next: probes are recommended for the hypotheses that are not settled, and the
steps of a probe are planned when it is run. -/
namespace KubeOps.Diagnosis

open KubeOps.Foundation KubeOps.Models KubeOps.Invariants

section EvidencePlanner

/-- `_COST` -/
def costOf (costClass : String) : Rat :=
  if costClass = "negligible" then 1 / 4
  else if costClass = "low" then 1
  else if costClass = "medium" then 3
  else 8

/-- `_AUTHORITY` -/
def authorityRank (authority : String) : Int :=
  if authority = "heuristic" then 0
  else if authority = "low" then 1
  else if authority = "medium" then 2
  else if authority = "high" then 3
  else 4

/-- `set(left) & set(right)`, sorted -/
def sharedItems (left right : List String) : List String := (sortedSet left).filter (· ∈ right)

def CollectorDefinition.provides (definition : CollectorDefinition) (required : String) : Bool :=
  definition.factTypes.any (factTypeMatches required)

-- `available` are the capabilities of the context.
variable (catalog : DiagnosticCatalog) (mode : String) (available : List String)

def isUsable (definition : CollectorDefinition) : Bool :=
  mode ∈ definition.supportedModes && definition.requiredCapabilities.all (· ∈ available) &&
    definition.requiredInputs.all (· ∈ available)

def candidateScore (intent : EvidenceIntent) (definition : CollectorDefinition) : Option Rat :=
  let questionOverlap := (sharedItems definition.questionsAnswered intent.questionsAnswered).length
  let factOverlap := (intent.requiredFactTypes.filter definition.provides).length
  let preferred : Bool := definition.collectorId ∈ intent.preferredCollectorIds
  if questionOverlap = 0 ∧ factOverlap = 0 ∧ preferred = false then none
  else
    let authorityDelta := authorityRank definition.authority - authorityRank intent.requiredAuthority
    some ((questionOverlap : Rat) * 3 + (factOverlap : Rat) * 4 + (if preferred then 3 else 0) +
      (max authorityDelta (-2) : Int) * (1 / 2) - costOf definition.costClass * (1 / 4))

/-- `_candidates` -/
def candidatesOf (intent : EvidenceIntent) : List (CollectorDefinition × Rat) :=
  ((catalog.collectorValues.filter (isUsable mode available)).filterMap fun definition =>
    (candidateScore intent definition).map fun score => (definition, score)).insertionSort fun left right =>
      right.2 < left.2 ∨ left.2 = right.2 ∧ left.1.collectorId ≤ right.1.collectorId

structure EvidenceCollectionPlan where
  steps : List CollectorPlanStep := []
  selected : List (String × String × List String) := []
  unresolvedIntentIds : List String := []
  totalCost : Rat := 0

def expectedTypes (required : List String) (definition : CollectorDefinition) : List String :=
  (definition.factTypes.filter fun factType => required.isEmpty || required.any fun req =>
    factTypeMatches req factType).insertionSort
    (· ≤ ·)

def stepOf (intent : EvidenceIntent) (required : List String) (definition : CollectorDefinition) (score : Rat) :
    CollectorPlanStep where
  collectorId := definition.collectorId
  intentId := intent.intentId
  subjectIds := intent.subjectIds
  questionsAnswered := sharedItems definition.questionsAnswered intent.questionsAnswered
  expectedFactTypes :=
    if expectedTypes required definition = [] then definition.factTypes else expectedTypes required definition
  score

def isCovered (required covered : List String) : Bool :=
  required.all fun req => covered.any (factTypeMatches req)

/-- The loop over the candidates of an intent, with the fact types that are covered so far. -/
def planCandidates (intent : EvidenceIntent) (required : List String) :
    List (CollectorDefinition × Rat) → List String → EvidenceCollectionPlan →
      List String × EvidenceCollectionPlan
  | [], covered, plan => (covered, plan)
  | (definition, score) :: rest, covered, plan =>
    let expected := expectedTypes required definition
    let identity := (definition.collectorId, intent.intentId, intent.subjectIds.insertionSort (· ≤ ·))
    if required ≠ [] ∧ expected = [] then planCandidates intent required rest covered plan
    else if identity ∈ plan.selected then planCandidates intent required rest covered plan
    else
      let plan := { plan with
        steps := plan.steps ++ [stepOf intent required definition score]
        selected := plan.selected ++ [identity]
        totalCost := plan.totalCost + costOf definition.costClass }
      let covered := covered ++ expected
      if intent.stoppingCondition = "first_authoritative_answer" ∧ definition.authority = "authoritative" then
        (covered, plan)
      else if required ≠ [] ∧ isCovered required covered = true then (covered, plan)
      else planCandidates intent required rest covered plan

def openTypes (existing : List String) (factTypes : List String) : List String :=
  factTypes.filter fun factType => !existing.any (factTypeMatches factType)

def planIntent (existing : List String) (plan : EvidenceCollectionPlan) (intent : EvidenceIntent) :
    EvidenceCollectionPlan :=
  let required := openTypes existing intent.requiredFactTypes
  if required = [] ∧ intent.requiredFactTypes ≠ [] then plan
  else
    let (covered, plan) := planCandidates intent required (candidatesOf catalog mode available intent) [] plan
    if required ≠ [] ∧ isCovered required covered = false then
      { plan with unresolvedIntentIds := plan.unresolvedIntentIds ++ [intent.intentId] }
    else plan

/-- `EvidencePlanner.plan` -/
def EvidencePlanner.plan (intents : List EvidenceIntent) (existing : List String) : EvidenceCollectionPlan :=
  let plan := intents.foldl (planIntent catalog mode available existing) {}
  { plan with steps := plan.steps.insertionSort fun left right => right.score ≤ left.score }

end EvidencePlanner

section ProbePlanner

structure ProbeIntent where
  probeId : String
  evidenceIntentId : String
  applicableHypothesisIds : List String
  candidateCollectorIds : List String
  informationGainScore : Rat
  costScore : Rat
  subjectIds : List String
  missingFactTypes : List String

def isUnresolved (item : Hypothesis) : Bool :=
  item.status ∈ [HypothesisStatus.candidate, .supported, .unresolved] && !item.generic

/-- `intent_hypotheses` -/
def intentHypotheses (hypotheses : List Hypothesis) : Dict String (List Hypothesis) :=
  Dict.grouped Prod.fst Prod.snd ((hypotheses.filter isUnresolved).flatMap fun item =>
    item.requiredProbeIds.map fun intentId => (intentId, item))

variable (catalog : DiagnosticCatalog)

def missingTypes (intent : EvidenceIntent) (affected : List Hypothesis) (evidence : List EvidenceFact) :
    List String :=
  openTypes (evidence.map fun item => item.factType)
    (distinct (intent.requiredFactTypes ++ sortedSet (affected.flatMap fun item => item.predictions)))

def isRelevant (intent : EvidenceIntent) (definition : CollectorDefinition) : Bool :=
  definition.collectorId ∈ intent.preferredCollectorIds ||
    definition.questionsAnswered.any (· ∈ intent.questionsAnswered)

def probeCandidates (intent : EvidenceIntent) (missing : List String) : List CollectorDefinition :=
  catalog.collectorValues.filter fun definition =>
    isRelevant intent definition && missing.any definition.provides

def probeOf (newProbeId : String → String) (evidence : List EvidenceFact) (intentId : String)
    (intent : EvidenceIntent)
    (affected : List Hypothesis) : Option ProbeIntent :=
  let missing := missingTypes intent affected evidence
  if missing = [] then none
  else match probeCandidates catalog intent missing with
    | [] => none
    | first :: rest =>
      let cheapest := rest.foldl (fun cost definition => min cost (costOf definition.costClass))
        (costOf first.costClass)
      let familyDiversity := (sortedSet (affected.map fun item => item.familyId)).length
      let informationGain :=
        (affected.length : Rat) + (familyDiversity : Rat) * (1 / 2) + (missing.length : Rat) * (1 / 4)
      some {
        probeId := newProbeId intentId
        evidenceIntentId := intentId
        applicableHypothesisIds := affected.map fun item => item.hypothesisId
        candidateCollectorIds := ((first :: rest).insertionSort fun left right =>
          costOf left.costClass < costOf right.costClass ∨
            costOf left.costClass = costOf right.costClass ∧ left.collectorId ≤ right.collectorId).map
          fun definition => definition.collectorId
        informationGainScore := round4 (informationGain / max cheapest (1 / 4))
        costScore := cheapest
        subjectIds := sortedSet (affected.flatMap fun item => item.subjectIds)
        missingFactTypes := missing }

/-- `ProbePlanner.plan`; an intent that the catalog does not have raises `RegistryError`, which is no
`KeyError`. -/
def ProbePlanner.plan (newProbeId : String → String) (hypotheses : List Hypothesis)
    (evidence : List EvidenceFact)
    (evidenceBudget : Option Nat) : Except PyError (List ProbeIntent) := do
  let found ← (intentHypotheses hypotheses).entries.mapM fun entry =>
    (catalog.intent entry.1).map fun intent => probeOf catalog newProbeId evidence entry.1 intent entry.2
  let probes := (found.filterMap id).insertionSort fun left right =>
    right.informationGainScore < left.informationGainScore ∨
      right.informationGainScore = left.informationGainScore ∧
        (left.costScore < right.costScore ∨ left.costScore = right.costScore ∧ left.probeId ≤ right.probeId)
  return match evidenceBudget with
    | none => probes
    | some budget => probes.take budget

/-- The intent as `run_probe` plans it. -/
def probedIntent (intent : EvidenceIntent) (probe : ProbeIntent) : EvidenceIntent :=
  { intent with
    subjectIds := probe.subjectIds
    preferredCollectorIds := probe.candidateCollectorIds
    requiredFactTypes := probe.missingFactTypes }

/-- The steps that `run_probe` plans for a probe. -/
def probeSteps (mode : String) (available : List String) (evidence : List EvidenceFact) (probe : ProbeIntent) :
    Except PyError (List CollectorPlanStep) :=
  (catalog.intent probe.evidenceIntentId).map fun intent =>
    (EvidencePlanner.plan catalog mode available [probedIntent intent probe]
      (evidence.map fun item => item.factType)).steps

end ProbePlanner

end KubeOps.Diagnosis
