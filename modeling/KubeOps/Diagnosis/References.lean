import KubeOps.Diagnosis.Hypotheses
import KubeOps.Topology.OrderFree

/-! What the reference collector says about a pod, and the references its document has: the
compiler makes no link to an object that is missing, so that only a relationship of the
snapshot itself can be seen to be dangling. -/
namespace KubeOps.Diagnosis

open KubeOps.Foundation KubeOps.Models KubeOps.Discovery KubeOps.Topology

section Code

structure CollectorPlanStep where
  collectorId : String
  intentId : String
  subjectIds : List String
  questionsAnswered : List String := []
  expectedFactTypes : List String := []
  score : Rat := 0

/-- A snapshot with the topology that was compiled from it. -/
structure EvidenceContext where
  snapshotId : String
  completedAtIso : String
  entities : List OperationalEntity
  topology : TopologyGraph

variable (python : Python)

/-- `_subjects` -/
def subjectsOf (step : CollectorPlanStep) (context : EvidenceContext) : List String :=
  if step.subjectIds = [] then sortedSet (context.entities.map fun entity => entity.entityId)
  else (Dict.ofList (step.subjectIds.map fun subjectId => (subjectId, ()))).keys

/-- `_fact` -/
def factOf (step : CollectorPlanStep) (context : EvidenceContext) (factType statement : String)
    (subjects : List String) (value : Json) (attributes : Option JsonObject := none) : EvidenceFact :=
  let attributesText := (attributes.map fun attributes => python.str (.dict attributes.entries)).getD "None"
  let token := s!"{context.snapshotId}:{step.collectorId}:{step.intentId}:{factType}:" ++
    s!"{python.str (Json.strings subjects)}:{python.str value}:{attributesText}"
  { evidenceId := "ev-" ++ String.ofList ((python.sha256 token).toList.take 20)
    factType, statement, value := valueOfJson value, subjectIds := subjects, intentId := some step.intentId
    collectorId := step.collectorId, observedAtIso := context.completedAtIso
    attributes := (attributes.getD ∅).mapValues valueOfJson }

/-- `item.model_dump(mode="json")` -/
def relationshipJson (item : GraphRelationship) : Json := .dict [
  ("schema_version", .str "kubeops.io/v1"), ("relationship_id", .str item.relationshipId),
  ("source_id", .str item.sourceId), ("target_id", .str item.targetId),
  ("relationship_type", .str item.relationshipType), ("contract", .dict item.contract.entries),
  ("propagation", .dict item.propagation.entries), ("confidence", .float item.confidence),
  ("provenance", .str item.provenance), ("extensions", .dict item.extensions.entries)]

def referenceTypes : List String :=
  ["references", "configured_by", "mounts", "binds", "uses_identity", "selects", "routes_to"]

def relevantTo (subjectId : String) (context : EvidenceContext) : List GraphRelationship :=
  context.topology.relationships.filter fun item => item.sourceId = subjectId ∧
    item.relationshipType ∈ referenceTypes

def missingFor (subjectId : String) (context : EvidenceContext) : List GraphRelationship :=
  (relevantTo subjectId context).filter fun item =>
    item.targetId ∉ context.entities.map fun entity => entity.entityId

def referenceFacts (step : CollectorPlanStep) (context : EvidenceContext) (subjectId : String) :
    List EvidenceFact :=
  let relevant := relevantTo subjectId context
  let missing := missingFor subjectId context
  let targets := Json.strings (missing.map fun item => item.targetId)
  let state := if missing = [] then "resolved" else "incomplete"
  [factOf python step context "configuration.reference_state"
      s!"{subjectId} has {relevant.length} resolved reference relationships and {missing.length} missing targets."
      (subjectId :: relevant.map fun item => item.targetId)
      (.dict [("relationships", .list (relevant.map relationshipJson)), ("missing_targets", targets)]),
    factOf python step context
      (if missing = [] then "configuration.reference_valid" else "configuration.reference_missing")
      s!"Configuration references for {subjectId} are {state}."
      [subjectId] targets]

/-- `_reference_state` -/
def referenceState (step : CollectorPlanStep) (context : EvidenceContext) : List EvidenceFact :=
  (subjectsOf step context).flatMap (referenceFacts python step context)

end Code

variable {python : Python} {step : CollectorPlanStep} {context : EvidenceContext}
variable {entities : List OperationalEntity} {relationships added : List GraphRelationship}
  {graph : TopologyGraph}

section Facts

def Emits (facts : List EvidenceFact) (factType subjectId : String) : Prop :=
  ∃ fact ∈ facts, fact.factType = factType ∧ fact.subjectIds = [subjectId]

theorem emits_referenceState_iff {factType subjectId : String}
    (hstate : factType ≠ "configuration.reference_state")
    (hsubject : subjectId ∈ subjectsOf step context) :
    Emits (referenceState python step context) factType subjectId ↔
      (if missingFor subjectId context = [] then "configuration.reference_valid"
        else "configuration.reference_missing") = factType := by
  constructor
  · rintro ⟨fact, hfact, htype, hsubjects⟩
    obtain ⟨other, -, hfact⟩ := List.mem_flatMap.mp hfact
    rcases List.mem_cons.mp hfact with rfl | hfact
    · exact absurd htype.symm hstate
    · obtain rfl := List.mem_singleton.mp hfact
      obtain rfl : other = subjectId := List.singleton_inj.mp hsubjects
      exact htype
  · intro htype
    refine ⟨_, List.mem_flatMap.mpr ⟨subjectId, hsubject,
      List.mem_cons_of_mem _ List.mem_cons_self⟩, htype, rfl⟩

theorem emits_valid_iff {subjectId : String} (hsubject : subjectId ∈ subjectsOf step context) :
    Emits (referenceState python step context) "configuration.reference_valid" subjectId ↔
      missingFor subjectId context = [] := by
  rw [emits_referenceState_iff (by decide) hsubject]
  by_cases hmissing : missingFor subjectId context = [] <;> simp [hmissing]

theorem emits_missing_iff {subjectId : String} (hsubject : subjectId ∈ subjectsOf step context) :
    Emits (referenceState python step context) "configuration.reference_missing" subjectId ↔
      missingFor subjectId context ≠ [] := by
  rw [emits_referenceState_iff (by decide) hsubject]
  by_cases hmissing : missingFor subjectId context = [] <;> simp [hmissing]

end Facts

section References

variable (python) in
def Dangling (entities : List OperationalEntity) (pod : OperationalEntity) : Prop :=
  ∃ refs, references python (resourceOf pod) = .ok refs ∧ ∃ ref ∈ refs, ∀ entity ∈ entities,
    ¬ (kindOf python entity = ref.1.text ∧ entity.namespaceName = pod.namespaceName ∧ entity.name = ref.2)

variable (python) in
/-- A relationship of the snapshot from the subject to a target that is missing, of a type that the
collector looks for, and which no other relationship under its identifier replaces. -/
def SeenMissing (entities : List OperationalEntity) (relationships : List GraphRelationship)
    (subjectId : String)
    (item : GraphRelationship) : Prop :=
  item.sourceId = subjectId ∧ item.relationshipType ∈ referenceTypes ∧
    item.targetId ∉ entities.map (fun entity => entity.entityId) ∧
    (byIdentifier relationships).get? item.relationshipId = some item ∧
    lastWritten item.relationshipId (batches python entities) = none

theorem missing_in_graph_iff (hadded : addedLinks python entities = .ok added) {item : GraphRelationship}
    (htarget : item.targetId ∉ entities.map fun entity => entity.entityId) :
    item ∈ finalRelationships (relationships ++ added) ↔
      (byIdentifier relationships).get? item.relationshipId = some item ∧
        lastWritten item.relationshipId (batches python entities) = none := by
  have hlookup : item ∈ finalRelationships (relationships ++ added) ↔
      (byIdentifier (relationships ++ added)).get? item.relationshipId = some item := by
    rw [(perm_finalRelationships _).mem_iff, Dict.mem_values]
    constructor
    · rintro ⟨key, hentry⟩
      have hfound := Dict.get?_eq_some.mpr hentry
      rw [(relationshipId_of_get? _ hfound).2]
      exact hfound
    · intro hfound
      exact ⟨_, Dict.get?_eq_some.mp hfound⟩
  rw [hlookup, get?_byIdentifier_added hadded]
  cases hlast : lastWritten item.relationshipId (batches python entities) with
  | none => simp
  | some link =>
    have hlink : (byIdentifier ([] ++ added)).get? item.relationshipId = some link := by
      rw [get?_byIdentifier_added hadded, hlast]
      rfl
    obtain ⟨-, target, htargetMem, hsame⟩ := joins_added hadded link (relationshipId_of_get? _ hlink).1
    constructor
    · intro hsome
      obtain rfl := Option.some.inj hsome
      exact absurd (List.mem_map.mpr ⟨target, htargetMem, hsame.symm⟩) htarget
    · rintro ⟨-, hnone⟩
      cases hnone

theorem missingFor_ne_nil_iff (hadded : addedLinks python entities = .ok added)
    {snapshotId completedAtIso subjectId : String} :
    missingFor subjectId ⟨snapshotId, completedAtIso, entities,
        graphOf python entities (finalRelationships (relationships ++ added))⟩ ≠ [] ↔
      ∃ item, SeenMissing python entities relationships subjectId item := by
  have hexists : ∀ items : List GraphRelationship, items ≠ [] ↔ ∃ item, item ∈ items := fun items =>
    ⟨List.exists_mem_of_ne_nil items, fun h => h.elim fun _ hitem => List.ne_nil_of_mem hitem⟩
  rw [hexists]
  apply exists_congr
  intro item
  rw [missingFor, relevantTo, List.mem_filter, List.mem_filter, decide_eq_true_eq, decide_eq_true_eq]
  show (item ∈ finalRelationships (relationships ++ added) ∧ _ ∧ _) ∧ _ ↔ _
  constructor
  · rintro ⟨⟨hitem, hsource, htype⟩, htarget⟩
    exact ⟨hsource, htype, htarget, (missing_in_graph_iff hadded htarget).mp hitem⟩
  · rintro ⟨hsource, htype, htarget, hkept⟩
    exact ⟨⟨(missing_in_graph_iff hadded htarget).mpr hkept, hsource, htype⟩, htarget⟩

/-- A pod with a dangling reference is said to have one, and is not said to be valid, exactly
where a relationship of the snapshot itself shows that a target is missing. -/
theorem referenceState_diagnoses_iff (python : Python) {snapshotId completedAtIso : String}
    (hcompile : TopologyCompiler.compile python entities relationships = .ok graph) {step : CollectorPlanStep}
    {pod : OperationalEntity} (hsubject : pod.entityId ∈ subjectsOf step
      ⟨snapshotId, completedAtIso, entities, graph⟩) :
    (Dangling python entities pod →
        Emits (referenceState python step ⟨snapshotId, completedAtIso, entities, graph⟩)
          "configuration.reference_missing" pod.entityId) ∧
      (Emits (referenceState python step ⟨snapshotId, completedAtIso, entities, graph⟩)
          "configuration.reference_valid" pod.entityId → ¬ Dangling python entities pod) ↔
      (Dangling python entities pod → ∃ item, SeenMissing python entities relationships pod.entityId item) := by
  rw [emits_missing_iff hsubject, emits_valid_iff hsubject]
  obtain ⟨added, hadded, rfl⟩ := compile_eq_ok_iff.mp hcompile
  rw [missingFor_ne_nil_iff hadded]
  constructor
  · intro h
    exact h.1
  · intro h
    refine ⟨h, fun hnone hdangling => ?_⟩
    exact (missingFor_ne_nil_iff hadded).mpr (h hdangling) hnone

theorem webPodId_ne : "web-1" ≠ "" := by decide

def webPod : OperationalEntity where
  entityId := "web-1"
  entityId_ne := webPodId_ne
  entityType := "kubernetes.pod"
  name := "web-1"
  plane := .workload
  namespaceName := some "shop"
  extensions := Dict.ofList [("kubernetes", .dict [("kind", .str "Pod"), ("sanitized_resource", .dict [
    ("spec", .dict [("volumes", .list [.dict [("secret", .dict [("secretName", .str "database")])]])])])])]

theorem dangling_webPod : Dangling Python.plain [webPod] webPod :=
  ⟨_, rfl, (.secret, "database"), by decide, by decide⟩

def allSubjects : CollectorPlanStep where
  collectorId := "references"
  intentId := "intent"
  subjectIds := []

def mountOfSecret : GraphRelationship where
  relationshipId := "mount"
  sourceId := "web-1"
  targetId := "database"
  relationshipType := "mounts"

theorem referenceState_diagnoses_mount : ∃ graph,
    TopologyCompiler.compile Python.plain [webPod] [mountOfSecret] = .ok graph ∧
    Emits (referenceState Python.plain allSubjects ⟨"snapshot", "", [webPod], graph⟩)
      "configuration.reference_missing" "web-1" := by
  refine ⟨_, rfl, ?_⟩
  have hseen : ∃ item, SeenMissing Python.plain [webPod] [mountOfSecret] webPod.entityId item :=
    ⟨mountOfSecret, rfl, by decide, by decide, rfl, rfl⟩
  exact ((referenceState_diagnoses_iff Python.plain rfl (by decide)).mpr fun _ => hseen).1 dangling_webPod

/-- The secret is missing, and the references of the pod are said to be valid. -/
theorem referenceState_misses_secret : ∃ graph, TopologyCompiler.compile Python.plain [webPod] [] = .ok graph ∧
    Dangling Python.plain [webPod] webPod ∧
    ¬ Emits (referenceState Python.plain allSubjects ⟨"snapshot", "", [webPod], graph⟩)
      "configuration.reference_missing" "web-1" ∧
    Emits (referenceState Python.plain allSubjects ⟨"snapshot", "", [webPod], graph⟩)
      "configuration.reference_valid" "web-1" := by
  refine ⟨_, rfl, dangling_webPod, ?_, ?_⟩
  · rw [emits_missing_iff (by decide)]
    exact not_not.mpr rfl
  · rw [emits_valid_iff (by decide)]
    rfl

end References

end KubeOps.Diagnosis
