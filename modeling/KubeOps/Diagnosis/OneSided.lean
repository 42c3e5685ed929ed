import KubeOps.Diagnosis.References

/-! Whether a fact can be held for and against one hypothesis: the facts that the collector of
entity states emits next to their refinements are such. -/
namespace KubeOps.Diagnosis

open KubeOps.Foundation KubeOps.Models KubeOps.Discovery KubeOps.Invariants KubeOps.Topology

section Collector

variable (python : Python)

/-- `EvidenceContext.entities` -/
def EvidenceContext.entityAt (context : EvidenceContext) (subjectId : String) : Option OperationalEntity :=
  (Dict.ofList (context.entities.map fun entity => (entity.entityId, entity))).get? subjectId

def observedFields : List String :=
  ["ready", "serviceable", "reachable", "authenticated", "authorized", "bound"]

def observedFact (step : CollectorPlanStep) (context : EvidenceContext) (entity : OperationalEntity)
    (subjectId field : String) : Option EvidenceFact :=
  match entity.observedState.get? field with
  | some (.bool value) =>
    let lower := if value then "true" else "false"
    let shown := if value then "True" else "False"
    some (factOf python step context s!"entity.{field}.{lower}" s!"{subjectId} reports {field}={shown}."
      [subjectId] (.bool value))
  | _ => none

def entityFacts (step : CollectorPlanStep) (context : EvidenceContext) (subjectId : String) :
    List EvidenceFact :=
  match context.entityAt subjectId with
  | none => [
    factOf python step context "entity.exists" s!"{subjectId} is not present in the snapshot."
      [subjectId] (.bool false),
    factOf python step context "entity.exists.false" s!"{subjectId} is absent." [subjectId] (.bool false),
    factOf python step context "entity.absent" s!"Required entity {subjectId} is absent."
      [subjectId] (.bool true)]
  | some entity => [
    factOf python step context "entity.exists" s!"{subjectId} exists." [subjectId] (.bool true),
    factOf python step context "entity.exists.true" s!"{subjectId} exists." [subjectId] (.bool true),
    factOf python step context "entity.state" s!"Current normalized state captured for {subjectId}." [subjectId]
      (.dict [("desired", .dict entity.desiredState.entries), ("observed", .dict entity.observedState.entries)])
      (some (Dict.ofList [("entity_type", .str entity.entityType), ("plane", .str entity.plane.text)]))] ++
    observedFields.filterMap (observedFact python step context entity subjectId)

/-- `_entity_state` -/
def entityState (step : CollectorPlanStep) (context : EvidenceContext) : List EvidenceFact :=
  (subjectsOf step context).flatMap (entityFacts python step context)

end Collector

variable {python : Python} {formatClaim : String → String → String → String} {catalog : DiagnosticCatalog}
variable {template generic : CausalTemplate} {symptom : Symptom} {symptoms : List Symptom}
variable {evidence : List EvidenceFact} {topology : TopologyGraph} {hypotheses : List Hypothesis}

section Generated

theorem mem_hypothesesFrom {templates : List CausalTemplate} {parent : Option String} {hypothesis : Hypothesis}
    (h : hypothesis ∈ hypothesesFrom python formatClaim evidence symptom parent templates) :
    ∃ template ∈ templates, ∃ parent, hypothesis =
      hypothesisOf python formatClaim evidence symptom parent template := by
  induction templates generalizing parent with
  | nil => cases h
  | cons first rest ih =>
    rcases List.mem_cons.mp h with heq | hrest
    · exact ⟨first, List.mem_cons_self, parent, heq⟩
    · obtain ⟨template, htemplate, hmade⟩ := ih hrest
      exact ⟨template, List.mem_cons_of_mem _ htemplate, hmade⟩

theorem made_of_mem_generate (hgenerate : generate python formatClaim catalog symptoms evidence topology =
    .ok hypotheses)
    {hypothesis : Hypothesis} (h : hypothesis ∈ hypotheses) :
    ∃ generic, catalog.template "operational.invariant_violation.v1" = .ok generic ∧
      ∃ symptom ∈ symptoms, ∃ template ∈ considered catalog generic topology symptom, ∃ parent unexplained,
        hypothesis = { hypothesisOf python formatClaim evidence symptom parent template with
          unexplainedSymptomIds := unexplained } := by
  unfold generate at hgenerate
  obtain ⟨generic, hgeneric, hmade⟩ := except_bind_eq_ok hgenerate
  obtain rfl := Except.ok.inj hmade
  rw [(List.perm_insertionSort _ _).mem_iff, markUnexplained] at h
  obtain ⟨kept, hkept, rfl⟩ := List.mem_map.mp h
  obtain ⟨symptom, hsymptom, hfrom⟩ := List.mem_flatMap.mp (mem_firstById hkept)
  obtain ⟨template, htemplate, parent, rfl⟩ := mem_hypothesesFrom hfrom
  exact ⟨generic, hgeneric, symptom, hsymptom, template, htemplate, parent, _, rfl⟩

end Generated

section OneSided

def ArguesOneWay (evidence : List EvidenceFact) (hypothesis : Hypothesis) : Prop :=
  ∀ fact ∈ evidence, ¬ (fact.evidenceId ∈ hypothesis.supportingEvidenceIds ∧
    fact.evidenceId ∈ hypothesis.contradictingEvidenceIds)

/-- No supporting pattern compares with a contradicting one. -/
def CausalTemplate.Separated (template : CausalTemplate) : Prop :=
  ∀ one ∈ template.supportingFactTypes, ∀ two ∈ template.contradictingFactTypes, Incomparable one two

def CausalTemplate.IsNeutral (template : CausalTemplate) (factType : String) : Prop :=
  ∃ one ∈ template.supportingFactTypes, ∃ two ∈ template.contradictingFactTypes, IsBase factType one ∧
    IsBase factType two

theorem matchesAny_iff {patterns : List String} {factType : String} :
    matchesAny patterns factType = true ↔ ∃ pattern ∈ patterns, factTypeMatches pattern factType = true :=
      List.any_eq_true

theorem matches_both_sides_iff (hseparated : template.Separated) {factType : String} :
    matchesAny template.supportingFactTypes factType = true ∧
      matchesAny template.contradictingFactTypes factType = true ↔
      template.IsNeutral factType := by
  rw [matchesAny_iff, matchesAny_iff]
  constructor
  · rintro ⟨⟨one, hone, hmatch⟩, ⟨two, htwo, hother⟩⟩
    exact ⟨one, hone, two, htwo, (matches_both_iff (hseparated one hone two htwo)).mp ⟨hmatch, hother⟩⟩
  · rintro ⟨one, hone, two, htwo, hbase⟩
    have hboth := (matches_both_iff (hseparated one hone two htwo)).mpr hbase
    exact ⟨⟨one, hone, hboth.1⟩, ⟨two, htwo, hboth.2⟩⟩

theorem mem_ids_iff (hids : (evidence.map fun item => item.evidenceId).Nodup) {chosen : EvidenceFact → Bool}
    {fact : EvidenceFact} (hfact : fact ∈ evidence) :
    fact.evidenceId ∈ (((relatedEvidence evidence symptom).filter chosen).map fun item => item.evidenceId) ↔
      fact ∈ relatedEvidence evidence symptom ∧ chosen fact = true := by
  rw [List.mem_map, ← List.mem_filter]
  constructor
  · rintro ⟨other, hother, hsame⟩
    have hmem : other ∈ evidence := (List.mem_filter.mp (List.mem_filter.mp hother).1).1
    obtain rfl := List.inj_on_of_nodup_map hids hmem hfact hsame
    exact hother
  · intro h
    exact ⟨fact, h, rfl⟩

/-- A hypothesis has each fact on one side exactly where no related fact is more general than patterns
of both sides. -/
theorem arguesOneWay_iff (python : Python) (formatClaim : String → String → String → String) (symptom : Symptom)
    (parent : Option String) (hseparated : template.Separated)
    (hids : (evidence.map fun item => item.evidenceId).Nodup) :
    ArguesOneWay evidence (hypothesisOf python formatClaim evidence symptom parent template) ↔
      ∀ fact ∈ relatedEvidence evidence symptom, ¬ template.IsNeutral fact.factType := by
  have hside : ∀ fact ∈ evidence,
      (fact.evidenceId ∈
        (hypothesisOf python formatClaim evidence symptom parent template).supportingEvidenceIds ∧
        fact.evidenceId ∈
          (hypothesisOf python formatClaim evidence symptom parent template).contradictingEvidenceIds ↔
      fact ∈ relatedEvidence evidence symptom ∧ template.IsNeutral fact.factType) := by
    intro fact hfact
    rw [← matches_both_sides_iff hseparated]
    show fact.evidenceId ∈ (supportingFacts template evidence symptom).map _ ∧
      fact.evidenceId ∈ (contradictingFacts template evidence symptom).map _ ↔ _
    rw [supportingFacts, contradictingFacts, mem_ids_iff hids hfact, mem_ids_iff hids hfact]
    exact and_and_left.symm
  constructor
  · intro h fact hrelated hneutral
    have hfact : fact ∈ evidence := (List.mem_filter.mp hrelated).1
    exact h fact hfact ((hside fact hfact).mpr ⟨hrelated, hneutral⟩)
  · intro h fact hfact hboth
    obtain ⟨hrelated, hneutral⟩ := (hside fact hfact).mp hboth
    exact h fact hrelated hneutral

end OneSided

section Example

def requiredAbsent : CausalTemplate where
  templateId := "entity.required_absent.v1"
  familyId := "entity.required_absent"
  title := "Required entity absent"
  claimTemplate := "Required entity \x7bsubject\x7d is absent from the observed environment."
  invariantFamilies := [.existence]
  supportingFactTypes := ["entity.absent", "entity.exists.false"]
  contradictingFactTypes := ["entity.exists.true"]
  predictedFactTypes := ["entity.exists"]
  evidenceIntentIds := ["entity.current_state.v1"]
  specificity := 4

theorem separated_requiredAbsent : requiredAbsent.Separated := by
  intro one hone two htwo
  obtain rfl := List.mem_singleton.mp htwo
  rcases List.mem_cons.mp hone with rfl | hone
  · exact ⟨by decide, by decide, by decide⟩
  · obtain rfl := List.mem_singleton.mp hone
    exact ⟨by decide, by decide, by decide⟩

def databaseAbsent : Symptom where
  symptomId := "symptom"
  symptomType := "invariant.existence.violated"
  statement := "the database is missing"
  subjectIds := ["database"]
  invariantFamily := some .existence

def databaseStep : CollectorPlanStep where
  collectorId := "snapshot.entity_state.v1"
  intentId := "entity.current_state.v1"
  subjectIds := ["database"]

def emptyContext : EvidenceContext := ⟨"snapshot", "", [], graphOf Python.plain [] []⟩

def databaseEvidence : List EvidenceFact := entityState Python.plain databaseStep emptyContext

def databaseExists : EvidenceFact :=
  factOf Python.plain databaseStep emptyContext "entity.exists" "database is not present in the snapshot."
    ["database"] (.bool false)

theorem databaseExists_mem : databaseExists ∈ relatedEvidence databaseEvidence databaseAbsent :=
  List.mem_filter.mpr ⟨List.mem_flatMap.mpr ⟨"database", by decide, List.mem_cons_self⟩, by decide⟩

def plainClaim (claimTemplate _ _ : String) : String := claimTemplate

def databaseThere : List EvidenceFact := [{ evidenceId := "ev-1", factType := "entity.exists.true"
                                            statement := "database exists.", subjectIds := ["database"]
                                            collectorId := "snapshot.entity_state.v1", observedAtIso := "" }]

theorem requiredAbsent_argues_one_way :
    ArguesOneWay databaseThere
      (hypothesisOf Python.plain plainClaim databaseThere databaseAbsent none requiredAbsent) := by
  refine (arguesOneWay_iff Python.plain plainClaim databaseAbsent none separated_requiredAbsent
    (by decide)).mpr ?_
  intro fact hfact hneutral
  obtain rfl := List.mem_singleton.mp (List.mem_filter.mp hfact).1
  obtain ⟨one, -, two, htwo, -, hbase⟩ := hneutral
  obtain rfl := List.mem_singleton.mp htwo
  exact absurd hbase (by decide)

/-- That the database does not exist is counted for its absence and against it. -/
theorem requiredAbsent_argues_both_ways : requiredAbsent.Separated ∧ databaseExists ∈ databaseEvidence ∧
    databaseExists ∈ supportingFacts requiredAbsent databaseEvidence databaseAbsent ∧
    databaseExists ∈ contradictingFacts requiredAbsent databaseEvidence databaseAbsent ∧
    ¬ ArguesOneWay databaseEvidence
      (hypothesisOf Python.plain plainClaim databaseEvidence databaseAbsent none requiredAbsent) := by
  have hfor : databaseExists ∈ supportingFacts requiredAbsent databaseEvidence databaseAbsent :=
    List.mem_filter.mpr ⟨databaseExists_mem, by decide⟩
  have hagainst : databaseExists ∈ contradictingFacts requiredAbsent databaseEvidence databaseAbsent :=
    List.mem_filter.mpr ⟨databaseExists_mem, by decide⟩
  have hmem : databaseExists ∈ databaseEvidence := (List.mem_filter.mp databaseExists_mem).1
  refine ⟨separated_requiredAbsent, hmem, hfor, hagainst, fun h => ?_⟩
  exact h databaseExists hmem ⟨List.mem_map_of_mem hfor, List.mem_map_of_mem hagainst⟩

end Example

end KubeOps.Diagnosis
