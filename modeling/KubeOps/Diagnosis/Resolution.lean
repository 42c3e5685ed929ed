import KubeOps.Diagnosis.Investigation

/-! All that a diagnosis refers to is in it. -/
namespace KubeOps.Diagnosis

open KubeOps.Foundation KubeOps.Models KubeOps.Invariants KubeOps.Health KubeOps.Topology

variable {python : Python} {parseFloat : String → Option Rat} {texts : ValueTexts} {localOffset : Int → Int}
variable {formatClaim : String → String → String → String} {catalog : DiagnosticCatalog}
variable {symptoms : List Symptom} {evidence : List EvidenceFact} {hypotheses : List Hypothesis}
variable {topology : TopologyGraph} {incident : IncidentInvestigation} {call : Inspection}

section References

theorem missingIds_eq_nil_iff {ids known : List String} : missingIds ids known = [] ↔
    ∀ item ∈ ids, item ∈ known := by
  rw [missingIds, List.filter_eq_nil_iff]
  constructor
  · intro h item hitem
    have hkept := h item (mem_sortedSet.mpr hitem)
    rw [decide_eq_true_eq, not_not] at hkept
    exact hkept
  · intro h item hitem hmissing
    exact of_decide_eq_true hmissing (h item (mem_sortedSet.mp hitem))

theorem forM_ok {α : Type} {items : List α} {check : α → Except PyError Unit}
    (h : ∀ item ∈ items, check item = .ok ()) :
    items.forM check = .ok () := by
  induction items with
  | nil => rfl
  | cons item rest ih =>
    show (check item >>= fun _ => rest.forM check) = .ok ()
    rw [h item List.mem_cons_self]
    exact ih fun other hother => h other (List.mem_cons_of_mem _ hother)

/-- All that an incident refers to is in it. -/
structure Resolved (symptoms : List Symptom) (evidence : List EvidenceFact)
    (hypotheses : List Hypothesis) : Prop where
  symptomEvidence : ∀ symptom ∈ symptoms, ∀ evidenceId ∈ symptom.evidenceIds, evidenceId ∈ idsOf evidence
  explained : ∀ hypothesis ∈ hypotheses, ∀ symptomId ∈ hypothesis.explainsSymptomIds,
    symptomId ∈ symptoms.map fun item => item.symptomId
  weighed : ∀ hypothesis ∈ hypotheses,
    ∀ evidenceId ∈ hypothesis.supportingEvidenceIds ++ hypothesis.contradictingEvidenceIds,
      evidenceId ∈ idsOf evidence
  parent : ∀ hypothesis ∈ hypotheses, ∀ parent, hypothesis.parentHypothesisId = some parent →
    parent ∈ hypotheses.map fun item => item.hypothesisId

theorem validateReferences_ok (python : Python)
    (h : Resolved incident.symptoms incident.evidence incident.hypotheses) :
    incident.validateReferences python = .ok () := by
  have hsymptoms : incident.symptoms.forM (checkSymptom python (idsOf incident.evidence)) = .ok () := by
    apply forM_ok
    intro symptom hsymptom
    exact if_neg (not_not.mpr (missingIds_eq_nil_iff.mpr (h.symptomEvidence symptom hsymptom)))
  unfold IncidentInvestigation.validateReferences
  dsimp only
  rw [hsymptoms]
  apply forM_ok
  intro hypothesis hhypothesis
  unfold checkHypothesis
  dsimp only
  rw [if_neg (not_not.mpr (missingIds_eq_nil_iff.mpr (h.explained hypothesis hhypothesis))),
    if_neg (not_not.mpr (missingIds_eq_nil_iff.mpr (h.weighed hypothesis hhypothesis)))]
  cases hparent : hypothesis.parentHypothesisId with
  | none => rfl
  | some parent => exact if_neg fun hmissing => hmissing.2 (h.parent hypothesis hhypothesis parent hparent)

end References

section Hypotheses

theorem parent_of_mem_hypothesesFrom {symptom : Symptom} {templates : List CausalTemplate}
    {given : Option String}
    {hypothesis : Hypothesis}
    (h : hypothesis ∈ hypothesesFrom python formatClaim evidence symptom given templates)
    {parent : String} (hparent : hypothesis.parentHypothesisId = some parent) :
    given = some parent ∨ parent ∈ (hypothesesFrom python formatClaim evidence symptom given templates).map
      fun item => item.hypothesisId := by
  induction templates generalizing given with
  | nil => cases h
  | cons template rest ih =>
    rcases List.mem_cons.mp h with rfl | hrest
    · left
      change (if template.generic then none else given) = some parent at hparent
      split at hparent
      · cases hparent
      · exact hparent
    · rcases ih hrest with hgiven | hmade
      · split at hgiven
        · right
          exact List.mem_cons.mpr (.inl (Option.some.inj hgiven).symm)
        · exact .inl hgiven
      · exact .inr (List.mem_cons_of_mem _ hmade)

theorem resolved_generate (hgenerate : generate python formatClaim catalog symptoms evidence topology =
    .ok hypotheses)
    (hsymptoms : ∀ symptom ∈ symptoms, ∀ evidenceId ∈ symptom.evidenceIds, evidenceId ∈ idsOf evidence) :
    Resolved symptoms evidence hypotheses := by
  refine ⟨hsymptoms, ?_, ?_, ?_⟩
  · intro hypothesis hmem symptomId hid
    obtain ⟨_, _, symptom, hsymptom, _, _, _, _, rfl⟩ := made_of_mem_generate hgenerate hmem
    obtain rfl := List.mem_singleton.mp hid
    exact List.mem_map_of_mem hsymptom
  · intro hypothesis hmem evidenceId hid
    obtain ⟨_, _, symptom, _, template, _, _, _, rfl⟩ := made_of_mem_generate hgenerate hmem
    have hrelated : ∀ {chosen : EvidenceFact → Bool},
        evidenceId ∈ (((relatedEvidence evidence symptom).filter chosen).map fun item => item.evidenceId) →
        evidenceId ∈ idsOf evidence := by
      intro chosen hchosen
      obtain ⟨item, hitem, rfl⟩ := List.mem_map.mp hchosen
      exact List.mem_map_of_mem (List.mem_filter.mp (List.mem_filter.mp hitem).1).1
    rcases List.mem_append.mp hid with hfor | hagainst
    · exact hrelated hfor
    · exact hrelated hagainst
  · intro hypothesis hmem parent hparent
    unfold generate at hgenerate
    obtain ⟨generic, -, hmade⟩ := except_bind_eq_ok hgenerate
    obtain rfl := Except.ok.inj hmade
    have hids : ∀ hypothesisId, hypothesisId ∈ ((markUnexplained (firstById (symptoms.flatMap fun symptom =>
        hypothesesFrom python formatClaim evidence symptom none (considered catalog generic topology symptom)))
        symptoms).map fun item => item.hypothesisId) ↔ hypothesisId ∈ ((symptoms.flatMap fun symptom =>
        hypothesesFrom python formatClaim evidence symptom none
          (considered catalog generic topology symptom)).map
          fun item => item.hypothesisId) := by
      intro hypothesisId
      rw [markUnexplained, List.map_map]
      exact mem_ids_firstById
    rw [((List.perm_insertionSort _ _).map _).mem_iff, hids]
    rw [(List.perm_insertionSort _ _).mem_iff, markUnexplained] at hmem
    obtain ⟨kept, hkept, rfl⟩ := List.mem_map.mp hmem
    obtain ⟨symptom, hsymptom, hfrom⟩ := List.mem_flatMap.mp (mem_firstById hkept)
    rcases parent_of_mem_hypothesesFrom hfrom hparent with hnone | hfound
    · cases hnone
    · obtain ⟨item, hitem, hsame⟩ := List.mem_map.mp hfound
      exact List.mem_map.mpr ⟨item, List.mem_flatMap.mpr ⟨symptom, hsymptom, hitem⟩, hsame⟩

variable {compiled : CompiledOperationalProfile} {assessment : OperationalProfileAssessment}
  {incidentId : String}
  {refinement : Refinement}

theorem diagnose_eq_ok
    (h : diagnose python texts formatClaim catalog call incidentId compiled assessment evidence =
      .ok refinement) :
    Resolved refinement.symptoms refinement.evidence refinement.hypotheses ∧
      refinement.symptoms = (derive python texts compiled assessment evidence).1 ∧
      refinement.evidence = (derive python texts compiled assessment evidence).2 ∧
      refinement.certificate.violatedInvariantIds = assessment.violatedInvariantIds := by
  obtain ⟨hypotheses, hgenerate, h⟩ := except_bind_eq_ok h
  obtain ⟨probePlan, -, h⟩ := except_bind_eq_ok h
  obtain rfl := Except.ok.inj h
  refine ⟨?_, rfl, rfl, rfl⟩
  exact resolved_generate hgenerate fun symptom hsymptom => evidenceIds_of_mem_derive hsymptom

end Hypotheses

end KubeOps.Diagnosis
