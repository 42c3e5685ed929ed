import KubeOps.Diagnosis.Resolution

/-! Where the catalog has what it names, an incident is opened, and its probes are run, on whatever can be
assessed and compiled. -/
namespace KubeOps.Diagnosis

open KubeOps.Foundation KubeOps.Models KubeOps.Invariants KubeOps.Health KubeOps.Topology

variable {python : Python} {parseFloat : String → Option Rat} {texts : ValueTexts} {localOffset : Int → Int}
variable {formatClaim : String → String → String → String} {catalog : DiagnosticCatalog}
variable {symptoms : List Symptom} {evidence : List EvidenceFact} {hypotheses : List Hypothesis}
variable {topology : TopologyGraph} {incident : IncidentInvestigation} {call : Inspection}

section Totality

variable {mode : String} {available existing : List String} {intent : EvidenceIntent}
variable {compiled : CompiledOperationalProfile} {assessment : OperationalProfileAssessment}
variable {incidentId : String}
variable {symptom : Symptom} {template generic : CausalTemplate} {newProbeId : String → String}

/-- What the catalog names it has: the generic template, the intents of its templates, and its
collectors under their own identifiers. -/
structure Complete (catalog : DiagnosticCatalog) : Prop where
  generic : ∃ template, catalog.template "operational.invariant_violation.v1" = .ok template
  intents : ∀ template ∈ catalog.templates.values, ∀ intentId ∈ template.evidenceIntentIds,
    ∃ intent, catalog.intent intentId = .ok intent
  collectors : ∀ definition ∈ catalog.collectors.values,
    ∃ found, catalog.collectors.get? definition.collectorId = some found

def Runs (catalog : DiagnosticCatalog) (step : CollectorPlanStep) : Prop :=
  ∃ definition ∈ catalog.collectors.values, step.collectorId = definition.collectorId

theorem runs_planCandidates {required : List String} {candidates : List (CollectorDefinition × Rat)}
    {covered : List String} {plan : EvidenceCollectionPlan}
    (hcandidates : ∀ candidate ∈ candidates, candidate.1 ∈ catalog.collectors.values)
    (h : ∀ step ∈ plan.steps, Runs catalog step) :
    ∀ step ∈ (planCandidates intent required candidates covered plan).2.steps, Runs catalog step := by
  induction candidates generalizing covered plan with
  | nil => exact h
  | cons candidate rest ih =>
    have hrest : ∀ other ∈ rest, other.1 ∈ catalog.collectors.values := fun other hother =>
      hcandidates other (List.mem_cons_of_mem _ hother)
    have hnext : ∀ step ∈ plan.steps ++ [stepOf intent required candidate.1 candidate.2],
      Runs catalog step := by
      intro step hstep
      rcases List.mem_append.mp hstep with hold | hnew
      · exact h step hold
      · obtain rfl := List.mem_singleton.mp hnew
        exact ⟨candidate.1, hcandidates candidate List.mem_cons_self, rfl⟩
    unfold planCandidates
    dsimp only
    split
    · exact ih hrest h
    split
    · exact ih hrest h
    split
    · exact hnext
    split
    · exact hnext
    · exact ih hrest hnext

theorem mem_collectors_of_mem_candidatesOf {candidate : CollectorDefinition × Rat}
    (h : candidate ∈ candidatesOf catalog mode available intent) : candidate.1 ∈ catalog.collectors.values := by
  obtain ⟨hvalues, -⟩ := mem_candidatesOf.mp ⟨candidate.2, h⟩
  exact ((perm_sortByKey _).map _).mem_iff.mp hvalues

theorem runs_plan (intents : List EvidenceIntent) :
    ∀ step ∈ (EvidencePlanner.plan catalog mode available intents existing).steps, Runs catalog step := by
  have hall : ∀ plan : EvidenceCollectionPlan, (∀ step ∈ plan.steps, Runs catalog step) →
      ∀ step ∈ (intents.foldl (planIntent catalog mode available existing) plan).steps, Runs catalog step := by
    induction intents with
    | nil => exact fun plan h => h
    | cons intent rest ih =>
      intro plan h
      apply ih
      unfold planIntent
      dsimp only
      split
      · exact h
      have hcandidates : ∀ candidate ∈ candidatesOf catalog mode available intent,
          candidate.1 ∈ catalog.collectors.values := fun _ => mem_collectors_of_mem_candidatesOf
      split
      · exact runs_planCandidates hcandidates h
      · exact runs_planCandidates hcandidates h
  intro step hstep
  exact hall {} (fun _ h => (List.not_mem_nil h).elim) step ((List.mem_insertionSort _).mp hstep)

theorem exists_planned (python : Python) (hcatalog : Complete catalog) (call : Inspection)
    (intents : List EvidenceIntent) (known : List EvidenceFact) : ∃ results,
    execute python catalog call (EvidencePlanner.plan catalog call.sourceType capabilities intents
      (known.map fun item => item.factType)).steps = .ok results := by
  apply exists_mapM_ok
  intro step hstep
  obtain ⟨definition, hdefinition, hid⟩ := runs_plan intents step hstep
  obtain ⟨found, hfound⟩ := hcatalog.collectors definition hdefinition
  unfold executeStep
  rw [hid, hfound]
  dsimp only
  split
  · exact ⟨_, rfl⟩
  split
  · exact ⟨_, rfl⟩
  · exact ⟨_, rfl⟩
  · exact ⟨_, rfl⟩

theorem mem_templates_of_mem_considered {generic template : CausalTemplate} {symptom : Symptom}
    (hgeneric : generic ∈ catalog.templates.values)
    (h : template ∈ considered catalog generic topology symptom) :
    template ∈ catalog.templates.values := by
  have hfamily : ∀ family, ∀ other ∈ catalog.templatesForFamily family, other ∈ catalog.templates.values :=
    fun family other hother => ((perm_sortByKey _).map _).mem_iff.mp (List.mem_filter.mp hother).1
  have hall := (List.mem_insertionSort _).mp (List.mem_filter.mp h).1
  split at hall
  · exact List.mem_singleton.mp hall ▸ hgeneric
  dsimp only at hall
  split at hall
  · exact hfamily _ _ hall
  · rcases List.mem_cons.mp hall with rfl | hfound
    · exact hgeneric
    · exact hfamily _ _ hfound

theorem requiredProbeIds_subset {symptom : Symptom} {parent : Option String} {template : CausalTemplate}
    {intentId : String}
    (h : intentId ∈ (hypothesisOf python formatClaim evidence symptom parent template).requiredProbeIds) :
    intentId ∈ template.evidenceIntentIds := by
  dsimp only [hypothesisOf] at h
  split at h
  · exact h
  · cases h

theorem exists_generate (hcatalog : Complete catalog) :
    ∃ hypotheses, generate python formatClaim catalog symptoms evidence topology = .ok hypotheses := by
  obtain ⟨generic, hgeneric⟩ := hcatalog.generic
  unfold generate
  rw [hgeneric]
  exact ⟨_, rfl⟩

theorem known_of_generate (hcatalog : Complete catalog)
    (hgenerate : generate python formatClaim catalog symptoms evidence topology = .ok hypotheses) :
    ∀ hypothesis ∈ hypotheses, ∀ intentId ∈ hypothesis.requiredProbeIds,
      ∃ intent, catalog.intent intentId = .ok intent := by
  intro hypothesis hmem intentId hid
  obtain ⟨generic, hgeneric, symptom, -, template, htemplate, parent, unexplained, rfl⟩ :=
    made_of_mem_generate hgenerate hmem
  have hvalues : generic ∈ catalog.templates.values := by
    unfold DiagnosticCatalog.template at hgeneric
    split at hgeneric
    · rename_i found hfound
      obtain rfl := Except.ok.inj hgeneric
      exact List.mem_map_of_mem (Dict.get?_eq_some.mp hfound)
    · cases hgeneric
  exact hcatalog.intents template (mem_templates_of_mem_considered hvalues htemplate) intentId
    (@requiredProbeIds_subset python formatClaim evidence symptom parent template intentId hid)

theorem plan_of_budget {newProbeId : String → String} {probes : List ProbeIntent}
    (h : ProbePlanner.plan catalog newProbeId hypotheses evidence none = .ok probes) (budget : Option Nat) :
    ProbePlanner.plan catalog newProbeId hypotheses evidence budget =
      .ok (match budget with
        | none => probes
        | some budget => probes.take budget) := by
  obtain ⟨found, hfound, h⟩ := except_bind_eq_ok h
  obtain rfl := Except.ok.inj h
  unfold ProbePlanner.plan
  rw [hfound]
  rfl

theorem exists_diagnose (python : Python) (texts : ValueTexts) (formatClaim : String → String → String → String)
    (hcatalog : Complete catalog) (call : Inspection) (incidentId : String)
    (compiled : CompiledOperationalProfile)
    (assessment : OperationalProfileAssessment) (evidence : List EvidenceFact) :
    ∃ refinement, diagnose python texts formatClaim catalog call incidentId compiled assessment evidence =
      .ok refinement := by
  have hgenerate : ∃ hypotheses, generate python formatClaim catalog
      (derive python texts compiled assessment evidence).1
        (derive python texts compiled assessment evidence).2 call.topology = .ok hypotheses :=
          exists_generate hcatalog
  obtain ⟨hypotheses, hgenerate⟩ := hgenerate
  have hplan : ∃ probes, ProbePlanner.plan catalog call.newProbeId hypotheses
      (derive python texts compiled assessment evidence).2 none = .ok probes :=
    exists_plan_iff.mpr fun hypothesis hmem _ => known_of_generate hcatalog hgenerate hypothesis hmem
  obtain ⟨probes, hplan⟩ := hplan
  unfold diagnose
  dsimp only
  rw [hgenerate]
  show ∃ refinement, ((ProbePlanner.plan catalog call.newProbeId hypotheses _ call.evidenceBudget).bind _) = _
  rw [plan_of_budget hplan]
  exact ⟨_, rfl⟩

theorem known_of_diagnose {refinement : Refinement}
    (h : diagnose python texts formatClaim catalog call incidentId compiled assessment evidence =
      .ok refinement) :
    ∀ probe ∈ refinement.probePlan, ∃ intent, catalog.intent probe.evidenceIntentId = .ok intent := by
  obtain ⟨hypotheses, -, h⟩ := except_bind_eq_ok h
  obtain ⟨probePlan, hbudget, h⟩ := except_bind_eq_ok h
  obtain rfl := Except.ok.inj h
  intro probe hprobe
  obtain ⟨found, hfound, hprobes⟩ := except_bind_eq_ok hbudget
  obtain ⟨probes, hplan⟩ : ∃ probes, ProbePlanner.plan catalog call.newProbeId hypotheses
      (derive python texts compiled assessment evidence).2 none = .ok probes := by
    unfold ProbePlanner.plan
    rw [hfound]
    exact ⟨_, rfl⟩
  rw [plan_of_budget hplan] at hbudget
  obtain rfl := Except.ok.inj hbudget
  have hmem : probe ∈ probes := by
    revert hprobe
    cases call.evidenceBudget with
    | none => exact id
    | some budget => exact List.mem_of_mem_take
  obtain ⟨intentId, affected, intent, -, hintent, hmade⟩ := (mem_plan_iff hplan).mp hmem
  rw [(probeOf_eq_some hmade).1]
  exact ⟨intent, hintent⟩

theorem exists_mem_hypothesesFrom {templates : List CausalTemplate} {given : Option String}
    (h : template ∈ templates) :
    ∃ hypothesis ∈ hypothesesFrom python formatClaim evidence symptom given templates,
      hypothesis.hypothesisId = hypothesisId python symptom template := by
  induction templates generalizing given with
  | nil => cases h
  | cons first rest ih =>
    rcases List.mem_cons.mp h with rfl | hrest
    · exact ⟨_, List.mem_cons_self, rfl⟩
    · obtain ⟨hypothesis, hmem, hid⟩ :=
        @ih (if first.generic then some (hypothesisId python symptom first) else given) hrest
      exact ⟨hypothesis, List.mem_cons_of_mem _ hmem, hid⟩

theorem exists_mem_generate
    (hgenerate : generate python formatClaim catalog symptoms evidence topology = .ok hypotheses)
    (hgeneric : catalog.template "operational.invariant_violation.v1" = .ok generic)
    (hsymptom : symptom ∈ symptoms) (htemplate : template ∈ considered catalog generic topology symptom) :
    ∃ hypothesis ∈ hypotheses, hypothesis.hypothesisId = hypothesisId python symptom template := by
  unfold generate at hgenerate
  rw [hgeneric] at hgenerate
  obtain rfl := Except.ok.inj hgenerate
  obtain ⟨made, hmade, hid⟩ :=
    @exists_mem_hypothesesFrom python formatClaim evidence symptom template _ none htemplate
  have hids : hypothesisId python symptom template ∈ (firstById (symptoms.flatMap fun symptom =>
      hypothesesFrom python formatClaim evidence symptom none
        (considered catalog generic topology symptom))).map
        fun item => item.hypothesisId :=
    mem_ids_firstById.mpr (List.mem_map.mpr ⟨made, List.mem_flatMap.mpr ⟨symptom, hsymptom, hmade⟩, hid⟩)
  obtain ⟨kept, hkept, hsame⟩ := List.mem_map.mp hids
  exact ⟨_, (List.mem_insertionSort _).mpr (List.mem_map_of_mem hkept), hsame⟩

theorem unsettled_of_missing {parent : Option String}
    (hcontradicting : contradictingFacts template evidence symptom = [])
    (hmissing : missingPredictions template evidence symptom ≠ []) :
    (hypothesisOf python formatClaim evidence symptom parent template).status ∈
        [HypothesisStatus.candidate, .supported, .unresolved] ∧
      (hypothesisOf python formatClaim evidence symptom parent template).requiredProbeIds =
        template.evidenceIntentIds := by
  have hstatus : ∀ supporting missing, missing ≠ [] →
      (scoreOf template.generic template.specificity supporting [] missing).status = .supported ∨
      (scoreOf template.generic template.specificity supporting [] missing).status = .candidate := by
    intro supporting missing hne
    have hzero : authoritySum [] = 0 := rfl
    unfold scoreOf
    dsimp only
    rw [hzero, if_neg fun h => lt_irrefl _ h.2, if_neg fun h => hne h.2.1]
    split
    · exact .inl rfl
    · exact .inr rfl
  have hscored := hstatus (supportingFacts template evidence symptom) _ hmissing
  unfold hypothesisOf
  dsimp only
  rw [hcontradicting]
  rcases hscored with h | h
  · rw [h, if_pos ⟨hmissing, by decide, by decide⟩]
    exact ⟨by decide, rfl⟩
  · rw [h, if_pos ⟨hmissing, by decide, by decide⟩]
    exact ⟨by decide, rfl⟩

theorem probeId_of_probeOf {intentId : String} {affected : List Hypothesis} {probe : ProbeIntent}
    (h : probeOf catalog newProbeId evidence intentId intent affected = some probe) :
    probe.probeId = newProbeId intentId := by
  unfold probeOf at h
  dsimp only at h
  split at h
  · cases h
  split at h
  · cases h
  · obtain rfl := Option.some.inj h
    rfl

theorem length_plan_le {probes : List ProbeIntent}
    (hplan : ProbePlanner.plan catalog newProbeId hypotheses evidence none = .ok probes) :
    probes.length ≤ catalog.intents.keys.length := by
  obtain ⟨found, hfound, hprobes⟩ := except_bind_eq_ok hplan
  obtain rfl := Except.ok.inj hprobes
  have hkeys : (intentHypotheses hypotheses).keys ⊆ catalog.intents.keys := by
    intro intentId hkey
    obtain ⟨affected, hentry⟩ := Dict.mem_keys.mp hkey
    obtain ⟨result, -, hmade⟩ := exists_mem_of_mapM hfound hentry
    obtain ⟨intent, hintent, -⟩ := except_map_eq_ok hmade
    unfold DiagnosticCatalog.intent at hintent
    split at hintent
    · rename_i hget
      exact Dict.mem_keys_of_get? hget
    · cases hintent
  have hunits : found.map (fun _ => ()) = (intentHypotheses hypotheses).entries.map fun _ => () :=
    map_eq_of_mapM hfound fun _ _ _ => rfl
  have hlength : found.length = (intentHypotheses hypotheses).entries.length := by
    simpa using congrArg List.length hunits
  calc _ = (found.filterMap id).length := (List.perm_insertionSort _ _).length_eq
    _ ≤ found.length := List.length_filterMap_le _ _
    _ = (intentHypotheses hypotheses).keys.length := by rw [hlength, Dict.keys, List.length_map]
    _ ≤ catalog.intents.keys.length := ((Dict.keys_nodup _).subperm hkeys).length_le

theorem exists_probe {hypothesis : Hypothesis} {intentId factType : String} {definition : CollectorDefinition}
    {budget : Nat} {probes : List ProbeIntent}
    (hplan : ProbePlanner.plan catalog newProbeId hypotheses evidence (some budget) = .ok probes)
    (hbudget : catalog.intents.keys.length ≤ budget) (hmem : hypothesis ∈ hypotheses)
    (hunresolved : isUnresolved hypothesis = true) (hnames : intentId ∈ hypothesis.requiredProbeIds)
    (hintent : catalog.intent intentId = .ok intent) (htype : factType ∈ hypothesis.predictions)
    (hopen : ∀ item ∈ evidence, factTypeMatches factType item.factType = false)
    (hdefinition : definition ∈ catalog.collectorValues) (hrelevant : isRelevant intent definition = true)
    (hprovides : definition.provides factType = true) :
    ∃ probe ∈ probes, probe.probeId = newProbeId intentId := by
  obtain ⟨all, hall⟩ : ∃ all, ProbePlanner.plan catalog newProbeId hypotheses evidence none = .ok all := by
    obtain ⟨found, hfound, -⟩ := except_bind_eq_ok hplan
    unfold ProbePlanner.plan
    rw [hfound]
    exact ⟨_, rfl⟩
  rw [plan_of_budget hall] at hplan
  obtain rfl := Except.ok.inj hplan
  obtain ⟨affected, hentry⟩ := Dict.mem_keys.mp
    (mem_keys_intentHypotheses.mpr ⟨hypothesis, hmem, hunresolved, hnames⟩)
  have hget := Dict.get?_eq_some.mpr hentry
  have hneeded : Needed hypotheses evidence intentId intent factType :=
    ⟨.inr ⟨hypothesis, hmem, hunresolved, hnames, htype⟩, hopen⟩
  have hsome : (probeOf catalog newProbeId evidence intentId intent affected).isSome = true :=
    (isSome_probeOf_iff hget).mpr ⟨factType, hneeded, definition, hdefinition, hrelevant, hprovides⟩
  obtain ⟨probe, hprobe⟩ := Option.isSome_iff_exists.mp hsome
  refine ⟨probe, ?_, probeId_of_probeOf hprobe⟩
  dsimp only
  rw [List.take_of_length_le ((length_plan_le hall).trans hbudget)]
  exact (mem_plan_iff hall).mpr ⟨intentId, affected, intent, hget, hintent, hprobe⟩

theorem mem_sortedFacts {existing : Dict String EvidenceFact} {item : EvidenceFact}
    (h : item ∈ sortedFacts existing) :
    item ∈ existing.values := (perm_sortedBy _ _).mem_iff.mp h

theorem mem_evidenceById {item : EvidenceFact} (h : item ∈ (evidenceById evidence).values) :
    item ∈ evidence := by
  obtain ⟨entry, hentry, rfl⟩ := List.mem_map.mp h
  obtain ⟨other, hother, rfl⟩ := List.mem_map.mp (Dict.mem_of_mem_ofList hentry)
  exact hother

theorem mem_mergeEvidence {groups : List (List EvidenceFact)} {item : EvidenceFact}
    (h : item ∈ mergeEvidence groups) :
    ∃ group ∈ groups, item ∈ group := List.mem_flatten.mp (mem_evidenceById (mem_sortedFacts h))

theorem mem_derive {item : EvidenceFact} (h : item ∈ (derive python texts compiled assessment evidence).2) :
    item ∈ evidence ∨ item ∈ troubleFacts python texts compiled assessment := by
  have hall : ∀ (facts : List EvidenceFact) (existing : Dict String EvidenceFact),
      item ∈ (facts.foldl setDefault existing).values → item ∈ existing.values ∨ item ∈ facts := by
    intro facts
    induction facts with
    | nil => exact fun _ h => .inl h
    | cons fact rest ih =>
      intro existing h
      rcases ih _ h with hold | hrest
      · unfold setDefault at hold
        split at hold
        · exact .inl hold
        · obtain ⟨entry, hentry, rfl⟩ := List.mem_map.mp hold
          rcases Dict.mem_entries_set.mp hentry with rfl | ⟨-, hkept⟩
          · exact .inr List.mem_cons_self
          · exact .inl (List.mem_map_of_mem hkept)
      · exact .inr (List.mem_cons_of_mem _ hrest)
  rcases hall _ _ (mem_sortedFacts h) with hold | hnew
  · exact .inl (mem_evidenceById hold)
  · exact .inr hnew

theorem exists_baselineIntents (subjectIds : List String)
    (h : ∀ intentId ∈ ["entity.current_state.v1", "dependency.path.v1", "observability.quality.v1"],
      ∃ intent, catalog.intent intentId = .ok intent) :
    ∃ intents, baselineIntents catalog subjectIds = .ok intents := by
  apply exists_mapM_ok
  intro intentId hid
  obtain ⟨intent, hintent⟩ := h intentId hid
  exact ⟨_, by rw [hintent]; rfl⟩

theorem exists_openIncident (hcatalog : Complete catalog)
    (hbaseline : ∀ intentId ∈ ["entity.current_state.v1", "dependency.path.v1", "observability.quality.v1"],
      ∃ intent, catalog.intent intentId = .ok intent)
    (hassess : call.assess python parseFloat texts localOffset = .ok assessment)
    (hcompile : call.compile python parseFloat = .ok compiled) (initialSymptom : Option String) :
    ∃ incident steps results refinement,
      openIncident python parseFloat texts localOffset formatClaim catalog call incidentId initialSymptom =
        .ok incident ∧
      execute python catalog call steps = .ok results ∧
      diagnose python texts formatClaim catalog call incidentId compiled assessment (mergeEvidence
        ((derive python texts compiled assessment []).2 :: results.map fun result => result.evidence)) =
          .ok refinement ∧
      incident.probePlan = refinement.probePlan := by
  obtain ⟨intents, hintents⟩ := exists_baselineIntents
    (affectedSubjects (derive python texts compiled assessment []).1) hbaseline
  obtain ⟨results, hresults⟩ := exists_planned python hcatalog call intents
    (derive python texts compiled assessment []).2
  obtain ⟨refinement, hrefinement⟩ :=
    exists_diagnose python texts formatClaim hcatalog call incidentId compiled assessment
    (mergeEvidence ((derive python texts compiled assessment []).2 :: results.map fun result =>
      result.evidence))
  unfold openIncident
  rw [hassess]
  show ∃ incident steps results refinement, ((call.compile python parseFloat).bind _) = _ ∧ _
  rw [hcompile]
  show ∃ incident steps results refinement, ((baselineIntents catalog _).bind _) = _ ∧ _
  rw [hintents]
  show ∃ incident steps results refinement, ((execute python catalog call _).bind _) = _ ∧ _
  rw [hresults]
  show ∃ incident steps results refinement,
    ((diagnose python texts formatClaim catalog call incidentId compiled assessment _).bind _) = _ ∧ _
  rw [hrefinement]
  show ∃ incident steps results refinement, ((IncidentInvestigation.validateReferences python _).bind _) = _ ∧ _
  rw [validateReferences_ok python (diagnose_eq_ok hrefinement).1]
  exact ⟨_, _, results, refinement, rfl, hresults, hrefinement, rfl⟩

theorem exists_runProbe (hcatalog : Complete catalog)
    (hknown : ∀ probe ∈ incident.probePlan, ∃ intent, catalog.intent probe.evidenceIntentId = .ok intent)
    (hassess : call.assess python parseFloat texts localOffset = .ok assessment)
    (hcompile : call.compile python parseFloat = .ok compiled) {probeId : String}
    (hprobe : ∃ probe ∈ incident.probePlan, probe.probeId = probeId) :
    ∃ next, runProbe python parseFloat texts localOffset formatClaim catalog incident probeId call =
      .ok next := by
  unfold runProbe
  split
  · rename_i hnone
    obtain ⟨probe, hmem, hid⟩ := hprobe
    exact absurd (decide_eq_true hid) (List.find?_eq_none.mp hnone probe hmem)
  · rename_i probe hfound
    obtain ⟨intent, hintent⟩ := hknown probe (List.mem_of_find?_eq_some hfound)
    obtain ⟨results, hresults⟩ :=
      exists_planned python hcatalog call [probedIntent intent probe] incident.evidence
    have hcollected : ∃ collected, collectForProbe python catalog incident probe call = .ok collected := by
      unfold collectForProbe
      rw [hintent]
      show ∃ collected, ((execute python catalog call _).bind _) = _
      rw [hresults]
      exact ⟨_, rfl⟩
    obtain ⟨collected, hcollected⟩ := hcollected
    obtain ⟨refinement, hrefinement⟩ :=
      exists_diagnose python texts formatClaim hcatalog call incident.incidentId compiled
      assessment (mergeEvidence (incident.evidence :: collected.2.map fun result => result.evidence))
    rw [hassess]
    show ∃ next, ((call.compile python parseFloat).bind _) = _
    rw [hcompile]
    show ∃ next, ((collectForProbe python catalog incident probe call).bind _) = _
    rw [hcollected]
    show ∃ next, ((diagnose python texts formatClaim catalog call _ compiled assessment _).bind _) = _
    rw [hrefinement]
    exact ⟨_, rfl⟩

end Totality

end KubeOps.Diagnosis
