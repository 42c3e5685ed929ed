import KubeOps.Diagnosis.Probes

/-! Which unsettled hypotheses a probe is recommended for, and which recommended probes have a step
to take: both planners work on the fact types that no fact of the incident matches, whatever its
subjects are. -/
namespace KubeOps.Diagnosis

open KubeOps.Foundation KubeOps.Models KubeOps.Invariants KubeOps.Topology

variable {python : Python} {formatClaim : String → String → String → String} {catalog : DiagnosticCatalog}
variable {mode : String} {available : List String} {newProbeId : String → String} {topology : TopologyGraph}
variable {symptoms : List Symptom} {hypotheses affected : List Hypothesis} {evidence : List EvidenceFact}
variable {intent : EvidenceIntent} {intentId factType : String} {probe : ProbeIntent}
  {probes : List ProbeIntent}

section Coverage

variable (catalog mode available hypotheses evidence)

def Needed (intentId : String) (intent : EvidenceIntent) (factType : String) : Prop :=
  (factType ∈ intent.requiredFactTypes ∨ ∃ other ∈ hypotheses, isUnresolved other = true ∧
    intentId ∈ other.requiredProbeIds ∧ factType ∈ other.predictions) ∧
  ∀ item ∈ evidence, factTypeMatches factType item.factType = false

/-- A collector that the intent prefers or shares a question with provides something that is needed. -/
def Answerable (intentId : String) (intent : EvidenceIntent) : Prop :=
  ∃ factType, Needed hypotheses evidence intentId intent factType ∧
    ∃ definition ∈ catalog.collectorValues, isRelevant intent definition = true ∧
      definition.provides factType = true

/-- A collector that is usable here provides something that is needed. -/
def Collectable (intentId : String) (intent : EvidenceIntent) : Prop :=
  ∃ factType, Needed hypotheses evidence intentId intent factType ∧
    ∃ definition ∈ catalog.collectorValues, isUsable mode available definition = true ∧
      definition.provides factType = true

/-- A usable collector provides something that the hypothesis predicts and misses. -/
def Testable (hypothesis : Hypothesis) : Prop :=
  ∃ factType ∈ hypothesis.predictions,
    ∃ definition ∈ catalog.collectorValues, isUsable mode available definition = true ∧
      definition.provides factType = true

/-- Each unsettled hypothesis that can be tested is among those of a recommended probe, and each
recommended probe has a step. -/
def PlansWell (newProbeId : String → String) : Prop :=
  ∃ probes, ProbePlanner.plan catalog newProbeId hypotheses evidence none = .ok probes ∧
    (∀ hypothesis ∈ hypotheses, isUnresolved hypothesis = true → Testable catalog mode available hypothesis →
      ∃ probe ∈ probes, hypothesis.hypothesisId ∈ probe.applicableHypothesisIds) ∧
    ∀ probe ∈ probes, ∃ steps, probeSteps catalog mode available evidence probe = .ok steps ∧ steps ≠ []

end Coverage

section Needs

theorem mem_distinct {items : List String} {item : String} : item ∈ distinct items ↔ item ∈ items := by
  rw [distinct, Dict.mem_keys_ofList, List.map_map]
  exact List.mem_map.trans ⟨fun ⟨_, hmem, hsame⟩ => hsame ▸ hmem, fun hmem => ⟨item, hmem, rfl⟩⟩

theorem mem_openTypes {existing factTypes : List String} : factType ∈ openTypes existing factTypes ↔
    factType ∈ factTypes ∧ ∀ item ∈ existing, factTypeMatches factType item = false := by
  rw [openTypes, List.mem_filter, Bool.not_eq_true', List.any_eq_false]
  apply and_congr_right
  intro _
  exact forall₂_congr fun item _ => Bool.not_eq_true _ |>.to_iff

theorem mem_missingTypes : factType ∈ missingTypes intent affected evidence ↔
    (factType ∈ intent.requiredFactTypes ∨ ∃ other ∈ affected, factType ∈ other.predictions) ∧
      ∀ item ∈ evidence, factTypeMatches factType item.factType = false := by
  rw [missingTypes, mem_openTypes, mem_distinct, List.mem_append, mem_sortedSet, List.mem_flatMap,
    List.forall_mem_map]

theorem openTypes_missingTypes : openTypes (evidence.map fun item => item.factType)
    (missingTypes intent affected evidence) =
    missingTypes intent affected evidence := by
  unfold missingTypes openTypes
  rw [List.filter_filter]
  simp only [Bool.and_self]

theorem mem_affected (h : (intentHypotheses hypotheses).get? intentId = some affected)
    {hypothesis : Hypothesis} :
    hypothesis ∈ affected ↔
      hypothesis ∈ hypotheses ∧ isUnresolved hypothesis = true ∧ intentId ∈ hypothesis.requiredProbeIds := by
  rw [intentHypotheses, Dict.get?_grouped_eq] at h
  split at h
  · cases h
  · obtain rfl := Option.some.inj h
    constructor
    · intro hmem
      obtain ⟨pair, hpair, rfl⟩ := List.mem_map.mp hmem
      obtain ⟨hpair, hkey⟩ := List.mem_filter.mp hpair
      obtain ⟨other, hother, hpair⟩ := List.mem_flatMap.mp hpair
      obtain ⟨key, hkeys, rfl⟩ := List.mem_map.mp hpair
      obtain rfl : key = intentId := of_decide_eq_true hkey
      exact ⟨(List.mem_filter.mp hother).1, (List.mem_filter.mp hother).2, hkeys⟩
    · rintro ⟨hmem, hunresolved, hnames⟩
      refine List.mem_map.mpr ⟨(intentId, hypothesis), List.mem_filter.mpr ⟨?_, decide_eq_true rfl⟩, rfl⟩
      exact List.mem_flatMap.mpr ⟨hypothesis, List.mem_filter.mpr ⟨hmem, hunresolved⟩,
        List.mem_map_of_mem hnames⟩

theorem mem_keys_intentHypotheses : intentId ∈ (intentHypotheses hypotheses).keys ↔
    ∃ hypothesis ∈ hypotheses, isUnresolved hypothesis = true ∧ intentId ∈ hypothesis.requiredProbeIds := by
  rw [intentHypotheses, Dict.mem_keys_grouped]
  constructor
  · rintro ⟨pair, hpair, rfl⟩
    obtain ⟨other, hother, hpair⟩ := List.mem_flatMap.mp hpair
    obtain ⟨key, hkeys, rfl⟩ := List.mem_map.mp hpair
    exact ⟨other, (List.mem_filter.mp hother).1, (List.mem_filter.mp hother).2, hkeys⟩
  · rintro ⟨hypothesis, hmem, hunresolved, hnames⟩
    refine ⟨(intentId, hypothesis), ?_, rfl⟩
    exact List.mem_flatMap.mpr ⟨hypothesis, List.mem_filter.mpr ⟨hmem, hunresolved⟩, List.mem_map_of_mem hnames⟩

theorem mem_missingTypes_iff (h : (intentHypotheses hypotheses).get? intentId = some affected) :
    factType ∈ missingTypes intent affected evidence ↔ Needed hypotheses evidence intentId intent factType := by
  rw [mem_missingTypes, Needed]
  apply and_congr_left
  intro _
  apply or_congr_right
  apply exists_congr
  intro other
  rw [mem_affected h, and_assoc, and_assoc]

end Needs

section Recommended

theorem probeOf_eq_some (h : probeOf catalog newProbeId evidence intentId intent affected = some probe) :
    probe.evidenceIntentId = intentId ∧
      (probe.applicableHypothesisIds = affected.map fun item => item.hypothesisId) ∧
      probe.missingFactTypes = missingTypes intent affected evidence ∧
        missingTypes intent affected evidence ≠ [] := by
  unfold probeOf at h
  dsimp only at h
  split at h
  · cases h
  · rename_i hmissing
    split at h
    · cases h
    · obtain rfl := Option.some.inj h
      exact ⟨rfl, rfl, rfl, hmissing⟩

theorem probeOf_isSome_iff : (probeOf catalog newProbeId evidence intentId intent affected).isSome = true ↔
    ∃ factType ∈ missingTypes intent affected evidence,
      ∃ definition ∈ catalog.collectorValues, isRelevant intent definition = true ∧
        definition.provides factType = true := by
  have hcandidates : probeCandidates catalog intent (missingTypes intent affected evidence) ≠ [] ↔
      ∃ factType ∈ missingTypes intent affected evidence, ∃ definition ∈ catalog.collectorValues,
        isRelevant intent definition = true ∧ definition.provides factType = true := by
    constructor
    · intro h
      obtain ⟨definition, hmem⟩ := List.exists_mem_of_ne_nil _ h
      obtain ⟨hvalues, hboth⟩ := List.mem_filter.mp hmem
      obtain ⟨hrelevant, hany⟩ := Bool.and_eq_true_iff.mp hboth
      obtain ⟨factType, htype, hprovides⟩ := List.any_eq_true.mp hany
      exact ⟨factType, htype, definition, hvalues, hrelevant, hprovides⟩
    · rintro ⟨factType, htype, definition, hvalues, hrelevant, hprovides⟩
      refine List.ne_nil_of_mem (List.mem_filter.mpr ⟨hvalues, Bool.and_eq_true_iff.mpr
        ⟨hrelevant, List.any_eq_true.mpr ⟨factType, htype, hprovides⟩⟩⟩)
  rw [← hcandidates]
  unfold probeOf
  by_cases hmissing : missingTypes intent affected evidence = []
  · rw [if_pos hmissing, hmissing]
    have hnone : probeCandidates catalog intent [] = [] := List.filter_eq_nil_iff.mpr fun _ _ => by simp
    rw [hnone]
    exact ⟨nofun, fun h => absurd rfl h⟩
  · rw [if_neg hmissing]
    cases probeCandidates catalog intent (missingTypes intent affected evidence) with
    | nil => exact ⟨nofun, fun h => absurd rfl h⟩
    | cons first rest => exact ⟨fun _ => List.cons_ne_nil _ _, fun _ => rfl⟩

theorem exists_plan_iff :
    (∃ probes, ProbePlanner.plan catalog newProbeId hypotheses evidence none = .ok probes) ↔
    ∀ hypothesis ∈ hypotheses, isUnresolved hypothesis = true →
      ∀ intentId ∈ hypothesis.requiredProbeIds, ∃ intent, catalog.intent intentId = .ok intent := by
  constructor
  · rintro ⟨probes, hplan⟩ hypothesis hmem hunresolved intentId hnames
    obtain ⟨found, hfound, -⟩ := except_bind_eq_ok hplan
    have hkey := mem_keys_intentHypotheses.mpr ⟨hypothesis, hmem, hunresolved, hnames⟩
    obtain ⟨affected, hentry⟩ := Dict.mem_keys.mp hkey
    obtain ⟨result, -, hresult⟩ := exists_mem_of_mapM hfound hentry
    obtain ⟨intent, hintent, -⟩ := except_map_eq_ok hresult
    exact ⟨intent, hintent⟩
  · intro h
    have hall : ∃ found, (intentHypotheses hypotheses).entries.mapM (fun entry =>
        (catalog.intent entry.1).map fun intent => probeOf catalog newProbeId evidence entry.1 intent entry.2) =
          .ok found := by
      apply exists_mapM_ok
      intro entry hentry
      obtain ⟨hypothesis, hmem, hunresolved, hnames⟩ :=
        mem_keys_intentHypotheses.mp (Dict.mem_keys.mpr ⟨entry.2, hentry⟩)
      obtain ⟨intent, hintent⟩ := h hypothesis hmem hunresolved entry.1 hnames
      exact ⟨_, by rw [hintent]; rfl⟩
    obtain ⟨found, hfound⟩ := hall
    unfold ProbePlanner.plan
    rw [hfound]
    exact ⟨_, rfl⟩

theorem mem_plan_iff (hplan : ProbePlanner.plan catalog newProbeId hypotheses evidence none = .ok probes) :
    probe ∈ probes ↔ ∃ intentId affected intent, (intentHypotheses hypotheses).get? intentId = some affected ∧
      catalog.intent intentId = .ok intent ∧
      probeOf catalog newProbeId evidence intentId intent affected = some probe := by
  obtain ⟨found, hfound, hprobes⟩ := except_bind_eq_ok hplan
  obtain rfl := Except.ok.inj hprobes
  rw [(List.perm_insertionSort _ _).mem_iff, List.mem_filterMap]
  constructor
  · rintro ⟨result, hresult, hsome⟩
    obtain ⟨entry, hentry, hmade⟩ := mem_of_mapM hfound hresult
    obtain ⟨intent, hintent, rfl⟩ := except_map_eq_ok hmade
    exact ⟨entry.1, entry.2, intent, Dict.get?_eq_some.mpr hentry, hintent, hsome⟩
  · rintro ⟨intentId, affected, intent, hget, hintent, hsome⟩
    obtain ⟨result, hresult, hmade⟩ := exists_mem_of_mapM hfound (Dict.get?_eq_some.mp hget)
    rw [hintent] at hmade
    obtain rfl := Except.ok.inj hmade
    exact ⟨_, hresult, hsome⟩

end Recommended

section Steps

theorem expectedTypes_ne_nil_iff {required : List String} {definition : CollectorDefinition}
    (hrequired : required ≠ []) :
    expectedTypes required definition ≠ [] ↔ ∃ factType ∈ required, definition.provides factType = true := by
  obtain ⟨first, rest, rfl⟩ := List.exists_cons_of_ne_nil hrequired
  constructor
  · intro h
    obtain ⟨provided, hmem⟩ := List.exists_mem_of_ne_nil _ h
    obtain ⟨hprovided, hany⟩ := List.mem_filter.mp ((List.mem_insertionSort _).mp hmem)
    obtain ⟨factType, htype, hmatch⟩ := List.any_eq_true.mp hany
    exact ⟨factType, htype, List.any_eq_true.mpr ⟨provided, hprovided, hmatch⟩⟩
  · rintro ⟨factType, htype, hprovides⟩
    obtain ⟨provided, hprovided, hmatch⟩ := List.any_eq_true.mp hprovides
    apply List.ne_nil_of_mem (a := provided)
    exact (List.mem_insertionSort _).mpr
      (List.mem_filter.mpr ⟨hprovided, List.any_eq_true.mpr ⟨factType, htype, hmatch⟩⟩)

variable {required covered : List String} {candidates : List (CollectorDefinition × Rat)}
  {plan : EvidenceCollectionPlan}

theorem steps_planCandidates_ne_nil (h : plan.steps ≠ []) :
    (planCandidates intent required candidates covered plan).2.steps ≠ [] := by
  induction candidates generalizing covered plan with
  | nil => exact h
  | cons candidate rest ih =>
    unfold planCandidates
    dsimp only
    split
    · exact ih h
    split
    · exact ih h
    have hnext : plan.steps ++ [stepOf intent required candidate.1 candidate.2] ≠ [] :=
      List.append_ne_nil_of_left_ne_nil h _
    split
    · exact hnext
    split
    · exact hnext
    · exact ih hnext

theorem steps_planCandidates_iff (hrequired : required ≠ []) (hsteps : plan.steps = [])
    (hselected : plan.selected = []) :
    (planCandidates intent required candidates covered plan).2.steps ≠ [] ↔
      ∃ candidate ∈ candidates, expectedTypes required candidate.1 ≠ [] := by
  induction candidates generalizing covered plan with
  | nil => simp [planCandidates, hsteps]
  | cons candidate rest ih =>
    unfold planCandidates
    dsimp only
    by_cases hexpected : expectedTypes required candidate.1 = []
    · rw [if_pos ⟨hrequired, hexpected⟩, ih hsteps hselected]
      simp [hexpected]
    · rw [if_neg fun h => hexpected h.2, hselected, if_neg List.not_mem_nil]
      have hnext : plan.steps ++ [stepOf intent required candidate.1 candidate.2] ≠ [] :=
        List.append_ne_nil_of_right_ne_nil _ (List.cons_ne_nil _ _)
      have hexists : ∃ other ∈ candidate :: rest, expectedTypes required other.1 ≠ [] :=
        ⟨candidate, List.mem_cons_self, hexpected⟩
      refine iff_of_true ?_ hexists
      split
      · exact hnext
      split
      · exact hnext
      · exact steps_planCandidates_ne_nil hnext

theorem mem_candidatesOf {definition : CollectorDefinition} :
    (∃ score, (definition, score) ∈ candidatesOf catalog mode available intent) ↔
      definition ∈ catalog.collectorValues ∧ isUsable mode available definition = true ∧
        (candidateScore intent definition).isSome = true := by
  constructor
  · rintro ⟨score, h⟩
    rw [candidatesOf, List.mem_insertionSort, List.mem_filterMap] at h
    obtain ⟨other, hother, hscore⟩ := h
    obtain ⟨found, hfound, hpair⟩ := Option.map_eq_some_iff.mp hscore
    obtain ⟨rfl, rfl⟩ := Prod.mk.inj hpair
    obtain ⟨hvalues, husable⟩ := List.mem_filter.mp hother
    exact ⟨hvalues, husable, by rw [hfound]; rfl⟩
  · rintro ⟨hvalues, husable, hscore⟩
    obtain ⟨score, hfound⟩ := Option.isSome_iff_exists.mp hscore
    refine ⟨score, ?_⟩
    rw [candidatesOf, List.mem_insertionSort, List.mem_filterMap]
    exact ⟨definition, List.mem_filter.mpr ⟨hvalues, husable⟩, by rw [hfound]; rfl⟩

theorem isSome_candidateScore {definition : CollectorDefinition} (htype : factType ∈ intent.requiredFactTypes)
    (hprovides : definition.provides factType = true) : (candidateScore intent definition).isSome = true := by
  unfold candidateScore
  have hoverlap : (intent.requiredFactTypes.filter definition.provides).length ≠ 0 := by
    intro hzero
    have hmem : factType ∈ intent.requiredFactTypes.filter definition.provides :=
      List.mem_filter.mpr ⟨htype, hprovides⟩
    rw [List.eq_nil_of_length_eq_zero hzero] at hmem
    cases hmem
  dsimp only
  rw [if_neg fun h => hoverlap h.2.1]
  rfl

theorem steps_plan_iff {existing : List String} (hrequired : intent.requiredFactTypes ≠ [])
    (hopen : openTypes existing intent.requiredFactTypes = intent.requiredFactTypes) :
    (EvidencePlanner.plan catalog mode available [intent] existing).steps ≠ [] ↔
      ∃ factType ∈ intent.requiredFactTypes, ∃ definition ∈ catalog.collectorValues,
        isUsable mode available definition = true ∧ definition.provides factType = true := by
  have hsteps : (EvidencePlanner.plan catalog mode available [intent] existing).steps ≠ [] ↔
      (planCandidates intent intent.requiredFactTypes (candidatesOf catalog mode available intent) []
        {}).2.steps ≠ [] := by
    show List.insertionSort _ (planIntent catalog mode available existing {} intent).steps ≠ [] ↔ _
    rw [Ne, ← List.length_eq_zero_iff, (List.perm_insertionSort _ _).length_eq, List.length_eq_zero_iff, ← Ne]
    unfold planIntent
    rw [hopen, if_neg fun h => hrequired h.1]
    dsimp only
    split
    · exact Iff.rfl
    · exact Iff.rfl
  rw [hsteps, steps_planCandidates_iff hrequired rfl rfl]
  constructor
  · rintro ⟨candidate, hcandidate, hexpected⟩
    obtain ⟨hvalues, husable, -⟩ := mem_candidatesOf.mp ⟨candidate.2, hcandidate⟩
    obtain ⟨factType, htype, hprovides⟩ := (expectedTypes_ne_nil_iff hrequired).mp hexpected
    exact ⟨factType, htype, candidate.1, hvalues, husable, hprovides⟩
  · rintro ⟨factType, htype, definition, hvalues, husable, hprovides⟩
    obtain ⟨score, hcandidate⟩ := mem_candidatesOf.mpr ⟨hvalues, husable, isSome_candidateScore htype hprovides⟩
    exact ⟨(definition, score), hcandidate, (expectedTypes_ne_nil_iff hrequired).mpr
      ⟨factType, htype, hprovides⟩⟩

end Steps

section Identifiers

theorem nodup_generate (h : generate python formatClaim catalog symptoms evidence topology = .ok hypotheses) :
    (hypotheses.map fun item => item.hypothesisId).Nodup := by
  unfold generate at h
  obtain ⟨generic, -, hmade⟩ := except_bind_eq_ok h
  obtain rfl := Except.ok.inj hmade
  rw [((List.perm_insertionSort _ _).map _).nodup_iff, markUnexplained, List.map_map]
  exact nodup_firstById _

end Identifiers

section Agreement

/-- Each intent that is named is known, each hypothesis that can be tested names one with something to
find and a collector of its own to find it, and what such a collector could find something usable can. -/
structure PlannersAgree (catalog : DiagnosticCatalog) (mode : String) (available : List String)
    (hypotheses : List Hypothesis) (evidence : List EvidenceFact) : Prop where
  known : ∀ hypothesis ∈ hypotheses, isUnresolved hypothesis = true → ∀ intentId ∈ hypothesis.requiredProbeIds,
    ∃ intent, catalog.intent intentId = .ok intent
  answerable : ∀ hypothesis ∈ hypotheses, isUnresolved hypothesis = true →
    Testable catalog mode available hypothesis → ∃ intentId ∈ hypothesis.requiredProbeIds, ∃ intent,
      catalog.intent intentId = .ok intent ∧ Answerable catalog hypotheses evidence intentId intent
  collectable : ∀ hypothesis ∈ hypotheses, isUnresolved hypothesis = true →
    ∀ intentId ∈ hypothesis.requiredProbeIds,
    ∀ intent, catalog.intent intentId = .ok intent → Answerable catalog hypotheses evidence intentId intent →
      Collectable catalog mode available hypotheses evidence intentId intent

theorem isSome_probeOf_iff (h : (intentHypotheses hypotheses).get? intentId = some affected) :
    (probeOf catalog newProbeId evidence intentId intent affected).isSome = true ↔
      Answerable catalog hypotheses evidence intentId intent := by
  rw [probeOf_isSome_iff, Answerable]
  exact exists_congr fun factType => and_congr_left fun _ => mem_missingTypes_iff h

theorem probeSteps_iff (hget : (intentHypotheses hypotheses).get? intentId = some affected)
    (hintent : catalog.intent intentId = .ok intent)
    (hprobe : probeOf catalog newProbeId evidence intentId intent affected = some probe) :
    (∃ steps, probeSteps catalog mode available evidence probe = .ok steps ∧ steps ≠ []) ↔
      Collectable catalog mode available hypotheses evidence intentId intent := by
  obtain ⟨hid, -, hmissing, hne⟩ := probeOf_eq_some hprobe
  have hrequired : (probedIntent intent probe).requiredFactTypes =
    missingTypes intent affected evidence := hmissing
  have hopen : openTypes (evidence.map fun item => item.factType)
    (probedIntent intent probe).requiredFactTypes =
      (probedIntent intent probe).requiredFactTypes := by
    rw [hrequired]
    exact openTypes_missingTypes
  have hsteps := @steps_plan_iff catalog mode available (probedIntent intent probe) _
    (by rw [hrequired]; exact hne) hopen
  rw [hrequired] at hsteps
  rw [probeSteps, hid, hintent, Collectable]
  constructor
  · rintro ⟨steps, hok, hsome⟩
    obtain rfl := Except.ok.inj hok
    obtain ⟨factType, htype, hdefinition⟩ := hsteps.mp hsome
    exact ⟨factType, (mem_missingTypes_iff hget).mp htype, hdefinition⟩
  · rintro ⟨factType, hneeded, hdefinition⟩
    exact ⟨_, rfl, hsteps.mpr ⟨factType, (mem_missingTypes_iff hget).mpr hneeded, hdefinition⟩⟩

/-- The probes of an incident cover what can be tested, and each has a step, exactly where the two
planners agree. -/
theorem plansWell_iff (mode : String) (available : List String) (newProbeId : String → String)
    (hgenerate : generate python formatClaim catalog symptoms evidence topology = .ok hypotheses) :
    PlansWell catalog mode available hypotheses evidence newProbeId ↔
      PlannersAgree catalog mode available hypotheses evidence := by
  constructor
  · rintro ⟨probes, hplan, hcomplete, hactionable⟩
    refine ⟨exists_plan_iff.mp ⟨probes, hplan⟩, ?_, ?_⟩
    · intro hypothesis hmem hunresolved htestable
      obtain ⟨probe, hprobe, hid⟩ := hcomplete hypothesis hmem hunresolved htestable
      obtain ⟨intentId, affected, intent, hget, hintent, hmade⟩ := (mem_plan_iff hplan).mp hprobe
      rw [(probeOf_eq_some hmade).2.1] at hid
      obtain ⟨other, hother, hsame⟩ := List.mem_map.mp hid
      obtain ⟨hothers, -, hnames⟩ := (mem_affected hget).mp hother
      obtain rfl := List.inj_on_of_nodup_map (nodup_generate hgenerate) hothers hmem hsame
      exact ⟨intentId, hnames, intent, hintent, (isSome_probeOf_iff hget).mp (by rw [hmade]; rfl)⟩
    · intro hypothesis hmem hunresolved intentId hnames intent hintent hanswerable
      obtain ⟨affected, hentry⟩ := Dict.mem_keys.mp
        (mem_keys_intentHypotheses.mpr ⟨hypothesis, hmem, hunresolved, hnames⟩)
      have hget := Dict.get?_eq_some.mpr hentry
      obtain ⟨probe, hmade⟩ := Option.isSome_iff_exists.mp
        ((isSome_probeOf_iff hget).mpr hanswerable)
      have hprobe : probe ∈ probes :=
        (mem_plan_iff hplan).mpr ⟨intentId, affected, intent, hget, hintent, hmade⟩
      exact (probeSteps_iff hget hintent hmade).mp (hactionable probe hprobe)
  · intro h
    obtain ⟨probes, hplan⟩ := exists_plan_iff.mpr h.known
    refine ⟨probes, hplan, ?_, ?_⟩
    · intro hypothesis hmem hunresolved htestable
      obtain ⟨intentId, hnames, intent, hintent, hanswerable⟩ :=
        h.answerable hypothesis hmem hunresolved htestable
      obtain ⟨affected, hentry⟩ := Dict.mem_keys.mp
        (mem_keys_intentHypotheses.mpr ⟨hypothesis, hmem, hunresolved, hnames⟩)
      have hget := Dict.get?_eq_some.mpr hentry
      obtain ⟨probe, hmade⟩ := Option.isSome_iff_exists.mp
        ((isSome_probeOf_iff hget).mpr hanswerable)
      refine ⟨probe, (mem_plan_iff hplan).mpr ⟨intentId, affected, intent, hget, hintent, hmade⟩, ?_⟩
      rw [(probeOf_eq_some hmade).2.1]
      exact List.mem_map_of_mem ((mem_affected hget).mpr ⟨hmem, hunresolved, hnames⟩)
    · intro probe hprobe
      obtain ⟨intentId, affected, intent, hget, hintent, hmade⟩ := (mem_plan_iff hplan).mp hprobe
      obtain ⟨hypothesis, hmem, hunresolved, hnames⟩ :=
        mem_keys_intentHypotheses.mp (Dict.mem_keys.mpr ⟨affected, Dict.get?_eq_some.mp hget⟩)
      apply (probeSteps_iff hget hintent hmade).mpr
      exact h.collectable hypothesis hmem hunresolved intentId hnames intent hintent
        ((isSome_probeOf_iff hget).mp (by rw [hmade]; rfl))

end Agreement

section Example

def invariantViolation : CausalTemplate where
  templateId := "operational.invariant_violation.v1"
  familyId := "operational.invariant_violation"
  title := "Operational invariant violation"
  claimTemplate := "\x7bsubject\x7d violates a required \x7bfamily\x7d operational contract."
  invariantFamilies := [.existence, .readiness]
  supportingFactTypes := ["invariant.violated"]
  predictedFactTypes := ["entity.state"]
  evidenceIntentIds := ["entity.current_state.v1"]
  generic := true

def notServiceable : CausalTemplate where
  templateId := "component.not_serviceable.v1"
  familyId := "component.not_serviceable"
  title := "Component not serviceable"
  claimTemplate := "Component \x7bsubject\x7d exists but cannot currently satisfy its service contract."
  invariantFamilies := [.readiness, .liveness]
  supportingFactTypes := ["entity.ready.false", "entity.serviceable.false"]
  contradictingFactTypes := ["entity.ready.true", "entity.serviceable.true"]
  predictedFactTypes := ["entity.state", "topology.neighborhood", "kubernetes.condition"]
  evidenceIntentIds := ["entity.current_state.v1", "dependency.path.v1"]
  specificity := 2

def currentState : EvidenceIntent where
  intentId := "entity.current_state.v1"
  questionsAnswered := ["entity_exists", "entity_ready", "entity_conditions"]
  requiredFactTypes := ["entity.exists", "entity.state"]
  preferredCollectorIds := ["snapshot.entity_state.v1", "snapshot.conditions.v1"]

def dependencyPath : EvidenceIntent where
  intentId := "dependency.path.v1"
  questionsAnswered := ["dependency_path", "upstream_providers", "downstream_consumers"]
  requiredFactTypes := ["topology.neighborhood"]
  preferredCollectorIds := ["snapshot.topology_neighborhood.v1"]

def entityStateCollector : CollectorDefinition where
  collectorId := "snapshot.entity_state.v1"
  handlerId := "entity_state"
  questionsAnswered := ["entity_exists", "entity_ready", "entity_state"]
  factTypes := ["entity.exists", "entity.state", "entity.ready"]
  requiredInputs := ["snapshot"]
  costClass := "negligible"

def conditionsCollector : CollectorDefinition where
  collectorId := "snapshot.conditions.v1"
  handlerId := "conditions"
  questionsAnswered := ["entity_conditions", "controller_conditions"]
  factTypes := ["kubernetes.condition"]
  requiredInputs := ["snapshot"]
  costClass := "negligible"

def readinessCatalog : DiagnosticCatalog where
  intents := Dict.ofList [("entity.current_state.v1", currentState), ("dependency.path.v1", dependencyPath)]
  collectors := Dict.ofList [("snapshot.entity_state.v1", entityStateCollector),
    ("snapshot.conditions.v1", conditionsCollector)]
  templates := Dict.ofList [("operational.invariant_violation.v1", invariantViolation),
    ("component.not_serviceable.v1", notServiceable)]

def notReady (symptomId subjectId : String) : Symptom where
  symptomId
  symptomType := "invariant.readiness.violated"
  statement := "a pod is not ready"
  subjectIds := [subjectId]
  invariantFamily := some .readiness

def seen (evidenceId factType subjectId : String) : EvidenceFact where
  evidenceId
  factType
  statement := "seen"
  subjectIds := [subjectId]
  collectorId := "collector"
  observedAtIso := ""

def podEvidence : List EvidenceFact := [seen "ev-1" "kubernetes.condition" "web-1",
  seen "ev-2" "entity.exists" "web-1", seen "ev-3" "entity.state" "web-1",
    seen "ev-4" "entity.ready.false" "web-1",
  seen "ev-5" "entity.exists" "web-2", seen "ev-6" "entity.state" "web-2",
    seen "ev-7" "entity.ready.false" "web-2",
  seen "ev-8" "topology.neighborhood" "web-1", seen "ev-9" "topology.neighborhood" "web-2"]

def podSymptoms : List Symptom := [notReady "symptom-1" "web-1", notReady "symptom-2" "web-2"]

def hypothesesOf (catalog : DiagnosticCatalog) (symptoms : List Symptom) (evidence : List EvidenceFact) :
    List Hypothesis :=
  (generate Python.plain plainClaim catalog symptoms evidence (graphOf Python.plain [] [])).toOption.getD []

theorem generate_hypothesesOf {template : CausalTemplate}
    (h : catalog.template "operational.invariant_violation.v1" = .ok template) :
    generate Python.plain plainClaim catalog symptoms evidence (graphOf Python.plain [] []) =
      .ok (hypothesesOf catalog symptoms evidence) := by
  unfold hypothesesOf generate
  rw [h]
  rfl

theorem firstPod_plansWell_iff :
    PlansWell readinessCatalog "live" ["snapshot", "topology"]
        (hypothesesOf readinessCatalog [notReady "symptom-1" "web-1"] podEvidence) podEvidence id ↔
      PlannersAgree readinessCatalog "live" ["snapshot", "topology"]
        (hypothesesOf readinessCatalog [notReady "symptom-1" "web-1"] podEvidence) podEvidence :=
  have hgeneric : readinessCatalog.template "operational.invariant_violation.v1" = .ok invariantViolation := rfl
  plansWell_iff "live" ["snapshot", "topology"] id (generate_hypothesesOf hgeneric)

/-- The conditions of the second pod are never asked for, since some pod has conditions. -/
theorem secondPod_not_probed :
    generate Python.plain plainClaim readinessCatalog podSymptoms podEvidence (graphOf Python.plain [] []) =
        .ok (hypothesesOf readinessCatalog podSymptoms podEvidence) ∧
      ¬ PlansWell readinessCatalog "live" ["snapshot", "topology"]
        (hypothesesOf readinessCatalog podSymptoms podEvidence) podEvidence id := by
  have hgeneric : readinessCatalog.template "operational.invariant_violation.v1" = .ok invariantViolation := rfl
  refine ⟨generate_hypothesesOf hgeneric, ?_⟩
  rintro ⟨probes, hplan, hcomplete, -⟩
  have hboth : (ProbePlanner.plan readinessCatalog id (hypothesesOf readinessCatalog podSymptoms podEvidence)
        podEvidence none).toOption.map List.length = some 0 ∧
      ∃ hypothesis ∈ hypothesesOf readinessCatalog podSymptoms podEvidence,
        isUnresolved hypothesis = true ∧ ∃ factType ∈ hypothesis.predictions,
          ∃ definition ∈ readinessCatalog.collectorValues,
            isUsable "live" ["snapshot", "topology"] definition = true ∧
              definition.provides factType = true := by
    decide +kernel
  obtain ⟨hnone, hypothesis, hmem, hunresolved, htested⟩ := hboth
  rw [hplan] at hnone
  obtain rfl : probes = [] := List.eq_nil_of_length_eq_zero (Option.some.inj hnone)
  obtain ⟨probe, hprobe, -⟩ := hcomplete hypothesis hmem hunresolved htested
  cases hprobe

end Example

end KubeOps.Diagnosis
