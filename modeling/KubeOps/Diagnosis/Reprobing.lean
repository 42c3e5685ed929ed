import KubeOps.Diagnosis.Consistency

/-! A probe that is run again on the same snapshot is assessed anew, and the facts about what is not
healthy are recorded once more, under the identifier of the new assessment. -/
namespace KubeOps.Diagnosis

open KubeOps.Foundation KubeOps.Models KubeOps.Invariants KubeOps.Health KubeOps.Topology

variable {python : Python} {parseFloat : String → Option Rat} {texts : ValueTexts} {localOffset : Int → Int}
variable {formatClaim : String → String → String → String} {catalog : DiagnosticCatalog}
variable {incident next : IncidentInvestigation} {call other : Inspection} {used : List String}
  {probeId : String}
variable {compiled : CompiledOperationalProfile} {assessment : OperationalProfileAssessment}

section Repeated

/-- The calls look at one snapshot, with one profile, topology and history. -/
structure Inspection.Like (call other : Inspection) : Prop where
  snapshot : call.snapshot = other.snapshot
  profile : call.profile = other.profile
  topology : call.topology = other.topology
  history : call.history = other.history

variable (python parseFloat texts localOffset formatClaim catalog)

/-- Opened and probed any number of times with calls that look at what the given one looks at; the
assessments had the listed identifiers. -/
inductive Studied (call : Inspection) : IncidentInvestigation → List String → Prop
  | opened {earlier : Inspection} {incidentId : String} {initialSymptom : Option String}
      {incident : IncidentInvestigation}
      (hlike : earlier.Like call)
      (hopen : openIncident python parseFloat texts localOffset formatClaim catalog earlier incidentId
        initialSymptom =
        .ok incident) : Studied call incident [earlier.assessmentId]
  | probed {earlier : Inspection} {incident next : IncidentInvestigation} {used : List String}
      {probeId : String}
      (hincident : Studied call incident used) (hlike : earlier.Like call)
      (hrun : runProbe python parseFloat texts localOffset formatClaim catalog incident probeId
        earlier = .ok next) :
      Studied call next (used ++ [earlier.assessmentId])

/-- Each hypothesis is as it was, there are as many facts, and no change is reported. -/
structure NothingNew (before after : IncidentInvestigation) : Prop where
  hypotheses : (after.hypotheses.map fun item => (item.hypothesisId, item.status, item.confidence)) =
    before.hypotheses.map fun item => (item.hypothesisId, item.status, item.confidence)
  facts : after.evidence.length = before.evidence.length
  changes : ∀ run, after.probeRuns = before.probeRuns ++ [run] → run.hypothesisChanges = []

/-- Digests have 64 digits, and those for a new assessment are not those for an earlier one. -/
structure FreshDigests (call : Inspection) (used : List String) : Prop where
  length : ∀ text, (python.sha256 text).toList.length = 64
  fresh : ∀ compiled assessment, call.compile python parseFloat = .ok compiled →
    call.assess python parseFloat texts localOffset = .ok assessment →
    ∀ one ∈ troubles compiled assessment, ∀ two ∈ troubles compiled assessment, ∀ earlier ∈ used,
      baseId python texts one.1 one.2 earlier ≠ baseId python texts two.1 two.2 call.assessmentId

end Repeated

section Stamps

theorem compileStep_stamp (snapshot : AssessedSnapshot) (nowIso : String) (template : InvariantTemplate) :
    compileStep python parseFloat snapshot { compiled with compiledAtIso := nowIso } template =
      (compileStep python parseFloat snapshot compiled template).map fun compiled =>
        { compiled with compiledAtIso := nowIso } := by
  unfold compileStep
  cases matched snapshot template with
  | nil => rfl
  | cons first rest =>
    dsimp only
    cases (first :: rest).mapM (compileTemplate python parseFloat template) with
    | error error => rfl
    | ok invariants =>
      cases template.required with
      | true => rfl
      | false => rfl

theorem foldlM_stamp (compiled : CompiledOperationalProfile) (snapshot : AssessedSnapshot) (nowIso : String)
    (templates : List InvariantTemplate) :
    templates.foldlM (compileStep python parseFloat snapshot) { compiled with compiledAtIso := nowIso } =
      (templates.foldlM (compileStep python parseFloat snapshot) compiled).map fun compiled =>
        { compiled with compiledAtIso := nowIso } := by
  induction templates generalizing compiled with
  | nil => rfl
  | cons template rest ih =>
    rw [List.foldlM_cons, List.foldlM_cons, compileStep_stamp]
    cases compileStep python parseFloat snapshot compiled template with
    | error error => rfl
    | ok stepped => exact ih stepped

theorem invariants_of_like (hlike : call.Like other) {others : CompiledOperationalProfile}
    (hcall : call.compile python parseFloat = .ok compiled)
    (hother : other.compile python parseFloat = .ok others) :
    compiled.invariants = others.invariants := by
  have hstamp : call.compile python parseFloat = (other.compile python parseFloat).map fun compiled =>
      { compiled with compiledAtIso := call.compiledAtIso } := by
    unfold Inspection.compile
    rw [hlike.profile, hlike.snapshot]
    exact foldlM_stamp { profileId := other.profile.profileId, version := other.profile.version
                         environmentId := other.snapshot.environmentId, snapshotId := other.snapshot.snapshotId
                         compiledAtIso := other.compiledAtIso } _ _ _
  rw [hcall, hother] at hstamp
  rw [Except.ok.inj hstamp]

theorem assess_eq_ok (h : call.assess python parseFloat texts localOffset = .ok assessment) :
    ∃ compiled observed, call.compile python parseFloat = .ok compiled ∧
      observe python localOffset call.snapshot call.history = .ok observed ∧
      evaluateAll texts compiled.invariants observed.world observed.currentTime (some observed.history)
        (some observed.relationships) = .ok assessment.evaluations ∧
          assessment.assessmentId = call.assessmentId := by
  obtain ⟨compiled, hcompiled, h⟩ := except_bind_eq_ok h
  obtain ⟨observed, hobserved, h⟩ := except_bind_eq_ok h
  obtain ⟨evaluations, hevaluations, h⟩ := except_bind_eq_ok h
  obtain rfl := Except.ok.inj h
  exact ⟨compiled, observed, hcompiled, hobserved, hevaluations, rfl⟩

theorem troubles_of_like (hlike : call.Like other) {others : CompiledOperationalProfile}
    {before : OperationalProfileAssessment} (hcall : call.compile python parseFloat = .ok compiled)
    (hassess : call.assess python parseFloat texts localOffset = .ok assessment)
    (hother : other.compile python parseFloat = .ok others)
    (hbefore : other.assess python parseFloat texts localOffset = .ok before) :
    troubles compiled assessment = troubles others before := by
  obtain ⟨made, observed, hmade, hobserved, hevaluations, -⟩ := assess_eq_ok hassess
  obtain ⟨earlier, seen, hearlier, hseen, hevaluated, -⟩ := assess_eq_ok hbefore
  obtain rfl := Except.ok.inj (hcall.symm.trans hmade)
  obtain rfl := Except.ok.inj (hother.symm.trans hearlier)
  rw [hlike.snapshot, hlike.history, hseen] at hobserved
  obtain rfl := Except.ok.inj hobserved
  rw [invariants_of_like hlike hcall hother, hevaluated] at hevaluations
  unfold troubles
  rw [Except.ok.inj hevaluations, invariants_of_like hlike hcall hother]

end Stamps

section Identifiers

variable {definition first second : InvariantDefinition} {evaluation one two : InvariantEvaluation}

def troubleId (python : Python) (texts : ValueTexts) (assessmentId : String)
    (trouble : InvariantDefinition × InvariantEvaluation) (suffix : String) : String :=
  "ev-" ++ baseId python texts trouble.1 trouble.2 assessmentId ++ "-" ++ suffix

theorem toList_troubleId (assessmentId : String) (trouble : InvariantDefinition × InvariantEvaluation)
    (suffix : String) :
    (troubleId python texts assessmentId trouble suffix).toList =
      ['e', 'v', '-'] ++ (baseId python texts trouble.1 trouble.2 assessmentId).toList ++ '-' ::
        suffix.toList := by
  rw [troubleId, String.toList_append, String.toList_append, String.toList_append, List.append_assoc]
  rfl

theorem length_baseId (hdigits : ∀ text, (python.sha256 text).toList.length = 64) (assessmentId : String)
    (definition : InvariantDefinition) (evaluation : InvariantEvaluation) :
    (baseId python texts definition evaluation assessmentId).toList.length = 18 := by
  rw [baseId, String.toList_ofList, List.length_take, hdigits]
  rfl

theorem baseId_of_troubleId (hdigits : ∀ text, (python.sha256 text).toList.length = 64)
    {earlier later suffix ending : String} {one two : InvariantDefinition × InvariantEvaluation}
    (h : troubleId python texts earlier one suffix = troubleId python texts later two ending) :
    baseId python texts one.1 one.2 earlier = baseId python texts two.1 two.2 later := by
  have hlist := congrArg String.toList h
  rw [toList_troubleId, toList_troubleId, List.append_assoc, List.append_assoc,
    List.append_cancel_left_eq] at hlist
  have hlength : (baseId python texts one.1 one.2 earlier).toList.length =
      (baseId python texts two.1 two.2 later).toList.length := by
    rw [length_baseId hdigits, length_baseId hdigits]
  exact String.toList_inj.mp (List.append_inj_left hlist hlength)

theorem collected_ne_troubleId (hdigits : ∀ text, (python.sha256 text).toList.length = 64)
    {token assessmentId : String}
    {trouble : InvariantDefinition × InvariantEvaluation} :
    "ev-" ++ String.ofList ((python.sha256 token).toList.take 20) ≠ troubleId python texts assessmentId
      trouble "invariant" := by
  intro h
  have hlength := congrArg (fun text => text.toList.length) h
  simp only [toList_troubleId, String.toList_append, String.toList_ofList, List.length_append,
    List.length_take, hdigits,
    length_baseId hdigits, List.length_cons] at hlength
  have hstart : "ev-".toList.length = 3 := rfl
  have hend : "invariant".toList.length = 9 := rfl
  simp only [hstart, hend, List.length_nil] at hlength
  omega

theorem id_of_mem_troubleFacts {evidenceId : String}
    (h : evidenceId ∈ idsOf (troubleFacts python texts compiled assessment)) :
    ∃ trouble ∈ troubles compiled assessment, ∃ suffix,
      evidenceId = troubleId python texts assessment.assessmentId trouble suffix := by
  obtain ⟨fact, hfact, rfl⟩ := List.mem_map.mp h
  obtain ⟨trouble, htrouble, hfact⟩ := List.mem_flatMap.mp hfact
  refine ⟨trouble, htrouble, ?_⟩
  have hfirst : ∀ {fact : EvidenceFact} {one two : String}, fact ∈ [
      evaluationFact python texts trouble.1 trouble.2 assessment "invariant" one trouble.2.explanation
        trouble.2.actualValue,
      evaluationFact python texts trouble.1 trouble.2 assessment "family" two trouble.2.explanation
        trouble.2.actualValue] →
      ∃ suffix, fact.evidenceId = troubleId python texts assessment.assessmentId trouble suffix := by
    intro fact one two hmem
    rcases List.mem_cons.mp hmem with rfl | hmem
    · exact ⟨"invariant", rfl⟩
    · obtain rfl := List.mem_singleton.mp hmem
      exact ⟨"family", rfl⟩
  unfold factsForEvaluation at hfact
  dsimp only at hfact
  split at hfact
  · exact hfirst hfact
  split at hfact
  · exact hfirst hfact
  · rcases List.mem_append.mp hfact with hmem | hmem
    · exact hfirst hmem
    · obtain rfl := List.mem_singleton.mp hmem
      exact ⟨"semantic", rfl⟩

theorem troubleId_mem {trouble : InvariantDefinition × InvariantEvaluation}
    (h : trouble ∈ troubles compiled assessment) :
    troubleId python texts assessment.assessmentId trouble "invariant" ∈
      idsOf (troubleFacts python texts compiled assessment) := by
  have hfact : ∃ fact ∈ factsForEvaluation python texts trouble.1 trouble.2 assessment,
      fact.evidenceId = troubleId python texts assessment.assessmentId trouble "invariant" := by
    unfold factsForEvaluation
    dsimp only
    split
    · exact ⟨_, List.mem_cons_self, rfl⟩
    split
    · exact ⟨_, List.mem_cons_self, rfl⟩
    · exact ⟨_, List.mem_append_left _ List.mem_cons_self, rfl⟩
  obtain ⟨fact, hmem, hid⟩ := hfact
  exact List.mem_map.mpr ⟨fact, List.mem_flatMap.mpr ⟨trouble, h, hmem⟩, hid⟩

end Identifiers

section Sources

/-- Each identifier is that of a collected fact, or of a trouble in one of the listed assessments. -/
def Sourced (python : Python) (texts : ValueTexts) (found : List (InvariantDefinition × InvariantEvaluation))
    (used : List String) (evidenceId : String) : Prop :=
  (∃ token, evidenceId = "ev-" ++ String.ofList ((python.sha256 token).toList.take 20)) ∨
    ∃ earlier ∈ used, ∃ trouble ∈ found, ∃ suffix, evidenceId = troubleId python texts earlier trouble suffix

variable {found : List (InvariantDefinition × InvariantEvaluation)} {evidence : List EvidenceFact}

theorem Sourced.append {evidenceId : String} (h : Sourced python texts found used evidenceId)
    (more : List String) :
    Sourced python texts found (used ++ more) evidenceId := by
  rcases h with hcollected | ⟨earlier, hearlier, htrouble⟩
  · exact .inl hcollected
  · exact .inr ⟨earlier, List.mem_append_left _ hearlier, htrouble⟩

theorem sourced_of_execute {steps : List CollectorPlanStep} {results : List CollectorRunResult}
    (h : execute python catalog call steps = .ok results) {result : CollectorRunResult}
    (hresult : result ∈ results)
    {evidenceId : String} (hid : evidenceId ∈ idsOf result.evidence) :
    Sourced python texts found used evidenceId := by
  obtain ⟨step, -, hstep⟩ := mem_of_mapM h hresult
  left
  unfold executeStep at hstep
  split at hstep
  · cases hstep
  split at hstep
  · obtain rfl := Except.ok.inj hstep
    cases hid
  split at hstep
  · obtain rfl := Except.ok.inj hstep
    cases hid
  · obtain rfl := Except.ok.inj hstep
    cases hid
  · obtain rfl := Except.ok.inj hstep
    obtain ⟨fact, hfact, rfl⟩ := List.mem_map.mp hid
    obtain ⟨item, -, rfl⟩ := List.mem_map.mp hfact
    exact ⟨_, rfl⟩

theorem troubles_ne_nil_of_probe {refinement : Refinement} {incidentId : String} {probe : ProbeIntent}
    (h : diagnose python texts formatClaim catalog call incidentId compiled assessment evidence =
      .ok refinement)
    (hprobe : probe ∈ refinement.probePlan) : troubles compiled assessment ≠ [] := by
  intro hnone
  have hsymptoms : (derive python texts compiled assessment evidence).1 = [] := by
    show (troubles compiled assessment).map _ = []
    rw [hnone]
    rfl
  obtain ⟨hypotheses, hgenerate, h⟩ := except_bind_eq_ok h
  obtain ⟨probePlan, hplan, h⟩ := except_bind_eq_ok h
  obtain rfl := Except.ok.inj h
  have hhypotheses : hypotheses = [] := by
    cases hypotheses with
    | nil => rfl
    | cons hypothesis rest =>
      obtain ⟨_, _, symptom, hsymptom, _⟩ := made_of_mem_generate hgenerate List.mem_cons_self
      rw [hsymptoms] at hsymptom
      cases hsymptom
  subst hhypotheses
  have hempty : probePlan = [] := by
    cases hbudget : call.evidenceBudget with
    | none =>
      rw [hbudget] at hplan
      exact (Except.ok.inj hplan).symm
    | some budget =>
      rw [hbudget] at hplan
      exact (Except.ok.inj hplan).symm.trans List.take_nil
  change probe ∈ probePlan at hprobe
  rw [hempty] at hprobe
  cases hprobe

end Sources

section Runs

variable {found : List (InvariantDefinition × InvariantEvaluation)}

/-- What holds of an incident that is studied, where these are the troubles that every call finds. -/
structure Tracked (python : Python) (texts : ValueTexts)
    (found : List (InvariantDefinition × InvariantEvaluation))
    (incident : IncidentInvestigation) (used : List String) : Prop where
  nodup : (idsOf incident.evidence).Nodup
  sourced : ∀ evidenceId ∈ idsOf incident.evidence, Sourced python texts found used evidenceId
  planned : ∀ probe ∈ incident.probePlan, found ≠ []

theorem tracked_of_diagnose {earlier : Inspection} {refinement : Refinement} {incidentId : String}
    {evidence : List EvidenceFact}
    (h : diagnose python texts formatClaim catalog earlier incidentId compiled assessment evidence =
      .ok refinement)
    (htroubles : troubles compiled assessment = found) (hid : assessment.assessmentId ∈ used)
    (hsourced : ∀ evidenceId ∈ idsOf evidence, Sourced python texts found used evidenceId)
    (hevidence : incident.evidence = refinement.evidence) (hplan : incident.probePlan = refinement.probePlan) :
    Tracked python texts found incident used := by
  obtain ⟨-, -, hderived, -⟩ := diagnose_eq_ok h
  constructor
  · rw [hevidence, hderived]
    exact nodup_idsOf_derive
  · intro evidenceId hmem
    rw [hevidence, hderived] at hmem
    rcases mem_idsOf_derive.mp hmem with hold | hnew
    · exact hsourced evidenceId hold
    · obtain ⟨trouble, htrouble, suffix, hsame⟩ := id_of_mem_troubleFacts hnew
      rw [htroubles] at htrouble
      exact .inr ⟨_, hid, trouble, htrouble, suffix, hsame⟩
  · intro probe hprobe
    rw [hplan] at hprobe
    rw [← htroubles]
    exact troubles_ne_nil_of_probe h hprobe

theorem sourced_mergeEvidence {own : List EvidenceFact} {results : List CollectorRunResult}
    {earlier : Inspection}
    {steps : List CollectorPlanStep} (hexecute : execute python catalog earlier steps = .ok results)
    (hown : ∀ evidenceId ∈ idsOf own, Sourced python texts found used evidenceId) :
    ∀ evidenceId ∈ idsOf (mergeEvidence (own :: results.map fun result => result.evidence)),
      Sourced python texts found used evidenceId := by
  intro evidenceId hmem
  obtain ⟨group, hgroup, hid⟩ := mem_idsOf_mergeEvidence.mp hmem
  rcases List.mem_cons.mp hgroup with rfl | hgroup
  · exact hown evidenceId hid
  · obtain ⟨result, hresult, rfl⟩ := List.mem_map.mp hgroup
    exact sourced_of_execute hexecute hresult hid

theorem tracked_of_studied (hcompiled : call.compile python parseFloat = .ok compiled)
    (hassess : call.assess python parseFloat texts localOffset = .ok assessment)
    (h : Studied python parseFloat texts localOffset formatClaim catalog call incident used) :
    Tracked python texts (troubles compiled assessment) incident used := by
  induction h with
  | @opened earlier incidentId initialSymptom incident hlike hopen =>
    obtain ⟨before, hbefore, hopen⟩ := except_bind_eq_ok hopen
    obtain ⟨others, hothers, hopen⟩ := except_bind_eq_ok hopen
    have hsame : troubles others before = troubles compiled assessment :=
      troubles_of_like hlike hothers hbefore hcompiled hassess
    obtain ⟨-, -, -, -, -, hid⟩ := assess_eq_ok hbefore
    obtain ⟨intents, -, hopen⟩ := except_bind_eq_ok hopen
    obtain ⟨results, hresults, hopen⟩ := except_bind_eq_ok hopen
    obtain ⟨refinement, hrefinement, hopen⟩ := except_bind_eq_ok hopen
    obtain ⟨-, -, hopen⟩ := except_bind_eq_ok hopen
    have hused : before.assessmentId ∈ [earlier.assessmentId] := List.mem_singleton.mpr hid
    obtain rfl := Except.ok.inj hopen
    refine tracked_of_diagnose hrefinement hsame hused (sourced_mergeEvidence hresults ?_) rfl rfl
    intro evidenceId hmem
    rcases mem_idsOf_derive.mp hmem with hnone | hnew
    · cases hnone
    · obtain ⟨trouble, htrouble, suffix, hsuffix⟩ := id_of_mem_troubleFacts hnew
      rw [hsame] at htrouble
      exact .inr ⟨_, hused, trouble, htrouble, suffix, hsuffix⟩
  | @probed earlier incident next used probeId hincident hlike hrun ih =>
    have hbefore : ∃ before, earlier.assess python parseFloat texts localOffset = .ok before := by
      unfold runProbe at hrun
      split at hrun
      · cases hrun
      · obtain ⟨before, hbefore, -⟩ := except_bind_eq_ok hrun
        exact ⟨before, hbefore⟩
    obtain ⟨before, hbefore⟩ := hbefore
    obtain ⟨others, probe, collected, refinement, hothers, -, hcollected, hrefinement, -, hevidence,
      -, hplan, -⟩ :=
      runProbe_eq_ok hbefore hrun
    have hsame : troubles others before = troubles compiled assessment :=
      troubles_of_like hlike hothers hbefore hcompiled hassess
    obtain ⟨-, -, -, -, -, hid⟩ := assess_eq_ok hbefore
    have hused : before.assessmentId ∈ used ++ [earlier.assessmentId] :=
      List.mem_append_right _ (List.mem_singleton.mpr hid)
    obtain ⟨intent, -, hcollected⟩ := except_bind_eq_ok hcollected
    obtain ⟨results, hresults, hcollected⟩ := except_bind_eq_ok hcollected
    obtain rfl := Except.ok.inj hcollected
    exact tracked_of_diagnose hrefinement hsame hused (sourced_mergeEvidence hresults fun evidenceId hmem =>
      (ih.sourced evidenceId hmem).append _) hevidence hplan

theorem length_evidence_lt
    (hstudied : Studied python parseFloat texts localOffset formatClaim catalog call incident used)
    (hrun : runProbe python parseFloat texts localOffset formatClaim catalog incident probeId call = .ok next)
    (hdigests : FreshDigests python parseFloat texts localOffset call used) :
    incident.evidence.length < next.evidence.length := by
  have hassess : ∃ assessment, call.assess python parseFloat texts localOffset = .ok assessment := by
    unfold runProbe at hrun
    split at hrun
    · cases hrun
    · obtain ⟨assessment, hassess, -⟩ := except_bind_eq_ok hrun
      exact ⟨assessment, hassess⟩
  obtain ⟨assessment, hassess⟩ := hassess
  obtain ⟨compiled, probe, collected, refinement, hcompiled, hprobe, -, hrefinement, -, hevidence, -⟩ :=
    runProbe_eq_ok hassess hrun
  have htracked := tracked_of_studied hcompiled hassess hstudied
  obtain ⟨-, -, -, -, -, hid⟩ := assess_eq_ok hassess
  obtain ⟨trouble, htrouble⟩ := List.exists_mem_of_ne_nil _ (htracked.planned probe hprobe)
  obtain ⟨-, -, hderived, -⟩ := diagnose_eq_ok hrefinement
  -- the fact about this trouble in the new assessment
  have hnew : troubleId python texts call.assessmentId trouble "invariant" ∈ idsOf next.evidence := by
    rw [hevidence, hderived, ← hid]
    exact mem_idsOf_derive.mpr (.inr (troubleId_mem htrouble))
  have hold : troubleId python texts call.assessmentId trouble "invariant" ∉ idsOf incident.evidence := by
    intro hmem
    rcases htracked.sourced _ hmem with ⟨token, hcollected⟩ | ⟨earlier, hearlier, one, hone, suffix, hsame⟩
    · exact collected_ne_troubleId hdigests.length hcollected.symm
    · exact hdigests.fresh compiled assessment hcompiled hassess one hone trouble htrouble earlier hearlier
        (baseId_of_troubleId hdigests.length hsame.symm)
  have hkept : idsOf incident.evidence ⊆ idsOf next.evidence := by
    intro evidenceId hmem
    rw [hevidence, hderived]
    exact mem_idsOf_derive.mpr (.inl (mem_idsOf_mergeEvidence.mpr ⟨_, List.mem_cons_self, hmem⟩))
  have hsub : (troubleId python texts call.assessmentId trouble "invariant" :: idsOf incident.evidence) ⊆
      idsOf next.evidence := List.cons_subset.mpr ⟨hnew, hkept⟩
  have hlength := (List.nodup_cons.mpr ⟨hold, htracked.nodup⟩).subperm hsub |>.length_le
  rw [List.length_cons, idsOf, idsOf, List.length_map, List.length_map] at hlength
  omega

/-- No probe that is run again on what it was planned for leaves the incident as it was. -/
theorem reprobing_is_never_nothing
    (hstudied : Studied python parseFloat texts localOffset formatClaim catalog call incident used)
    (hrun : runProbe python parseFloat texts localOffset formatClaim catalog incident probeId call = .ok next)
    (hdigests : FreshDigests python parseFloat texts localOffset call used) : ¬ NothingNew incident next := by
  intro h
  have hmore := length_evidence_lt hstudied hrun hdigests
  rw [h.facts] at hmore
  exact lt_irrefl _ hmore

end Runs

section Example

theorem length_paddedDigest (text : String) : (paddedDigest text).toList.length = 64 := by
  rw [paddedDigest, String.toList_ofList, List.length_take, List.length_append, List.length_replicate]
  omega

theorem head_paddedDigest {text : String} {first : Char} {rest : List Char} (h : text.toList = first :: rest) :
    ((paddedDigest text).toList.take 18).head? = some first := by
  rw [paddedDigest, String.toList_ofList, h]
  rfl

theorem head_baseId {assessmentId : String} {first : Char} {rest : List Char}
    (h : assessmentId.toList = first :: rest)
    (definition : InvariantDefinition) (evaluation : InvariantEvaluation) :
    (baseId digestPython plainTexts definition evaluation assessmentId).toList.head? = some first := by
  have htoken : ∀ more : String, (assessmentId ++ more).toList = first :: (rest ++ more.toList) := by
    intro more
    rw [String.toList_append, h]
    rfl
  rw [baseId, String.toList_ofList]
  show ((paddedDigest
    (assessmentId ++ ":" ++ definition.invariantId ++ ":" ++ statusText evaluation.status ++ ":" ++
    plainTexts.str evaluation.actualValue)).toList.take 18).head? = _
  rw [String.append_assoc, String.append_assoc, String.append_assoc, String.append_assoc, String.append_assoc]
  exact head_paddedDigest (htoken _)

theorem freshDigests_pod : FreshDigests digestPython (fun _ => none) plainTexts (fun _ => 0)
    (podCall false "later")
    ["first"] := by
  refine ⟨length_paddedDigest, ?_⟩
  intro compiled assessment _ _ one _ two _ earlier hearlier hsame
  obtain rfl := List.mem_singleton.mp hearlier
  have hfirst : "first".toList = 'f' :: "irst".toList := by decide
  have hlater : "later".toList = 'l' :: "ater".toList := by decide
  have hhead := head_baseId hfirst one.1 one.2
  change baseId digestPython plainTexts one.1 one.2 "first" =
    baseId digestPython plainTexts two.1 two.2 "later" at hsame
  rw [hsame, head_baseId hlater] at hhead
  exact absurd hhead (by decide)

theorem like_podCall (assessmentId : String) : (podCall false assessmentId).Like (podCall false "later") :=
  ⟨rfl, rfl, rfl, rfl⟩

def PodStudied (incident : IncidentInvestigation) : Prop :=
  Studied digestPython (fun _ => none) plainTexts (fun _ => 0) plainClaim incidentCatalog
    (podCall false "later") incident
    ["first"]

theorem reprobedPod_never_nothing : ∃ opened next, PodStudied opened ∧ probePod false opened = .ok next ∧
    ¬ NothingNew opened next := by
  obtain ⟨opened, hopened, -, next, hnext⟩ := exists_podCalls
  have hstudied : PodStudied opened := .opened (like_podCall "first") hopened
  exact ⟨opened, next, hstudied, hnext, reprobing_is_never_nothing hstudied hnext freshDigests_pod⟩

/-- The collectors find nothing that was not known, and there are more facts than before. -/
theorem reprobedPod_new : ∃ opened next, openPod = .ok opened ∧ probePod false opened = .ok next ∧
    opened.evidence.length < next.evidence.length ∧ ¬ NothingNew opened next := by
  obtain ⟨opened, hopened, -, next, hnext⟩ := exists_podCalls
  have hmore := length_evidence_lt (.opened (like_podCall "first") hopened) hnext freshDigests_pod
  refine ⟨opened, next, hopened, hnext, hmore, fun h => ?_⟩
  rw [h.facts] at hmore
  exact lt_irrefl _ hmore

end Example

end KubeOps.Diagnosis
