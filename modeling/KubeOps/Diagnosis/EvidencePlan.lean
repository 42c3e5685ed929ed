import KubeOps.Diagnosis.ProbeCoverage

/-! Which intents an evidence plan reports as unresolved, and which collectors it leaves out: what was
planned before for the same intent and subjects is not counted again, and all planning for an intent
ends where its fact types are covered. -/
namespace KubeOps.Diagnosis

open KubeOps.Foundation KubeOps.Models KubeOps.Invariants

section Turns

abbrev Candidate : Type := CollectorDefinition × Rat

def EvidenceIntent.key (intent : EvidenceIntent) : String × List String :=
  (intent.intentId, intent.subjectIds.insertionSort (· ≤ ·))

def CollectorPlanStep.key (step : CollectorPlanStep) : String × List String :=
  (step.intentId, step.subjectIds.insertionSort (· ≤ ·))

def freshOnes (intent : EvidenceIntent) (required : List String)
    (selected : List (String × String × List String))
    (candidates : List Candidate) : List Candidate :=
  candidates.filter fun candidate =>
    (required = [] || expectedTypes required candidate.1 ≠ []) &&
      !selected.contains (candidate.1.collectorId, intent.key)

theorem mem_freshOnes {intent : EvidenceIntent} {required : List String}
    {selected : List (String × String × List String)} {candidates : List Candidate} {candidate : Candidate} :
    candidate ∈ freshOnes intent required selected candidates ↔
      candidate ∈ candidates ∧ (required = [] ∨ expectedTypes required candidate.1 ≠ []) ∧
        (candidate.1.collectorId, intent.key) ∉ selected := by
  simp [freshOnes]

def typesOf (required : List String) (candidates : List Candidate) : List String :=
  candidates.flatMap fun candidate => expectedTypes required candidate.1

/-- The first authoritative answer is enough for the intent, and the collector gives it. -/
def answers (intent : EvidenceIntent) (definition : CollectorDefinition) : Bool :=
  intent.stoppingCondition = "first_authoritative_answer" && definition.authority = "authoritative"

def plannedFrom (intent : EvidenceIntent) (required : List String) :
    List Candidate → List String → List Candidate
  | [], _ => []
  | candidate :: rest, covered =>
    let covered := covered ++ expectedTypes required candidate.1
    candidate :: if answers intent candidate.1 || (required ≠ [] && isCovered required covered) then []
      else plannedFrom intent required rest covered

variable {intent : EvidenceIntent} {required covered : List String} {candidates : List Candidate}
variable {plan : EvidenceCollectionPlan}

structure Adds (intent : EvidenceIntent) (required : List String) (taken : List Candidate)
    (plan later : EvidenceCollectionPlan) : Prop where
  steps : later.steps = plan.steps ++ taken.map fun candidate => stepOf intent required candidate.1 candidate.2
  selected : later.selected = plan.selected ++ taken.map fun candidate => (candidate.1.collectorId, intent.key)
  unresolved : later.unresolvedIntentIds = plan.unresolvedIntentIds

theorem Adds.refl (plan : EvidenceCollectionPlan) : Adds intent required [] plan plan :=
  ⟨(List.append_nil _).symm, (List.append_nil _).symm, rfl⟩

theorem Adds.cons {candidate : Candidate} {taken : List Candidate} {middle later : EvidenceCollectionPlan}
    (h : Adds intent required taken middle later)
    (hsteps : middle.steps = plan.steps ++ [stepOf intent required candidate.1 candidate.2])
    (hselected : middle.selected = plan.selected ++ [(candidate.1.collectorId, intent.key)])
    (hunresolved : middle.unresolvedIntentIds = plan.unresolvedIntentIds) :
    Adds intent required (candidate :: taken) plan later where
  steps := by rw [h.steps, hsteps, List.append_assoc]; rfl
  selected := by rw [h.selected, hselected, List.append_assoc]; rfl
  unresolved := h.unresolved.trans hunresolved

theorem freshOnes_append {collectorId : String} {selected : List (String × String × List String)}
    (hnew : collectorId ∉ candidates.map fun candidate => candidate.1.collectorId) :
    freshOnes intent required (selected ++ [(collectorId, intent.key)]) candidates =
      freshOnes intent required selected candidates := by
  apply List.filter_congr
  intro candidate hcandidate
  have hne : candidate.1.collectorId ≠ collectorId := by
    intro hsame
    exact hnew (hsame ▸ List.mem_map_of_mem hcandidate)
  simp [hne]

theorem planCandidates_adds (hids : (candidates.map fun candidate => candidate.1.collectorId).Nodup) :
    (planCandidates intent required candidates covered plan).1 =
        covered ++ typesOf required
          (plannedFrom intent required (freshOnes intent required plan.selected candidates) covered) ∧
      Adds intent required
        (plannedFrom intent required (freshOnes intent required plan.selected candidates) covered)
        plan (planCandidates intent required candidates covered plan).2 := by
  induction candidates generalizing covered plan with
  | nil => exact ⟨(List.append_nil _).symm, Adds.refl plan⟩
  | cons candidate rest ih =>
    obtain ⟨hnew, hids⟩ := List.nodup_cons.mp hids
    have hskip : ¬ ((required = [] ∨ expectedTypes required candidate.1 ≠ []) ∧
          (candidate.1.collectorId, intent.key) ∉ plan.selected) →
        freshOnes intent required plan.selected (candidate :: rest) =
          freshOnes intent required plan.selected rest := by
      intro h
      exact List.filter_cons_of_neg (by simpa using h)
    have htake : (required = [] ∨ expectedTypes required candidate.1 ≠ []) ∧
          (candidate.1.collectorId, intent.key) ∉ plan.selected →
        freshOnes intent required plan.selected (candidate :: rest) =
          candidate :: freshOnes intent required plan.selected rest := by
      intro h
      exact List.filter_cons_of_pos (by simpa using h)
    unfold planCandidates
    dsimp only
    split
    · rename_i hnone
      rw [hskip fun h => h.1.elim hnone.1 fun hsome => hsome hnone.2]
      exact ih hids
    split
    · rename_i hselected
      rw [hskip fun h => h.2 hselected]
      exact ih hids
    · rename_i hprovides hfresh
      have heligible : required = [] ∨ expectedTypes required candidate.1 ≠ [] := by
        by_contra h
        rw [not_or, not_not] at h
        exact hprovides h
      rw [htake ⟨heligible, hfresh⟩, plannedFrom]
      split
      · rename_i hanswers
        have hstop : answers intent candidate.1 = true := by simpa [answers] using hanswers
        rw [hstop, Bool.true_or, if_pos rfl]
        exact ⟨by simp [typesOf], (Adds.refl _).cons rfl rfl rfl⟩
      split
      · rename_i hcovered
        have hstop :
          (required ≠ [] && isCovered required (covered ++ expectedTypes required candidate.1)) = true := by
          simpa using hcovered
        rw [hstop, Bool.or_true, if_pos rfl]
        exact ⟨by simp [typesOf], (Adds.refl _).cons rfl rfl rfl⟩
      · rename_i hanswers hcovered
        have hstop : ¬ (answers intent candidate.1 ||
            (required ≠ [] && isCovered required (covered ++ expectedTypes required candidate.1))) = true := by
          rw [Bool.or_eq_true, not_or]
          exact ⟨by simpa [answers] using hanswers, by simpa using hcovered⟩
        rw [if_neg hstop]
        have hrest := @ih (covered ++ expectedTypes required candidate.1) { plan with
          steps := plan.steps ++ [stepOf intent required candidate.1 candidate.2]
          selected := plan.selected ++ [(candidate.1.collectorId, intent.key)]
          totalCost := plan.totalCost + costOf candidate.1.costClass } hids
        rw [freshOnes_append hnew] at hrest
        refine ⟨?_, hrest.2.cons rfl rfl rfl⟩
        rw [typesOf, List.flatMap_cons, ← List.append_assoc]
        exact hrest.1

end Turns

section Coverage

variable {intent : EvidenceIntent} {required covered : List String} {candidates : List Candidate}
variable {definition : CollectorDefinition} {factType : String}

theorem mem_expectedTypes : factType ∈ expectedTypes required definition ↔
    factType ∈ definition.factTypes ∧
      (required = [] ∨ ∃ req ∈ required, factTypeMatches req factType = true) := by
  rw [expectedTypes, List.mem_insertionSort, List.mem_filter, Bool.or_eq_true, List.isEmpty_iff,
    List.any_eq_true]

theorem covers_typesOf {req : String} (hreq : req ∈ required) :
    (∃ factType ∈ typesOf required candidates, factTypeMatches req factType = true) ↔
      ∃ candidate ∈ candidates, candidate.1.provides req = true := by
  constructor
  · rintro ⟨factType, htype, hmatch⟩
    obtain ⟨candidate, hcandidate, htype⟩ := List.mem_flatMap.mp htype
    exact ⟨candidate, hcandidate, List.any_eq_true.mpr ⟨factType, (mem_expectedTypes.mp htype).1, hmatch⟩⟩
  · rintro ⟨candidate, hcandidate, hprovides⟩
    obtain ⟨factType, htype, hmatch⟩ := List.any_eq_true.mp hprovides
    exact ⟨factType, List.mem_flatMap.mpr ⟨candidate, hcandidate,
      mem_expectedTypes.mpr ⟨htype, .inr ⟨req, hreq, hmatch⟩⟩⟩, hmatch⟩

theorem isCovered_iff : isCovered required covered = true ↔
    ∀ req ∈ required, ∃ factType ∈ covered, factTypeMatches req factType = true := by
  simp only [isCovered, List.all_eq_true, List.any_eq_true]

theorem isCovered_nil (h : required ≠ []) : isCovered required [] = false := by
  obtain ⟨req, rest, rfl⟩ := List.exists_cons_of_ne_nil h
  rfl

theorem isCovered_append (h : isCovered required covered = true) (more : List String) :
    isCovered required (covered ++ more) = true := by
  rw [isCovered_iff] at h ⊢
  intro req hreq
  obtain ⟨factType, htype, hmatch⟩ := h req hreq
  exact ⟨factType, List.mem_append_left _ htype, hmatch⟩

theorem isCovered_typesOf : isCovered required (typesOf required candidates) = true ↔
    ∀ req ∈ required, ∃ candidate ∈ candidates, candidate.1.provides req = true := by
  rw [isCovered_iff]
  exact forall₂_congr fun req hreq => covers_typesOf hreq

def reachOf (intent : EvidenceIntent) : List Candidate → List Candidate
  | [] => []
  | candidate :: rest => candidate :: if answers intent candidate.1 then [] else reachOf intent rest

theorem reachOf_eq_self (h : intent.stoppingCondition ≠ "first_authoritative_answer")
    (candidates : List Candidate) :
    reachOf intent candidates = candidates := by
  induction candidates with
  | nil => rfl
  | cons candidate rest ih =>
    have hno : answers intent candidate.1 = false := by simp [answers, h]
    rw [reachOf, hno, if_neg Bool.false_ne_true, ih]

theorem typesOf_cons (candidate : Candidate) (rest : List Candidate) :
    typesOf required (candidate :: rest) = expectedTypes required candidate.1 ++ typesOf required rest := rfl

theorem plannedFrom_eq_or_covered (intent : EvidenceIntent) (candidates : List Candidate)
    (covered : List String) :
    plannedFrom intent required candidates covered = reachOf intent candidates ∨
      isCovered required (covered ++ typesOf required (plannedFrom intent required candidates covered)) = true ∧
        isCovered required (covered ++ typesOf required (reachOf intent candidates)) = true := by
  induction candidates generalizing covered with
  | nil => exact .inl rfl
  | cons candidate rest ih =>
    rw [plannedFrom, reachOf]
    cases hanswers : answers intent candidate.1 with
    | true =>
      rw [Bool.true_or, if_pos rfl, if_pos rfl]
      exact .inl rfl
    | false =>
      rw [Bool.false_or, if_neg Bool.false_ne_true]
      by_cases hcovered :
        (required ≠ [] && isCovered required (covered ++ expectedTypes required candidate.1)) = true
      · have hdone := (Bool.and_eq_true _ _ ▸ hcovered).2
        rw [if_pos hcovered]
        right
        rw [typesOf_cons, typesOf_cons, ← List.append_assoc, ← List.append_assoc]
        exact ⟨isCovered_append hdone _, isCovered_append hdone _⟩
      · rw [if_neg hcovered, typesOf_cons, typesOf_cons, ← List.append_assoc, ← List.append_assoc]
        rcases ih (covered ++ expectedTypes required candidate.1) with hsame | hboth
        · rw [hsame]
          exact .inl rfl
        · exact .inr hboth

theorem isCovered_plannedFrom :
    isCovered required (typesOf required (plannedFrom intent required candidates [])) = true ↔
    ∀ req ∈ required, ∃ candidate ∈ reachOf intent candidates, candidate.1.provides req = true := by
  rw [← isCovered_typesOf]
  rcases @plannedFrom_eq_or_covered required intent candidates [] with hsame | ⟨hplanned, hreach⟩
  · rw [hsame]
  · exact iff_of_true hplanned hreach

theorem plannedFrom_front (intent : EvidenceIntent) (required : List String) (candidates : List Candidate)
    (covered : List String) : plannedFrom intent required candidates covered <+: candidates := by
  induction candidates generalizing covered with
  | nil => exact List.prefix_refl _
  | cons candidate rest ih =>
    rw [plannedFrom, List.cons_prefix_cons]
    refine ⟨rfl, ?_⟩
    split
    · exact List.nil_prefix
    · exact ih _

theorem plannedFrom_eq_self_iff (hstop : intent.stoppingCondition ≠ "first_authoritative_answer")
    (hrequired : required ≠ []) (hcovered : isCovered required covered = false) :
    plannedFrom intent required candidates covered = candidates ↔
      isCovered required (covered ++ typesOf required candidates.dropLast) = false := by
  induction candidates generalizing covered with
  | nil => simp [plannedFrom, typesOf, hcovered]
  | cons candidate rest ih =>
    have hno : answers intent candidate.1 = false := by simp [answers, hstop]
    rw [plannedFrom, hno, Bool.false_or]
    cases rest with
    | nil => simp [plannedFrom, typesOf, hcovered]
    | cons next rest =>
      rw [List.dropLast_cons_cons, typesOf_cons, ← List.append_assoc, List.cons_inj_right]
      cases hdone : isCovered required (covered ++ expectedTypes required candidate.1) with
      | true =>
        rw [isCovered_append hdone]
        simp [hrequired]
      | false =>
        rw [Bool.and_false, if_neg Bool.false_ne_true]
        exact ih hdone

end Coverage

section Plans

variable (catalog : DiagnosticCatalog) (mode : String) (available existing : List String)

def freshCandidates (plan : EvidenceCollectionPlan) (intent : EvidenceIntent) : List Candidate :=
  freshOnes intent (openTypes existing intent.requiredFactTypes) plan.selected
    (candidatesOf catalog mode available intent)

def turnOf (plan : EvidenceCollectionPlan) (intent : EvidenceIntent) : List Candidate :=
  if openTypes existing intent.requiredFactTypes = [] ∧ intent.requiredFactTypes ≠ [] then []
  else plannedFrom intent (openTypes existing intent.requiredFactTypes)
    (freshCandidates catalog mode available existing plan intent) []

def isReported (plan : EvidenceCollectionPlan) (intent : EvidenceIntent) : Bool :=
  openTypes existing intent.requiredFactTypes ≠ [] && !isCovered (openTypes existing intent.requiredFactTypes)
    (typesOf (openTypes existing intent.requiredFactTypes) (turnOf catalog mode available existing plan intent))

def AtEachTurn (holds : EvidenceCollectionPlan → EvidenceIntent → Prop) :
    EvidenceCollectionPlan → List EvidenceIntent → Prop
  | _, [] => True
  | plan, intent :: rest =>
    holds plan intent ∧ AtEachTurn holds (planIntent catalog mode available existing plan intent) rest

variable {catalog mode available existing} {plan : EvidenceCollectionPlan} {intent : EvidenceIntent}

/-- The registry keeps each collector under its identifier. -/
def KeyedById (catalog : DiagnosticCatalog) : Prop :=
  (catalog.collectorValues.map fun definition => definition.collectorId).Nodup

theorem nodup_candidatesOf (h : KeyedById catalog) :
    ((candidatesOf catalog mode available intent).map fun candidate => candidate.1.collectorId).Nodup := by
  have hall : (((catalog.collectorValues.filter (isUsable mode available)).filterMap fun definition =>
      (candidateScore intent definition).map fun score => (definition, score)).map
      fun candidate => candidate.1.collectorId).Nodup := by
    rw [List.Nodup, List.pairwise_map, List.pairwise_filterMap]
    apply ((List.pairwise_map.mp h).filter _).imp
    intro one two hne candidate hone other htwo
    obtain ⟨score, -, rfl⟩ := Option.map_eq_some_iff.mp hone
    obtain ⟨score', -, rfl⟩ := Option.map_eq_some_iff.mp htwo
    exact hne
  exact ((List.perm_insertionSort _ _).map _).nodup_iff.mpr hall

theorem planIntent_adds (h : KeyedById catalog) :
    (planIntent catalog mode available existing plan intent).steps = plan.steps ++
        (turnOf catalog mode available existing plan intent).map (fun candidate =>
          stepOf intent (openTypes existing intent.requiredFactTypes) candidate.1 candidate.2) ∧
      (planIntent catalog mode available existing plan intent).selected = plan.selected ++
        (turnOf catalog mode available existing plan intent).map (fun candidate =>
          (candidate.1.collectorId, intent.key)) ∧
      (planIntent catalog mode available existing plan intent).unresolvedIntentIds = plan.unresolvedIntentIds ++
        if isReported catalog mode available existing plan intent then [intent.intentId] else [] := by
  have hadds := @planCandidates_adds intent (openTypes existing intent.requiredFactTypes) []
    (candidatesOf catalog mode available intent) plan (nodup_candidatesOf h)
  unfold planIntent turnOf isReported
  dsimp only
  split
  · rename_i hnone
    simp [hnone.1]
  · rename_i hsome
    rw [turnOf, if_neg hsome, freshCandidates, hadds.1, List.nil_append]
    obtain ⟨hsteps, hselected, hunresolved⟩ := hadds.2
    split
    · rename_i hreported
      rw [if_pos (by simpa using hreported)]
      exact ⟨hsteps, hselected, congrArg (· ++ _) hunresolved⟩
    · rename_i hreported
      rw [if_neg (by simpa using hreported), List.append_nil]
      exact ⟨hsteps, hselected, hunresolved⟩

end Plans

section Continuing

variable {catalog : DiagnosticCatalog} {mode : String} {available existing : List String}
variable {plan later : EvidenceCollectionPlan} {intent : EvidenceIntent} {intents : List EvidenceIntent}
variable {step : CollectorPlanStep} {definition : CollectorDefinition}

def Aligned (plan : EvidenceCollectionPlan) : Prop :=
  ∀ collectorId key, (collectorId, key) ∈ plan.selected ↔
    ∃ step ∈ plan.steps, step.collectorId = collectorId ∧ step.key = key

theorem expectedFactTypes_stepOf_subset {required : List String} {score : Rat} :
    (stepOf intent required definition score).expectedFactTypes ⊆ definition.factTypes := by
  show (if expectedTypes required definition = [] then definition.factTypes else expectedTypes required
    definition) ⊆ _
  split
  · exact List.Subset.refl _
  · intro factType htype
    exact (mem_expectedTypes.mp htype).1

theorem mem_expectedFactTypes_stepOf {required : List String} {score : Rat} {factType : String}
    (h : factType ∈ expectedTypes required definition) :
    factType ∈ (stepOf intent required definition score).expectedFactTypes := by
  show factType ∈ if expectedTypes required definition = [] then definition.factTypes else expectedTypes
    required definition
  rw [if_neg (List.ne_nil_of_mem h)]
  exact h

theorem Aligned.planIntent (hcatalog : KeyedById catalog) (h : Aligned plan) :
    Aligned (planIntent catalog mode available existing plan intent) := by
  obtain ⟨hsteps, hselected, -⟩ := @planIntent_adds catalog mode available existing plan intent hcatalog
  intro collectorId key
  rw [hsteps, hselected, List.mem_append, h collectorId key]
  constructor
  · rintro (⟨step, hstep, hsame⟩ | hnew)
    · exact ⟨step, List.mem_append_left _ hstep, hsame⟩
    · obtain ⟨candidate, hcandidate, hsame⟩ := List.mem_map.mp hnew
      obtain ⟨rfl, rfl⟩ := Prod.mk.inj hsame
      exact ⟨_, List.mem_append_right _ (List.mem_map_of_mem hcandidate), rfl, rfl⟩
  · rintro ⟨step, hstep, hsame⟩
    rcases List.mem_append.mp hstep with hold | hnew
    · exact .inl ⟨step, hold, hsame⟩
    · obtain ⟨candidate, hcandidate, rfl⟩ := List.mem_map.mp hnew
      obtain ⟨rfl, rfl⟩ := hsame
      exact .inr (List.mem_map_of_mem hcandidate)

/-- A step that is new runs a usable collector that had none for the same intent and subjects. -/
structure IsNew (catalog : DiagnosticCatalog) (mode : String) (available : List String)
    (plan : EvidenceCollectionPlan)
    (step : CollectorPlanStep) : Prop where
  fresh : (step.collectorId, step.key) ∉ plan.selected
  runs : ∃ definition ∈ catalog.collectorValues, isUsable mode available definition = true ∧
    step.collectorId = definition.collectorId ∧ step.expectedFactTypes ⊆ definition.factTypes

theorem mem_freshCandidates_of_mem_turnOf {candidate : Candidate}
    (h : candidate ∈ turnOf catalog mode available existing plan intent) :
    candidate ∈ freshCandidates catalog mode available existing plan intent := by
  unfold turnOf at h
  split at h
  · cases h
  · exact (plannedFrom_front _ _ _ _).subset h

theorem isNew_of_mem_turnOf {candidate : Candidate}
    (h : candidate ∈ turnOf catalog mode available existing plan intent) :
    IsNew catalog mode available plan
      (stepOf intent (openTypes existing intent.requiredFactTypes) candidate.1 candidate.2) := by
  obtain ⟨hcandidate, -, hfresh⟩ := mem_freshOnes.mp (mem_freshCandidates_of_mem_turnOf h)
  obtain ⟨hvalues, husable, -⟩ := mem_candidatesOf.mp ⟨candidate.2, hcandidate⟩
  exact ⟨hfresh, candidate.1, hvalues, husable, rfl, expectedFactTypes_stepOf_subset⟩

theorem steps_foldl_planIntent (hcatalog : KeyedById catalog) (intents : List EvidenceIntent)
    (plan : EvidenceCollectionPlan) :
    ∃ new, (intents.foldl (planIntent catalog mode available existing) plan).steps = plan.steps ++ new ∧
      ∀ step ∈ new, (∃ other ∈ intents, step.key = other.key) ∧ IsNew catalog mode available plan step := by
  induction intents generalizing plan with
  | nil => exact ⟨[], (List.append_nil _).symm, fun _ h => absurd h List.not_mem_nil⟩
  | cons intent intents ih =>
    obtain ⟨hsteps, hselected, -⟩ := @planIntent_adds catalog mode available existing plan intent hcatalog
    obtain ⟨new, hnew, hall⟩ := ih (planIntent catalog mode available existing plan intent)
    refine ⟨(turnOf catalog mode available existing plan intent).map (fun candidate => stepOf intent
      (openTypes existing intent.requiredFactTypes) candidate.1 candidate.2) ++ new,
      by rw [List.foldl_cons, hnew, hsteps, List.append_assoc], ?_⟩
    intro step hstep
    rcases List.mem_append.mp hstep with hturn | hlater
    · obtain ⟨candidate, hcandidate, rfl⟩ := List.mem_map.mp hturn
      exact ⟨⟨intent, List.mem_cons_self, rfl⟩, isNew_of_mem_turnOf hcandidate⟩
    · obtain ⟨⟨other, hother, hkey⟩, hisNew⟩ := hall step hlater
      refine ⟨⟨other, List.mem_cons_of_mem _ hother, hkey⟩, ?_, hisNew.runs⟩
      intro hselectedBefore
      apply hisNew.fresh
      rw [hselected]
      exact List.mem_append_left _ hselectedBefore

end Continuing

section Gaps

variable (catalog : DiagnosticCatalog) (mode : String) (available existing : List String)

def CollectorPlanStep.expects (step : CollectorPlanStep) (req : String) : Bool :=
  step.expectedFactTypes.any (factTypeMatches req)

/-- Something that the intent requires neither exists nor is expected from a step for the same intent
and subjects. -/
def hasGap (steps : List CollectorPlanStep) (intent : EvidenceIntent) : Bool :=
  (openTypes existing intent.requiredFactTypes).any fun req =>
    !steps.any fun step => step.key = intent.key && step.expects req

def Helps (intent : EvidenceIntent) (definition : CollectorDefinition) : Prop :=
  definition ∈ catalog.collectorValues ∧ isUsable mode available definition = true ∧
    ∃ req ∈ openTypes existing intent.requiredFactTypes, definition.provides req = true

def AsksAll (steps : List CollectorPlanStep) (intent : EvidenceIntent) : Prop :=
  ∀ definition, Helps catalog mode available existing intent definition →
    ∃ step ∈ steps, step.collectorId = definition.collectorId ∧ step.key = intent.key

structure ReportsGaps (intents : List EvidenceIntent) : Prop where
  unresolved : (EvidencePlanner.plan catalog mode available intents existing).unresolvedIntentIds =
    (intents.filter (hasGap existing (EvidencePlanner.plan catalog mode available intents existing).steps)).map
      EvidenceIntent.intentId
  collectors : ∀ intent ∈ intents, intent.stoppingCondition = "all_collectors" →
    AsksAll catalog mode available existing
      (EvidencePlanner.plan catalog mode available intents existing).steps intent

/-- At its turn either the collectors that are not planned yet for the intent and its subjects provide all
that is open, as far as an authoritative answer lets them, or something is provided by none of them and
expected from no earlier step. -/
def JudgedRight (plan : EvidenceCollectionPlan) (intent : EvidenceIntent) : Prop :=
  openTypes existing intent.requiredFactTypes ≠ [] →
    (∀ req ∈ openTypes existing intent.requiredFactTypes,
      ∃ candidate ∈ reachOf intent (freshCandidates catalog mode available existing plan intent),
        candidate.1.provides req = true) ∨
    ∃ req ∈ openTypes existing intent.requiredFactTypes,
      (∀ candidate ∈ reachOf intent (freshCandidates catalog mode available existing plan intent),
        candidate.1.provides req = false) ∧
      ∀ step ∈ plan.steps, step.key = intent.key → step.expects req = false

def NeedsLast (plan : EvidenceCollectionPlan) (intent : EvidenceIntent) : Prop :=
  intent.stoppingCondition = "all_collectors" → openTypes existing intent.requiredFactTypes ≠ [] →
    ∃ req ∈ openTypes existing intent.requiredFactTypes,
      ∀ candidate ∈ (freshCandidates catalog mode available existing plan intent).dropLast,
        candidate.1.provides req = false

end Gaps

section Turn

variable {catalog : DiagnosticCatalog} {mode : String} {available existing : List String}
variable {plan : EvidenceCollectionPlan} {intent : EvidenceIntent} {rest : List EvidenceIntent}

theorem hasGap_iff {steps : List CollectorPlanStep} : hasGap existing steps intent = true ↔
    ∃ req ∈ openTypes existing intent.requiredFactTypes,
      ∀ step ∈ steps, step.key = intent.key → step.expects req = false := by
  simp only [hasGap, List.any_eq_true, Bool.not_eq_true', List.any_eq_false, Bool.and_eq_true,
    decide_eq_true_eq,
    not_and, Bool.not_eq_true]

theorem turnOf_of_ne_nil (h : openTypes existing intent.requiredFactTypes ≠ []) :
    turnOf catalog mode available existing plan intent = plannedFrom intent
      (openTypes existing intent.requiredFactTypes)
      (freshCandidates catalog mode available existing plan intent) [] := if_neg fun hnil => h hnil.1

theorem isReported_iff : isReported catalog mode available existing plan intent = true ↔
    openTypes existing intent.requiredFactTypes ≠ [] ∧ ¬ ∀ req ∈ openTypes existing intent.requiredFactTypes,
      ∃ candidate ∈ reachOf intent (freshCandidates catalog mode available existing plan intent),
        candidate.1.provides req = true := by
  rw [isReported, Bool.and_eq_true, decide_eq_true_eq, Bool.not_eq_true', ← Bool.not_eq_true]
  apply and_congr_right
  intro hopen
  rw [turnOf_of_ne_nil hopen, isCovered_plannedFrom]

theorem turnOf_of_isReported (h : isReported catalog mode available existing plan intent = true) :
    turnOf catalog mode available existing plan intent =
      reachOf intent (freshCandidates catalog mode available existing plan intent) := by
  obtain ⟨hopen, hnot⟩ := isReported_iff.mp h
  rw [turnOf_of_ne_nil hopen]
  rcases plannedFrom_eq_or_covered intent (freshCandidates catalog mode available existing plan intent) [] with
    hsame | ⟨hcovered, -⟩
  · exact hsame
  · exact absurd (isCovered_plannedFrom.mp hcovered) hnot

theorem provides_of_expects {step : CollectorPlanStep} {definition : CollectorDefinition} {req : String}
    (hsub : step.expectedFactTypes ⊆ definition.factTypes) (h : step.expects req = true) :
    definition.provides req = true := by
  obtain ⟨factType, htype, hmatch⟩ := List.any_eq_true.mp h
  exact List.any_eq_true.mpr ⟨factType, hsub htype, hmatch⟩

theorem expects_stepOf {candidate : Candidate} {required : List String} {req : String} (hreq : req ∈ required)
    (h : candidate.1.provides req = true) :
    (stepOf intent required candidate.1 candidate.2).expects req = true := by
  obtain ⟨factType, htype, hmatch⟩ := List.any_eq_true.mp h
  exact List.any_eq_true.mpr ⟨factType,
    mem_expectedFactTypes_stepOf (mem_expectedTypes.mpr ⟨htype, .inr ⟨req, hreq, hmatch⟩⟩), hmatch⟩

theorem selected_or_fresh {definition : CollectorDefinition}
    (h : Helps catalog mode available existing intent definition) :
    (definition.collectorId, intent.key) ∈ plan.selected ∨
      ∃ candidate ∈ freshCandidates catalog mode available existing plan intent, candidate.1 = definition := by
  obtain ⟨hvalues, husable, req, hreq, hprovides⟩ := h
  by_cases hselected : (definition.collectorId, intent.key) ∈ plan.selected
  · exact .inl hselected
  · obtain ⟨score, hcandidate⟩ := mem_candidatesOf.mpr ⟨hvalues, husable,
      isSome_candidateScore (mem_openTypes.mp hreq).1 hprovides⟩
    have hexpected : expectedTypes (openTypes existing intent.requiredFactTypes) definition ≠ [] :=
      (expectedTypes_ne_nil_iff (List.ne_nil_of_mem hreq)).mpr ⟨req, hreq, hprovides⟩
    exact .inr ⟨(definition, score), mem_freshOnes.mpr ⟨hcandidate, .inr hexpected, hselected⟩, rfl⟩

theorem helps_of_mem_freshCandidates {candidate : Candidate}
    (hopen : openTypes existing intent.requiredFactTypes ≠ [])
    (h : candidate ∈ freshCandidates catalog mode available existing plan intent) :
    Helps catalog mode available existing intent candidate.1 := by
  obtain ⟨hcandidate, hexpected, -⟩ := mem_freshOnes.mp h
  obtain ⟨hvalues, husable, -⟩ := mem_candidatesOf.mp ⟨candidate.2, hcandidate⟩
  obtain ⟨req, hreq, hprovides⟩ := (expectedTypes_ne_nil_iff hopen).mp (hexpected.resolve_left hopen)
  exact ⟨hvalues, husable, req, hreq, hprovides⟩

theorem mem_steps_foldl (hcatalog : KeyedById catalog) {step : CollectorPlanStep}
    {final : EvidenceCollectionPlan}
    (hfinal : final = (intent :: rest).foldl (planIntent catalog mode available existing) plan)
    (h : step ∈ final.steps) :
    step ∈ plan.steps ∨
      (∃ candidate ∈ turnOf catalog mode available existing plan intent,
        step = stepOf intent (openTypes existing intent.requiredFactTypes) candidate.1 candidate.2) ∨
      (∃ other ∈ rest, step.key = other.key) ∧
        IsNew catalog mode available (planIntent catalog mode available existing plan intent) step := by
  obtain ⟨hsteps, -, -⟩ := @planIntent_adds catalog mode available existing plan intent hcatalog
  obtain ⟨new, hnew, hall⟩ := @steps_foldl_planIntent catalog mode available existing hcatalog rest
    (planIntent catalog mode available existing plan intent)
  rw [hfinal, List.foldl_cons, hnew, hsteps] at h
  rcases List.mem_append.mp h with hbefore | hlater
  · rcases List.mem_append.mp hbefore with hold | hturn
    · exact .inl hold
    · obtain ⟨candidate, hcandidate, rfl⟩ := List.mem_map.mp hturn
      exact .inr (.inl ⟨candidate, hcandidate, rfl⟩)
  · exact .inr (.inr (hall step hlater))

theorem steps_subset_foldl (hcatalog : KeyedById catalog) {final : EvidenceCollectionPlan}
    (hfinal : final = (intent :: rest).foldl (planIntent catalog mode available existing) plan) :
    (planIntent catalog mode available existing plan intent).steps ⊆ final.steps := by
  obtain ⟨new, hnew, -⟩ := @steps_foldl_planIntent catalog mode available existing hcatalog rest
    (planIntent catalog mode available existing plan intent)
  rw [hfinal, List.foldl_cons, hnew]
  exact List.subset_append_left _ _

end Turn

section Verdicts

variable {catalog : DiagnosticCatalog} {mode : String} {available existing : List String}
variable {plan final : EvidenceCollectionPlan} {intent : EvidenceIntent} {intents rest : List EvidenceIntent}

theorem isReported_of_hasGap (hcatalog : KeyedById catalog)
    (hfinal : final = (intent :: rest).foldl (planIntent catalog mode available existing) plan)
    (h : hasGap existing final.steps intent = true) :
    isReported catalog mode available existing plan intent = true := by
  obtain ⟨req, hreq, hgap⟩ := hasGap_iff.mp h
  have hopen := List.ne_nil_of_mem hreq
  by_contra hnot
  rw [Bool.not_eq_true, isReported, Bool.and_eq_false_iff, Bool.not_eq_false'] at hnot
  have hcovered := hnot.resolve_left fun hno => absurd hopen (of_decide_eq_false hno)
  obtain ⟨candidate, hcandidate, hprovides⟩ := isCovered_typesOf.mp hcovered req hreq
  have hstep : stepOf intent (openTypes existing intent.requiredFactTypes) candidate.1 candidate.2 ∈
      (planIntent catalog mode available existing plan intent).steps := by
    rw [(@planIntent_adds catalog mode available existing plan intent hcatalog).1]
    exact List.mem_append_right _ (List.mem_map_of_mem hcandidate)
  have hno := hgap _ (steps_subset_foldl hcatalog hfinal hstep) rfl
  rw [expects_stepOf hreq hprovides] at hno
  cases hno

theorem expects_of_later (hcatalog : KeyedById catalog)
    (hlater : intent.stoppingCondition ≠ "all_required_facts" → ∀ other ∈ rest, intent.key ≠ other.key)
    (hreported : isReported catalog mode available existing plan intent = true) {req : String}
    (hreq : req ∈ openTypes existing intent.requiredFactTypes) {step : CollectorPlanStep}
    (hother : ∃ other ∈ rest, step.key = other.key)
    (hnew : IsNew catalog mode available (planIntent catalog mode available existing plan intent) step)
    (hkey : step.key = intent.key) : step.expects req = false := by
  by_contra hexpects
  rw [Bool.not_eq_false] at hexpects
  by_cases hstop : intent.stoppingCondition = "all_required_facts"
  · have hreach : ∀ candidates, reachOf intent candidates = candidates :=
      reachOf_eq_self (by rw [hstop]; decide)
    obtain ⟨definition, hvalues, husable, hid, hsub⟩ := hnew.runs
    have hprovides := provides_of_expects hsub hexpects
    have hselected := (@planIntent_adds catalog mode available existing plan intent hcatalog).2.1
    apply hnew.fresh
    rw [hid, hkey, hselected]
    have hhelps : Helps catalog mode available existing intent definition :=
      ⟨hvalues, husable, req, hreq, hprovides⟩
    rcases @selected_or_fresh catalog mode available existing plan intent definition hhelps with
      hbefore | ⟨candidate, hcandidate, rfl⟩
    · exact List.mem_append_left _ hbefore
    · apply List.mem_append_right
      rw [turnOf_of_isReported hreported, hreach]
      exact List.mem_map_of_mem hcandidate
  · obtain ⟨other, hmem, hsame⟩ := hother
    exact hlater hstop other hmem (hkey.symm.trans hsame)

theorem judgedRight_iff (hcatalog : KeyedById catalog)
    (hlater : intent.stoppingCondition ≠ "all_required_facts" → ∀ other ∈ rest, intent.key ≠ other.key)
    (hfinal : final = (intent :: rest).foldl (planIntent catalog mode available existing) plan) :
    (isReported catalog mode available existing plan intent = true →
      hasGap existing final.steps intent = true) ↔
      JudgedRight catalog mode available existing plan intent := by
  by_cases hreported : isReported catalog mode available existing plan intent = true
  · obtain ⟨hopen, hnot⟩ := isReported_iff.mp hreported
    have hturn := turnOf_of_isReported hreported
    rw [JudgedRight, imp_iff_right hreported, imp_iff_right hopen, or_iff_right hnot, hasGap_iff]
    apply exists_congr
    intro req
    apply and_congr_right
    intro hreq
    constructor
    · intro hgap
      have hsub := steps_subset_foldl hcatalog hfinal
      rw [(@planIntent_adds catalog mode available existing plan intent hcatalog).1, hturn] at hsub
      constructor
      · intro candidate hcandidate
        by_contra hprovides
        have hno := hgap _ (hsub (List.mem_append_right _ (List.mem_map_of_mem hcandidate))) rfl
        rw [expects_stepOf hreq (Bool.not_eq_false _ ▸ hprovides)] at hno
        cases hno
      · intro step hstep hkey
        exact hgap step (hsub (List.mem_append_left _ hstep)) hkey
    · rintro ⟨hnone, hearlier⟩ step hstep hkey
      rcases mem_steps_foldl hcatalog hfinal hstep with hold | ⟨candidate, hcandidate, rfl⟩ | ⟨hother, hnew⟩
      · exact hearlier step hold hkey
      · rw [hturn] at hcandidate
        by_contra hexpects
        have hprovides := provides_of_expects expectedFactTypes_stepOf_subset (Bool.not_eq_false _ ▸ hexpects)
        rw [hnone candidate hcandidate] at hprovides
        cases hprovides
      · exact expects_of_later hcatalog hlater hreported hreq hother hnew hkey
  · apply iff_of_true fun h => absurd h hreported
    intro hopen
    left
    by_contra hnot
    exact hreported (isReported_iff.mpr ⟨hopen, hnot⟩)

theorem not_provides_iff {required : List String} {candidates : List Candidate} :
    isCovered required (typesOf required candidates) = false ↔
      ∃ req ∈ required, ∀ candidate ∈ candidates, candidate.1.provides req = false := by
  rw [← Bool.not_eq_true, isCovered_typesOf]
  push Not
  simp only [Bool.not_eq_true]

theorem needsLast_iff (hcatalog : KeyedById catalog) (haligned : Aligned plan)
    (hstop : intent.stoppingCondition = "all_collectors") (hlater : ∀ other ∈ rest, intent.key ≠ other.key)
    (hfinal : final = (intent :: rest).foldl (planIntent catalog mode available existing) plan) :
    AsksAll catalog mode available existing final.steps intent ↔
      NeedsLast catalog mode available existing plan intent := by
  by_cases hopen : openTypes existing intent.requiredFactTypes = []
  · apply iff_of_true
    · rintro definition ⟨-, -, req, hreq, -⟩
      rw [hopen] at hreq
      cases hreq
    · exact fun _ hsome => absurd hopen hsome
  have hfirst : intent.stoppingCondition ≠ "first_authoritative_answer" := by
    rw [hstop]
    decide
  have hself := @plannedFrom_eq_self_iff intent _ []
    (freshCandidates catalog mode available existing plan intent) hfirst hopen (isCovered_nil hopen)
  rw [List.nil_append, not_provides_iff] at hself
  rw [NeedsLast, imp_iff_right hstop, imp_iff_right hopen, ← hself, ← turnOf_of_ne_nil hopen]
  constructor
  · intro hasks
    by_contra hne
    obtain ⟨more, hmore⟩ : turnOf catalog mode available existing plan intent <+:
        freshCandidates catalog mode available existing plan intent := by
      rw [turnOf_of_ne_nil hopen]
      exact plannedFrom_front _ _ _ _
    obtain ⟨candidate, others, rfl⟩ : ∃ candidate others, more = candidate :: others := by
      apply List.exists_cons_of_ne_nil
      rintro rfl
      exact hne ((List.append_nil _).symm.trans hmore)
    have hmem : candidate ∈ freshCandidates catalog mode available existing plan intent := by
      rw [← hmore]
      exact List.mem_append_right _ List.mem_cons_self
    obtain ⟨step, hstep, hid, hkey⟩ := hasks candidate.1 (helps_of_mem_freshCandidates hopen hmem)
    rcases mem_steps_foldl hcatalog hfinal hstep with hold | ⟨other, hother, rfl⟩ | ⟨⟨other, hother, hsame⟩, -⟩
    · have hselected := (haligned _ _).mpr ⟨step, hold, hid, hkey⟩
      obtain ⟨-, -, hfresh⟩ := mem_freshOnes.mp hmem
      exact hfresh hselected
    · have hids : ((freshCandidates catalog mode available existing plan intent).map
          fun candidate => candidate.1.collectorId).Nodup :=
        (nodup_candidatesOf hcatalog).sublist (List.filter_sublist.map _)
      rw [← hmore, List.map_append, List.nodup_append] at hids
      exact hids.2.2 _ (List.mem_map_of_mem hother) _ (List.mem_map_of_mem List.mem_cons_self) hid
    · exact hlater other hother (hkey.symm.trans hsame)
  · intro hall definition hhelps
    have hsub := steps_subset_foldl hcatalog hfinal
    rw [(@planIntent_adds catalog mode available existing plan intent hcatalog).1, hall] at hsub
    rcases @selected_or_fresh catalog mode available existing plan intent definition hhelps with
      hbefore | ⟨candidate, hcandidate, rfl⟩
    · obtain ⟨step, hstep, hsame⟩ := (haligned _ _).mp hbefore
      exact ⟨step, hsub (List.mem_append_left _ hstep), hsame⟩
    · exact ⟨_, hsub (List.mem_append_right _ (List.mem_map_of_mem hcandidate)), rfl, rfl⟩

end Verdicts

section Whole

variable {catalog : DiagnosticCatalog} {mode : String} {available existing : List String}
variable {plan final : EvidenceCollectionPlan} {intents : List EvidenceIntent}

variable (catalog mode available existing) in
def reportedIds : EvidenceCollectionPlan → List EvidenceIntent → List String
  | _, [] => []
  | plan, intent :: rest =>
    (if isReported catalog mode available existing plan intent then [intent.intentId] else []) ++
      reportedIds (planIntent catalog mode available existing plan intent) rest

theorem unresolved_foldl (hcatalog : KeyedById catalog) (intents : List EvidenceIntent)
    (plan : EvidenceCollectionPlan) :
    (intents.foldl (planIntent catalog mode available existing) plan).unresolvedIntentIds =
      plan.unresolvedIntentIds ++ reportedIds catalog mode available existing plan intents := by
  induction intents generalizing plan with
  | nil => exact (List.append_nil _).symm
  | cons intent rest ih =>
    rw [List.foldl_cons, ih, (@planIntent_adds catalog mode available existing plan intent hcatalog).2.2,
      List.append_assoc]
    rfl

theorem length_gaps_le (hcatalog : KeyedById catalog)
    (hfinal : final = intents.foldl (planIntent catalog mode available existing) plan) :
    (intents.filter (hasGap existing final.steps)).length ≤
      (reportedIds catalog mode available existing plan intents).length := by
  induction intents generalizing plan with
  | nil => exact Nat.le_refl _
  | cons intent rest ih =>
    have hrest := ih hfinal
    rw [reportedIds, List.length_append]
    cases hgap : hasGap existing final.steps intent with
    | true =>
      rw [List.filter_cons_of_pos hgap, isReported_of_hasGap hcatalog hfinal hgap, if_pos rfl]
      simp only [List.length_cons, List.length_nil]
      omega
    | false =>
      rw [List.filter_cons_of_neg (by rw [hgap]; exact Bool.false_ne_true)]
      omega

theorem reportedIds_eq_iff (hcatalog : KeyedById catalog)
    (hlater : intents.Pairwise fun one other => one.stoppingCondition ≠ "all_required_facts" →
      one.key ≠ other.key)
    (hfinal : final = intents.foldl (planIntent catalog mode available existing) plan) :
    reportedIds catalog mode available existing plan intents =
        (intents.filter (hasGap existing final.steps)).map EvidenceIntent.intentId ↔
      AtEachTurn catalog mode available existing (JudgedRight catalog mode available existing)
        plan intents := by
  induction intents generalizing plan with
  | nil => exact iff_of_true rfl trivial
  | cons intent rest ih =>
    obtain ⟨hfirst, hlater⟩ := List.pairwise_cons.mp hlater
    have hrest := ih hlater hfinal
    have hjudged := judgedRight_iff hcatalog (fun hstop other hother => hfirst other hother hstop) hfinal
    have hlength := @length_gaps_le catalog mode available existing
      (planIntent catalog mode available existing plan intent) final rest hcatalog hfinal
    rw [reportedIds, AtEachTurn, ← hrest, ← hjudged]
    cases hgap : hasGap existing final.steps intent with
    | true =>
      rw [List.filter_cons_of_pos hgap, isReported_of_hasGap hcatalog hfinal hgap, if_pos rfl, List.map_cons,
        List.singleton_append, List.cons_inj_right]
      simp
    | false =>
      rw [List.filter_cons_of_neg (by rw [hgap]; exact Bool.false_ne_true)]
      cases isReported catalog mode available existing plan intent with
      | false => simp
      | true =>
        rw [if_pos rfl]
        apply iff_of_false
        · intro heq
          have hsame := congrArg List.length heq
          rw [List.length_append, List.length_map, List.length_singleton] at hsame
          omega
        · rintro ⟨hno, -⟩
          cases hno rfl

theorem asksAll_iff (hcatalog : KeyedById catalog) (haligned : Aligned plan)
    (hlater : intents.Pairwise fun one other => one.stoppingCondition ≠ "all_required_facts" →
      one.key ≠ other.key)
    (hfinal : final = intents.foldl (planIntent catalog mode available existing) plan) :
    (∀ intent ∈ intents, intent.stoppingCondition = "all_collectors" →
        AsksAll catalog mode available existing final.steps intent) ↔
      AtEachTurn catalog mode available existing (NeedsLast catalog mode available existing) plan intents := by
  induction intents generalizing plan with
  | nil => exact iff_of_true (fun _ h => absurd h List.not_mem_nil) trivial
  | cons intent rest ih =>
    obtain ⟨hfirst, hlater⟩ := List.pairwise_cons.mp hlater
    rw [List.forall_mem_cons, AtEachTurn, ih (haligned.planIntent hcatalog) hlater hfinal]
    apply and_congr_left
    intro _
    by_cases hstop : intent.stoppingCondition = "all_collectors"
    · rw [imp_iff_right hstop]
      apply needsLast_iff hcatalog haligned hstop _ hfinal
      intro other hother
      exact hfirst other hother (by rw [hstop]; decide)
    · exact iff_of_true (fun h => absurd h hstop) fun h => absurd h hstop

theorem atEachTurn_and {one other : EvidenceCollectionPlan → EvidenceIntent → Prop} :
    AtEachTurn catalog mode available existing (fun plan intent => one plan intent ∧
      other plan intent) plan intents ↔
      AtEachTurn catalog mode available existing one plan intents ∧
        AtEachTurn catalog mode available existing other plan intents := by
  induction intents generalizing plan with
  | nil => exact iff_of_true trivial ⟨trivial, trivial⟩
  | cons intent rest ih =>
    rw [AtEachTurn, AtEachTurn, AtEachTurn, ih]
    exact and_and_and_comm

theorem aligned_empty : Aligned {} := by
  intro collectorId key
  apply iff_of_false List.not_mem_nil
  rintro ⟨step, hstep, -⟩
  exact List.not_mem_nil hstep

end Whole

section Example

def secondStateCollector : CollectorDefinition :=
  { entityStateCollector with collectorId := "snapshot.entity_state.v2" }

def doubledCatalog : DiagnosticCatalog where
  collectors := Dict.ofList [("snapshot.entity_state.v1", entityStateCollector),
    ("snapshot.entity_state.v2", secondStateCollector)]

def wantsAll : EvidenceIntent := { currentState with stoppingCondition := "all_collectors" }

def stepCollectors (plan : EvidenceCollectionPlan) : List String := plan.steps.map fun step => step.collectorId

end Example

end KubeOps.Diagnosis
