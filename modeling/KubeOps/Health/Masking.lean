import KubeOps.Foundation.Segments
import KubeOps.Health.Assessment
import KubeOps.Invariants.Monotone

/-! Healthy means that every required check has passed, unless two checks share an id or a
required template selects nothing beside others that do. -/
namespace KubeOps.Health

open KubeOps.Foundation KubeOps.Models KubeOps.Discovery KubeOps.Invariants

/-- A template with an entity that it selects. -/
abbrev Check := InvariantTemplate × EntityDocument

section Checks

variable (snapshot : AssessedSnapshot)

def checksOf (templates : List InvariantTemplate) : List Check :=
  templates.flatMap fun template => (matched snapshot template).map fun entity => (template, entity)

def checkId (check : Check) : String := invariantIdOf check.1 check.2

def checkKey (check : Check) : String × String := (check.1.templateId, safeId check.2.entityId)

def isRequired (check : Check) : Bool := check.1.required

theorem mem_checksOf {templates : List InvariantTemplate} {check : Check} :
    check ∈ checksOf snapshot templates ↔ check.1 ∈ templates ∧ check.2 ∈ matched snapshot check.1 := by
  rw [checksOf, List.mem_flatMap]
  constructor
  · rintro ⟨template, htemplate, hcheck⟩
    obtain ⟨entity, hentity, rfl⟩ := List.mem_map.mp hcheck
    exact ⟨htemplate, hentity⟩
  · rintro ⟨htemplate, hentity⟩
    exact ⟨check.1, htemplate, List.mem_map.mpr ⟨check.2, hentity, rfl⟩⟩

end Checks

section Ids

theorem unbroken_replaceChar {sign pattern : Char} {text replacement : String}
    (hsign : sign ∉ replacement.toList)
    (h : sign = pattern ∨ Unbroken sign text) : Unbroken sign (Text.replaceChar text pattern replacement) := by
  rw [Unbroken, Text.replaceChar, String.toList_ofList, List.mem_flatMap]
  rintro ⟨c, hc, hmem⟩
  split at hmem
  · exact hsign hmem
  · obtain rfl := List.mem_singleton.mp hmem
    exact h.elim (by assumption) fun hnone => hnone hc

theorem unbroken_safeId (value : String) : Unbroken ':' (safeId value) := by
  apply unbroken_replaceChar (by decide) (Or.inr _)
  exact unbroken_replaceChar (by decide) (Or.inl rfl)

theorem checkId_eq_iff {one two : Check} : checkId one = checkId two ↔ checkKey one = checkKey two := by
  have hid : ∀ check : Check, checkId check =
    check.1.templateId ++ String.singleton ':' ++ safeId check.2.entityId :=
    fun _ => rfl
  rw [hid, hid, checkKey, checkKey, Prod.mk.injEq]
  constructor
  · exact last_segment_inj ':' (unbroken_safeId _) (unbroken_safeId _)
  · intro h
    rw [h.1, h.2]

theorem nodup_checkId_iff {checks : List Check} : (checks.map checkId).Nodup ↔ (checks.map checkKey).Nodup := by
  unfold List.Nodup
  rw [List.pairwise_map, List.pairwise_map]
  simp only [ne_eq, checkId_eq_iff]

end Ids

section Compiling

variable {python : Python} {parseFloat : String → Option Rat} {snapshot : AssessedSnapshot}
variable {templates : List InvariantTemplate} {template : InvariantTemplate}
variable {start next compiled : CompiledOperationalProfile}

def invariantOf (python : Python) (parseFloat : String → Option Rat) (check : Check) :
    Option InvariantDefinition :=
  (compileTemplate python parseFloat check.1 check.2).toOption

theorem invariantId_of_compileTemplate {entity : EntityDocument} {invariant : InvariantDefinition}
    (h : compileTemplate python parseFloat template entity = .ok invariant) :
    invariant.invariantId = invariantIdOf template entity := by
  obtain ⟨predicate, -, h⟩ := except_bind_eq_ok h
  exact congrArg InvariantDefinition.invariantId (Except.ok.inj h).symm

structure Adds (python : Python) (parseFloat : String → Option Rat) (snapshot : AssessedSnapshot)
    (templates : List InvariantTemplate) (start compiled : CompiledOperationalProfile) : Prop where
  compiles : ∀ check ∈ checksOf snapshot templates, ∃ invariant,
    invariantOf python parseFloat check = some invariant
  invariants : compiled.invariants =
    start.invariants ++ (checksOf snapshot templates).filterMap (invariantOf python parseFloat)
  required : compiled.requiredInvariantIds =
    start.requiredInvariantIds ++ ((checksOf snapshot templates).filter isRequired).map checkId
  optional : compiled.optionalInvariantIds =
    start.optionalInvariantIds ++ ((checksOf snapshot templates).filter fun check =>
      !isRequired check).map checkId
  unmatched : compiled.unmatchedTemplates = start.unmatchedTemplates ++
    (templates.filter fun template => (matched snapshot template).isEmpty).map InvariantTemplate.templateId

theorem Adds.nil : Adds python parseFloat snapshot [] start start where
  compiles _ hcheck := absurd hcheck List.not_mem_nil
  invariants := (List.append_nil _).symm
  required := (List.append_nil _).symm
  optional := (List.append_nil _).symm
  unmatched := (List.append_nil _).symm

theorem Adds.cons (hfirst : Adds python parseFloat snapshot [template] start next)
    (hrest : Adds python parseFloat snapshot templates next compiled) :
    Adds python parseFloat snapshot (template :: templates) start compiled := by
  have hchecks : checksOf snapshot (template :: templates) =
      checksOf snapshot [template] ++ checksOf snapshot templates := by
    simp [checksOf]
  constructor
  · intro check hcheck
    rw [hchecks, List.mem_append] at hcheck
    exact hcheck.elim (hfirst.compiles check) (hrest.compiles check)
  · rw [hrest.invariants, hfirst.invariants, hchecks, List.filterMap_append, List.append_assoc]
  · rw [hrest.required, hfirst.required, hchecks, List.filter_append, List.map_append, List.append_assoc]
  · rw [hrest.optional, hfirst.optional, hchecks, List.filter_append, List.map_append, List.append_assoc]
  · rw [hrest.unmatched, hfirst.unmatched, List.append_assoc, ← List.map_append, ← List.filter_append,
      List.singleton_append]

theorem compileStep_adds (h : compileStep python parseFloat snapshot start template = .ok next) :
    Adds python parseFloat snapshot [template] start next := by
  have hchecks : checksOf snapshot [template] = (matched snapshot template).map fun entity =>
    (template, entity) := by
    simp [checksOf]
  unfold compileStep at h
  cases hmatched : matched snapshot template with
  | nil =>
    rw [hmatched] at h hchecks
    obtain rfl := Except.ok.inj h
    constructor <;> simp [hchecks, hmatched]
  | cons first rest =>
    rw [hmatched] at h hchecks
    obtain ⟨invariants, hinvariants, h⟩ := except_bind_eq_ok h
    have hids : invariants.map InvariantDefinition.invariantId = (first :: rest).map (invariantIdOf template) :=
      map_eq_of_mapM hinvariants fun _ _ => invariantId_of_compileTemplate
    rw [mapM_eq_ok_iff] at hinvariants
    obtain ⟨hcompiles, hinvariants⟩ := hinvariants
    have hcollected : invariants = (checksOf snapshot [template]).filterMap
      (invariantOf python parseFloat) := by
      rw [hinvariants, hchecks, List.filterMap_map]
      rfl
    have hcheckIds : (checksOf snapshot [template]).map checkId =
      invariants.map InvariantDefinition.invariantId := by
      rw [hids, hchecks, List.map_map]
      rfl
    have hall : ∀ check ∈ checksOf snapshot [template], check.1 = template := by
      intro check hcheck
      rw [hchecks] at hcheck
      obtain ⟨entity, -, rfl⟩ := List.mem_map.mp hcheck
      rfl
    have hmade : ∀ check ∈ checksOf snapshot [template],
        ∃ invariant, invariantOf python parseFloat check = some invariant := by
      intro check hcheck
      rw [hchecks] at hcheck
      obtain ⟨entity, hentity, rfl⟩ := List.mem_map.mp hcheck
      obtain ⟨invariant, hinvariant⟩ := hcompiles entity hentity
      exact ⟨invariant, except_toOption_eq_some.mpr hinvariant⟩
    have hnone : ([template].filter fun template => (matched snapshot template).isEmpty) = [] := by
      simp [hmatched]
    cases hrequired : template.required with
    | true =>
      rw [hrequired] at h
      obtain rfl := Except.ok.inj h
      have hkept : ∀ check ∈ checksOf snapshot [template], isRequired check = true := by
        intro check hcheck
        rw [isRequired, hall check hcheck, hrequired]
      constructor
      · exact hmade
      · exact congrArg _ hcollected
      · rw [List.filter_eq_self.mpr hkept, hcheckIds]
      · rw [List.filter_eq_nil_iff.mpr fun check hcheck => by simp [hkept check hcheck], List.map_nil,
          List.append_nil]
      · rw [hnone, List.map_nil, List.append_nil]
    | false =>
      rw [hrequired] at h
      obtain rfl := Except.ok.inj h
      have hleft : ∀ check ∈ checksOf snapshot [template], isRequired check = false := by
        intro check hcheck
        rw [isRequired, hall check hcheck, hrequired]
      constructor
      · exact hmade
      · exact congrArg _ hcollected
      · rw [List.filter_eq_nil_iff.mpr fun check hcheck => by simp [hleft check hcheck], List.map_nil,
          List.append_nil]
      · rw [List.filter_eq_self.mpr fun check hcheck => by simp [hleft check hcheck], hcheckIds]
      · rw [hnone, List.map_nil, List.append_nil]

theorem compile_adds {profile : OperationalProfileSpec} {nowIso : String}
    (h : compile python parseFloat profile snapshot nowIso = .ok compiled) :
    Adds python parseFloat snapshot profile.invariantTemplates ⟨profile.profileId, profile.version,
      snapshot.environmentId, snapshot.snapshotId, nowIso, [], [], [], []⟩ compiled := by
  unfold compile at h
  revert h
  generalize (⟨profile.profileId, profile.version, snapshot.environmentId, snapshot.snapshotId, nowIso,
    [], [], [], []⟩ : CompiledOperationalProfile) = start
  generalize profile.invariantTemplates = templates
  intro h
  induction templates generalizing start with
  | nil =>
    obtain rfl := Except.ok.inj h
    exact Adds.nil
  | cons template templates ih =>
    rw [List.foldlM_cons] at h
    obtain ⟨next, hnext, h⟩ := except_bind_eq_ok h
    exact (compileStep_adds hnext).cons (ih next h)

end Compiling

section Verdicts

variable {texts : ValueTexts} {python : Python} {parseFloat : String → Option Rat} {observed : Observed}
variable {snapshot : AssessedSnapshot} {checks : List Check} {required optional : List InvariantEvaluation}

def evaluationOf (python : Python) (parseFloat : String → Option Rat) (texts : ValueTexts) (observed : Observed)
    (check : Check) : Option InvariantEvaluation :=
  (invariantOf python parseFloat check).map
    (evaluation texts observed.world observed.currentTime observed.history observed.relationships)

def Passes (python : Python) (parseFloat : String → Option Rat) (texts : ValueTexts) (observed : Observed)
    (check : Check) : Prop :=
  (evaluationOf python parseFloat texts observed check).map InvariantEvaluation.status = some .healthy

theorem invariantId_of_evaluationOf {check : Check} {made : InvariantEvaluation}
    (h : evaluationOf python parseFloat texts observed check = some made) : made.invariantId =
      checkId check := by
  obtain ⟨invariant, hinvariant, rfl⟩ := Option.map_eq_some_iff.mp h
  exact invariantId_of_compileTemplate (except_toOption_eq_some.mp hinvariant)

theorem nodup_map_filterMap {α β κ : Type} {f : α → Option β} {g : β → κ} {key : α → κ} {items : List α}
    (hkey : ∀ item value, f item = some value → g value = key item) (h : (items.map key).Nodup) :
    ((items.filterMap f).map g).Nodup := by
  induction items with
  | nil => exact List.nodup_nil
  | cons item items ih =>
    rw [List.map_cons, List.nodup_cons] at h
    rw [List.filterMap_cons]
    cases hvalue : f item with
    | none => exact ih h.2
    | some value =>
      dsimp only
      rw [List.map_cons, List.nodup_cons]
      refine ⟨fun hmem => h.1 ?_, ih h.2⟩
      obtain ⟨other, hother, hsame⟩ := List.mem_map.mp hmem
      obtain ⟨found, hfound, hmade⟩ := List.mem_filterMap.mp hother
      exact List.mem_map.mpr ⟨found, hfound, by rw [← hkey found other hmade, hsame, hkey item value hvalue]⟩

theorem get?_evaluationsById (hids : (checks.map checkId).Nodup) {check : Check} (hcheck : check ∈ checks) :
    (evaluationsById (checks.filterMap (evaluationOf python parseFloat texts observed))).get? (checkId check) =
      evaluationOf python parseFloat texts observed check := by
  have hkeys : ((checks.filterMap (evaluationOf python parseFloat texts observed)).map
      InvariantEvaluation.invariantId).Nodup :=
    nodup_map_filterMap (fun _ _ => invariantId_of_evaluationOf) hids
  apply Option.ext
  intro made
  rw [evaluationsById, Dict.get?_ofList_eq_some (by rwa [List.map_map]), List.mem_map]
  constructor
  · rintro ⟨found, hfound, hpair⟩
    obtain ⟨hid, rfl⟩ := Prod.mk.inj hpair
    obtain ⟨other, hother, hmade⟩ := List.mem_filterMap.mp hfound
    rw [invariantId_of_evaluationOf hmade] at hid
    rw [← List.inj_on_of_nodup_map hids hother hcheck hid, hmade]
  · intro hmade
    refine ⟨made, List.mem_filterMap.mpr ⟨check, hcheck, hmade⟩, ?_⟩
    rw [invariantId_of_evaluationOf hmade]

theorem aggregate_eq_healthy {unmatched : List String}
    (hstatus : ∀ item ∈ required ++ optional,
      item.status ∈ [HealthStatus.healthy, .unhealthy, .unknown, .pending]) :
    aggregate required optional unmatched = .healthy ↔
      (∀ item ∈ required ++ optional, item.status = .healthy) ∧ (required ≠ [] ∨ unmatched = []) := by
  have hhealthy : ∀ item ∈ required ++ optional, item.status = .healthy ↔
      item.status ≠ .unhealthy ∧ item.status ≠ .unknown ∧ item.status ≠ .pending := by
    intro item hitem
    have hone := hstatus item hitem
    cases hcase : item.status <;> simp [hcase] at hone ⊢
  simp only [List.mem_append] at hhealthy ⊢
  unfold aggregate
  split_ifs with hunhealthy hunknown hpending hdegraded
  · obtain ⟨item, hitem, hcase⟩ := List.any_eq_true.mp hunhealthy
    simp only [false_iff, not_and]
    intro hall
    rw [hall item (Or.inl hitem)] at hcase
    cases hcase
  · simp only [false_iff, not_and, not_or, ne_eq, not_not]
    intro hall
    rcases hunknown with hany | hempty
    · obtain ⟨item, hitem, hcase⟩ := List.any_eq_true.mp hany
      rw [hall item (Or.inl hitem)] at hcase
      cases hcase
    · exact ⟨List.isEmpty_iff.mp hempty.1, hempty.2⟩
  · obtain ⟨item, hitem, hcase⟩ := List.any_eq_true.mp hpending
    simp only [false_iff, not_and]
    intro hall
    rw [hall item (Or.inl hitem)] at hcase
    cases hcase
  · obtain ⟨item, hitem, hcase⟩ := List.any_eq_true.mp hdegraded
    simp only [false_iff, not_and]
    intro hall
    rw [hall item (Or.inr hitem)] at hcase
    cases hcase
  · simp only [List.any_eq_true, decide_eq_true_eq, not_exists, not_and, not_or, List.isEmpty_iff, ne_eq,
      not_not] at hunhealthy hunknown hpending hdegraded
    simp only [true_iff]
    constructor
    · rintro item (hitem | hitem)
      · exact (hhealthy item (Or.inl hitem)).mpr ⟨hunhealthy item hitem, hunknown.1 item hitem,
          hpending item hitem⟩
      · have hnone := hdegraded item hitem
        simp only [List.mem_cons, List.not_mem_nil, or_false, not_or] at hnone
        exact (hhealthy item (Or.inr hitem)).mpr hnone
    · by_cases hempty : required = []
      · exact Or.inr (hunknown.2 hempty)
      · exact Or.inl hempty

end Verdicts

section Healthy

variable {texts : ValueTexts} {python : Python} {parseFloat : String → Option Rat} {localOffset : Int → Int}
variable {profile : OperationalProfileSpec} {snapshot : AssessedSnapshot} {history : List AssessedSnapshot}
variable {assessmentId compiledAtIso evaluatedAtIso : String} {assessment : OperationalProfileAssessment}
variable {observed : Observed}

theorem history_ne_nil (hobserve : observe python localOffset snapshot history = .ok observed) :
    observed.history ≠ [] := by
  obtain ⟨time, -, hobserve⟩ := except_bind_eq_ok hobserve
  obtain ⟨items, -, hobserve⟩ := except_bind_eq_ok hobserve
  obtain rfl := Except.ok.inj hobserve
  cases items with
  | nil => exact List.cons_ne_nil _ _
  | cons first rest => exact List.cons_ne_nil _ _

theorem filterMap_get?_evaluationsById {checks : List Check} (hids : (checks.map checkId).Nodup)
    (chosen : Check → Bool) :
    ((checks.filter chosen).map checkId).filterMap
        (evaluationsById (checks.filterMap (evaluationOf python parseFloat texts observed))).get? =
      (checks.filter chosen).filterMap (evaluationOf python parseFloat texts observed) := by
  rw [List.filterMap_map]
  apply List.filterMap_congr
  intro check hcheck
  exact get?_evaluationsById hids (List.mem_of_mem_filter hcheck)

theorem status_eq_aggregate (hobserve : observe python localOffset snapshot history = .ok observed)
    (hassess : assess python parseFloat texts localOffset profile snapshot history assessmentId compiledAtIso
      evaluatedAtIso = .ok assessment)
    (hids : ((checksOf snapshot profile.invariantTemplates).map checkId).Nodup) :
    assessment.status = aggregate
      (((checksOf snapshot profile.invariantTemplates).filter isRequired).filterMap
        (evaluationOf python parseFloat texts observed))
      (((checksOf snapshot profile.invariantTemplates).filter fun check => !isRequired check).filterMap
        (evaluationOf python parseFloat texts observed))
      ((profile.invariantTemplates.filter fun template => (matched snapshot template).isEmpty).map
        InvariantTemplate.templateId) := by
  obtain ⟨compiled, hcompiled, hassess⟩ := except_bind_eq_ok hassess
  obtain ⟨seen, hseen, hassess⟩ := except_bind_eq_ok hassess
  obtain rfl : observed = seen := Except.ok.inj (hobserve.symm.trans hseen)
  obtain ⟨evaluations, hevaluations, hassess⟩ := except_bind_eq_ok hassess
  obtain rfl := Except.ok.inj hassess
  have hadds := compile_adds hcompiled
  have hmade : evaluations = (checksOf snapshot profile.invariantTemplates).filterMap
      (evaluationOf python parseFloat texts observed) := by
    rw [evaluateAll_eq_ok (history_ne_nil hobserve) hevaluations, hadds.invariants, List.nil_append,
      List.map_filterMap]
    rfl
  dsimp only
  rw [hadds.required, hadds.optional, hadds.unmatched, hmade, List.nil_append, List.nil_append, List.nil_append,
    filterMap_get?_evaluationsById hids, filterMap_get?_evaluationsById hids]

theorem status_eq_healthy_iff (hobserve : observe python localOffset snapshot history = .ok observed)
    (hassess : assess python parseFloat texts localOffset profile snapshot history assessmentId compiledAtIso
      evaluatedAtIso = .ok assessment)
    (hids : ((checksOf snapshot profile.invariantTemplates).map checkId).Nodup) :
    assessment.status = .healthy ↔
      (∀ check ∈ checksOf snapshot profile.invariantTemplates, Passes python parseFloat texts observed check) ∧
      ((∃ check ∈ checksOf snapshot profile.invariantTemplates, isRequired check = true) ∨
        ∀ template ∈ profile.invariantTemplates, matched snapshot template ≠ []) := by
  have hcompiles : ∀ check ∈ checksOf snapshot profile.invariantTemplates,
      ∃ made, evaluationOf python parseFloat texts observed check = some made := by
    intro check hcheck
    obtain ⟨compiled, hcompiled, -⟩ := except_bind_eq_ok hassess
    obtain ⟨invariant, hinvariant⟩ := (compile_adds hcompiled).compiles check hcheck
    exact ⟨_, congrArg _ hinvariant⟩
  rw [status_eq_aggregate hobserve hassess hids]
  generalize checksOf snapshot profile.invariantTemplates = checks at hcompiles
  have hmem : ∀ item, item ∈ (checks.filter isRequired).filterMap
    (evaluationOf python parseFloat texts observed) ++
      (checks.filter fun check => !isRequired check).filterMap (evaluationOf python parseFloat texts observed) ↔
      ∃ check ∈ checks, evaluationOf python parseFloat texts observed check = some item := by
    intro item
    simp only [List.mem_append, List.mem_filterMap, List.mem_filter]
    constructor
    · rintro (⟨check, hcheck, hmade⟩ | ⟨check, hcheck, hmade⟩)
      · exact ⟨check, hcheck.1, hmade⟩
      · exact ⟨check, hcheck.1, hmade⟩
    · rintro ⟨check, hcheck, hmade⟩
      cases hrequired : isRequired check with
      | true => exact Or.inl ⟨check, ⟨hcheck, hrequired⟩, hmade⟩
      | false => exact Or.inr ⟨check, ⟨hcheck, by simp [hrequired]⟩, hmade⟩
  rw [aggregate_eq_healthy fun item hitem => by
    obtain ⟨check, hcheck, hmade⟩ := (hmem item).mp hitem
    obtain ⟨invariant, -, rfl⟩ := Option.map_eq_some_iff.mp hmade
    exact status_evaluation invariant observed.relationships]
  have hpasses : (∀ item, item ∈ (checks.filter isRequired).filterMap
      (evaluationOf python parseFloat texts observed) ++
        (checks.filter fun check => !isRequired check).filterMap
        (evaluationOf python parseFloat texts observed) → item.status = .healthy) ↔
      ∀ check ∈ checks, Passes python parseFloat texts observed check := by
    simp only [hmem]
    constructor
    · intro h check hcheck
      obtain ⟨made, hmade⟩ := hcompiles check hcheck
      rw [Passes, hmade, Option.map_some, h made ⟨check, hcheck, hmade⟩]
    · rintro h item ⟨check, hcheck, hmade⟩
      have hpass := h check hcheck
      rw [Passes, hmade, Option.map_some] at hpass
      exact Option.some.inj hpass
  have hsome : (checks.filter isRequired).filterMap (evaluationOf python parseFloat texts observed) ≠ [] ↔
      ∃ check ∈ checks, isRequired check = true := by
    rw [ne_eq, List.filterMap_eq_nil_iff]
    constructor
    · intro h
      by_contra hnone
      exact h fun check hcheck => absurd ⟨check, List.mem_filter.mp hcheck⟩ hnone
    · rintro ⟨check, hcheck, hrequired⟩ hnone
      obtain ⟨made, hmade⟩ := hcompiles check hcheck
      rw [hnone check (List.mem_filter.mpr ⟨hcheck, hrequired⟩)] at hmade
      cases hmade
  have hmatched : (profile.invariantTemplates.filter fun template => (matched snapshot template).isEmpty).map
      InvariantTemplate.templateId = [] ↔ ∀ template ∈ profile.invariantTemplates,
        matched snapshot template ≠ [] := by
    simp [List.filter_eq_nil_iff]
  rw [hpasses, hsome, hmatched]

/-- Healthy means that every required template selects something and that its invariant evaluates
to healthy for each entity; and no two checks share an id. -/
def HealthyMeansPassed (python : Python) (parseFloat : String → Option Rat) (texts : ValueTexts)
    (profile : OperationalProfileSpec) (snapshot : AssessedSnapshot) (observed : Observed)
    (assessment : OperationalProfileAssessment) : Prop :=
  (assessment.status = .healthy →
    ∀ template ∈ profile.invariantTemplates, template.required = true →
      matched snapshot template ≠ [] ∧
        ∀ entity ∈ matched snapshot template, Passes python parseFloat texts observed (template, entity)) ∧
  ((checksOf snapshot profile.invariantTemplates).map checkId).Nodup

/-- Healthy means this exactly where no two checks agree in their template's id and in what is left
of the entity's, and where a required template without entities stands alone or beside a check
that does not pass. -/
theorem healthy_means_passed_iff (hobserve : observe python localOffset snapshot history = .ok observed)
    (hassess : assess python parseFloat texts localOffset profile snapshot history assessmentId compiledAtIso
      evaluatedAtIso = .ok assessment) :
    HealthyMeansPassed python parseFloat texts profile snapshot observed assessment ↔
      ((checksOf snapshot profile.invariantTemplates).map checkKey).Nodup ∧
      ((∀ template ∈ profile.invariantTemplates, template.required = true → matched snapshot template ≠ []) ∨
        (∀ check ∈ checksOf snapshot profile.invariantTemplates, isRequired check = false) ∨
        ∃ check ∈ checksOf snapshot profile.invariantTemplates,
          ¬ Passes python parseFloat texts observed check) := by
  unfold HealthyMeansPassed
  rw [nodup_checkId_iff]
  constructor
  · rintro ⟨hhealthy, hkeys⟩
    refine ⟨hkeys, ?_⟩
    by_contra hnone
    simp only [not_or, not_forall, not_exists, not_and, not_not, Bool.not_eq_false] at hnone
    obtain ⟨⟨template, htemplate, hrequired, hempty⟩, ⟨check, hcheck, hsome⟩, hpass⟩ := hnone
    have hstatus := (status_eq_healthy_iff hobserve hassess (nodup_checkId_iff.mpr hkeys)).mpr
      ⟨hpass, Or.inl ⟨check, hcheck, hsome⟩⟩
    exact (hhealthy hstatus template htemplate hrequired).1 hempty
  · rintro ⟨hkeys, hcondition⟩
    refine ⟨fun hstatus template htemplate hrequired => ?_, hkeys⟩
    obtain ⟨hpass, hsome⟩ := (status_eq_healthy_iff hobserve hassess (nodup_checkId_iff.mpr hkeys)).mp hstatus
    refine ⟨?_, fun entity hentity => hpass _ ((mem_checksOf snapshot).mpr ⟨htemplate, hentity⟩)⟩
    rcases hcondition with hmatched | hoptional | ⟨check, hcheck, hfails⟩
    · exact hmatched template htemplate hrequired
    · rcases hsome with ⟨check, hcheck, hrequired⟩ | hmatched
      · rw [hoptional check hcheck] at hrequired
        cases hrequired
      · exact hmatched template htemplate
    · exact absurd (hpass check hcheck) hfails

/-- Midnight of the first day. -/
def assessedAt : String := "1970-01-01T00:00:00+00:00"

def clockPython : Python :=
  { Python.plain with fromIsoFormat := fun text => if text = assessedAt then some ⟨0, some 0⟩ else none }

def readiness (ready : Bool) : JsonObject := Dict.ofList [("ready", .bool ready)]

theorem wellFormed_readiness (ready : Bool) : (Json.dict (readiness ready).entries).WellFormed := by
  simp [readiness, Dict.ofList, Dict.set, Json.WellFormed, Json.WellFormedEntries]

def podNamed (entityId : String) (hid : entityId ≠ "") (ready : Bool) : EntityDocument where
  entityId
  entityId_ne := hid
  entityType := "kubernetes.pod"
  name := "web"
  plane := .workload
  namespaceName := some "shop"
  observedState := readiness ready
  lineage_nodup := List.nodup_nil
  capabilities_nodup := List.nodup_nil
  desiredState_wellFormed := Json.wellFormed_empty
  observedState_wellFormed := wellFormed_readiness ready
  extensions_wellFormed := Json.wellFormed_empty

theorem dotted_ne : "pod.web" ≠ "" := by decide

theorem slashed_ne : "pod/web" ≠ "" := by decide

def podsReady : OperationalProfileSpec where
  profileId := "profile"
  invariantTemplates :=
    [{ templateId := "pods-ready", title := "Pods are ready", family := .readiness, checkType := .podReady }]

def snapshotOf (entities : List EntityDocument) : AssessedSnapshot where
  snapshotId := "snapshot"
  environmentId := "environment"
  completedAtIso := assessedAt
  entities

def readyPods : AssessedSnapshot := snapshotOf [podNamed "pod.web" dotted_ne true]

/-- The second pod takes the id of the first. -/
def maskedPods : AssessedSnapshot :=
  snapshotOf [podNamed "pod.web" dotted_ne false, podNamed "pod/web" slashed_ne true]

def assessPods (snapshot : AssessedSnapshot) : Except PyError OperationalProfileAssessment :=
  assess clockPython (fun _ => none) plainTexts (fun _ => 0) podsReady snapshot [] "assessment"
    assessedAt assessedAt

theorem readyPods_healthy_means_passed : ∃ observed assessment,
    observe clockPython (fun _ => 0) readyPods [] = .ok observed ∧ assessPods readyPods = .ok assessment ∧
    HealthyMeansPassed clockPython (fun _ => none) plainTexts podsReady readyPods observed assessment := by
  obtain ⟨observed, hobserve, -⟩ : ∃ observed, observe clockPython (fun _ => 0) readyPods [] = .ok observed ∧
      observed.currentTime = 0 := exists_ok_of_toOption (by decide)
  obtain ⟨assessment, hassess, -⟩ : ∃ assessment, assessPods readyPods = .ok assessment ∧
      assessment.status = .healthy := exists_ok_of_toOption (by decide)
  refine ⟨observed, assessment, hobserve, hassess, (healthy_means_passed_iff hobserve hassess).mpr ?_⟩
  exact ⟨by decide, Or.inl (by decide)⟩

/-- A pod that is not ready is reported as healthy. -/
theorem maskedPods_healthy : ∃ observed assessment,
    observe clockPython (fun _ => 0) maskedPods [] = .ok observed ∧ assessPods maskedPods = .ok assessment ∧
    assessment.status = .healthy ∧
    ¬ HealthyMeansPassed clockPython (fun _ => none) plainTexts podsReady maskedPods observed assessment := by
  obtain ⟨observed, hobserve, -⟩ : ∃ observed, observe clockPython (fun _ => 0) maskedPods [] = .ok observed ∧
      observed.currentTime = 0 := exists_ok_of_toOption (by decide)
  obtain ⟨assessment, hassess, hstatus⟩ : ∃ assessment, assessPods maskedPods = .ok assessment ∧
      assessment.status = .healthy := exists_ok_of_toOption (by decide +kernel)
  have hshared : ¬ ((checksOf maskedPods podsReady.invariantTemplates).map checkId).Nodup := by decide +kernel
  exact ⟨observed, assessment, hobserve, hassess, hstatus, fun h => hshared h.2⟩

end Healthy

end KubeOps.Health
