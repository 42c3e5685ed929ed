import KubeOps.Simulator.Truth

/-! The engine evaluates invariants and conditions without the relationships of the scenario.
Its verdicts are those of the verifier as long as no count finds a related entity. -/
namespace KubeOps.Simulator

open KubeOps.Foundation KubeOps.Models KubeOps.Discovery KubeOps.Invariants

section Predicates

variable {texts : ValueTexts} {world : World} {relationships : List Relationship} {predicate : Predicate}

def FindsNone (world : World) (relationships : List Relationship) : Predicate → Prop
  | .relatedCountGte sourceId types direction targetPath targetEquals _ =>
    relatedEntities world sourceId types direction targetPath targetEquals relationships = []
  | _ => True

theorem evaluateEach_congr {predicates : List Predicate} {others : List Relationship}
    (h : ∀ child ∈ predicates, evaluate texts world relationships child = evaluate texts world others child) :
    evaluateEach texts world relationships predicates = evaluateEach texts world others predicates := by
  rw [evaluateEach_eq, evaluateEach_eq]
  exact List.map_congr_left h

theorem evaluate_without_relationships (h : ∀ part ∈ parts predicate, FindsNone world relationships part) :
    evaluate texts world relationships predicate = evaluate texts world [] predicate := by
  have heach : ∀ predicates, (∀ part ∈ partsOfEach predicates, FindsNone world relationships part) →
      ∀ child ∈ predicates, ∀ part ∈ parts child, FindsNone world relationships part :=
    fun predicates hparts child hchild part hpart => hparts part (mem_partsOfEach.mpr ⟨child, hchild, hpart⟩)
  induction predicate using predicate_induct with
  | fieldEquals _ _ _ | fieldNotEquals _ _ _ | fieldExists _ _ _ | fieldGte _ _ _ | fieldLte _ _ _
  | fieldsEqual _ _ _ _ => rfl
  | relatedCountGte sourceId types direction targetPath targetEquals minimum =>
    have hnone : relatedEntities world sourceId types direction targetPath targetEquals relationships = [] :=
      h _ List.mem_cons_self
    rw [evaluate, evaluate, relatedCount, relatedCount, hnone]
    rfl
  | allOf predicates ih =>
    have hchildren := heach predicates fun part hpart => h part (List.mem_cons_of_mem _ hpart)
    rw [evaluate, evaluate, evaluateEach_congr fun child hchild => ih child hchild (hchildren child hchild)]
  | anyOf predicates ih =>
    have hchildren := heach predicates fun part hpart => h part (List.mem_cons_of_mem _ hpart)
    rw [evaluate, evaluate, evaluateEach_congr fun child hchild => ih child hchild (hchildren child hchild)]
  | not child ih => rw [evaluate, evaluate, ih fun part hpart => h part (List.mem_cons_of_mem _ hpart)]

end Predicates

section Invariants

variable {texts : ValueTexts} {world : World} {atSeconds : Int} {history : History}
variable {relationships : List Relationship} {invariant : InvariantDefinition}

theorem applyStable_congr {satisfied : Option Bool} {others : List Relationship}
    (h : ∀ item ∈ history, evaluate texts item.2 relationships invariant.predicate =
      evaluate texts item.2 others invariant.predicate) :
    applyStable texts invariant satisfied atSeconds history relationships =
      applyStable texts invariant satisfied atSeconds history others := by
  unfold applyStable
  cases satisfied with
  | none => rfl
  | some satisfied =>
    cases satisfied with
    | false => rfl
    | true =>
      dsimp only
      cases hbaseline : baselineOf (atSeconds - invariant.temporal.stableForSeconds.getD 0) history with
      | none => rfl
      | some baseline =>
        dsimp only
        have hsame : ∀ item ∈ baseline :: changesOf (atSeconds - invariant.temporal.stableForSeconds.getD 0)
            atSeconds history, (evaluate texts item.2 relationships invariant.predicate).satisfied =
              (evaluate texts item.2 others invariant.predicate).satisfied := by
          rw [List.forall_mem_cons]
          constructor
          · rw [h baseline (List.mem_of_mem_filter (List.mem_of_getLast? hbaseline))]
          · intro item hitem
            rw [h item (List.mem_of_mem_filter hitem)]
        rw [List.map_congr_left hsame]

theorem evaluation_without_relationships
    (hworld : ∀ part ∈ parts invariant.predicate, FindsNone world relationships part)
    (hhistory : ∀ item ∈ history, ∀ part ∈ parts invariant.predicate, FindsNone item.2 relationships part) :
    evaluation texts world atSeconds history relationships invariant =
      evaluation texts world atSeconds history [] invariant := by
  have happlied : ∀ satisfied, applyTemporal texts invariant satisfied atSeconds history relationships =
      applyTemporal texts invariant satisfied atSeconds history [] := by
    intro satisfied
    unfold applyTemporal
    cases invariant.temporal.operator with
    | immediate => rfl
    | eventually => rfl
    | stableFor =>
      exact applyStable_congr fun item hitem => evaluate_without_relationships (hhistory item hitem)
  unfold evaluation
  dsimp only
  rw [evaluate_without_relationships hworld, happlied]

end Invariants

section Runs

variable {texts : ValueTexts} {failures : FailureTexts} {scenario : ScenarioInstance} {state next : RunState}

inductive Reached (texts : ValueTexts) (failures : FailureTexts) (scenario : ScenarioInstance) :
    RunState → Prop where
  | start : Reached texts failures scenario (initialState texts scenario)
  | next {state next : RunState} (h : Reached texts failures scenario state)
    (hstep : step texts failures scenario state = .inl next) : Reached texts failures scenario next

theorem step_eq_inl (h : step texts failures scenario state = .inl next) :
    ∃ item rest world, state.queue = item :: rest ∧ item.atSeconds ≤ scenario.maxTimeSeconds ∧
      applyMutation state.world item.scheduled.mutation = .ok world ∧
      next = afterEvent texts scenario state item rest world := by
  unfold step at h
  cases hqueue : state.queue with
  | nil =>
    rw [hqueue] at h
    cases h
  | cons item rest =>
    rw [hqueue] at h
    dsimp only at h
    split at h
    · cases h
    · cases happlied : applyMutation state.world item.scheduled.mutation with
      | error failure =>
        rw [happlied] at h
        cases h
      | ok world =>
        rw [happlied] at h
        exact ⟨item, rest, world, rfl, not_lt.mp (by assumption), happlied, (Sum.inl.inj h).symm⟩

def observationOf (snapshot : WorldSnapshot) : Int × World := (snapshot.atSeconds, snapshot.observedState)

/-- The snapshots are the history of the observations, and each is evaluated on the part of it that
was there at the time. -/
structure Recorded (texts : ValueTexts) (scenario : ScenarioInstance) (state : RunState) : Prop where
  history : state.snapshots.map observationOf = state.observedHistory
  evaluations : ∀ k snapshot, state.snapshots[k]? = some snapshot →
    snapshot.invariantEvaluations = scenario.invariants.map (evaluation texts snapshot.observedState
      snapshot.atSeconds ((state.snapshots.take (k + 1)).map observationOf) [])

theorem evaluations_takeSnapshot (state : RunState) (atSeconds : Nat) (trigger : Option Nat) :
    (takeSnapshot texts scenario state atSeconds trigger).invariantEvaluations =
      scenario.invariants.map
        (evaluation texts (takeSnapshot texts scenario state atSeconds trigger).observedState
        atSeconds
          (state.observedHistory ++
            [observationOf (takeSnapshot texts scenario state atSeconds trigger)]) []) := by
  have hok : evaluateAll texts scenario.invariants
    (takeSnapshot texts scenario state atSeconds trigger).observedState
      atSeconds
        (some (state.observedHistory ++ [observationOf (takeSnapshot texts scenario state atSeconds trigger)]))
      none = .ok _ := evaluateAll_ok (by simp) (Int.natCast_nonneg atSeconds)
  exact congrArg (fun result => (Except.toOption result).getD []) hok

theorem Recorded.appendSnapshot (h : Recorded texts scenario state) (atSeconds : Nat) (trigger : Option Nat) :
    Recorded texts scenario (appendSnapshot texts scenario state atSeconds trigger) := by
  constructor
  · simp only [Simulator.appendSnapshot, List.map_append, h.history]
    rfl
  · intro k snapshot hsnapshot
    simp only [Simulator.appendSnapshot] at hsnapshot ⊢
    by_cases hlast : k < state.snapshots.length
    · rw [List.getElem?_append_left hlast] at hsnapshot
      rw [List.take_append_of_le_length hlast]
      exact h.evaluations k snapshot hsnapshot
    · rw [List.getElem?_append_right (not_lt.mp hlast)] at hsnapshot
      have hindex : k - state.snapshots.length = 0 := by
        have hbound := (List.getElem?_eq_some_iff.mp hsnapshot).1
        simpa using hbound
      rw [hindex] at hsnapshot
      have hsame : takeSnapshot texts scenario state atSeconds trigger = snapshot := Option.some.inj hsnapshot
      have hall :
        (state.snapshots ++ [takeSnapshot texts scenario state atSeconds trigger]).length ≤ k + 1 := by
        rw [List.length_append, List.length_singleton]
        omega
      rw [List.take_of_length_le hall, List.map_append, h.history, List.map_singleton, ← hsame]
      exact evaluations_takeSnapshot state atSeconds trigger

theorem Recorded.step (h : Recorded texts scenario state)
    (hstep : step texts failures scenario state = .inl next) :
    Recorded texts scenario next := by
  obtain ⟨item, rest, world, -, -, -, rfl⟩ := step_eq_inl hstep
  have hhappened : Recorded texts scenario (turned state item rest world) := ⟨h.history, h.evaluations⟩
  have happended := hhappened.appendSnapshot item.atSeconds (some state.sequence)
  exact ⟨happended.history, happended.evaluations⟩

theorem Reached.recorded (h : Reached texts failures scenario state) : Recorded texts scenario state := by
  induction h with
  | start => exact Recorded.appendSnapshot ⟨rfl, fun _ _ hnone => by simp at hnone⟩ 0 none
  | next h hstep ih => exact ih.step hstep

end Runs

section Verifier

variable {texts : ValueTexts} {failures : FailureTexts} {scenario : ScenarioInstance} {state : RunState}

def Happens (scenario : ScenarioInstance) (state : RunState) (item : QueueItem) (world : World) : Prop :=
  state.queue.head? = some item ∧ item.atSeconds ≤ scenario.maxTimeSeconds ∧
    applyMutation state.world item.scheduled.mutation = .ok world

/-- Each evaluation is the one that `InvariantEngine` makes with the relationships, and in the next
turn each rule fires if it is not held back and its conditions are true with the relationships. -/
structure AgreesWithVerifier (texts : ValueTexts) (scenario : ScenarioInstance) (state : RunState) : Prop where
  evaluations : ∀ k snapshot, state.snapshots[k]? = some snapshot →
    evaluateAll texts scenario.invariants snapshot.observedState snapshot.atSeconds
      (some ((state.snapshots.take (k + 1)).map observationOf)) (some scenario.relationships) =
        .ok snapshot.invariantEvaluations
  rules : ∀ item world, Happens scenario state item world → ∀ rule ∈ scenario.transitionRules, ∀ firedRules,
    fires texts world firedRules rule =
      (!(rule.fireOnce && rule.ruleId ∈ firedRules) && holds texts world scenario.relationships rule)

/-- No count of an invariant finds a related entity among those observed so far, and in the next
turn no count of a condition finds one. -/
structure CountsFindNone (scenario : ScenarioInstance) (state : RunState) : Prop where
  invariants : ∀ snapshot ∈ state.snapshots, ∀ invariant ∈ scenario.invariants,
    ∀ part ∈ parts invariant.predicate, FindsNone snapshot.observedState scenario.relationships part
  conditions : ∀ item world, Happens scenario state item world → ∀ rule ∈ scenario.transitionRules,
    ∀ condition ∈ rule.conditions, ∀ part ∈ parts condition, FindsNone world scenario.relationships part

end Verifier

section Example

def serviceReadyEntity : InvariantDefinition where
  invariantId := "pod-ready"
  title := "The pod is ready"
  family := .readiness
  subjectId := "pod"
  predicate := .fieldEquals "pod" "observed_state.ready" (.bool true)

def podChecked : ScenarioInstance := { podScenario with invariants := [serviceReadyEntity] }

theorem serviceId_ne : "service" ≠ "" := by decide

def readyPodFields : List (String × Json) := [("ready", .bool true)]

theorem readyPodFields_nodup : (readyPodFields.map Prod.fst).Nodup := by decide

theorem wellFormed_readyPod : (Json.dict readyPodFields).WellFormed := by
  simp [readyPodFields, Json.WellFormed, Json.WellFormedEntries]

def selecting : ScenarioInstance where
  scenarioId := "scenario"
  familyId := "family"
  entities := [plainEntity "service" serviceId_ne, { plainEntity "pod" podId_ne with
    observedState := ⟨readyPodFields, readyPodFields_nodup⟩, observedState_wellFormed := wellFormed_readyPod }]
  relationships := podSelected
  invariants := [{
    invariantId := "service-ready"
    title := "A pod is ready"
    family := .readiness
    subjectId := "service"
    predicate := hasReadyPod }]
  disturbance := ⟨"disturbance", []⟩
  observationProfile := { profileId := "full" }

def statusesOf (evaluations : List InvariantEvaluation) : List HealthStatus :=
  evaluations.map InvariantEvaluation.status

end Example

end KubeOps.Simulator
