import KubeOps.Invariants.Monotone
import KubeOps.Simulator.Engine

/-! What happens in the simulated world does not depend on what is observed of it. -/
namespace KubeOps.Simulator

open KubeOps.Foundation KubeOps.Models KubeOps.Discovery KubeOps.Invariants

section Relation

def truthOf (snapshot : WorldSnapshot) : Nat × World := (snapshot.atSeconds, snapshot.truthState)

structure SameTruth (one two : RunState) : Prop where
  world : one.world = two.world
  queue : one.queue = two.queue
  queueOrder : one.queueOrder = two.queueOrder
  sequence : one.sequence = two.sequence
  timeline : one.timeline = two.timeline
  worldHistory : one.worldHistory = two.worldHistory
  firedRules : one.firedRules = two.firedRules
  truths : one.snapshots.map truthOf = two.snapshots.map truthOf

variable {texts : ValueTexts} {failures : FailureTexts} {scenario other : ScenarioInstance} {one two : RunState}

theorem SameTruth.appendSnapshot (h : SameTruth one two) (atSeconds : Nat) (trigger trigger' : Option Nat) :
    SameTruth (appendSnapshot texts scenario one atSeconds trigger)
      (appendSnapshot texts other two atSeconds trigger') where
  world := h.world
  queue := h.queue
  queueOrder := h.queueOrder
  sequence := h.sequence
  timeline := h.timeline
  worldHistory := h.worldHistory
  firedRules := h.firedRules
  truths := by
    simp only [Simulator.appendSnapshot, takeSnapshot, List.map_append, List.map_cons, List.map_nil,
      truthOf, h.world]
    exact congrArg (· ++ _) h.truths

/-- The scenarios agree in everything but the observation profile and the invariants. -/
structure SameWorkings (scenario other : ScenarioInstance) : Prop where
  entities : scenario.entities = other.entities
  transitionRules : scenario.transitionRules = other.transitionRules
  disturbance : scenario.disturbance = other.disturbance
  maxTimeSeconds : scenario.maxTimeSeconds = other.maxTimeSeconds

theorem initialState_sameTruth (h : SameWorkings scenario other) :
    SameTruth (initialState texts scenario) (initialState texts other) := by
  apply SameTruth.appendSnapshot
  constructor <;> simp only [h.entities, h.disturbance]

theorem afterEvent_sameTruth (hscenario : SameWorkings scenario other) (h : SameTruth one two)
    (item : QueueItem)
    (rest : List QueueItem) (world : World) :
    SameTruth (afterEvent texts scenario one item rest world) (afterEvent texts other two item rest world) := by
  have hturned : SameTruth (turned one item rest world) (turned two item rest world) :=
    ⟨rfl, rfl, h.queueOrder, congrArg (· + 1) h.sequence, by simp only [turned, h.timeline, h.sequence],
      by simp only [turned, h.worldHistory], h.firedRules, h.truths⟩
  have hhappened : SameTruth
      (appendSnapshot texts scenario (turned one item rest world) item.atSeconds (some one.sequence))
      (appendSnapshot texts other (turned two item rest world) item.atSeconds (some two.sequence)) :=
    hturned.appendSnapshot item.atSeconds (some one.sequence) (some two.sequence)
  unfold afterEvent
  constructor
  · exact hhappened.world
  · simp only [hscenario.transitionRules, hhappened.firedRules, hhappened.queueOrder, hhappened.queue]
  · simp only [hscenario.transitionRules, hhappened.firedRules, hhappened.queueOrder]
  · exact hhappened.sequence
  · exact hhappened.timeline
  · exact hhappened.worldHistory
  · simp only [hscenario.transitionRules, hhappened.firedRules, hhappened.queueOrder]
  · exact hhappened.truths

inductive SameTurn : RunState ⊕ (RunStatus × RunState) → RunState ⊕ (RunStatus × RunState) → Prop where
  | goesOn {one two : RunState} (h : SameTruth one two) : SameTurn (.inl one) (.inl two)
  | ends {status : RunStatus} {one two : RunState} (h : SameTruth one two) :
    SameTurn (.inr (status, one)) (.inr (status, two))

theorem step_sameTruth (hscenario : SameWorkings scenario other) (h : SameTruth one two) :
    SameTurn (step texts failures scenario one) (step texts failures other two) := by
  unfold step
  rw [← h.queue, ← h.world, ← hscenario.maxTimeSeconds]
  cases hqueue : one.queue with
  | nil => exact .ends h
  | cons item rest =>
    dsimp only
    split
    · exact .ends { h with world := rfl, queue := rfl }
    · cases applyMutation one.world item.scheduled.mutation with
      | ok world => exact .goesOn (afterEvent_sameTruth hscenario h item rest world)
      | error failure =>
        apply SameTurn.ends
        exact { h with
          world := rfl
          queue := rfl
          sequence := congrArg (· + 2) h.sequence
          timeline := by simp only [h.timeline, h.sequence, h.worldHistory] }

theorem loop_sameTruth (hscenario : SameWorkings scenario other) {fuel fuel' : Nat}
    {result result' : RunStatus × RunState}
    (h : SameTruth one two) (hone : loop texts failures scenario fuel one = some result)
    (htwo : loop texts failures other fuel' two = some result') :
    result.1 = result'.1 ∧ SameTruth result.2 result'.2 := by
  induction fuel generalizing one two fuel' with
  | zero => cases hone
  | succ fuel ih =>
    cases fuel' with
    | zero => cases htwo
    | succ fuel' =>
      rw [loop] at hone htwo
      have hturn : SameTurn (step texts failures scenario one) (step texts failures other two) :=
        step_sameTruth hscenario h
      cases hstep : step texts failures scenario one with
      | inl next =>
        rw [hstep] at hone hturn
        cases hother : step texts failures other two with
        | inl next' =>
          rw [hother] at htwo hturn
          cases hturn with
          | goesOn hnext => exact ih hnext hone htwo
        | inr result' =>
          rw [hother] at hturn
          cases hturn
      | inr found =>
        rw [hstep] at hone hturn
        cases hother : step texts failures other two with
        | inl next' =>
          rw [hother] at hturn
          cases hturn
        | inr found' =>
          rw [hother] at htwo hturn
          obtain rfl := Option.some.inj hone
          obtain rfl := Option.some.inj htwo
          cases hturn with
          | ends hend => exact ⟨rfl, hend⟩

end Relation

section Runs

variable {texts : ValueTexts} {failures : FailureTexts} {scenario other : ScenarioInstance}
variable {fuel fuel' : Nat} {one two : SimulationRun}

/-- Scenarios that differ in their observation profiles and invariants only have the same timeline
and go through the same true states. -/
theorem run_truth_independent (hscenario : other =
      { scenario with observationProfile := other.observationProfile, invariants := other.invariants })
    (hone : run texts failures scenario fuel = some one) (htwo : run texts failures other fuel' = some two) :
    one.timeline = two.timeline ∧ one.snapshots.map truthOf = two.snapshots.map truthOf := by
  have hsame : SameWorkings scenario other := by
    rw [hscenario]
    exact ⟨rfl, rfl, rfl, rfl⟩
  obtain ⟨result, hresult, rfl⟩ := Option.map_eq_some_iff.mp hone
  obtain ⟨result', hresult', rfl⟩ := Option.map_eq_some_iff.mp htwo
  have hend := (loop_sameTruth hsame (initialState_sameTruth hsame) hresult hresult').2
  exact ⟨hend.timeline, hend.truths⟩

end Runs

section Example

def plainFailures : FailureTexts := ⟨fun message => message, fun _ => ""⟩

def plainEntity (entityId : String) (hid : entityId ≠ "") : EntityDocument where
  entityId
  entityId_ne := hid
  entityType := "kubernetes.pod"
  name := "web"
  plane := .workload
  lineage_nodup := List.nodup_nil
  capabilities_nodup := List.nodup_nil
  desiredState_wellFormed := Json.wellFormed_empty
  observedState_wellFormed := Json.wellFormed_empty
  extensions_wellFormed := Json.wellFormed_empty

theorem podId_ne : "pod" ≠ "" := by decide

def setReady (entityId : String) (ready : Bool) : StateMutation where
  entityId
  path := some "observed_state.ready"
  value := .bool ready

def podScenario : ScenarioInstance where
  scenarioId := "scenario"
  familyId := "family"
  entities := [plainEntity "pod" podId_ne]
  disturbance := ⟨"disturbance", [⟨"ready", 1, "pod is ready", setReady "pod" true⟩]⟩
  observationProfile := { profileId := "full" }

def podHidden : ScenarioInstance :=
  { podScenario with observationProfile := { profileId := "hidden", hiddenEntityIds := ["pod"] } }

theorem run_truth_podHidden : ∃ one two,
    run plainTexts plainFailures podScenario 2 = some one ∧
      run plainTexts plainFailures podHidden 2 = some two ∧
    one.timeline = two.timeline ∧ one.snapshots.map truthOf = two.snapshots.map truthOf := by
  have hone : (run plainTexts plainFailures podScenario 2).isSome = true := by decide
  have htwo : (run plainTexts plainFailures podHidden 2).isSome = true := by decide
  obtain ⟨one, hone⟩ := Option.isSome_iff_exists.mp hone
  obtain ⟨two, htwo⟩ := Option.isSome_iff_exists.mp htwo
  exact ⟨one, two, hone, htwo, run_truth_independent rfl hone htwo⟩

end Example

end KubeOps.Simulator
