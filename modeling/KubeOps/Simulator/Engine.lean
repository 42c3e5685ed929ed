import KubeOps.Simulator.World

/-! The simulation: an event loop over scheduled mutations, with what is observed of the world
after each event and the rules that each event makes fire. -/
namespace KubeOps.Simulator

open KubeOps.Foundation KubeOps.Models KubeOps.Discovery KubeOps.Invariants

section Models

structure ObservationProfile where
  profileId : String
  hiddenEntityIds : List String := []
  hiddenPaths : Dict String (List String) := ∅
  lagSeconds : Dict String Int := ∅
  contradictoryOverrides : Dict String (Dict String Json) := ∅

structure Observation where
  observationId : String
  entityId : String
  observedAt : Int
  state : Value
  authority : String
  freshnessSeconds : Int
  profileId : String

structure DisturbanceDefinition where
  disturbanceId : String
  mutations : List ScheduledMutation

structure ScenarioInstance where
  scenarioId : String
  familyId : String
  entities : List EntityDocument
  relationships : List Relationship := []
  invariants : List InvariantDefinition := []
  transitionRules : List TransitionRule := []
  disturbance : DisturbanceDefinition
  observationProfile : ObservationProfile
  maxTimeSeconds : Nat := 20

inductive EventDetails where
  | mutation (mutation : StateMutation)
  | exception (failure : MutationFailure)

structure TimelineEvent where
  sequence : Nat
  atSeconds : Nat
  eventType : String
  title : String
  entityId : Option String := none
  ruleId : Option String := none
  mutationId : Option String := none
  details : EventDetails

structure WorldSnapshot where
  sequence : Nat
  atSeconds : Nat
  triggerEventSequence : Option Nat
  truthState : World
  observedState : World
  invariantEvaluations : List InvariantEvaluation

inductive RunStatus where
  | running | completed | failed
deriving DecidableEq, Repr

structure FinalSummary where
  simulationTimeSeconds : Nat
  eventCount : Nat
  snapshotCount : Nat
  unhealthyInvariants : List String
  unknownInvariants : List String
  healthyInvariantCount : Nat

structure SimulationRun where
  scenarioId : String
  familyId : String
  status : RunStatus
  timeline : List TimelineEvent
  snapshots : List WorldSnapshot
  observations : List Observation
  finalSummary : Option FinalSummary

/-- `ScenarioInstance.validate_references` -/
def ScenarioInstance.validateReferences (scenario : ScenarioInstance) : Except PyError Unit := do
  let entityIds := scenario.entities.map fun entity => entity.entityId
  if entityIds.dedup.length ≠ scenario.entities.length then throw (.valueError "entity ids must be unique")
  scenario.relationships.forM fun relationship => do
    if relationship.sourceId ∉ entityIds then
      throw (.valueError s!"unknown relationship source {relationship.sourceId}")
    if relationship.targetId ∉ entityIds then
      throw (.valueError s!"unknown relationship target {relationship.targetId}")
  scenario.invariants.forM fun invariant => do
    if invariant.subjectId ∉ entityIds then
      throw (.valueError s!"unknown invariant subject {invariant.subjectId}")

end Models

section Projection

/-- `_state_at_or_before`; there is always a first state. -/
def stateAtOrBefore (history : History) (targetTime : Int) : Int × World :=
  ((history.takeWhile fun candidate => candidate.1 ≤ targetTime).getLast?.or history.head?).getD (0, ∅)

def disguise (profile : ObservationProfile) (entityId : String) (state : Value) : Value :=
  let hidden := ((profile.hiddenPaths.get? entityId).getD []).foldl deleteIn state
  ((profile.contradictoryOverrides.get? entityId).getD ∅).entries.foldl
    (fun state override => setIn state override.1 (valueOfJson override.2)) hidden

/-- One turn of the loop over the true states. -/
def projectEntity (history : History) (currentTime : Int) (profile : ObservationProfile) (entityId : String) :
    Option Observation :=
  if entityId ∈ profile.hiddenEntityIds then none
  else
    let lag := (profile.lagSeconds.get? entityId).getD 0
    let source := stateAtOrBefore history (currentTime - lag)
    (source.2.get? entityId).map fun state => {
      observationId := s!"obs-{currentTime}-{entityId}"
      entityId
      observedAt := currentTime
      state := disguise profile entityId state
      authority := if lag = 0 then "simulated_authoritative" else "simulated_stale"
      freshnessSeconds := max 0 (currentTime - source.1)
      profileId := profile.profileId }

/-- `ObservationProjector.project`: the observations, from which the observed states are read. -/
def project (history : History) (currentTime : Int) (profile : ObservationProfile) : List Observation :=
  ((history.getLast?.map Prod.snd).getD ∅).keys.filterMap (projectEntity history currentTime profile)

def observedStates (observations : List Observation) : World :=
  Dict.ofList (observations.map fun observation => (observation.entityId, observation.state))

end Projection

section Queue

structure QueueItem where
  atSeconds : Nat
  order : Nat
  source : String
  ruleId : Option String
  scheduled : ScheduledMutation

/-- The order of the tuples in the heap, whose second parts differ. -/
def QueueItem.le (one two : QueueItem) : Prop :=
  one.atSeconds < two.atSeconds ∨ one.atSeconds = two.atSeconds ∧ one.order ≤ two.order

instance (one two : QueueItem) : Decidable (one.le two) := by
  unfold QueueItem.le
  infer_instance

/-- `heapq.heappush`, where the queue is kept in order. -/
def push (queue : List QueueItem) (item : QueueItem) : List QueueItem := queue.orderedInsert QueueItem.le item

end Queue

section Rules

structure Scheduling where
  generated : List QueueItem := []
  firedRules : List String
  queueOrder : Nat

variable (texts : ValueTexts)

def holds (world : World) (relationships : List Relationship) (rule : TransitionRule) : Bool :=
  rule.conditions.all fun condition => truth texts world relationships condition = some true

/-- Whether the rule is not held back and its conditions are true. -/
def fires (world : World) (firedRules : List String) (rule : TransitionRule) : Bool :=
  !(rule.fireOnce && rule.ruleId ∈ firedRules) && holds texts world [] rule

def effectItems (rule : TransitionRule) (atSeconds : Nat) : Nat → Nat → List StateMutation → List QueueItem
  | _, _, [] => []
  | index, order, effect :: effects =>
    let marker := if rule.fireOnce then "rule-once" else "rule"
    { atSeconds := atSeconds + rule.delaySeconds
      order
      source := "rule"
      ruleId := some rule.ruleId
      scheduled := {
        mutationId := s!"{marker}:{rule.ruleId}:{atSeconds}:{index}"
        atSeconds := atSeconds + rule.delaySeconds
        description := s!"{rule.title}: effect {index + 1}"
        mutation := effect } } :: effectItems rule atSeconds (index + 1) (order + 1) effects

/-- One turn of the loop over the rules. -/
def scheduleRule (world : World) (atSeconds : Nat) (state : Scheduling) (rule : TransitionRule) : Scheduling :=
  if fires texts world state.firedRules rule then
    { generated := state.generated ++ effectItems rule atSeconds 0 state.queueOrder rule.effects
      firedRules := if rule.fireOnce then rule.ruleId :: state.firedRules else state.firedRules
      queueOrder := state.queueOrder + rule.effects.length }
  else state

/-- `_schedule_rules` -/
def scheduleRules (rules : List TransitionRule) (world : World) (atSeconds : Nat) (firedRules : List String)
    (queueOrder : Nat) : Scheduling :=
  rules.foldl (scheduleRule texts world atSeconds) { firedRules, queueOrder }

end Rules

section Loop

/-- The locals of `run`. -/
structure RunState where
  world : World
  queue : List QueueItem
  queueOrder : Nat
  sequence : Nat
  timeline : List TimelineEvent
  snapshots : List WorldSnapshot
  observations : List Observation
  worldHistory : History
  observedHistory : History
  firedRules : List String

variable (texts : ValueTexts) (failures : FailureTexts) (scenario : ScenarioInstance)

def emittedNow (state : RunState) (atSeconds : Nat) : List Observation :=
  project state.worldHistory atSeconds scenario.observationProfile

def takeSnapshot (state : RunState) (atSeconds : Nat) (trigger : Option Nat) : WorldSnapshot :=
  let observed := observedStates (emittedNow scenario state atSeconds)
  { sequence := state.snapshots.length
    atSeconds
    triggerEventSequence := trigger
    truthState := state.world
    observedState := observed
    invariantEvaluations := ((evaluateAll texts scenario.invariants observed atSeconds
      (some (state.observedHistory ++ [((atSeconds : Int), observed)])) none).toOption).getD [] }

/-- `_append_snapshot`; no time is negative, so that the evaluation does not fail. -/
def appendSnapshot (state : RunState) (atSeconds : Nat) (trigger : Option Nat) : RunState :=
  { state with
    observations := state.observations ++ emittedNow scenario state atSeconds
    observedHistory := state.observedHistory ++
      [((atSeconds : Int), observedStates (emittedNow scenario state atSeconds))]
    snapshots := state.snapshots ++ [takeSnapshot texts scenario state atSeconds trigger] }

def disturbanceItems : Nat → List ScheduledMutation → List QueueItem
  | _, [] => []
  | order, mutation :: mutations =>
    ⟨mutation.atSeconds, order, "disturbance", none, mutation⟩ :: disturbanceItems (order + 1) mutations

def initialState : RunState :=
  let world := fromEntities scenario.entities
  appendSnapshot texts scenario {
    world
    queue := (disturbanceItems 0 scenario.disturbance.mutations).foldl push []
    queueOrder := scenario.disturbance.mutations.length
    sequence := 0
    timeline := []
    snapshots := []
    observations := []
    worldHistory := [(0, world)]
    observedHistory := []
    firedRules := [] } 0 none

def mutationEvent (sequence : Nat) (item : QueueItem) : TimelineEvent where
  sequence
  atSeconds := item.atSeconds
  eventType := s!"mutation.{item.source}"
  title := item.scheduled.description
  entityId := some item.scheduled.mutation.entityId
  ruleId := item.ruleId
  mutationId := some item.scheduled.mutationId
  details := .mutation item.scheduled.mutation

def failureEvent (sequence atSeconds : Nat) (failure : MutationFailure) : TimelineEvent where
  sequence
  atSeconds
  eventType := "simulation.failed"
  title := failure.title failures
  details := .exception failure

/-- The event has happened. -/
def turned (state : RunState) (item : QueueItem) (rest : List QueueItem) (world : World) : RunState :=
  { state with
    world
    queue := rest
    sequence := state.sequence + 1
    timeline := state.timeline ++ [mutationEvent state.sequence item]
    worldHistory := state.worldHistory ++ [((item.atSeconds : Int), world)] }

/-- The event has happened and been observed, and the rules are looked at. -/
def afterEvent (state : RunState) (item : QueueItem) (rest : List QueueItem) (world : World) : RunState :=
  let happened := appendSnapshot texts scenario (turned state item rest world) item.atSeconds
    (some state.sequence)
  let scheduling := scheduleRules texts scenario.transitionRules world item.atSeconds happened.firedRules
    happened.queueOrder
  { happened with
    queue := scheduling.generated.foldl push happened.queue
    queueOrder := scheduling.queueOrder
    firedRules := scheduling.firedRules }

def step (state : RunState) : RunState ⊕ (RunStatus × RunState) :=
  match state.queue with
  | [] => .inr (.completed, state)
  | item :: rest =>
    if scenario.maxTimeSeconds < item.atSeconds then .inr (.completed, { state with queue := rest })
    else match applyMutation state.world item.scheduled.mutation with
      | .ok world => .inl (afterEvent texts scenario state item rest world)
      | .error failure => .inr (.failed, { state with
          queue := rest
          sequence := state.sequence + 2
          timeline := state.timeline ++ [failureEvent failures (state.sequence + 1)
            ((state.worldHistory.getLast?.map Prod.fst).getD 0).toNat failure] })

/-- The loop for some turns; no result says that it has not come to its end. -/
def loop : Nat → RunState → Option (RunStatus × RunState)
  | 0, _ => none
  | fuel + 1, state =>
    match step texts failures scenario state with
    | .inl next => loop fuel next
    | .inr result => some result

def summaryOf (state : RunState) : Option FinalSummary :=
  state.snapshots.getLast?.map fun final => {
    simulationTimeSeconds := final.atSeconds
    eventCount := state.timeline.length
    snapshotCount := state.snapshots.length
    unhealthyInvariants := (final.invariantEvaluations.filter fun item => item.status = .unhealthy).map
      InvariantEvaluation.invariantId
    unknownInvariants := (final.invariantEvaluations.filter fun item => item.status = .unknown).map
      InvariantEvaluation.invariantId
    healthyInvariantCount := (final.invariantEvaluations.filter fun item => item.status = .healthy).length }

def finished (result : RunStatus × RunState) : SimulationRun where
  scenarioId := scenario.scenarioId
  familyId := scenario.familyId
  status := result.1
  timeline := result.2.timeline
  snapshots := result.2.snapshots
  observations := result.2.observations
  finalSummary := summaryOf result.2

/-- `SimulationEngine.run`, in at most so many turns of its loop. -/
def run (fuel : Nat) : Option SimulationRun :=
  (loop texts failures scenario fuel (initialState texts scenario)).map (finished scenario)

end Loop

end KubeOps.Simulator
