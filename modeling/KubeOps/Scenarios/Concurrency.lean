import KubeOps.Scenarios.Hosting

/-! Several scenarios at once: as long as the events of the other components leave a component alone, its
entities go through the states that they go through when its scenario is simulated by itself. -/
namespace KubeOps.Scenarios

open KubeOps.Foundation KubeOps.Models KubeOps.Discovery KubeOps.Invariants KubeOps.Simulator

section Simulation

variable {texts : ValueTexts} {failures : FailureTexts} {whole : ScenarioInstance} {item : CompiledComponent}
  {aliases : List String} {together alone : RunState} {queued first : QueueItem} {rest others : List QueueItem}
  {world next : World}

/-- A run of the composition beside one of the component: the component's entities are in the same states, what
it has in the queue is due in the same order, and so were all its states so far. -/
structure Alongside (item : CompiledComponent) (together alone : RunState) : Prop where
  world : item.Stands together.world alone.world
  queue : (together.queue.filter (owns item.component.aliasName)).map dueOf = alone.queue.map item.dueIn
  fired : ∀ ruleId, prefixed item.component.aliasName ruleId ∈ together.firedRules ↔ ruleId ∈ alone.firedRules
  truths : ∀ atSeconds : Nat, item.Stands
    (truthAt together.worldHistory (item.offset + atSeconds : Nat)).2 (truthAt alone.worldHistory atSeconds).2
  latest : ∃ (before : History) (atSeconds : Nat), alone.worldHistory =
    before ++ [((atSeconds : Int), alone.world)] ∧
    (atSeconds = 0 ∨ ∀ queued ∈ together.queue, item.offset + atSeconds ≤ queued.atSeconds)
  mutations : ∀ queued ∈ alone.queue, queued.scheduled.mutation ∈ item.mutations

theorem alongside_start (h : Hosts whole item aliases) (hself : item.SelfContained aliases) :
    Alongside item (initialState texts whole) (initialState texts item.scenario) where
  world := stands_start h hself
  queue := queue_start h hself
  fired := fun _ => iff_of_false List.not_mem_nil List.not_mem_nil
  truths := by
    intro atSeconds
    have hnow : ∀ (world : World) (atSeconds : Nat), truthAt [(0, world)] atSeconds = (0, world) :=
      fun world atSeconds => (truthAt_concat [] (0, world) atSeconds).trans (if_pos (Int.natCast_nonneg _))
    show Stands _ _ _ (truthAt [(0, _)] _).2 (truthAt [(0, _)] _).2
    rw [hnow, hnow]
    exact stands_start h hself
  latest := ⟨[], 0, rfl, .inl rfl⟩
  mutations := by
    intro queued hqueued
    have hmem := (mem_foldl_push.mp hqueued).resolve_right List.not_mem_nil
    exact List.mem_append_left _ (List.mem_map_of_mem (mem_disturbanceItems hmem))

theorem matched_scheduleRules (texts : ValueTexts) (atSeconds order order' : Nat) {fired fired' : List String}
    (h : Hosts whole item aliases) (hself : item.SelfContained aliases)
    (hstands : item.Stands world next)
    (hfired : ∀ ruleId, prefixed item.component.aliasName ruleId ∈ fired ↔ ruleId ∈ fired') :
    Matched item (scheduleRules texts whole.transitionRules world (item.offset + atSeconds) fired order)
      (scheduleRules texts item.scenario.transitionRules next atSeconds fired' order') := by
  obtain ⟨front, back, hrules, hothers⟩ := h.rules
  have hquiet : ∀ (others : List TransitionRule) (start : Scheduling), others ⊆ front ++ back →
      Quiet item.component.aliasName start
        (others.foldl (scheduleRule texts world (item.offset + atSeconds)) start) :=
    fun others start hsubset => quiet_foldl start fun rule hrule => .inl (hothers rule (hsubset hrule))
  have hstart : Matched item { firedRules := fired, queueOrder := order }
      { firedRules := fired', queueOrder := order' } := ⟨rfl, hfired⟩
  unfold scheduleRules
  rw [hrules, List.foldl_append, List.foldl_append]
  have hfront := hstart.quiet (hquiet front _ (List.subset_append_left front back))
  have hmiddle := hfront.foldl texts atSeconds hself
    (fun _ hrule => hrule) hstands
  exact hmiddle.quiet (hquiet back _ (List.subset_append_right front back))

theorem quiet_scheduleRules (atSeconds order : Nat) {fired : List String} (h : Hosts whole item aliases)
    (hquiet : ∀ rule ∈ item.scenario.transitionRules, fires texts world fired
      (prefixRule item.component item.entityMap rule) = false) :
    Quiet item.component.aliasName { firedRules := fired, queueOrder := order }
      (scheduleRules texts whole.transitionRules world atSeconds fired order) := by
  obtain ⟨front, back, hrules, hothers⟩ := h.rules
  apply quiet_foldl
  intro rule hrule
  rw [hrules, List.append_assoc, List.mem_append, List.mem_append] at hrule
  rcases hrule with hfront | hown | hback
  · exact .inl (hothers rule (List.mem_append_left _ hfront))
  · obtain ⟨original, horiginal, rfl⟩ := List.mem_map.mp hown
    exact .inr (hquiet original horiginal)
  · exact .inl (hothers rule (List.mem_append_right _ hback))

theorem queue_afterEvent {scenario : ScenarioInstance} {state : RunState} (world : World)
    (chosen : QueueItem → Bool) {due : QueueItem → Nat × StateMutation}
    (hdue : ∀ one two, (due one).1 < (due two).1 ↔ one.atSeconds < two.atSeconds)
    (hreached : Reached texts failures scenario state) (hqueue : state.queue = queued :: rest) :
    ((afterEvent texts scenario state queued rest world).queue.filter chosen).map due =
      (((scheduleRules texts scenario.transitionRules world queued.atSeconds state.firedRules
        state.queueOrder).generated.filter chosen).map due).foldl (insertAfter Prod.fst)
          ((rest.filter chosen).map due) := by
  have hnumbered := numberedIn_scheduleRules texts scenario.transitionRules world queued.atSeconds
    state.firedRules state.queueOrder
  have horder := (inOrder_of_reached hreached).queue
  rw [hqueue] at horder
  apply map_filter_foldl_push chosen hdue (List.pairwise_cons.mp horder).2 hnumbered.rising
  intro other hother item hitem
  have hbelow := numbersBelow_of_reached hreached other (hqueue ▸ List.mem_cons_of_mem _ hother)
  exact hbelow.trans_le (hnumbered.within item hitem).1

theorem Alongside.own_step (h : Alongside item together alone) (hhosts : Hosts whole item aliases)
    (hself : item.SelfContained aliases)
    (htogether : Reached texts failures whole together) (halone : Reached texts failures item.scenario alone)
    (hqueue : together.queue = queued :: rest) (hfirst : alone.queue = first :: others)
    (hdue : dueOf queued = item.dueIn first)
    (hrest : (rest.filter (owns item.component.aliasName)).map dueOf = others.map item.dueIn)
    (hstands : item.Stands world next)
    (hnext : Reached texts failures whole (afterEvent texts whole together queued rest world)) :
    Alongside item (afterEvent texts whole together queued rest world)
      (afterEvent texts item.scenario alone first others next) := by
  have htime : queued.atSeconds = item.offset + first.atSeconds := congrArg Prod.fst hdue
  have hmatched := matched_scheduleRules texts first.atSeconds together.queueOrder alone.queueOrder hhosts
    hself hstands h.fired
  rw [← htime] at hmatched
  constructor
  · exact hstands
  · rw [queue_afterEvent world _ dueOf_lt htogether hqueue, hmatched.generated, hrest]
    have hown := queue_afterEvent next (fun _ => true) (dueIn_lt item) halone hfirst
    simp only [List.filter_true] at hown
    exact hown.symm
  · exact hmatched.fired
  · intro atSeconds
    show Stands _ _ _ (truthAt (together.worldHistory ++ [_]) _).2 (truthAt (alone.worldHistory ++ [_]) _).2
    rw [truthAt_concat, truthAt_concat]
    by_cases hle : first.atSeconds ≤ atSeconds
    · rw [if_pos (by dsimp only; omega), if_pos (by dsimp only; omega)]
      exact hstands
    · rw [if_neg (by dsimp only; omega), if_neg (by dsimp only; omega)]
      exact h.truths atSeconds
  · refine ⟨alone.worldHistory, first.atSeconds, rfl, .inr ?_⟩
    intro other hother
    rw [← htime]
    exact le_of_mem_afterEvent hnext hother
  · intro other hother
    cases mem_foldl_push.mp hother with
    | inl hnew =>
      cases mem_generated hnew with
      | inl hnone => exact absurd hnone List.not_mem_nil
      | inr hmade =>
        obtain ⟨rule, hrule, heffect⟩ := hmade
        exact effect_mem_mutations hrule heffect
    | inr hold => exact h.mutations other (hfirst ▸ List.mem_cons_of_mem _ hold)

theorem Alongside.other_step (h : Alongside item together alone) (hhosts : Hosts whole item aliases)
    (htogether : Reached texts failures whole together) (hqueue : together.queue = queued :: rest)
    (hother : owns item.component.aliasName queued = false)
    (hworld : AgreeOn (item.footprint.map item.places.ids) world together.world)
    (hquiet : ∀ rule ∈ item.scenario.transitionRules, fires texts world together.firedRules
      (prefixRule item.component item.entityMap rule) = false)
    (hnext : Reached texts failures whole (afterEvent texts whole together queued rest world)) :
    Alongside item (afterEvent texts whole together queued rest world) alone := by
  have hscheduled := quiet_scheduleRules queued.atSeconds together.queueOrder hhosts hquiet
  have hstands : item.Stands world alone.world :=
    fun entityId hid => (hworld entityId hid).trans (h.world entityId hid)
  obtain ⟨before, since, hlatest, hsince⟩ := h.latest
  have hearlier : since = 0 ∨ item.offset + since ≤ queued.atSeconds :=
    hsince.imp_right fun hwaits => hwaits queued (hqueue ▸ List.mem_cons_self)
  constructor
  · exact hstands
  · have hkept := h.queue
    rw [hqueue, List.filter_cons, if_neg (by rw [hother]; exact Bool.false_ne_true)] at hkept
    rw [queue_afterEvent world _ dueOf_lt htogether hqueue, hscheduled.generated, hkept]
    rfl
  · exact fun ruleId => (hscheduled.fired _ (behind_prefixed _ _)).trans (h.fired ruleId)
  · intro atSeconds
    show Stands _ _ _ (truthAt (together.worldHistory ++ [_]) _).2 _
    rw [truthAt_concat]
    by_cases hle : queued.atSeconds ≤ item.offset + atSeconds
    · rw [if_pos (by dsimp only; omega), hlatest, truthAt_concat, if_pos (by dsimp only; omega)]
      exact hstands
    · rw [if_neg (by dsimp only; omega)]
      exact h.truths atSeconds
  · refine ⟨before, since, hlatest, hearlier.imp_right ?_⟩
    intro hle other hmem
    exact hle.trans (le_of_mem_afterEvent hnext hmem)
  · exact h.mutations

/-- The next event does not disturb the component: where another component's event comes in its time, the event
changes no entity that the component names and makes none of its rules fire, or fails when nothing of the
component is due any more. -/
structure LeftAlone (texts : ValueTexts) (item : CompiledComponent) (state : RunState) : Prop where
  happens : ∀ {queued rest world}, state.queue = queued :: rest → owns item.component.aliasName queued = false →
    queued.atSeconds ≤ item.offset + item.scenario.maxTimeSeconds →
    applyMutation state.world queued.scheduled.mutation = .ok world →
      (∀ entityId ∈ touched queued.scheduled.mutation, entityId ∉ item.footprint.map item.places.ids) ∧
      ∀ rule ∈ item.scenario.transitionRules, fires texts world state.firedRules
        (prefixRule item.component item.entityMap rule) = false
  fails : ∀ {queued rest failure}, state.queue = queued :: rest → owns item.component.aliasName queued = false →
    queued.atSeconds ≤ item.offset + item.scenario.maxTimeSeconds →
    applyMutation state.world queued.scheduled.mutation = .error failure →
      ∀ later ∈ rest, owns item.component.aliasName later = true →
        item.offset + item.scenario.maxTimeSeconds < later.atSeconds

theorem Alongside.ends (h : Alongside item together alone)
    (hlate : ∀ queued ∈ together.queue, owns item.component.aliasName queued = true →
      item.offset + item.scenario.maxTimeSeconds < queued.atSeconds) :
    ∃ result, step texts failures item.scenario alone = .inr result := by
  apply step_ends
  intro own hown
  have hmem : item.dueIn own ∈ (together.queue.filter (owns item.component.aliasName)).map dueOf := by
    rw [h.queue]
    exact List.mem_map_of_mem hown
  obtain ⟨queued, hqueued, hdue⟩ := List.mem_map.mp hmem
  obtain ⟨hqueue, howns⟩ := List.mem_filter.mp hqueued
  have hafter := hlate queued hqueue howns
  have htime : queued.atSeconds = item.offset + own.atSeconds := congrArg Prod.fst hdue
  omega

/-- The states of the component's entities in the composition are those of its own run, up to its time. -/
def SameTruths (item : CompiledComponent) (together alone : List WorldSnapshot) : Prop :=
  ∀ atSeconds ≤ item.scenario.maxTimeSeconds, item.Stands
    (truthAt (truthsOf together) (item.offset + atSeconds : Nat)).2 (truthAt (truthsOf alone) atSeconds).2

theorem Alongside.first_eq (h : Alongside item together alone) (hqueue : together.queue = queued :: rest)
    (howns : owns item.component.aliasName queued = true) :
    ∃ first others, alone.queue = first :: others ∧ dueOf queued = item.dueIn first ∧
      (rest.filter (owns item.component.aliasName)).map dueOf = others.map item.dueIn := by
  have hdue := h.queue
  rw [hqueue, List.filter_cons, if_pos howns, List.map_cons] at hdue
  obtain ⟨first, others, hfirst, hsame, hothers⟩ := List.map_eq_cons_iff.mp hdue.symm
  exact ⟨first, others, hfirst, hsame.symm, hothers.symm⟩

theorem late_of_head {bound : Nat} (htogether : Reached texts failures whole together)
    (hqueue : together.queue = queued :: rest) (hlate : bound < queued.atSeconds) :
    ∀ other ∈ together.queue, bound < other.atSeconds := by
  have horder := (inOrder_of_reached htogether).queue
  rw [hqueue] at horder ⊢
  rw [List.forall_mem_cons]
  exact ⟨hlate, fun other hother => hlate.trans_le ((List.pairwise_cons.mp horder).1 other hother)⟩

theorem Alongside.step (h : Alongside item together alone) (hhosts : Hosts whole item aliases)
    (hself : item.SelfContained aliases)
    (hleft : LeftAlone texts item together) (htogether : Reached texts failures whole together)
    (halone : Reached texts failures item.scenario alone) (hqueue : together.queue = queued :: rest)
    (htime : queued.atSeconds ≤ item.offset + item.scenario.maxTimeSeconds)
    (happlied : applyMutation together.world queued.scheduled.mutation = .ok world)
    (hnext : Reached texts failures whole (afterEvent texts whole together queued rest world)) :
    Alongside item (afterEvent texts whole together queued rest world) alone ∨
      ∃ next, Simulator.step texts failures item.scenario alone = .inl next ∧
        Alongside item (afterEvent texts whole together queued rest world) next := by
  cases howns : owns item.component.aliasName queued with
  | false =>
    obtain ⟨huntouched, hquiet⟩ := hleft.happens hqueue howns htime happlied
    have hworld := applyMutation_untouched huntouched happlied
    exact .inl (h.other_step hhosts htogether hqueue howns hworld hquiet hnext)
  | true =>
    obtain ⟨first, others, hfirst, hdue, hrest⟩ := h.first_eq hqueue howns
    have hat : queued.atSeconds = item.offset + first.atSeconds := congrArg Prod.fst hdue
    have hmutation : queued.scheduled.mutation = first.scheduled.mutation.renamed item.places :=
      congrArg Prod.snd hdue
    have hown := h.mutations first (hfirst ▸ List.mem_cons_self)
    rw [hmutation] at happlied
    cases applyMutation_stands hself hown h.world with
    | inl hfails =>
      obtain ⟨one, two, hone, -⟩ := hfails
      rw [hone] at happlied
      cases happlied
    | inr hboth =>
      obtain ⟨whole', own', hone, htwo, hstands⟩ := hboth
      obtain rfl := Except.ok.inj (happlied.symm.trans hone)
      exact .inr ⟨_, step_happens hfirst (by omega) htwo,
        h.own_step hhosts hself htogether halone hqueue hfirst hdue hrest hstands hnext⟩

theorem Alongside.ends_of_ends {ended : RunStatus × RunState} (h : Alongside item together alone)
    (hself : item.SelfContained aliases) (hleft : LeftAlone texts item together)
    (htogether : Reached texts failures whole together) (hhosts : Hosts whole item aliases)
    (hended : Simulator.step texts failures whole together = .inr ended) :
    ∃ result, Simulator.step texts failures item.scenario alone = .inr result := by
  cases hqueue : together.queue with
  | nil =>
    apply h.ends
    rw [hqueue]
    exact fun _ hnone => absurd hnone List.not_mem_nil
  | cons queued rest =>
    by_cases htime : queued.atSeconds ≤ item.offset + item.scenario.maxTimeSeconds
    · cases happlied : applyMutation together.world queued.scheduled.mutation with
      | ok world =>
        rw [step_happens hqueue (htime.trans hhosts.time) happlied] at hended
        cases hended
      | error failure =>
        cases howns : owns item.component.aliasName queued with
        | false =>
          apply h.ends
          rw [hqueue, List.forall_mem_cons]
          refine ⟨fun htrue => ?_, hleft.fails hqueue howns htime happlied⟩
          rw [howns] at htrue
          cases htrue
        | true =>
          obtain ⟨first, others, hfirst, hdue, -⟩ := h.first_eq hqueue howns
          have hat : queued.atSeconds = item.offset + first.atSeconds := congrArg Prod.fst hdue
          have hmutation : queued.scheduled.mutation = first.scheduled.mutation.renamed item.places :=
            congrArg Prod.snd hdue
          have hown := h.mutations first (hfirst ▸ List.mem_cons_self)
          rw [hmutation] at happlied
          cases applyMutation_stands hself hown h.world with
          | inl hfails =>
            obtain ⟨one, two, -, htwo⟩ := hfails
            exact step_fails hfirst (by omega) htwo
          | inr hboth =>
            obtain ⟨whole', own', hone, -⟩ := hboth
            rw [hone] at happlied
            cases happlied
    · apply h.ends
      exact fun other hother _ => late_of_head htogether hqueue (not_le.mp htime) other hother

theorem sameTruths_loop {fuel : Nat} {result : RunStatus × RunState} (hhosts : Hosts whole item aliases)
    (hself : item.SelfContained aliases)
    (hleft : ∀ state, Reached texts failures whole state → LeftAlone texts item state)
    (htogether : Reached texts failures whole together) (halone : Reached texts failures item.scenario alone)
    (h : Alongside item together alone) (hloop : loop texts failures whole fuel together = some result) :
    ∃ fuel' result', loop texts failures item.scenario fuel' alone = some result' ∧
      SameTruths item result.2.snapshots result'.2.snapshots := by
  induction fuel generalizing together alone with
  | zero => cases hloop
  | succ fuel ih =>
    cases hstep : step texts failures whole together with
    | inr ended =>
      obtain ⟨result', hown⟩ := h.ends_of_ends hself (hleft together htogether) htogether hhosts hstep
      rw [loop_of_ends hstep] at hloop
      obtain rfl := Option.some.inj hloop
      refine ⟨1, result', loop_of_ends hown 0, ?_⟩
      intro atSeconds _
      rw [snapshots_of_ends hstep, snapshots_of_ends hown, truthsOf_snapshots htogether,
        truthsOf_snapshots halone]
      exact h.truths atSeconds
    | inl next =>
      have hnext := htogether.next hstep
      obtain ⟨queued, rest, world, hqueue, -, happlied, rfl⟩ := step_eq_inl hstep
      by_cases htime : queued.atSeconds ≤ item.offset + item.scenario.maxTimeSeconds
      · rw [loop_of_happens hstep] at hloop
        cases h.step hhosts hself (hleft together htogether) htogether halone hqueue htime
          happlied hnext with
        | inl hkept => exact ih hnext halone hkept hloop
        | inr hboth =>
          obtain ⟨own, hown, hafter⟩ := hboth
          obtain ⟨fuel', result', hrun, hsame⟩ := ih hnext (halone.next hown) hafter hloop
          exact ⟨fuel' + 1, result', (loop_of_happens hown fuel').trans hrun, hsame⟩
      · -- what is still to come is too late for the component
        have hlate := late_of_head htogether hqueue (not_le.mp htime)
        obtain ⟨result', hown⟩ := h.ends fun other hother _ => hlate other hother
        refine ⟨1, result', loop_of_ends hown 0, ?_⟩
        intro atSeconds hle
        rw [truthAt_loop htogether (fun other hother => (Nat.add_le_add_left hle _).trans_lt
          (hlate other hother))
          hloop, snapshots_of_ends hown, truthsOf_snapshots halone]
        exact h.truths atSeconds

end Simulation

section Composition

variable {python : Python} {compile : CompositionComponent → Except PyError ScenarioInstance}
  {spec : ScenarioComposition} {newId : String} {whole : ScenarioInstance} {compiled : List CompiledComponent}
  {item : CompiledComponent} {texts : ValueTexts} {failures : FailureTexts} {fuel : Nat}
  {together : SimulationRun}

/-- At each time up to its own bound the entities of the component are in the composition what they are in the
simulation of its scenario alone. -/
def TruthsAgree (item : CompiledComponent) (together alone : SimulationRun) : Prop :=
  ∀ atSeconds ≤ item.scenario.maxTimeSeconds, ∀ entityId ∈ entityIds item.scenario.entities,
    (truthAt (truthsOf together.snapshots) (item.offset + atSeconds : Nat)).2.get?
        (prefixed item.component.aliasName entityId) =
      ((truthAt (truthsOf alone.snapshots) atSeconds).2.get? entityId).map (renameState item.places)

end Composition

section Example

def startingAt (aliasName : String) (h : isAlias aliasName = true) (startAtSeconds : Nat) :
    CompositionComponent where
  aliasName
  aliasName_valid := h
  familyId := "family"
  startAtSeconds := some startAtSeconds

def twoPods : ScenarioComposition where
  compositionId := "two-pods"
  operator := .concurrent
  components := [startingAt "a" (by decide) 0, startingAt "b" (by decide) 1]
  components_two := Nat.le_refl 2
  aliases_nodup := by decide
  masked_known := List.nil_subset _
  masked_some := fun h => by cases h
  activated := fun h => by cases h

def secondPod (scenario : ScenarioInstance) : CompiledComponent where
  component := startingAt "b" (by decide) 1
  scenario := { scenario with scenarioId := "two-pods:b", maxTimeSeconds := 8 }
  offset := 1

def compiledPods (scenario : ScenarioInstance) : List CompiledComponent :=
  [{ component := startingAt "a" (by decide) 0
     scenario := { scenario with scenarioId := "two-pods:a", maxTimeSeconds := 8 }
     offset := 0 }, secondPod scenario]

theorem compileEach_twoPods (scenario : ScenarioInstance) :
    compileEach (fun _ => .ok scenario) twoPods 0 twoPods.components = .ok (compiledPods scenario) := rfl

def composedPods (scenario : ScenarioInstance) : Except PyError ScenarioInstance :=
  compose .plain (fun _ => .ok scenario) twoPods "composition"

def podsTogether : ScenarioInstance := (composedPods podScenario).toOption.getD podScenario

theorem eq_ok_of_isSome (scenario : ScenarioInstance) (h : (composedPods scenario).toOption.isSome = true) :
    composedPods scenario = .ok ((composedPods scenario).toOption.getD scenario) := by
  cases hcomposed : composedPods scenario with
  | ok whole => rfl
  | error failure =>
    rw [hcomposed] at h
    cases h

theorem secondPod_selfContained : (secondPod podScenario).SelfContained ["a", "b"] where
  conditions := fun _ hnone => absurd hnone List.not_mem_nil
  mutations := by
    intro mutation hmutation _ path hpath
    obtain rfl := List.mem_singleton.mp hmutation
    obtain rfl := Option.some.inj hpath
    decide
  names := by decide
  listed := List.pairwise_singleton _ _

/-- The next event is one of the second pod, or changes only the first one. -/
def sparesSecond (state : RunState) : Bool :=
  state.queue.head?.all fun queued => owns "b" queued ||
    (decide (touched queued.scheduled.mutation = ["a::pod"]) &&
      (applyMutation state.world queued.scheduled.mutation).toOption.isSome)

theorem leftAlone_of_sparesSecond {state : RunState} (h : sparesSecond state = true) :
    LeftAlone plainTexts (secondPod podScenario) state where
  happens := by
    intro queued rest world hqueue howns _ _
    have howns : owns "b" queued = false := howns
    rw [sparesSecond, hqueue, List.head?_cons, Option.all_some, howns, Bool.false_or, Bool.and_eq_true_iff] at h
    refine ⟨?_, fun _ hnone => absurd hnone List.not_mem_nil⟩
    rw [of_decide_eq_true h.1]
    decide
  fails := by
    intro queued rest failure hqueue howns _ hfails
    have howns : owns "b" queued = false := howns
    rw [sparesSecond, hqueue, List.head?_cons, Option.all_some, howns, hfails, Bool.false_or,
      Bool.and_eq_true_iff] at h
    exact absurd h.2 Bool.false_ne_true

def turnedTogether (state : RunState) : RunState :=
  (step plainTexts plainFailures podsTogether state).elim id fun _ => state

theorem podsTogether_sparesSecond {state : RunState} (h : Reached plainTexts plainFailures podsTogether state) :
    sparesSecond state = true := by
  have hthree : state ∈ [initialState plainTexts podsTogether,
      turnedTogether (initialState plainTexts podsTogether),
      turnedTogether (turnedTogether (initialState plainTexts podsTogether))] := by
    induction h with
    | start => exact List.mem_cons_self
    | next hbefore hstep ih =>
      rename_i state next
      have hnext : turnedTogether state = next := by
        rw [turnedTogether, hstep]
        rfl
      rw [← hnext]
      rcases List.mem_cons.mp ih with rfl | ih
      · exact List.mem_cons_of_mem _ List.mem_cons_self
      · rcases List.mem_cons.mp ih with rfl | ih
        · exact List.mem_cons_of_mem _ (List.mem_cons_of_mem _ List.mem_cons_self)
        · obtain rfl := List.mem_singleton.mp ih
          have hended : (step plainTexts plainFailures podsTogether (turnedTogether (turnedTogether
            (initialState plainTexts podsTogether)))).isLeft = false := by decide
          rw [hstep] at hended
          cases hended
  have hall : ∀ state ∈ [initialState plainTexts podsTogether,
      turnedTogether (initialState plainTexts podsTogether),
      turnedTogether (turnedTogether (initialState plainTexts podsTogether))], sparesSecond state = true := by
    decide
  exact hall state hthree

end Example

end KubeOps.Scenarios
