import KubeOps.Simulator.Renaming

/-! The run of a renamed scenario is the renamed run, unless the ids that stand in the states of
entities are compared or written. -/
namespace KubeOps.Simulator

open KubeOps.Foundation KubeOps.Models KubeOps.Discovery KubeOps.Invariants

section Verdicts

variable {σ : IdRenaming} {world : World} {texts : ValueTexts} {predicate : Predicate} {history : History}

theorem value_renameWorld {path : String} (entityId : String) (h : path ≠ "" ∧ AvoidsId path) :
    (((renameWorld σ world).get? (σ.ids entityId)).bind fun state => state.getPath path) =
      (world.get? entityId).bind fun state => state.getPath path := by
  rw [get?_renameWorld, Option.bind_map]
  exact Option.bind_congr fun state _ => getPath_renameState h.1 h.2

theorem number_renameWorld (entityId path : String) :
    ((((renameWorld σ world).get? (σ.ids entityId)).bind fun state => state.getPath path).bind Value.number?) =
      ((world.get? entityId).bind fun state => state.getPath path).bind Value.number? := by
  rw [get?_renameWorld]
  cases world.get? entityId with
  | none => rfl
  | some state =>
    obtain ⟨g, hnumber, hpath⟩ := getPath_renameState_any (σ := σ) state path
    show ((renameState σ state).getPath path).bind _ = (state.getPath path).bind _
    rw [hpath, Option.bind_map]
    exact Option.bind_congr fun value _ => hnumber value

theorem truth_renamePredicate (h : ∀ part ∈ parts predicate, ComparesNoId part) :
    truth texts (renameWorld σ world) [] (renamePredicate σ predicate) = truth texts world [] predicate := by
  have heach : ∀ predicates, (∀ child ∈ predicates, (∀ part ∈ parts child, ComparesNoId part) →
      truth texts (renameWorld σ world) [] (renamePredicate σ child) = truth texts world [] child) →
      (∀ part ∈ partsOfEach predicates, ComparesNoId part) →
      (renameEach σ predicates).map (truth texts (renameWorld σ world) []) =
        predicates.map (truth texts world []) := by
    intro predicates ih hparts
    rw [renameEach_eq, List.map_map]
    apply List.map_congr_left
    intro child hchild
    exact ih child hchild fun part hpart => hparts part (mem_partsOfEach.mpr ⟨child, hchild, hpart⟩)
  induction predicate using predicate_induct with
  | fieldEquals entityId path value =>
    show (fieldCompare _ _ _ path value true).satisfied = (fieldCompare _ _ _ path value true).satisfied
    rw [satisfied_fieldCompare, satisfied_fieldCompare, value_renameWorld entityId (h _ List.mem_cons_self)]
  | fieldNotEquals entityId path value =>
    show (fieldCompare _ _ _ path value false).satisfied = (fieldCompare _ _ _ path value false).satisfied
    rw [satisfied_fieldCompare, satisfied_fieldCompare, value_renameWorld entityId (h _ List.mem_cons_self)]
  | fieldExists entityId path expected =>
    show (Invariants.fieldExists _ _ _ path expected).satisfied =
      (Invariants.fieldExists _ _ _ path expected).satisfied
    rw [satisfied_fieldExists, satisfied_fieldExists, get?_renameWorld, Option.map_map]
    apply Option.map_congr
    intro state _
    obtain ⟨g, -, hpath⟩ := getPath_renameState_any (σ := σ) state path
    show (((renameState σ state).getPath path).isSome == expected) = _
    rw [hpath, Option.isSome_map]
  | fieldGte entityId path value =>
    show (numericCompare _ _ _ path value true).satisfied = (numericCompare _ _ _ path value true).satisfied
    rw [satisfied_numericCompare, satisfied_numericCompare, number_renameWorld]
  | fieldLte entityId path value =>
    show (numericCompare _ _ _ path value false).satisfied = (numericCompare _ _ _ path value false).satisfied
    rw [satisfied_numericCompare, satisfied_numericCompare, number_renameWorld]
  | fieldsEqual leftId leftPath rightId rightPath =>
    have hcompares : (leftPath ≠ "" ∧ AvoidsId leftPath) ∧ rightPath ≠ "" ∧ AvoidsId rightPath :=
      h _ List.mem_cons_self
    show (Invariants.fieldsEqual _ _ leftPath _ rightPath).satisfied =
      (Invariants.fieldsEqual _ _ leftPath _ rightPath).satisfied
    rw [satisfied_fieldsEqual, satisfied_fieldsEqual, value_renameWorld leftId hcompares.1,
      value_renameWorld rightId hcompares.2]
  | relatedCountGte sourceId types direction targetPath targetEquals minimum => rfl
  | allOf predicates ih =>
    rw [renamePredicate, truth_allOf, truth_allOf, heach predicates ih fun part hpart =>
      h part (List.mem_cons_of_mem _ hpart)]
  | anyOf predicates ih =>
    rw [renamePredicate, truth_anyOf, truth_anyOf, heach predicates ih fun part hpart =>
      h part (List.mem_cons_of_mem _ hpart)]
  | not child ih =>
    rw [renamePredicate, truth_not, truth_not, ih fun part hpart => h part (List.mem_cons_of_mem _ hpart)]

theorem baselineOf_renameHistory (windowStart : Int) :
    baselineOf windowStart (renameHistory σ history) =
      (baselineOf windowStart history).map fun item => (item.1, renameWorld σ item.2) := by
  rw [baselineOf, baselineOf, renameHistory, List.filter_map, List.getLast?_map]
  rfl

theorem changesOf_renameHistory (windowStart atSeconds : Int) :
    changesOf windowStart atSeconds (renameHistory σ history) =
      renameHistory σ (changesOf windowStart atSeconds history) := by
  rw [changesOf, changesOf, renameHistory, renameHistory, List.filter_map]
  rfl

theorem applyTemporal_renamed {invariant : InvariantDefinition}
    (h : ∀ part ∈ parts invariant.predicate, ComparesNoId part)
    (satisfied : Option Bool) (atSeconds : Int) :
    applyTemporal texts (renameInvariant σ invariant) satisfied atSeconds (renameHistory σ history) [] =
      applyTemporal texts invariant satisfied atSeconds history [] := by
  unfold applyTemporal
  rw [show (renameInvariant σ invariant).temporal = invariant.temporal from rfl]
  cases invariant.temporal.operator with
  | immediate => rfl
  | eventually => rfl
  | stableFor =>
    show applyStable texts (renameInvariant σ invariant) satisfied atSeconds (renameHistory σ history) [] = _
    unfold applyStable
    rw [show (renameInvariant σ invariant).temporal = invariant.temporal from rfl]
    rcases satisfied with _ | _ | _
    · rfl
    · rfl
    · dsimp only
      rw [baselineOf_renameHistory, changesOf_renameHistory]
      generalize changesOf (atSeconds - invariant.temporal.stableForSeconds.getD 0) atSeconds history = changes
      cases baselineOf (atSeconds - invariant.temporal.stableForSeconds.getD 0) history with
      | none => rfl
      | some baseline =>
        have hresults : ((baseline.1, renameWorld σ baseline.2) :: renameHistory σ changes).map
              (fun item => (evaluate texts item.2 [] (renameInvariant σ invariant).predicate).satisfied) =
            (baseline :: changes).map fun item => (evaluate texts item.2 [] invariant.predicate).satisfied := by
          show (renameHistory σ (baseline :: changes)).map _ = _
          rw [renameHistory, List.map_map]
          exact List.map_congr_left fun item _ => truth_renamePredicate h
        rw [Option.map_some]
        dsimp only
        rw [hresults]

theorem status_evaluation_renamed {invariant : InvariantDefinition}
    (h : ∀ part ∈ parts invariant.predicate, ComparesNoId part) (atSeconds : Int) :
    (evaluation texts (renameWorld σ world) atSeconds (renameHistory σ history) []
      (renameInvariant σ invariant)).status =
      (evaluation texts world atSeconds history [] invariant).status := by
  show (applyTemporal texts (renameInvariant σ invariant)
    (truth texts (renameWorld σ world) [] (renamePredicate σ invariant.predicate)) atSeconds
      (renameHistory σ history) []).1 =
    (applyTemporal texts invariant (truth texts world [] invariant.predicate) atSeconds history []).1
  rw [truth_renamePredicate h, applyTemporal_renamed h]

end Verdicts

section Projections

variable {σ : IdRenaming} {history : History} {profile : ObservationProfile}

theorem stateAtOrBefore_renamed (targetTime : Int) : stateAtOrBefore (renameHistory σ history) targetTime =
    ((stateAtOrBefore history targetTime).1, renameWorld σ (stateAtOrBefore history targetTime).2) := by
  unfold stateAtOrBefore
  rw [renameHistory, List.takeWhile_map, List.getLast?_map, List.head?_map]
  show ((((history.takeWhile fun candidate => candidate.1 ≤ targetTime).getLast?).map _).or _).getD _ = _
  cases (history.takeWhile fun candidate => candidate.1 ≤ targetTime).getLast? with
  | some found => rfl
  | none =>
    cases history.head? with
    | some found => rfl
    | none => rfl

theorem foldl_deleteIn_renameState (paths : List String) (state : Value) :
    paths.foldl deleteIn (renameState σ state) = renameState σ (paths.foldl deleteIn state) := by
  induction paths generalizing state with
  | nil => rfl
  | cons path paths ih => rw [List.foldl_cons, List.foldl_cons, deleteIn_renameState, ih]

theorem foldl_setIn_renameState {overrides : List (String × Json)}
    (h : ∀ override ∈ overrides, AvoidsId override.1)
    (state : Value) :
    overrides.foldl (fun state override => setIn state override.1 (valueOfJson override.2))
      (renameState σ state) =
      renameState σ
        (overrides.foldl (fun state override => setIn state override.1 (valueOfJson override.2)) state) := by
  induction overrides generalizing state with
  | nil => rfl
  | cons override overrides ih =>
    rw [List.foldl_cons, List.foldl_cons, setIn_renameState (h override List.mem_cons_self)]
    exact ih (fun other hother => h other (List.mem_cons_of_mem _ hother)) _

variable (hoverrides : ∀ entry ∈ profile.contradictoryOverrides.entries, ∀ override ∈ entry.2.entries,
  AvoidsId override.1)

include hoverrides

theorem disguise_renamed (entityId : String) (state : Value) :
    disguise (profile.renamed σ) (σ.ids entityId) (renameState σ state) =
      renameState σ (disguise profile entityId state) := by
  have hpaths : (profile.renamed σ).hiddenPaths.get? (σ.ids entityId) = profile.hiddenPaths.get? entityId :=
    Dict.get?_relabel_id ..
  have hvalues : (profile.renamed σ).contradictoryOverrides.get? (σ.ids entityId) =
      profile.contradictoryOverrides.get? entityId := Dict.get?_relabel_id ..
  unfold disguise
  rw [hpaths, hvalues, foldl_deleteIn_renameState]
  apply foldl_setIn_renameState
  cases hfound : profile.contradictoryOverrides.get? entityId with
  | none => exact fun override hoverride => absurd hoverride List.not_mem_nil
  | some overrides => exact hoverrides _ (Dict.get?_eq_some.mp hfound)

theorem projectEntity_renamed (currentTime : Int) (entityId : String) :
    projectEntity (renameHistory σ history) currentTime (profile.renamed σ) (σ.ids entityId) =
      (projectEntity history currentTime profile entityId).map (Observation.renamed σ) := by
  have hhidden : σ.ids entityId ∈ (profile.renamed σ).hiddenEntityIds ↔ entityId ∈ profile.hiddenEntityIds :=
    List.mem_map_of_injective σ.ids.injective
  have hlag : (profile.renamed σ).lagSeconds.get? (σ.ids entityId) = profile.lagSeconds.get? entityId :=
    Dict.get?_relabel_id ..
  unfold projectEntity
  by_cases hentity : entityId ∈ profile.hiddenEntityIds
  · rw [if_pos hentity, if_pos (hhidden.mpr hentity)]
    rfl
  · rw [if_neg hentity, if_neg fun h => hentity (hhidden.mp h)]
    dsimp only
    rw [hlag, stateAtOrBefore_renamed, get?_renameWorld, Option.map_map, Option.map_map]
    apply Option.map_congr
    intro state _
    show ({ .. } : Observation) = { .. }
    rw [disguise_renamed hoverrides]
    rfl

theorem project_renamed (currentTime : Int) :
    project (renameHistory σ history) currentTime (profile.renamed σ) =
      (project history currentTime profile).map (Observation.renamed σ) := by
  have hkeys : (((renameHistory σ history).getLast?.map Prod.snd).getD ∅).keys =
      ((history.getLast?.map Prod.snd).getD ∅).keys.map σ.ids := by
    rw [renameHistory, List.getLast?_map]
    cases history.getLast? with
    | none => rfl
    | some last => exact Dict.keys_relabel ..
  rw [project, project, hkeys, List.filterMap_map, List.map_filterMap]
  exact List.filterMap_congr fun entityId _ => projectEntity_renamed hoverrides currentTime entityId

omit hoverrides in
theorem observedStates_renamed (observations : List Observation) :
    observedStates (observations.map (Observation.renamed σ)) =
      renameWorld σ (observedStates observations) := by
  rw [observedStates, observedStates, renameWorld, Dict.relabel_ofList, List.map_map, List.map_map]
  rfl

end Projections

section Rules

variable {σ : IdRenaming} {world : World} {texts : ValueTexts} {rule : TransitionRule}
  {rules : List TransitionRule}

def QueueItem.renamed (σ : IdRenaming) (item : QueueItem) : QueueItem :=
  { item with scheduled := item.scheduled.renamed σ }

theorem push_renamed (queue : List QueueItem) (item : QueueItem) :
    push (queue.map (QueueItem.renamed σ)) (item.renamed σ) = (push queue item).map (QueueItem.renamed σ) := by
  apply Eq.symm
  apply List.map_orderedInsert
  · exact fun other _ => Iff.rfl
  · exact fun other _ => Iff.rfl

theorem foldl_push_renamed (items queue : List QueueItem) :
    (items.map (QueueItem.renamed σ)).foldl push (queue.map (QueueItem.renamed σ)) =
      (items.foldl push queue).map (QueueItem.renamed σ) := by
  induction items generalizing queue with
  | nil => rfl
  | cons item items ih => rw [List.map_cons, List.foldl_cons, List.foldl_cons, push_renamed, ih]

theorem fires_renamed (h : ∀ condition ∈ rule.conditions, ∀ part ∈ parts condition, ComparesNoId part)
    (firedRules : List String) :
    fires texts (renameWorld σ world) firedRules (rule.renamed σ) = fires texts world firedRules rule := by
  have hholds : holds texts (renameWorld σ world) [] (rule.renamed σ) = holds texts world [] rule := by
    unfold holds
    show (rule.conditions.map _).all _ = _
    rw [List.all_map, Bool.eq_iff_iff, List.all_eq_true, List.all_eq_true]
    apply forall₂_congr
    intro condition hcondition
    show decide (truth texts _ [] (renamePredicate σ condition) = some true) = true ↔ _
    rw [truth_renamePredicate (h condition hcondition)]
  rw [fires, fires, hholds]
  rfl

theorem effectItems_renamed (atSeconds index order : Nat) (effects : List StateMutation) :
    effectItems (rule.renamed σ) atSeconds index order (effects.map (StateMutation.renamed σ)) =
      (effectItems rule atSeconds index order effects).map (QueueItem.renamed σ) := by
  induction effects generalizing index order with
  | nil => rfl
  | cons effect effects ih =>
    rw [List.map_cons, effectItems, effectItems, List.map_cons, ih]
    rfl

def Scheduling.renamed (σ : IdRenaming) (scheduling : Scheduling) : Scheduling :=
  { scheduling with generated := scheduling.generated.map (QueueItem.renamed σ) }

theorem scheduleRule_renamed (h : ∀ condition ∈ rule.conditions, ∀ part ∈ parts condition, ComparesNoId part)
    (atSeconds : Nat) (scheduling : Scheduling) :
    scheduleRule texts (renameWorld σ world) atSeconds (scheduling.renamed σ) (rule.renamed σ) =
      (scheduleRule texts world atSeconds scheduling rule).renamed σ := by
  unfold scheduleRule
  rw [show (scheduling.renamed σ).firedRules = scheduling.firedRules from rfl, fires_renamed h]
  split
  · show Scheduling.mk (_ ++ effectItems (rule.renamed σ) atSeconds 0 _ (rule.effects.map _)) _
      (_ + (rule.effects.map _).length) =
      Scheduling.mk (List.map _ (_ ++ _)) _ _
    rw [effectItems_renamed, List.length_map, List.map_append]
    rfl
  · rfl

theorem scheduleRules_renamed
    (h : ∀ rule ∈ rules, ∀ condition ∈ rule.conditions, ∀ part ∈ parts condition, ComparesNoId part)
    (atSeconds : Nat) (firedRules : List String) (queueOrder : Nat) :
    scheduleRules texts (rules.map (TransitionRule.renamed σ))
      (renameWorld σ world) atSeconds firedRules queueOrder =
      (scheduleRules texts rules world atSeconds firedRules queueOrder).renamed σ := by
  have hfold : ∀ scheduling : Scheduling, (rules.map (TransitionRule.renamed σ)).foldl
      (scheduleRule texts (renameWorld σ world) atSeconds) (scheduling.renamed σ) =
        (rules.foldl (scheduleRule texts world atSeconds) scheduling).renamed σ := by
    induction rules with
    | nil => exact fun _ => rfl
    | cons rule rules ih =>
      intro scheduling
      rw [List.map_cons, List.foldl_cons, List.foldl_cons, scheduleRule_renamed (h rule List.mem_cons_self)]
      exact ih (fun other hother => h other (List.mem_cons_of_mem _ hother)) _
  exact hfold { firedRules, queueOrder }

theorem mem_effectItems {item : QueueItem} {atSeconds index order : Nat} {effects : List StateMutation}
    (h : item ∈ effectItems rule atSeconds index order effects) : item.scheduled.mutation ∈ effects := by
  induction effects generalizing index order with
  | nil => cases h
  | cons effect effects ih =>
    rcases List.mem_cons.mp h with rfl | hrest
    · exact List.mem_cons_self
    · exact List.mem_cons_of_mem _ (ih hrest)

theorem mem_generated {item : QueueItem} {atSeconds : Nat} {scheduling : Scheduling}
    (h : item ∈ (rules.foldl (scheduleRule texts world atSeconds) scheduling).generated) :
    item ∈ scheduling.generated ∨ ∃ rule ∈ rules, item.scheduled.mutation ∈ rule.effects := by
  induction rules generalizing scheduling with
  | nil => exact Or.inl h
  | cons rule rules ih =>
    rcases ih h with hscheduled | ⟨other, hother, heffect⟩
    · unfold scheduleRule at hscheduled
      split at hscheduled
      · rcases List.mem_append.mp hscheduled with hold | hnew
        · exact Or.inl hold
        · exact Or.inr ⟨rule, List.mem_cons_self, mem_effectItems hnew⟩
      · exact Or.inl hscheduled
    · exact Or.inr ⟨other, List.mem_cons_of_mem _ hother, heffect⟩

theorem mem_push {queue : List QueueItem} {item other : QueueItem} : other ∈ push queue item ↔
    other = item ∨ other ∈ queue :=
  List.mem_orderedInsert _

theorem mem_foldl_push {items queue : List QueueItem} {item : QueueItem} :
    item ∈ items.foldl push queue ↔ item ∈ items ∨ item ∈ queue := by
  induction items generalizing queue with
  | nil => simp
  | cons first items ih =>
    rw [List.foldl_cons, ih, mem_push, List.mem_cons]
    tauto

end Rules

section Simulation

/-- The second state is the first under other ids, and what waits in the queue writes no ids. -/
structure RenamedState (σ : IdRenaming) (failures : FailureTexts) (one two : RunState) : Prop where
  world : two.world = renameWorld σ one.world
  queue : two.queue = one.queue.map (QueueItem.renamed σ)
  queueOrder : two.queueOrder = one.queueOrder
  sequence : two.sequence = one.sequence
  timeline : two.timeline = one.timeline.map (TimelineEvent.renamed σ failures)
  snapshots : two.snapshots.map snapshotFacts = one.snapshots.map fun snapshot =>
    (snapshotFacts snapshot).renamed σ
  observations : two.observations = one.observations.map (Observation.renamed σ)
  worldHistory : two.worldHistory = renameHistory σ one.worldHistory
  observedHistory : two.observedHistory = renameHistory σ one.observedHistory
  firedRules : two.firedRules = one.firedRules
  writes : ∀ item ∈ one.queue, WritesNoId item.scheduled.mutation

variable {σ : IdRenaming} {texts : ValueTexts} {failures : FailureTexts} {scenario : ScenarioInstance}
variable {one two : RunState}

theorem emittedNow_renamed (hscenario : scenario.IdsOpaque) (h : RenamedState σ failures one two)
    (atSeconds : Nat) :
    emittedNow (scenario.renamed σ) two atSeconds = (emittedNow scenario one atSeconds).map
      (Observation.renamed σ) := by
  rw [emittedNow, emittedNow, h.worldHistory]
  exact project_renamed hscenario.overrides atSeconds

theorem observed_renamed (hscenario : scenario.IdsOpaque) (h : RenamedState σ failures one two)
    (atSeconds : Nat) :
    observedStates (emittedNow (scenario.renamed σ) two atSeconds) =
      renameWorld σ (observedStates (emittedNow scenario one atSeconds)) := by
  rw [emittedNow_renamed hscenario h, observedStates_renamed]

theorem observedHistory_renamed (hscenario : scenario.IdsOpaque) (h : RenamedState σ failures one two)
    (atSeconds : Nat) :
    two.observedHistory ++
      [((atSeconds : Int), observedStates (emittedNow (scenario.renamed σ) two atSeconds))] =
      renameHistory σ
        (one.observedHistory ++ [((atSeconds : Int), observedStates (emittedNow scenario one atSeconds))]) := by
  rw [h.observedHistory, observed_renamed hscenario h, renameHistory, renameHistory, List.map_append]
  rfl

theorem snapshotFacts_renamed (hscenario : scenario.IdsOpaque)
    (h : RenamedState σ failures one two) (atSeconds : Nat)
    (trigger : Option Nat) :
    snapshotFacts (takeSnapshot texts (scenario.renamed σ) two atSeconds trigger) =
      (snapshotFacts (takeSnapshot texts scenario one atSeconds trigger)).renamed σ := by
  have hlength : two.snapshots.length = one.snapshots.length := by
    have hmapped := congrArg List.length h.snapshots
    rwa [List.length_map, List.length_map] at hmapped
  have hstatuses :
      (takeSnapshot texts (scenario.renamed σ) two atSeconds trigger).invariantEvaluations.map
          (fun item => (item.invariantId, item.status)) =
        (takeSnapshot texts scenario one atSeconds trigger).invariantEvaluations.map
          fun item => (item.invariantId, item.status) := by
    rw [evaluations_takeSnapshot, evaluations_takeSnapshot, List.map_map, List.map_map]
    show (scenario.invariants.map (renameInvariant σ)).map _ = _
    rw [List.map_map]
    apply List.map_congr_left
    intro invariant hinvariant
    apply Prod.ext
    · rfl
    · show (evaluation texts (observedStates _) atSeconds
        (two.observedHistory ++ [((atSeconds : Int), observedStates _)]) []
        (renameInvariant σ invariant)).status = _
      rw [observedHistory_renamed hscenario h, observed_renamed hscenario h]
      exact status_evaluation_renamed (hscenario.invariants invariant hinvariant) atSeconds
  show SnapshotFacts.mk _ _ _ _ (observedStates _) _ = SnapshotFacts.mk _ _ _ _
    (renameWorld σ (observedStates _)) _
  rw [hstatuses, observed_renamed hscenario h]
  show SnapshotFacts.mk two.snapshots.length _ _ two.world _ _ = _
  rw [hlength, h.world]
  rfl

theorem RenamedState.appendSnapshot (hscenario : scenario.IdsOpaque) (h : RenamedState σ failures one two)
    (atSeconds : Nat) (trigger : Option Nat) :
    RenamedState σ failures (appendSnapshot texts scenario one atSeconds trigger)
      (appendSnapshot texts (scenario.renamed σ) two atSeconds trigger) :=
  { h with
    snapshots := by
      simp only [Simulator.appendSnapshot, List.map_append, List.map_cons, List.map_nil, h.snapshots,
        snapshotFacts_renamed hscenario h]
    observations := by
      simp only [Simulator.appendSnapshot, List.map_append, h.observations, emittedNow_renamed hscenario h]
    observedHistory := observedHistory_renamed hscenario h atSeconds }

theorem disturbanceItems_renamed (order : Nat) (mutations : List ScheduledMutation) :
    disturbanceItems order (mutations.map (ScheduledMutation.renamed σ)) =
      (disturbanceItems order mutations).map (QueueItem.renamed σ) := by
  induction mutations generalizing order with
  | nil => rfl
  | cons mutation mutations ih =>
    rw [List.map_cons, disturbanceItems, disturbanceItems, List.map_cons, ih]
    rfl

theorem mem_disturbanceItems {order : Nat} {mutations : List ScheduledMutation} {item : QueueItem}
    (h : item ∈ disturbanceItems order mutations) : item.scheduled ∈ mutations := by
  induction mutations generalizing order with
  | nil => cases h
  | cons mutation mutations ih =>
    rcases List.mem_cons.mp h with rfl | hrest
    · exact List.mem_cons_self
    · exact List.mem_cons_of_mem _ (ih hrest)

theorem renamedState_initialState (hscenario : scenario.IdsOpaque) :
    RenamedState σ failures (initialState texts scenario) (initialState texts (scenario.renamed σ)) := by
  apply RenamedState.appendSnapshot hscenario
  have hworld : fromEntities (scenario.renamed σ).entities = renameWorld σ (fromEntities scenario.entities) :=
    fromEntities_renamed scenario.entities
  constructor
  · exact hworld
  · show (disturbanceItems 0 (scenario.disturbance.mutations.map
      (ScheduledMutation.renamed σ))).foldl push [] = _
    rw [disturbanceItems_renamed]
    exact foldl_push_renamed _ []
  · exact List.length_map _
  · rfl
  · rfl
  · rfl
  · rfl
  · show [((0 : Int), fromEntities (scenario.renamed σ).entities)] = _
    rw [hworld]
    rfl
  · rfl
  · rfl
  · intro item hitem
    rcases mem_foldl_push.mp hitem with hnew | hold
    · exact hscenario.disturbances _ (mem_disturbanceItems hnew)
    · cases hold

theorem RenamedState.turned {item : QueueItem} {rest : List QueueItem} (h : RenamedState σ failures one two)
    (hqueue : one.queue = item :: rest) (world : World) :
    RenamedState σ failures (turned one item rest world)
      (turned two (item.renamed σ) (rest.map (QueueItem.renamed σ)) (renameWorld σ world)) :=
  { h with
    world := rfl
    queue := rfl
    sequence := congrArg (· + 1) h.sequence
    timeline := by
      simp only [Simulator.turned, h.timeline, h.sequence, List.map_append, List.map_cons, List.map_nil]
      rfl
    worldHistory := by
      simp only [Simulator.turned, h.worldHistory, renameHistory, List.map_append, List.map_cons, List.map_nil]
      rfl
    writes := fun other hother => h.writes other (hqueue ▸ List.mem_cons_of_mem _ hother) }

theorem RenamedState.afterEvent {item : QueueItem} {rest : List QueueItem} (hscenario : scenario.IdsOpaque)
    (h : RenamedState σ failures one two) (hqueue : one.queue = item :: rest) (world : World) :
    RenamedState σ failures (afterEvent texts scenario one item rest world)
      (afterEvent texts (scenario.renamed σ) two (item.renamed σ) (rest.map (QueueItem.renamed σ))
        (renameWorld σ world)) := by
  have hhappened : RenamedState σ failures
      (Simulator.appendSnapshot texts scenario (Simulator.turned one item rest world) item.atSeconds
        (some one.sequence))
      (Simulator.appendSnapshot texts (scenario.renamed σ)
        (Simulator.turned two (item.renamed σ) (rest.map (QueueItem.renamed σ)) (renameWorld σ world))
        item.atSeconds (some two.sequence)) := by
    rw [h.sequence]
    exact (h.turned hqueue world).appendSnapshot hscenario item.atSeconds (some one.sequence)
  have hscheduling : scheduleRules texts (scenario.transitionRules.map (TransitionRule.renamed σ))
    (renameWorld σ world)
      item.atSeconds two.firedRules two.queueOrder =
        (scheduleRules texts scenario.transitionRules world item.atSeconds one.firedRules
          one.queueOrder).renamed σ := by
    rw [h.firedRules, h.queueOrder, scheduleRules_renamed hscenario.conditions]
  refine { hhappened with queue := ?_, queueOrder := ?_, firedRules := ?_, writes := ?_ }
  · show (scheduleRules texts (scenario.transitionRules.map _) _ item.atSeconds two.firedRules
      two.queueOrder).generated.foldl push (rest.map _) = _
    rw [hscheduling]
    exact foldl_push_renamed _ rest
  · show (scheduleRules texts (scenario.transitionRules.map _) _ item.atSeconds two.firedRules
      two.queueOrder).queueOrder = _
    rw [hscheduling]
    rfl
  · show (scheduleRules texts (scenario.transitionRules.map _) _ item.atSeconds two.firedRules
      two.queueOrder).firedRules = _
    rw [hscheduling]
    rfl
  · intro other hother
    rcases mem_foldl_push.mp hother with hnew | hold
    · rcases mem_generated hnew with hnone | ⟨rule, hrule, heffect⟩
      · cases hnone
      · exact hscenario.effects rule hrule _ heffect
    · exact hhappened.writes other hold

/-- What a turn of the loop comes to under other ids. -/
inductive RenamedTurn (σ : IdRenaming) (failures : FailureTexts) :
    RunState ⊕ (RunStatus × RunState) → RunState ⊕ (RunStatus × RunState) → Prop where
  | goesOn {one two : RunState} (h : RenamedState σ failures one two) :
      RenamedTurn σ failures (.inl one) (.inl two)
  | ends {status : RunStatus} {one two : RunState} (h : RenamedState σ failures one two) :
    RenamedTurn σ failures (.inr (status, one)) (.inr (status, two))

theorem step_renamed (hscenario : scenario.IdsOpaque) (h : RenamedState σ failures one two) :
    RenamedTurn σ failures (step texts failures scenario one)
      (step texts failures (scenario.renamed σ) two) := by
  unfold step
  rw [h.queue, h.world]
  cases hqueue : one.queue with
  | nil => exact .ends h
  | cons item rest =>
    have hwrites : WritesNoId item.scheduled.mutation := h.writes item (hqueue ▸ List.mem_cons_self)
    have hrest : ∀ other ∈ rest, WritesNoId other.scheduled.mutation :=
      fun other hother => h.writes other (hqueue ▸ List.mem_cons_of_mem _ hother)
    have happlied : applyMutation (renameWorld σ one.world) (item.renamed σ).scheduled.mutation = _ :=
      applyMutation_renamed hwrites
    rw [List.map_cons]
    dsimp only
    rw [happlied]
    show RenamedTurn σ failures _ (if scenario.maxTimeSeconds < item.atSeconds then _ else _)
    split
    · exact .ends { h with world := rfl, queue := rfl, writes := hrest }
    · cases applyMutation one.world item.scheduled.mutation with
      | ok world => exact .goesOn (h.afterEvent hscenario hqueue world)
      | error failure =>
        apply RenamedTurn.ends
        exact { h with
          world := rfl
          queue := rfl
          sequence := congrArg (· + 2) h.sequence
          timeline := by
            simp only [h.timeline, h.sequence, h.worldHistory, renameHistory, List.getLast?_map,
              List.map_append,
              List.map_cons, List.map_nil, Option.map_map]
            rfl
          writes := hrest }

theorem loop_renamed (hscenario : scenario.IdsOpaque) (h : RenamedState σ failures one two) (fuel : Nat) :
    Option.Rel (fun result result' => result.1 = result'.1 ∧ RenamedState σ failures result.2 result'.2)
      (loop texts failures scenario fuel one) (loop texts failures (scenario.renamed σ) fuel two) := by
  induction fuel generalizing one two with
  | zero => exact .none
  | succ fuel ih =>
    have hturn : RenamedTurn σ failures (step texts failures scenario one)
        (step texts failures (scenario.renamed σ) two) := step_renamed hscenario h
    rw [loop, loop]
    generalize step texts failures scenario one = turn at hturn
    generalize step texts failures (scenario.renamed σ) two = turn' at hturn
    cases hturn with
    | goesOn hnext => exact ih hnext
    | ends hend => exact .some ⟨rfl, hend⟩

end Simulation

section Runs

variable {σ : IdRenaming} {texts : ValueTexts} {failures : FailureTexts} {scenario : ScenarioInstance}
variable {one two : RunState}

theorem ids_of_statuses (evaluations : List InvariantEvaluation) (status : HealthStatus) :
    (evaluations.filter fun item => item.status = status).map InvariantEvaluation.invariantId =
      ((evaluations.map fun item => (item.invariantId, item.status)).filter fun pair => pair.2 = status).map
        Prod.fst := by
  rw [List.filter_map, List.map_map]
  rfl

theorem length_of_statuses (evaluations : List InvariantEvaluation) (status : HealthStatus) :
    (evaluations.filter fun item => item.status = status).length =
      ((evaluations.map fun item => (item.invariantId, item.status)).filter fun pair => pair.2 =
        status).length := by
  rw [List.filter_map, List.length_map]
  rfl

theorem summaryOf_renamed (h : RenamedState σ failures one two) : summaryOf two = summaryOf one := by
  have hlengths : two.snapshots.length = one.snapshots.length := by
    have hmapped := congrArg List.length h.snapshots
    rwa [List.length_map, List.length_map] at hmapped
  have hlast : two.snapshots.getLast?.map snapshotFacts =
      one.snapshots.getLast?.map fun snapshot => (snapshotFacts snapshot).renamed σ := by
    rw [← List.getLast?_map, ← List.getLast?_map, h.snapshots]
  have htimeline : two.timeline.length = one.timeline.length := by rw [h.timeline, List.length_map]
  unfold summaryOf
  rw [hlengths, htimeline]
  cases hone : one.snapshots.getLast? with
  | none =>
    rw [hone, Option.map_none, Option.map_eq_none_iff] at hlast
    rw [hlast]
  | some final =>
    rw [hone, Option.map_some, Option.map_eq_some_iff] at hlast
    obtain ⟨other, hother, hfacts⟩ := hlast
    have htime : other.atSeconds = final.atSeconds := congrArg SnapshotFacts.atSeconds hfacts
    have hstatuses : other.invariantEvaluations.map (fun item => (item.invariantId, item.status)) =
        final.invariantEvaluations.map fun item => (item.invariantId, item.status) :=
      congrArg SnapshotFacts.statuses hfacts
    rw [hother, Option.map_some, Option.map_some, htime]
    simp only [ids_of_statuses, length_of_statuses, hstatuses]

theorem runFacts_renamed {status : RunStatus} (h : RenamedState σ failures one two) :
    runFacts (finished (scenario.renamed σ) (status, two)) =
      (runFacts (finished scenario (status, one))).renamed σ failures := by
  show RunFacts.mk _ _ _ two.timeline (two.snapshots.map snapshotFacts) two.observations (summaryOf two) =
    RunFacts.mk _ _ _ _ ((one.snapshots.map snapshotFacts).map _) _ (summaryOf one)
  rw [h.timeline, h.snapshots, h.observations, summaryOf_renamed h, List.map_map]
  rfl

/-- Where the ids in the states are neither compared nor written, the run of the renamed scenario is the
renamed run. -/
theorem run_renamed (h : scenario.IdsOpaque) : Equivariant texts failures scenario := by
  intro σ fuel
  have hstart : RenamedState σ failures (initialState texts scenario)
    (initialState texts (scenario.renamed σ)) :=
    renamedState_initialState h
  have hloop := @loop_renamed _ texts _ _ _ _ h hstart fuel
  unfold run
  generalize loop texts failures scenario fuel (initialState texts scenario) = ended at hloop
  generalize loop texts failures (scenario.renamed σ) fuel (initialState texts (scenario.renamed σ)) =
    ended' at hloop
  cases hloop with
  | none => rfl
  | @some result result' hresult =>
    obtain ⟨status, one⟩ := result
    obtain ⟨status', two⟩ := result'
    obtain ⟨rfl, hstate⟩ := hresult
    exact congrArg some (runFacts_renamed hstate)

end Runs

section Example

theorem podScenario_idsOpaque : podScenario.IdsOpaque where
  invariants := fun _ h => absurd h List.not_mem_nil
  conditions := fun _ h => absurd h List.not_mem_nil
  effects := fun _ h => absurd h List.not_mem_nil
  disturbances := by
    intro scheduled hscheduled _ path hpath
    obtain rfl := List.mem_singleton.mp hscheduled
    obtain rfl := Option.some.inj hpath
    decide
  overrides := fun _ h => absurd h List.not_mem_nil

theorem podScenario_equivariant : Equivariant plainTexts plainFailures podScenario :=
  run_renamed podScenario_idsOpaque

def swapped (one two entityId : String) : String :=
  if entityId = one then two else if entityId = two then one else entityId

theorem swapped_injective (one two : String) : Function.Injective (swapped one two) := by
  intro left right h
  unfold swapped at h
  grind

def webToApi : IdRenaming where
  ids := ⟨swapped "web" "api", swapped_injective "web" "api"⟩
  ids_empty := rfl

theorem webId_ne : "web" ≠ "" := by decide

def namedLikeItsId : InvariantDefinition where
  invariantId := "named-like-its-id"
  title := "The entity is named like its id"
  family := .identityResolution
  subjectId := "web"
  predicate := .fieldsEqual "web" "entity_id" "web" "name"

def idCompared : ScenarioInstance where
  scenarioId := "scenario"
  familyId := "family"
  entities := [plainEntity "web" webId_ne]
  invariants := [namedLikeItsId]
  disturbance := ⟨"disturbance", []⟩
  observationProfile := { profileId := "full" }

def idWritten : ScenarioInstance where
  scenarioId := "scenario"
  familyId := "family"
  entities := [plainEntity "web" webId_ne]
  disturbance := ⟨"disturbance", [⟨"take-over", 1, "the id changes",
    { entityId := "web", path := some "entity_id", value := .str "api" }⟩]⟩
  observationProfile := { profileId := "full" }

def unhealthyAfter (facts : RunFacts) : List String :=
  (facts.finalSummary.map FinalSummary.unhealthyInvariants).getD []

def idTexts (facts : RunFacts) : List String :=
  facts.snapshots.flatMap fun snapshot => snapshot.truthState.values.filterMap fun state =>
    match Value.entry? "entity_id" state with
    | some (.str entityId) => some entityId
    | _ => none

theorem ids_are_not_opaque : idCompared.validateReferences = .ok () ∧
    ¬ Equivariant plainTexts plainFailures idCompared ∧
    idWritten.validateReferences = .ok () ∧ ¬ Equivariant plainTexts plainFailures idWritten := by
  refine ⟨rfl, ?_, rfl, ?_⟩
  · intro h
    have hsame := congrArg (Option.map unhealthyAfter) (h webToApi 1)
    have hrenamed : ((run plainTexts plainFailures (idCompared.renamed webToApi) 1).map runFacts).map
      unhealthyAfter =
        some ["named-like-its-id"] := by decide
    have hrun : ((run plainTexts plainFailures idCompared 1).map fun run =>
        (runFacts run).renamed webToApi plainFailures).map unhealthyAfter = some [] := by decide
    rw [hrenamed, hrun] at hsame
    cases hsame
  · intro h
    have hsame := congrArg (Option.map idTexts) (h webToApi 2)
    have hrenamed : ((run plainTexts plainFailures (idWritten.renamed webToApi) 2).map runFacts).map idTexts =
        some ["api", "api"] := by decide
    have hrun : ((run plainTexts plainFailures idWritten 2).map fun run =>
        (runFacts run).renamed webToApi plainFailures).map idTexts = some ["api", "web"] := by decide
    rw [hrenamed, hrun] at hsame
    exact absurd hsame (by decide)

end Example

end KubeOps.Simulator
