import KubeOps.Foundation.Relabeling
import KubeOps.Simulator.Agreement

/-! A scenario under other entity ids: its entities, relationships, invariants, rules, disturbance
and observation profile are renamed, and so are the events and the states of its run. -/
namespace KubeOps.Simulator

open KubeOps.Foundation KubeOps.Models KubeOps.Discovery KubeOps.Invariants

/-- No two entities get one id, and the empty text is no id. -/
structure IdRenaming where
  ids : String ↪ String
  ids_empty : ids "" = ""

section Scenarios

variable (σ : IdRenaming)

mutual

def renamePredicate : Predicate → Predicate
  | .fieldEquals entityId path value => .fieldEquals (σ.ids entityId) path value
  | .fieldNotEquals entityId path value => .fieldNotEquals (σ.ids entityId) path value
  | .fieldExists entityId path expected => .fieldExists (σ.ids entityId) path expected
  | .fieldGte entityId path value => .fieldGte (σ.ids entityId) path value
  | .fieldLte entityId path value => .fieldLte (σ.ids entityId) path value
  | .fieldsEqual leftId leftPath rightId rightPath => .fieldsEqual (σ.ids leftId) leftPath
      (σ.ids rightId) rightPath
  | .relatedCountGte sourceId types direction targetPath targetEquals minimum =>
    .relatedCountGte (σ.ids sourceId) types direction targetPath targetEquals minimum
  | .allOf predicates => .allOf (renameEach predicates)
  | .anyOf predicates => .anyOf (renameEach predicates)
  | .not predicate => .not (renamePredicate predicate)

def renameEach : List Predicate → List Predicate
  | [] => []
  | predicate :: rest => renamePredicate predicate :: renameEach rest

end

theorem renameEach_eq (predicates : List Predicate) :
    renameEach σ predicates = predicates.map (renamePredicate σ) := by
  induction predicates with
  | nil => rfl
  | cons predicate predicates ih => rw [renameEach, ih, List.map_cons]

def renamePayload (payload : JsonObject) : JsonObject :=
  match payload.get? "entity_id" with
  | some (.str entityId) => payload.set "entity_id" (.str (σ.ids entityId))
  | _ => payload

def StateMutation.renamed (mutation : StateMutation) : StateMutation :=
  { mutation with
    entityId := σ.ids mutation.entityId
    entityPayload := mutation.entityPayload.map (renamePayload σ) }

def ScheduledMutation.renamed (scheduled : ScheduledMutation) : ScheduledMutation :=
  { scheduled with mutation := scheduled.mutation.renamed σ }

def TransitionRule.renamed (rule : TransitionRule) : TransitionRule :=
  { rule with
    conditions := rule.conditions.map (renamePredicate σ)
    effects := rule.effects.map (StateMutation.renamed σ) }

def renameInvariant (invariant : InvariantDefinition) : InvariantDefinition :=
  { invariant with
    subjectId := σ.ids invariant.subjectId
    predicate := renamePredicate σ invariant.predicate }

def renameRelationship (relationship : Relationship) : Relationship :=
  { relationship with
    sourceId := σ.ids relationship.sourceId
    targetId := σ.ids relationship.targetId }

def renameEntity (entity : EntityDocument) : EntityDocument :=
  { entity with
    entityId := σ.ids entity.entityId
    entityId_ne := fun h => entity.entityId_ne (σ.ids.injective (h.trans σ.ids_empty.symm)) }

def ObservationProfile.renamed (profile : ObservationProfile) : ObservationProfile :=
  { profile with
    hiddenEntityIds := profile.hiddenEntityIds.map σ.ids
    hiddenPaths := profile.hiddenPaths.relabel σ.ids id
    lagSeconds := profile.lagSeconds.relabel σ.ids id
    contradictoryOverrides := profile.contradictoryOverrides.relabel σ.ids id }

def DisturbanceDefinition.renamed (disturbance : DisturbanceDefinition) : DisturbanceDefinition :=
  { disturbance with mutations := disturbance.mutations.map (ScheduledMutation.renamed σ) }

def ScenarioInstance.renamed (scenario : ScenarioInstance) : ScenarioInstance :=
  { scenario with
    entities := scenario.entities.map (renameEntity σ)
    relationships := scenario.relationships.map (renameRelationship σ)
    invariants := scenario.invariants.map (renameInvariant σ)
    transitionRules := scenario.transitionRules.map (TransitionRule.renamed σ)
    disturbance := scenario.disturbance.renamed σ
    observationProfile := scenario.observationProfile.renamed σ }

end Scenarios

section Runs

variable (σ : IdRenaming) (failures : FailureTexts)

def renameText : Value → Value
  | .str entityId => .str (σ.ids entityId)
  | value => value

def renameField (key : String) (value : Value) : Value :=
  if key = "entity_id" then renameText σ value else value

def renameState : Value → Value
  | .dict fields => .dict (fields.map fun field => (field.1, renameField σ field.1 field.2))
  | value => value

def renameWorld (world : World) : World := world.relabel σ.ids (renameState σ)

def renameHistory (history : History) : History := history.map fun item => (item.1, renameWorld σ item.2)

def MutationFailure.renamed : MutationFailure → MutationFailure
  | .unknownEntity entityId => .unknownEntity (σ.ids entityId)
  | .entityExists entityId => .entityExists (σ.ids entityId)
  | .invalidPayload payload => .invalidPayload (renamePayload σ payload)
  | .setStateWithoutPath => .setStateWithoutPath
  | .createWithoutPayload => .createWithoutPayload

def EventDetails.renamed : EventDetails → EventDetails
  | .mutation applied => .mutation (applied.renamed σ)
  | .exception failure => .exception (failure.renamed σ)

/-- A failure is titled by the text of its exception, which may have an id in it. -/
def TimelineEvent.renamed (event : TimelineEvent) : TimelineEvent :=
  { event with
    title := match event.details with
      | .mutation _ => event.title
      | .exception failure => (failure.renamed σ).title failures
    entityId := event.entityId.map σ.ids
    details := event.details.renamed σ }

def Observation.renamed (observation : Observation) : Observation :=
  { observation with
    observationId := s!"obs-{observation.observedAt}-{σ.ids observation.entityId}"
    entityId := σ.ids observation.entityId
    state := renameState σ observation.state }

structure SnapshotFacts where
  sequence : Nat
  atSeconds : Nat
  triggerEventSequence : Option Nat
  truthState : World
  observedState : World
  statuses : List (String × HealthStatus)

structure RunFacts where
  scenarioId : String
  familyId : String
  status : RunStatus
  timeline : List TimelineEvent
  snapshots : List SnapshotFacts
  observations : List Observation
  finalSummary : Option FinalSummary

def snapshotFacts (snapshot : WorldSnapshot) : SnapshotFacts where
  sequence := snapshot.sequence
  atSeconds := snapshot.atSeconds
  triggerEventSequence := snapshot.triggerEventSequence
  truthState := snapshot.truthState
  observedState := snapshot.observedState
  statuses := snapshot.invariantEvaluations.map fun item => (item.invariantId, item.status)

def runFacts (run : SimulationRun) : RunFacts where
  scenarioId := run.scenarioId
  familyId := run.familyId
  status := run.status
  timeline := run.timeline
  snapshots := run.snapshots.map snapshotFacts
  observations := run.observations
  finalSummary := run.finalSummary

def SnapshotFacts.renamed (facts : SnapshotFacts) : SnapshotFacts :=
  { facts with
    truthState := renameWorld σ facts.truthState
    observedState := renameWorld σ facts.observedState }

def RunFacts.renamed (facts : RunFacts) : RunFacts :=
  { facts with
    timeline := facts.timeline.map (TimelineEvent.renamed σ failures)
    snapshots := facts.snapshots.map (SnapshotFacts.renamed σ)
    observations := facts.observations.map (Observation.renamed σ) }

/-- The run of the renamed scenario is the renamed run, for however many turns. -/
def Equivariant (texts : ValueTexts) (failures : FailureTexts) (scenario : ScenarioInstance) : Prop :=
  ∀ (σ : IdRenaming) (fuel : Nat), (run texts failures (scenario.renamed σ) fuel).map runFacts =
    (run texts failures scenario fuel).map fun run => (runFacts run).renamed σ failures

end Runs

section Opaque

def AvoidsId (path : String) : Prop := (pathParts path).head? ≠ some "entity_id"

instance (path : String) : Decidable (AvoidsId path) := by
  unfold AvoidsId
  infer_instance

def ComparesNoId : Predicate → Prop
  | .fieldEquals _ path _ | .fieldNotEquals _ path _ => path ≠ "" ∧ AvoidsId path
  | .fieldsEqual _ leftPath _ rightPath => (leftPath ≠ "" ∧ AvoidsId leftPath) ∧ rightPath ≠ "" ∧
      AvoidsId rightPath
  | _ => True

def WritesNoId (mutation : StateMutation) : Prop :=
  mutation.mutationType = .setState → ∀ path, mutation.path = some path → AvoidsId path

/-- The ids in the states of entities are neither compared nor written. -/
structure ScenarioInstance.IdsOpaque (scenario : ScenarioInstance) : Prop where
  invariants : ∀ invariant ∈ scenario.invariants, ∀ part ∈ parts invariant.predicate, ComparesNoId part
  conditions : ∀ rule ∈ scenario.transitionRules, ∀ condition ∈ rule.conditions, ∀ part ∈ parts condition,
    ComparesNoId part
  effects : ∀ rule ∈ scenario.transitionRules, ∀ effect ∈ rule.effects, WritesNoId effect
  disturbances : ∀ scheduled ∈ scenario.disturbance.mutations, WritesNoId scheduled.mutation
  overrides : ∀ entry ∈ scenario.observationProfile.contradictoryOverrides.entries,
    ∀ override ∈ entry.2.entries,
    AvoidsId override.1

end Opaque

section States

variable {σ : IdRenaming} {state value : Value} {path key : String} {entityId : String}

theorem renameField_of_ne (h : key ≠ "entity_id") : renameField σ key value = value := if_neg h

theorem map_renameField_of_ne (h : key ≠ "entity_id") (found : Option Value) :
    found.map (renameField σ key) = found := by
  cases found with
  | none => rfl
  | some value => exact congrArg some (renameField_of_ne h)

theorem number?_renameText (value : Value) : (renameText σ value).number? = value.number? := by
  cases value <;> rfl

theorem number?_renameState (state : Value) : (renameState σ state).number? = state.number? := by
  cases state <;> rfl

theorem field_renameState (key : String) (state : Value) :
     Value.entry? key (renameState σ state) = ( Value.entry? key state).map (renameField σ key) := by
  cases state with
  | dict fields =>
    show ((fields.map _).find? _).map Prod.snd = ((fields.find? _).map Prod.snd).map _
    rw [List.find?_map, Option.map_map, Option.map_map]
    apply Option.map_congr
    intro field hfield
    have hkey : field.1 = key := by simpa using List.find?_some hfield
    show renameField σ field.1 field.2 = renameField σ key field.2
    rw [hkey]
  | _ => rfl

theorem ne_of_avoidsId {keys : List String} (h : AvoidsId path) (hparts : pathParts path = key :: keys) :
    key ≠ "entity_id" := by
  rw [AvoidsId, hparts] at h
  exact fun hkey => h (congrArg some hkey)

theorem getPath_renameState (hpath : path ≠ "") (havoids : AvoidsId path) :
    (renameState σ state).getPath path = state.getPath path := by
  obtain ⟨key, keys, hparts⟩ := List.exists_cons_of_ne_nil (pathParts_ne_nil path)
  rw [Value.getPath, Value.getPath, if_neg hpath, if_neg hpath, hparts, Value.valueAt, Value.valueAt,
    field_renameState, map_renameField_of_ne (ne_of_avoidsId havoids hparts)]

theorem getPath_renameState_any (state : Value) (path : String) : ∃ g : Value → Value,
    (∀ value, (g value).number? = value.number?) ∧ (renameState σ state).getPath path =
      (state.getPath path).map g := by
  by_cases hpath : path = ""
  · subst hpath
    exact ⟨renameState σ, number?_renameState, rfl⟩
  · obtain ⟨key, keys, hparts⟩ := List.exists_cons_of_ne_nil (pathParts_ne_nil path)
    by_cases hkey : key = "entity_id"
    · subst hkey
      cases keys with
      | nil =>
        refine ⟨renameText σ, number?_renameText, ?_⟩
        rw [Value.getPath, Value.getPath, if_neg hpath, if_neg hpath, hparts, Value.valueAt, Value.valueAt,
          field_renameState]
        cases Value.entry? "entity_id" state <;> rfl
      | cons next keys =>
        refine ⟨id, fun _ => rfl, ?_⟩
        rw [Value.getPath, Value.getPath, if_neg hpath, if_neg hpath, hparts, Value.valueAt, Value.valueAt,
          field_renameState, Option.map_id, id]
        -- there is nothing below a text, renamed or not
        cases Value.entry? "entity_id" state with
        | none => rfl
        | some value => cases value <;> rfl
    · refine ⟨id, fun _ => rfl, ?_⟩
      have havoids : AvoidsId path := by
        rw [AvoidsId, hparts]
        exact fun h => hkey (Option.some.inj h)
      rw [getPath_renameState hpath havoids, Option.map_id, id]

private theorem ofList_renamed (fields : List (String × Value)) :
    Dict.ofList (fields.map fun field => (field.1, renameField σ field.1 field.2)) =
      (Dict.ofList fields).mapEntries (renameField σ) := (Dict.mapEntries_ofList _ _).symm

private theorem entries_renamed_set {fields : List (String × Value)} {replaced : Value}
    (h : renameField σ key value = replaced) :
    ((Dict.ofList (fields.map fun field => (field.1, renameField σ field.1 field.2))).set key
      replaced).entries =
      (((Dict.ofList fields).set key value).entries).map fun field =>
        (field.1, renameField σ field.1 field.2) := by
  rw [ofList_renamed, ← h, ← Dict.mapEntries_set, Dict.entries_mapEntries]

theorem setIn_renameState (havoids : AvoidsId path) (value : Value) :
    setIn (renameState σ state) path value = renameState σ (setIn state path value) := by
  obtain ⟨key, keys, hparts⟩ := List.exists_cons_of_ne_nil (pathParts_ne_nil path)
  have hkey := ne_of_avoidsId havoids hparts
  cases state with
  | dict fields =>
    show Value.dict (Value.setPath _ path value) = .dict ((Value.setPath fields path value).map _)
    rw [Value.setPath, Value.setPath, hparts]
    congr 1
    cases keys with
    | nil => exact entries_renamed_set (renameField_of_ne hkey)
    | cons next keys =>
      have hchild : Value.childAt (fields.map fun field => (field.1, renameField σ field.1 field.2)) key =
          Value.childAt fields key := by
        unfold Value.childAt
        rw [ofList_renamed, Dict.get?_mapEntries, map_renameField_of_ne hkey]
      rw [Value.setAt_cons, Value.setAt_cons, hchild]
      exact entries_renamed_set (renameField_of_ne hkey)
  | _ => rfl

private theorem renameField_dict (key : String) (fields : List (String × Value)) :
    renameField σ key (.dict fields) = .dict fields := by
  unfold renameField
  split <;> rfl

private theorem eq_dict_of_renameField {fields : List (String × Value)}
    (h : renameField σ key value = .dict fields) : value = .dict fields := by
  unfold renameField at h
  split at h
  · cases value <;> first | exact h | cases h
  · exact h

theorem deleteIn_renameState (state : Value) (path : String) :
    deleteIn (renameState σ state) path = renameState σ (deleteIn state path) := by
  obtain ⟨key, keys, hparts⟩ := List.exists_cons_of_ne_nil (pathParts_ne_nil path)
  cases state with
  | dict fields =>
    show Value.dict (Value.deletePath _ path) = .dict ((Value.deletePath fields path).map _)
    rw [Value.deletePath, Value.deletePath, hparts]
    congr 1
    cases keys with
    | nil =>
      rw [Value.deleteAt, Value.deleteAt, ofList_renamed, ← Dict.mapEntries_erase, Dict.entries_mapEntries]
    | cons next keys =>
      by_cases hchild : ∃ child, (Dict.ofList fields).get? key = some (.dict child)
      · obtain ⟨child, hchild⟩ := hchild
        have hrenamed : (Dict.ofList (fields.map fun field => (field.1, renameField σ field.1 field.2))).get?
            key = some (.dict child) := by
          rw [ofList_renamed, Dict.get?_mapEntries, hchild, Option.map_some, renameField_dict]
        rw [Value.deleteAt_child hrenamed, Value.deleteAt_child hchild]
        exact entries_renamed_set (renameField_dict key _)
      · rw [not_exists] at hchild
        have hrenamed : ∀ child, (Dict.ofList (fields.map fun field =>
            (field.1, renameField σ field.1 field.2))).get? key ≠ some (.dict child) := by
          intro child h
          rw [ofList_renamed, Dict.get?_mapEntries, Option.map_eq_some_iff] at h
          obtain ⟨found, hfound, hsame⟩ := h
          exact hchild child (hfound.trans (congrArg some (eq_dict_of_renameField hsame)))
        rw [Value.deleteAt_stop hrenamed, Value.deleteAt_stop hchild]
  | _ => rfl

end States

section Mutations

variable {σ : IdRenaming} {world : World} {mutation : StateMutation}

theorem get?_renameWorld (entityId : String) :
    (renameWorld σ world).get? (σ.ids entityId) = (world.get? entityId).map (renameState σ) :=
  Dict.get?_relabel ..

theorem renameState_fields (entity : EntityDocument) :
    renameState σ (.dict entity.fields) = .dict (renameEntity σ entity).fields := by
  simp [renameState, EntityDocument.fields, renameField, renameText, renameEntity]

theorem fromEntities_renamed (entities : List EntityDocument) :
    fromEntities (entities.map (renameEntity σ)) = renameWorld σ (fromEntities entities) := by
  rw [fromEntities, fromEntities, renameWorld, Dict.relabel_ofList, List.map_map, List.map_map]
  exact congrArg Dict.ofList (List.map_congr_left fun entity _ => Prod.ext rfl (renameState_fields entity).symm)

theorem otherFields_set_id {payload : JsonObject} (value : Json) (h : "entity_id" ∈ payload.keys) :
    otherFields (payload.set "entity_id" value) = otherFields payload := by
  have hkeys : (payload.set "entity_id" value).keys = payload.keys := by
    rw [Dict.keys, Dict.entries_set_of_mem _ h, List.map_map, Dict.keys]
    apply List.map_congr_left
    intro entry _
    by_cases hentry : entry.1 = "entity_id" <;> simp [hentry]
  have hother : ∀ key, key ≠ "entity_id" → (payload.set "entity_id" value).get? key = payload.get? key :=
    fun key hkey => Dict.get?_set_ne payload value hkey
  unfold otherFields
  rw [hkeys, hother "schema_version" (by decide), hother "entity_type" (by decide),
    hother "entity_type_lineage" (by decide), hother "name" (by decide), hother "plane" (by decide),
    hother "namespace" (by decide), hother "provider" (by decide), hother "labels" (by decide),
    hother "desired_state" (by decide), hother "observed_state" (by decide), hother "capabilities" (by decide),
    hother "extensions" (by decide)]

theorem renamed_otherFields {payload : JsonObject} {fields : List (String × Value)}
    (h : otherFields payload = some fields) :
    (fields.map fun field => (field.1, renameField σ field.1 field.2)) = fields := by
  unfold otherFields at h
  obtain ⟨-, -, h⟩ := Option.bind_eq_some_iff.mp h
  obtain ⟨-, -, h⟩ := Option.bind_eq_some_iff.mp h
  obtain ⟨entityType, -, h⟩ := Option.bind_eq_some_iff.mp h
  obtain ⟨lineage, -, h⟩ := Option.bind_eq_some_iff.mp h
  obtain ⟨name, -, h⟩ := Option.bind_eq_some_iff.mp h
  obtain ⟨plane, -, h⟩ := Option.bind_eq_some_iff.mp h
  obtain ⟨-, -, h⟩ := Option.bind_eq_some_iff.mp h
  obtain ⟨namespaceName, -, h⟩ := Option.bind_eq_some_iff.mp h
  obtain ⟨provider, -, h⟩ := Option.bind_eq_some_iff.mp h
  obtain ⟨labels, -, h⟩ := Option.bind_eq_some_iff.mp h
  obtain ⟨desired, -, h⟩ := Option.bind_eq_some_iff.mp h
  obtain ⟨observed, -, h⟩ := Option.bind_eq_some_iff.mp h
  obtain ⟨capabilities, -, h⟩ := Option.bind_eq_some_iff.mp h
  obtain ⟨extensions, -, h⟩ := Option.bind_eq_some_iff.mp h
  obtain rfl := Option.some.inj h
  simp [renameField]

theorem requiredText_str (text : String) : requiredText (some (.str text)) = if text =
    "" then none else some text := by
  show (some text).filter _ = _
  by_cases htext : text = "" <;> simp [Option.filter, htext]

theorem validateEntity_renamePayload (payload : JsonObject) : validateEntity (renamePayload σ payload) =
    (validateEntity payload).map fun entity => (σ.ids entity.1, renameState σ entity.2) := by
  have hvalid : ∀ entityId fields, otherFields payload = some fields →
      renameState σ (.dict (("entity_id", .str entityId) :: fields)) =
        .dict (("entity_id", .str (σ.ids entityId)) :: fields) := by
    intro entityId fields hfields
    show Value.dict (_ :: fields.map _) = _
    rw [renamed_otherFields hfields]
    rfl
  unfold renamePayload
  split
  · rename_i entityId hid
    unfold validateEntity
    rw [Dict.get?_set_self, otherFields_set_id _ (Dict.mem_keys_of_get? hid), hid]
    rw [requiredText_str, requiredText_str]
    by_cases hentity : entityId = ""
    · rw [if_pos hentity, hentity, σ.ids_empty, if_pos rfl]
      rfl
    · have hrenamed : σ.ids entityId ≠ "" := fun h => hentity (σ.ids.injective (h.trans σ.ids_empty.symm))
      rw [if_neg hentity, if_neg hrenamed]
      cases hfields : otherFields payload with
      | none => rfl
      | some fields => exact congrArg some (Prod.ext rfl (hvalid entityId fields hfields).symm)
  · rename_i hid
    have hnone : requiredText (payload.get? "entity_id") = none := by
      rw [requiredText, Option.filter_eq_none_iff]
      intro text htext
      obtain ⟨value, hvalue, hstring⟩ := Option.bind_eq_some_iff.mp htext
      cases value with
      | str found => exact absurd hvalue (hid found)
      | _ => cases hstring
    unfold validateEntity
    rw [hnone]
    rfl

theorem applyMutation_renamed (h : WritesNoId mutation) :
    applyMutation (renameWorld σ world) (mutation.renamed σ) =
    ((applyMutation world mutation).map (renameWorld σ)).mapError (MutationFailure.renamed σ) := by
  unfold applyMutation
  rw [show (mutation.renamed σ).mutationType = mutation.mutationType from rfl]
  cases htype : mutation.mutationType with
  | setState =>
    dsimp only
    rw [show (mutation.renamed σ).path = mutation.path from rfl]
    cases hpath : mutation.path.filter fun path => path ≠ "" with
    | none => rfl
    | some path =>
      have havoids : AvoidsId path := h htype path (Option.filter_eq_some_iff.mp hpath).1
      dsimp only
      rw [show (mutation.renamed σ).entityId = σ.ids mutation.entityId from rfl, get?_renameWorld]
      cases world.get? mutation.entityId with
      | none => rfl
      | some state =>
        show Except.ok _ = Except.ok (renameWorld σ _)
        rw [renameWorld, renameWorld, Dict.relabel_set, ← setIn_renameState havoids]
        rfl
  | deleteEntity =>
    show Except.ok _ = Except.ok (renameWorld σ _)
    rw [renameWorld, renameWorld, Dict.relabel_erase]
    rfl
  | createEntity =>
    dsimp only
    rw [show (mutation.renamed σ).entityPayload = mutation.entityPayload.map (renamePayload σ) from rfl]
    cases mutation.entityPayload with
    | none => rfl
    | some payload =>
      rw [Option.map_some]
      dsimp only
      rw [validateEntity_renamePayload]
      cases validateEntity payload with
      | none => rfl
      | some entity =>
        rw [Option.map_some]
        dsimp only
        rw [get?_renameWorld, Option.isSome_map]
        split
        · rfl
        · show Except.ok _ = Except.ok (renameWorld σ _)
          rw [renameWorld, renameWorld, Dict.relabel_set]

end Mutations

end KubeOps.Simulator
