import KubeOps.Foundation.Segments
import KubeOps.Scenarios.Rewriting
import KubeOps.Simulator.Engine

/-! Several compiled scenarios in one world: the entities of each stand behind its alias. -/
namespace KubeOps.Scenarios

open KubeOps.Foundation KubeOps.Models KubeOps.Discovery KubeOps.Invariants KubeOps.Simulator

section Models

inductive CompositionOperator where
  | concurrent | sequential | conditional | masking | recoveryInterference
deriving DecidableEq, Repr

def CompositionOperator.text : CompositionOperator → String
  | .concurrent => "concurrent"
  | .sequential => "sequential"
  | .conditional => "conditional"
  | .masking => "masking"
  | .recoveryInterference => "recovery_interference"

/-- `^[A-Za-z][A-Za-z0-9_-]*$` -/
def isAlias (text : String) : Bool :=
  text.toList.head?.any Char.isAlpha && text.toList.all fun c => c.isAlphanum || c = '_' || c = '-'

structure CompositionComponent where
  aliasName : String
  aliasName_valid : isAlias aliasName = true
  familyId : String
  bindings : JsonObject := ∅
  disturbanceId : Option String := none
  observationProfileId : Option String := none
  startAtSeconds : Option Nat := none
  durationHintSeconds : Nat := 8
  durationHintSeconds_pos : 0 < durationHintSeconds := by decide
  activationPredicate : Option Predicate := none

structure ScenarioComposition where
  compositionId : String
  operator : CompositionOperator
  components : List CompositionComponent
  components_two : 2 ≤ components.length
  aliases_nodup : (components.map CompositionComponent.aliasName).Nodup
  bridgeRelationships : List Relationship := []
  maskedAliases : List String := []
  masked_known : maskedAliases ⊆ components.map CompositionComponent.aliasName
  masked_some : operator = .masking → maskedAliases ≠ []
  activated : operator = .conditional → ∀ component ∈ components.tail, component.activationPredicate ≠ none
  gapSeconds : Nat := 1

/-- A component with its scenario and the second at which it begins. -/
structure CompiledComponent where
  component : CompositionComponent
  scenario : ScenarioInstance
  offset : Nat

/-- What `compose` collects over the components. -/
structure Parts where
  entities : List EntityDocument := []
  relationships : List Relationship := []
  invariants : List InvariantDefinition := []
  rules : List TransitionRule := []
  mutations : List ScheduledMutation := []
  hiddenIds : List String := []
  hiddenPaths : Dict String (List String) := ∅
  lagSeconds : Dict String Int := ∅
  contradictions : Dict String (Dict String Json) := ∅

end Models

section Rewriting

/-- `f"{alias}::{text}"` -/
def prefixed (aliasName text : String) : String := aliasName ++ "::" ++ text

theorem toList_prefixed (aliasName text : String) :
    (prefixed aliasName text).toList = aliasName.toList ++ ':' :: ':' :: text.toList := by
  simp [prefixed]

theorem prefixed_ne (aliasName text : String) : prefixed aliasName text ≠ "" := by
  intro h
  have hlist := congrArg String.toList h
  rw [toList_prefixed] at hlist
  simp at hlist

def entityMapOf (component : CompositionComponent) (entities : List EntityDocument) : Dict String String :=
  Dict.ofList (entities.map fun entity => (entity.entityId, prefixed component.aliasName entity.entityId))

/-- `entity_map[entity_id]` -/
def mapped (python : Python) (entityMap : Dict String String) (entityId : String) : Except PyError String :=
  match entityMap.get? entityId with
  | some found => .ok found
  | none => .error (.keyError (python.repr (.str entityId)))

def prefixEntity (component : CompositionComponent) (entity : EntityDocument) : EntityDocument :=
  { entity with
    entityId := prefixed component.aliasName entity.entityId
    entityId_ne := prefixed_ne component.aliasName entity.entityId }

/-- `_prefix_entities`; the map has each of the entities. -/
def prefixEntities (component : CompositionComponent) (entities : List EntityDocument) : List EntityDocument :=
  entities.map (prefixEntity component)

variable (python : Python) (component : CompositionComponent) (entityMap : Dict String String)

/-- `_prefix_relationships` -/
def prefixRelationships (relationships : List Relationship) : Except PyError (List Relationship) :=
  relationships.mapM fun relationship => do
    let sourceId ← mapped python entityMap relationship.sourceId
    let targetId ← mapped python entityMap relationship.targetId
    return { relationship with
      relationshipId := prefixed component.aliasName relationship.relationshipId, sourceId, targetId }

/-- `_prefix_invariants` -/
def prefixInvariants (invariants : List InvariantDefinition) : Except PyError (List InvariantDefinition) :=
  invariants.mapM fun invariant => do
    let subjectId ← mapped python entityMap invariant.subjectId
    return { invariant with
      invariantId := prefixed component.aliasName invariant.invariantId
      subjectId
      predicate := rewritePredicate entityMap invariant.predicate }

/-- `entity_map.get(payload["entity_id"], ...)` needs an id that can be a key. -/
def checkPayload (mutation : StateMutation) : Except PyError Unit :=
  match mutation.entityPayload.bind fun payload => payload.get? "entity_id" with
  | some entityId => entityId.hashed.map fun _ => ()
  | none => .ok ()

/-- The payload under the new id; an id that is no text is no key of the map. -/
def rewritePayload (payload : JsonObject) : JsonObject :=
  match payload.get? "entity_id" with
  | some (.str entityId) => payload.set "entity_id" (.str (rename entityMap entityId))
  | _ => payload

/-- `_rewrite_mutation`, where `checkPayload` raises nothing. -/
def rewriteMutation (mutation : StateMutation) : StateMutation :=
  { mutation with
    entityId := rename entityMap mutation.entityId
    entityPayload := mutation.entityPayload.map (rewritePayload entityMap) }

def prefixRule (rule : TransitionRule) : TransitionRule :=
  { rule with
    ruleId := prefixed component.aliasName rule.ruleId
    conditions := rule.conditions.map (rewritePredicate entityMap)
    effects := rule.effects.map (rewriteMutation entityMap) }

/-- `_prefix_rules` -/
def prefixRules (rules : List TransitionRule) : List TransitionRule :=
  rules.map (prefixRule component entityMap)

def prefixMutation (offset : Nat) (scheduled : ScheduledMutation) : ScheduledMutation :=
  { scheduled with
    mutationId := prefixed component.aliasName scheduled.mutationId
    atSeconds := scheduled.atSeconds + offset
    mutation := rewriteMutation entityMap scheduled.mutation }

/-- `_prefix_mutations` -/
def prefixMutations (mutations : List ScheduledMutation) (offset : Nat) : List ScheduledMutation :=
  mutations.map (prefixMutation component entityMap offset)

def activationRule (condition : Predicate) (scheduled : ScheduledMutation) : TransitionRule where
  ruleId := prefixed component.aliasName ("activation::" ++ scheduled.mutationId)
  title := "Conditional activation: " ++ scheduled.description
  conditions := [condition]
  effects := [scheduled.mutation]
  delaySeconds := scheduled.atSeconds
  fireOnce := true

/-- Entries of a profile, under the ids of the composition. -/
def addMapped {α : Type} (collected added : Dict String α) : Except PyError (Dict String α) :=
  added.entries.foldlM (fun collected entry => do
    let entityId ← mapped python entityMap entry.1
    return collected.set entityId entry.2) collected

end Rewriting

section Composer

variable (python : Python) (compile : CompositionComponent → Except PyError ScenarioInstance)
  (spec : ScenarioComposition)

/-- `self.compiler.compile(...)`; the id and the time of the scenario are given by the composition. -/
def compileComponent (component : CompositionComponent) : Except PyError ScenarioInstance := do
  let compiled ← compile component
  return { compiled with
    scenarioId := s!"{spec.compositionId}:{component.aliasName}"
    maxTimeSeconds := component.durationHintSeconds }

def ScenarioComposition.InTurn : Prop := spec.operator = .sequential ∨ spec.operator = .recoveryInterference

instance : Decidable spec.InTurn := inferInstanceAs (Decidable (_ ∨ _))

/-- The first loop of `compose`, from the cursor on. -/
def compileEach : Nat → List CompositionComponent → Except PyError (List CompiledComponent)
  | _, [] => .ok []
  | cursor, component :: rest => do
    let offset := component.startAtSeconds.getD (if spec.InTurn then cursor else 0)
    let scenario ← compileComponent compile spec component
    let later ← compileEach
      (if spec.InTurn then offset + component.durationHintSeconds + spec.gapSeconds else cursor) rest
    return { component, scenario, offset } :: later

def activationRules (index : Nat) (component : CompositionComponent) (entityMap : Dict String String)
    (mutations : List ScheduledMutation) : List TransitionRule :=
  match component.activationPredicate with
  | some predicate => if spec.operator = .conditional ∧ 0 < index then
      mutations.map (activationRule component (rewritePredicate entityMap predicate)) else []
  | none => []

/-- One turn of the second loop of `compose`. -/
def addComponent (parts : Parts) (index : Nat) (compiled : CompiledComponent) : Except PyError Parts := do
  let component := compiled.component
  let scenario := compiled.scenario
  let entityMap := entityMapOf component scenario.entities
  let relationships ← prefixRelationships python component entityMap scenario.relationships
  let invariants ← prefixInvariants python component entityMap scenario.invariants
  (scenario.transitionRules.flatMap TransitionRule.effects).forM checkPayload
  (scenario.disturbance.mutations.map ScheduledMutation.mutation).forM checkPayload
  let mutations := prefixMutations component entityMap scenario.disturbance.mutations compiled.offset
  let profile := scenario.observationProfile
  let masked := if spec.operator = .masking ∧
    component.aliasName ∈ spec.maskedAliases then entityMap.values else []
  let hiddenPaths ← addMapped python entityMap parts.hiddenPaths profile.hiddenPaths
  let lagSeconds ← addMapped python entityMap parts.lagSeconds profile.lagSeconds
  let contradictions ← addMapped python entityMap parts.contradictions profile.contradictoryOverrides
  return {
    entities := parts.entities ++ prefixEntities component scenario.entities
    relationships := parts.relationships ++ relationships
    invariants := parts.invariants ++ invariants
    rules := parts.rules ++ prefixRules component entityMap scenario.transitionRules ++
      activationRules spec index component entityMap mutations
    mutations := parts.mutations ++ (if spec.operator = .conditional ∧ 0 < index then [] else mutations)
    hiddenIds := parts.hiddenIds ++ masked ++ profile.hiddenEntityIds.filterMap entityMap.get?
    hiddenPaths
    lagSeconds
    contradictions }

/-- The second loop of `compose`. -/
def addEach : Parts → Nat → List CompiledComponent → Except PyError Parts
  | parts, _, [] => .ok parts
  | parts, index, compiled :: rest => do
    let added ← addComponent python spec parts index compiled
    addEach added (index + 1) rest

/-- `(item.at_seconds, item.mutation_id)` -/
def byTimeAndId (one two : ScheduledMutation) : Prop :=
  one.atSeconds < two.atSeconds ∨ one.atSeconds = two.atSeconds ∧ one.mutationId ≤ two.mutationId

instance : DecidableRel byTimeAndId := fun _ _ => inferInstanceAs (Decidable (_ ∨ _))

def checkBridge (knownIds : List String) (relationship : Relationship) : Except PyError Unit :=
  if relationship.sourceId ∉ knownIds ∨ relationship.targetId ∉ knownIds then
    .error (.valueError s!"bridge relationship {relationship.relationshipId} references unknown entity")
  else .ok ()

/-- `max(offset + duration)`, of which there is at least one. -/
def latestEnd (compiled : List CompiledComponent) : Nat :=
  compiled.foldl (fun latest item => max latest (item.offset + item.component.durationHintSeconds)) 0

def wholeOf (newId : String) (compiled : List CompiledComponent) (parts : Parts) : ScenarioInstance where
  scenarioId := newId
  familyId := "composition." ++ spec.operator.text
  entities := parts.entities
  relationships := parts.relationships ++ spec.bridgeRelationships
  invariants := parts.invariants
  transitionRules := parts.rules
  disturbance := ⟨spec.compositionId ++ ".disturbance", parts.mutations.insertionSort byTimeAndId⟩
  observationProfile := {
    profileId := spec.compositionId ++ ".observation"
    hiddenEntityIds := parts.hiddenIds
    hiddenPaths := parts.hiddenPaths
    lagSeconds := parts.lagSeconds
    contradictoryOverrides := parts.contradictions }
  maxTimeSeconds := latestEnd compiled + spec.gapSeconds

/-- `ScenarioComposer.compose`, with the compiler that it was made with and the id that it makes up. -/
def compose (newId : String) : Except PyError ScenarioInstance := do
  let compiled ← compileEach compile spec 0 spec.components
  let parts ← addEach python spec {} 0 compiled
  spec.bridgeRelationships.forM (checkBridge (parts.entities.map fun entity => entity.entityId))
  let whole := wholeOf spec newId compiled parts
  whole.validateReferences
  return whole

end Composer

section Collected

variable {python : Python} {compile : CompositionComponent → Except PyError ScenarioInstance}
  {spec : ScenarioComposition} {newId : String} {whole : ScenarioInstance} {compiled : List CompiledComponent}
  {item : CompiledComponent}

theorem nodup_of_validateReferences (h : whole.validateReferences = .ok ()) :
    (whole.entities.map fun entity => entity.entityId).Nodup := by
  unfold ScenarioInstance.validateReferences at h
  dsimp only at h
  split at h
  · cases h
  · rename_i hlength
    have hsame : (whole.entities.map fun entity => entity.entityId).dedup =
        whole.entities.map fun entity => entity.entityId := by
      apply (List.dedup_sublist _).eq_of_length
      rw [not_not.mp hlength, List.length_map]
    exact hsame ▸ List.nodup_dedup _

theorem compose_eq_ok (h : compose python compile spec newId = .ok whole)
    (hcompiled : compileEach compile spec 0 spec.components = .ok compiled) :
    ∃ parts, addEach python spec {} 0 compiled = .ok parts ∧ whole = wholeOf spec newId compiled parts ∧
      (whole.entities.map fun entity => entity.entityId).Nodup := by
  obtain ⟨found, hfound, h⟩ := except_bind_eq_ok h
  rw [hcompiled] at hfound
  obtain rfl := Except.ok.inj hfound
  obtain ⟨parts, hparts, h⟩ := except_bind_eq_ok h
  obtain ⟨-, -, h⟩ := except_bind_eq_ok h
  obtain ⟨⟨⟩, hchecked, h⟩ := except_bind_eq_ok h
  obtain rfl := Except.ok.inj h
  exact ⟨parts, hparts, rfl, nodup_of_validateReferences hchecked⟩

theorem components_of_compileEach {cursor : Nat} {components : List CompositionComponent}
    (h : compileEach compile spec cursor components = .ok compiled) :
    compiled.map CompiledComponent.component = components ∧
      ∀ item ∈ compiled, item.scenario.maxTimeSeconds = item.component.durationHintSeconds := by
  induction components generalizing cursor compiled with
  | nil =>
    obtain rfl := Except.ok.inj h
    exact ⟨rfl, fun _ hmem => absurd hmem List.not_mem_nil⟩
  | cons component components ih =>
    obtain ⟨scenario, hscenario, h⟩ := except_bind_eq_ok h
    obtain ⟨later, hlater, h⟩ := except_bind_eq_ok h
    obtain rfl := Except.ok.inj h
    obtain ⟨hcomponents, htimes⟩ := ih hlater
    obtain ⟨made, -, hmade⟩ := except_bind_eq_ok hscenario
    obtain rfl := Except.ok.inj hmade
    constructor
    · rw [List.map_cons, hcomponents]
    · rw [List.forall_mem_cons]
      exact ⟨rfl, htimes⟩

theorem le_latestEnd (h : item ∈ compiled) :
    item.offset + item.component.durationHintSeconds ≤ latestEnd compiled := by
  have hstart : ∀ (items : List CompiledComponent) (latest : Nat), latest ≤ items.foldl
      (fun latest item => max latest (item.offset + item.component.durationHintSeconds)) latest := by
    intro items
    induction items with
    | nil => exact fun latest => Nat.le_refl latest
    | cons first rest ih => exact fun latest => (Nat.le_max_left _ _).trans (ih _)
  obtain ⟨front, back, rfl⟩ := List.append_of_mem h
  rw [latestEnd, List.foldl_append, List.foldl_cons]
  exact (Nat.le_max_right _ _).trans (hstart back _)

theorem collected_of_addEach (hconcurrent : spec.operator = .concurrent) {parts reached : Parts} {index : Nat}
    (h : addEach python spec parts index compiled = .ok reached) :
    reached.entities = parts.entities ++ compiled.flatMap (fun item =>
      prefixEntities item.component item.scenario.entities) ∧
    reached.rules = parts.rules ++ compiled.flatMap (fun item =>
      prefixRules item.component (entityMapOf item.component item.scenario.entities)
        item.scenario.transitionRules) ∧
    reached.mutations = parts.mutations ++ compiled.flatMap (fun item =>
      prefixMutations item.component (entityMapOf item.component item.scenario.entities)
        item.scenario.disturbance.mutations item.offset) := by
  induction compiled generalizing parts index with
  | nil =>
    obtain rfl := Except.ok.inj h
    simp
  | cons first rest ih =>
    obtain ⟨added, hadded, h⟩ := except_bind_eq_ok h
    obtain ⟨relationships, -, hadded⟩ := except_bind_eq_ok hadded
    obtain ⟨invariants, -, hadded⟩ := except_bind_eq_ok hadded
    obtain ⟨-, -, hadded⟩ := except_bind_eq_ok hadded
    obtain ⟨-, -, hadded⟩ := except_bind_eq_ok hadded
    obtain ⟨hiddenPaths, -, hadded⟩ := except_bind_eq_ok hadded
    obtain ⟨lagSeconds, -, hadded⟩ := except_bind_eq_ok hadded
    obtain ⟨contradictions, -, hadded⟩ := except_bind_eq_ok hadded
    obtain rfl := Except.ok.inj hadded
    obtain ⟨hentities, hrules, hmutations⟩ := ih h
    have hnone : activationRules spec index first.component
        (entityMapOf first.component first.scenario.entities)
        (prefixMutations first.component (entityMapOf first.component first.scenario.entities)
          first.scenario.disturbance.mutations first.offset) = [] := by
      unfold activationRules
      cases first.component.activationPredicate with
      | none => rfl
      | some predicate => exact if_neg fun hconditional => by simp [hconcurrent] at hconditional
    rw [hentities, hrules, hmutations, List.flatMap_cons, List.flatMap_cons, List.flatMap_cons, hnone,
      if_neg fun hconditional => by simp [hconcurrent] at hconditional, List.append_nil, List.append_assoc,
      List.append_assoc, List.append_assoc]
    exact ⟨rfl, rfl, rfl⟩

end Collected

end KubeOps.Scenarios
