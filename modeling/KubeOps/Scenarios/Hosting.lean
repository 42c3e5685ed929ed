import KubeOps.Scenarios.Namespaces
import KubeOps.Simulator.Queueing

/-! A component in a composition: its rules fire and its disturbances wait there as they do alone, as long as its
entities are in the same states. -/
namespace KubeOps.Scenarios

open KubeOps.Foundation KubeOps.Models KubeOps.Discovery KubeOps.Invariants KubeOps.Simulator

section Components

variable (item : CompiledComponent)

abbrev CompiledComponent.entityMap : Dict String String := entityMapOf item.component item.scenario.entities

abbrev CompiledComponent.places : IdRenaming := placing item.component item.scenario.entities

def CompiledComponent.mutations : List StateMutation :=
  item.scenario.disturbance.mutations.map ScheduledMutation.mutation ++
    item.scenario.transitionRules.flatMap TransitionRule.effects

def CompiledComponent.footprint : List String :=
  entityIds item.scenario.entities ++ item.mutations.flatMap idsOf ++
    item.scenario.transitionRules.flatMap fun rule => rule.conditions.flatMap namedEntities

abbrev CompiledComponent.Stands (whole own : World) : Prop :=
  Scenarios.Stands item.component item.scenario.entities item.footprint whole own

/-- The component is on its own under its alias: its conditions say the same there, it writes no ids, it names no
entity of another component, and its disturbances of one second are listed in the order of their ids. -/
structure CompiledComponent.SelfContained (aliases : List String) : Prop where
  conditions : ∀ rule ∈ item.scenario.transitionRules, ∀ condition ∈ rule.conditions, ∀ part ∈ parts condition,
    SaysTheSame (entityIds item.scenario.entities) part
  mutations : ∀ mutation ∈ item.mutations, WritesNoId mutation
  names : ∀ entityId ∈ item.footprint,
    entityId ∈ entityIds item.scenario.entities ∨
      ∀ aliasName ∈ item.component.aliasName :: aliases, behind aliasName entityId = false
  listed : item.scenario.disturbance.mutations.Pairwise fun one two => one.atSeconds = two.atSeconds →
    prefixed item.component.aliasName one.mutationId ≤ prefixed item.component.aliasName two.mutationId

/-- Whether the component has put the item into the queue of the composition. -/
def owns (aliasName : String) (queued : QueueItem) : Bool :=
  behind aliasName (queued.ruleId.getD queued.scheduled.mutationId)

def CompiledComponent.dueIn (queued : QueueItem) : Nat × StateMutation :=
  (item.offset + queued.atSeconds, queued.scheduled.mutation.renamed item.places)

def dueOf (queued : QueueItem) : Nat × StateMutation := (queued.atSeconds, queued.scheduled.mutation)

variable {item} {aliases : List String} {mutation : StateMutation} {rule : TransitionRule}
  {condition : Predicate} {whole own : World} {entityId : String}

theorem mem_footprint_of_entity (h : entityId ∈ entityIds item.scenario.entities) : entityId ∈ item.footprint :=
  List.mem_append_left _ (List.mem_append_left _ h)

theorem idsOf_subset_footprint (h : mutation ∈ item.mutations) : idsOf mutation ⊆ item.footprint :=
  fun _ hid => List.mem_append_left _ (List.mem_append_right _ (List.mem_flatMap.mpr ⟨mutation, h, hid⟩))

theorem namedEntities_subset_footprint (hrule : rule ∈ item.scenario.transitionRules)
    (hcondition : condition ∈ rule.conditions) : namedEntities condition ⊆ item.footprint :=
  fun _ hid => List.mem_append_right _ (List.mem_flatMap.mpr
    ⟨rule, hrule, List.mem_flatMap.mpr ⟨condition, hcondition, hid⟩⟩)

theorem effect_mem_mutations (hrule : rule ∈ item.scenario.transitionRules) (h : mutation ∈ rule.effects) :
    mutation ∈ item.mutations := List.mem_append_right _ (List.mem_flatMap.mpr ⟨rule, hrule, h⟩)

theorem CompiledComponent.SelfContained.placed (h : item.SelfContained aliases)
    (hid : entityId ∈ item.footprint) :
    Placed item.component item.scenario.entities entityId :=
  (h.names entityId hid).imp_right fun hnone => hnone _ List.mem_cons_self

theorem rewriteMutation_places (h : item.SelfContained aliases)
    (hmutation : mutation ∈ item.mutations) :
    rewriteMutation item.entityMap mutation =
      mutation.renamed item.places :=
  rewriteMutation_eq fun _ hid => h.placed (idsOf_subset_footprint hmutation hid)

theorem applyMutation_stands (h : item.SelfContained aliases) (hmutation : mutation ∈ item.mutations)
    (hstands : item.Stands whole own) :
    (∃ one two, applyMutation whole (mutation.renamed item.places) = .error one ∧
      applyMutation own mutation = .error two) ∨
    ∃ whole' own', applyMutation whole (mutation.renamed item.places) = .ok whole' ∧
      applyMutation own mutation = .ok own' ∧
        item.Stands whole' own' := by
  have htouched : touched (mutation.renamed item.places) ⊆ item.footprint.map item.places.ids := by
    rw [touched_renamed]
    exact List.map_subset _ fun _ hid => idsOf_subset_footprint hmutation (touched_subset mutation hid)
  have hrenamed := @applyMutation_renamed item.places own mutation (h.mutations mutation hmutation)
  have hagree := applyMutation_agree htouched hstands
  cases happlied : applyMutation own mutation with
  | error failure =>
    rw [hrenamed, happlied] at hagree
    cases hagree with
    | inl hfails =>
      obtain ⟨one, hone, -⟩ := hfails
      exact .inl ⟨one, failure, hone, rfl⟩
    | inr hboth =>
      obtain ⟨one', two', hone, htwo, hafter⟩ := hboth
      cases htwo
  | ok own' =>
    rw [hrenamed, happlied] at hagree
    cases hagree with
    | inl hfails =>
      obtain ⟨failure, hone, htwo⟩ := hfails
      cases htwo
    | inr hboth =>
      obtain ⟨whole', two', hone, htwo, hafter⟩ := hboth
      obtain rfl := Except.ok.inj htwo
      exact .inr ⟨whole', own', hone, rfl, hafter⟩

theorem fires_stands {texts : ValueTexts} {fired ownFired : List String} (h : item.SelfContained aliases)
    (hrule : rule ∈ item.scenario.transitionRules)
    (hstands : item.Stands whole own)
    (hfired : prefixed item.component.aliasName rule.ruleId ∈ fired ↔ rule.ruleId ∈ ownFired) :
    fires texts whole fired (prefixRule item.component item.entityMap rule) = fires texts own ownFired rule := by
  have hholds : holds texts whole [] (prefixRule item.component item.entityMap rule) =
      holds texts own [] rule := by
    unfold holds prefixRule
    rw [List.all_map, Bool.eq_iff_iff, List.all_eq_true, List.all_eq_true]
    apply forall₂_congr
    intro condition hcondition
    have hsubset := namedEntities_subset_footprint hrule hcondition
    rw [Function.comp_apply, truth_rewritten (fun entityId hid => h.placed (hsubset hid)) hsubset hstands
      (h.conditions rule hrule condition hcondition)]
  rw [fires, fires, hholds]
  show (!(rule.fireOnce && decide (prefixed item.component.aliasName rule.ruleId ∈ fired)) && _) = _
  simp only [hfired]

end Components

section Scheduling

variable {texts : ValueTexts} {aliasName : String} {item : CompiledComponent} {aliases : List String}
  {rule : TransitionRule} {rules : List TransitionRule} {world whole own : World} {atSeconds : Nat}

theorem filter_effectItems (rule : TransitionRule) (atSeconds index order : Nat)
    (effects : List StateMutation) :
    (effectItems rule atSeconds index order effects).filter (owns aliasName) =
      if behind aliasName rule.ruleId then effectItems rule atSeconds index order effects else [] := by
  induction effects generalizing index order with
  | nil => split <;> rfl
  | cons effect effects ih =>
    rw [effectItems, List.filter_cons, ih]
    show (if behind aliasName rule.ruleId = true then _ else _) = _
    split <;> rfl

theorem map_effectItems (due : Nat → StateMutation → Nat × StateMutation) (rule : TransitionRule)
    (atSeconds index order : Nat) (effects : List StateMutation) :
    (effectItems rule atSeconds index order effects).map
      (fun queued => due queued.atSeconds queued.scheduled.mutation) =
        effects.map (due (atSeconds + rule.delaySeconds)) := by
  induction effects generalizing index order with
  | nil => rfl
  | cons effect effects ih => rw [effectItems, List.map_cons, ih, List.map_cons]

/-- No rule of the component has fired in between. -/
structure Quiet (aliasName : String) (start later : Scheduling) : Prop where
  generated : later.generated.filter (owns aliasName) = start.generated.filter (owns aliasName)
  fired : ∀ ruleId, behind aliasName ruleId = true → (ruleId ∈ later.firedRules ↔ ruleId ∈ start.firedRules)

theorem Quiet.scheduleRule {start later : Scheduling} (h : Quiet aliasName start later)
    (hrule : behind aliasName rule.ruleId = false ∨ fires texts world start.firedRules rule = false) :
    Quiet aliasName start (scheduleRule texts world atSeconds later rule) := by
  by_cases hbehind : behind aliasName rule.ruleId = true
  · -- a rule of the component, which does not fire
    have hsame : fires texts world later.firedRules rule = fires texts world start.firedRules rule := by
      unfold fires
      simp only [h.fired rule.ruleId hbehind]
    have hfires := hsame.trans (hrule.resolve_left fun hfalse => by rw [hfalse] at hbehind; cases hbehind)
    unfold Simulator.scheduleRule
    rw [hfires]
    exact h
  · unfold Simulator.scheduleRule
    split
    · constructor
      · rw [List.filter_append, filter_effectItems, if_neg hbehind, List.append_nil, h.generated]
      · intro ruleId hid
        rw [← h.fired ruleId hid]
        dsimp only
        split
        · rw [List.mem_cons, or_iff_right]
          rintro rfl
          exact hbehind hid
        · rfl
    · exact h

theorem quiet_foldl (start : Scheduling)
    (h : ∀ rule ∈ rules,
      behind aliasName rule.ruleId = false ∨ fires texts world start.firedRules rule = false) :
    Quiet aliasName start (rules.foldl (scheduleRule texts world atSeconds) start) := by
  have hall : ∀ later, Quiet aliasName start later →
      Quiet aliasName start (rules.foldl (scheduleRule texts world atSeconds) later) := by
    induction rules with
    | nil => exact fun later hlater => hlater
    | cons rule rules ih =>
      rw [List.forall_mem_cons] at h
      exact fun later hlater => ih h.2 _ (hlater.scheduleRule h.1)
  exact hall start ⟨rfl, fun _ _ => Iff.rfl⟩

structure Matched (item : CompiledComponent) (together alone : Scheduling) : Prop where
  generated : (together.generated.filter (owns item.component.aliasName)).map dueOf =
    alone.generated.map item.dueIn
  fired : ∀ ruleId, prefixed item.component.aliasName ruleId ∈ together.firedRules ↔ ruleId ∈ alone.firedRules

theorem Matched.quiet {together later alone : Scheduling} (h : Matched item together alone)
    (hquiet : Quiet item.component.aliasName together later) : Matched item later alone where
  generated := by rw [hquiet.generated, h.generated]
  fired := fun ruleId => (hquiet.fired _ (behind_prefixed _ _)).trans (h.fired ruleId)

theorem Matched.scheduleRule {together alone : Scheduling} (hself : item.SelfContained aliases)
    (hrule : rule ∈ item.scenario.transitionRules)
    (hstands : item.Stands whole own) (h : Matched item together alone) :
    Matched item (scheduleRule texts whole (item.offset + atSeconds) together
        (prefixRule item.component item.entityMap rule))
      (scheduleRule texts own atSeconds alone rule) := by
  unfold Simulator.scheduleRule
  rw [fires_stands hself hrule hstands (h.fired rule.ruleId)]
  split
  · constructor
    · have heffects : rule.effects.map (rewriteMutation item.entityMap) =
          rule.effects.map fun effect => effect.renamed item.places :=
        List.map_congr_left fun effect heffect =>
          rewriteMutation_places hself (effect_mem_mutations hrule heffect)
      dsimp only
      rw [List.filter_append, List.map_append, h.generated, List.map_append, filter_effectItems,
        if_pos (show behind item.component.aliasName (prefixRule item.component _ rule).ruleId = true from
          behind_prefixed _ _)]
      refine congrArg _ ((map_effectItems Prod.mk _ _ _ _ _).trans ?_)
      refine Eq.trans ?_ (map_effectItems (fun time effect => (item.offset + time, effect.renamed item.places))
        rule atSeconds 0 alone.queueOrder rule.effects).symm
      show (rule.effects.map _).map _ = _
      rw [heffects, List.map_map, Nat.add_assoc]
      rfl
    · intro ruleId
      show prefixed _ ruleId ∈ (if rule.fireOnce = true then _ else _) ↔
        ruleId ∈ (if rule.fireOnce = true then _ else _)
      split
      · rw [List.mem_cons, List.mem_cons, h.fired]
        exact or_congr_left ⟨fun hsame => prefixed_inj hsame, fun hsame => congrArg _ hsame⟩
      · exact h.fired ruleId
  · exact h

theorem Matched.foldl (texts : ValueTexts) (atSeconds : Nat) {together alone : Scheduling}
    (hself : item.SelfContained aliases)
    (hrules : ∀ rule ∈ rules, rule ∈ item.scenario.transitionRules)
    (hstands : item.Stands whole own) (h : Matched item together alone) :
    Matched item ((prefixRules item.component item.entityMap rules).foldl
        (Simulator.scheduleRule texts whole (item.offset + atSeconds)) together)
      (rules.foldl (Simulator.scheduleRule texts own atSeconds) alone) := by
  induction rules generalizing together alone with
  | nil => exact h
  | cons rule rules ih =>
    rw [List.forall_mem_cons] at hrules
    exact ih hrules.2 (h.scheduleRule hself hrules.1 hstands)

end Scheduling

section Hosting

variable {python : Python} {compile : CompositionComponent → Except PyError ScenarioInstance}
  {spec : ScenarioComposition} {newId : String} {whole : ScenarioInstance} {compiled : List CompiledComponent}
  {item : CompiledComponent} {aliases : List String} {texts : ValueTexts}

instance : IsTrans ScheduledMutation byTimeAndId where
  trans := by
    intro one two three hone htwo
    unfold byTimeAndId at *
    rcases hone with hone | ⟨hone, hids⟩
    · omega
    · rcases htwo with htwo | ⟨htwo, hids'⟩
      · omega
      · exact .inr ⟨hone.trans htwo, hids.trans hids'⟩

instance : Std.Total byTimeAndId where
  total := by
    intro one two
    unfold byTimeAndId
    rcases Nat.lt_trichotomy one.atSeconds two.atSeconds with hlt | heq | hgt
    · exact .inl (.inl hlt)
    · exact (le_total one.mutationId two.mutationId).imp (fun hle => .inr ⟨heq, hle⟩) fun hle =>
        .inr ⟨heq.symm, hle⟩
    · exact .inr (.inl hgt)

structure Hosts (whole : ScenarioInstance) (item : CompiledComponent) (aliases : List String) : Prop where
  entities : ∃ front back, whole.entities =
    front ++ prefixEntities item.component item.scenario.entities ++ back
  nodup : (entityIds whole.entities).Nodup
  ids : ∀ entityId ∈ entityIds whole.entities, ∃ aliasName ∈ aliases, behind aliasName entityId = true
  rules : ∃ front back, whole.transitionRules =
    front ++ prefixRules item.component item.entityMap item.scenario.transitionRules ++ back ∧
      ∀ rule ∈ front ++ back, behind item.component.aliasName rule.ruleId = false
  disturbances : whole.disturbance.mutations.filter
    (fun scheduled => behind item.component.aliasName scheduled.mutationId) =
      (prefixMutations item.component item.entityMap item.scenario.disturbance.mutations
        item.offset).insertionSort byTimeAndId
  time : item.offset + item.scenario.maxTimeSeconds ≤ whole.maxTimeSeconds

theorem flatMap_own {α : Type} (front back : List CompiledComponent) (item : CompiledComponent)
    (f : CompiledComponent → List α) :
    (front ++ item :: back).flatMap f = front.flatMap f ++ f item ++ back.flatMap f := by
  rw [List.flatMap_append, List.flatMap_cons, List.append_assoc]

theorem filter_flatMap_own {α : Type} {front back : List CompiledComponent} {chosen : α → Bool}
    {f : CompiledComponent → List α} (hother : ∀ other ∈ front ++ back, ∀ made ∈ f other, chosen made = false)
    (hown : ∀ made ∈ f item, chosen made = true) :
    ((front ++ item :: back).flatMap f).filter chosen = f item := by
  have hnone : ∀ others : List CompiledComponent, (∀ other ∈ others, ∀ made ∈ f other, chosen made = false) →
      (others.flatMap f).filter chosen = [] := by
    intro others hothers
    rw [List.filter_eq_nil_iff]
    intro made hmade
    obtain ⟨other, hmem, hmade⟩ := List.mem_flatMap.mp hmade
    rw [hothers other hmem made hmade]
    exact Bool.false_ne_true
  rw [flatMap_own, List.filter_append, List.filter_append,
    hnone front fun other hmem => hother other (List.mem_append_left _ hmem),
    hnone back fun other hmem => hother other (List.mem_append_right _ hmem), List.filter_eq_self.mpr hown,
    List.nil_append, List.append_nil]

theorem hosts_of_compose (h : compose python compile spec newId = .ok whole)
    (hcompiled : compileEach compile spec 0 spec.components = .ok compiled) (hitem : item ∈ compiled)
    (hconcurrent : spec.operator = .concurrent) :
    Hosts whole item (spec.components.map CompositionComponent.aliasName) := by
  obtain ⟨parts, hparts, rfl, hnodup⟩ := compose_eq_ok h hcompiled
  obtain ⟨hentities, hrules, hmutations⟩ := collected_of_addEach hconcurrent hparts
  obtain ⟨hcomponents, htimes⟩ := components_of_compileEach hcompiled
  have hlate := le_latestEnd hitem
  have haliases := spec.aliases_nodup
  rw [← hcomponents, List.map_map] at haliases ⊢
  have hbehind : ∀ entityId ∈ entityIds parts.entities, ∃ aliasName ∈
      compiled.map (CompositionComponent.aliasName ∘ CompiledComponent.component),
      behind aliasName entityId = true := by
    intro entityId hid
    rw [hentities] at hid
    obtain ⟨entity, hentity, rfl⟩ := List.mem_map.mp hid
    obtain ⟨other, hother, hentity⟩ := List.mem_flatMap.mp hentity
    obtain ⟨document, -, rfl⟩ := List.mem_map.mp hentity
    exact ⟨_, List.mem_map_of_mem hother, behind_prefixed _ _⟩
  have hmax := htimes item hitem
  obtain ⟨front, back, rfl⟩ := List.append_of_mem hitem
  have hother : ∀ other ∈ front ++ back, ∀ text,
      behind item.component.aliasName (prefixed other.component.aliasName text) = false := by
    intro other hmem text
    apply not_behind_prefixed item.component.aliasName_valid other.component.aliasName_valid
    intro hsame
    rw [List.map_append, List.map_cons, List.nodup_middle, List.nodup_cons, ← List.map_append] at haliases
    exact haliases.1 (List.mem_map.mpr ⟨other, hmem, hsame.symm⟩)
  constructor
  · exact ⟨_, _, hentities.trans (flatMap_own front back item _)⟩
  · exact hnodup
  · exact hbehind
  · refine ⟨_, _, hrules.trans (flatMap_own front back item _), ?_⟩
    intro rule hrule
    rw [← List.flatMap_append] at hrule
    obtain ⟨other, hmem, hrule⟩ := List.mem_flatMap.mp hrule
    obtain ⟨original, -, rfl⟩ := List.mem_map.mp hrule
    exact hother other hmem _
  · show (parts.mutations.insertionSort byTimeAndId).filter _ = _
    rw [filter_insertionSort, hmutations]
    refine congrArg _ (filter_flatMap_own ?_ ?_)
    · intro other hmem made hmade
      obtain ⟨original, -, rfl⟩ := List.mem_map.mp hmade
      exact hother other hmem _
    · intro made hmade
      obtain ⟨original, -, rfl⟩ := List.mem_map.mp hmade
      exact behind_prefixed _ _
  · rw [hmax]
    exact hlate.trans (Nat.le_add_right _ _)

theorem get?_fromEntities_between {front middle back : List EntityDocument} {entityId : String}
    (hfront : entityId ∉ entityIds front) (hback : entityId ∉ entityIds back) :
    (fromEntities (front ++ middle ++ back)).get? entityId = (fromEntities middle).get? entityId := by
  have hnone : ∀ entities : List EntityDocument, entityId ∉ entityIds entities →
      (Dict.ofList (entities.map fun entity => (entity.entityId, Value.dict entity.fields))).get?
        entityId = none := by
    intro entities hmem
    rw [Dict.get?_eq_none, Dict.mem_keys_ofList, List.map_map]
    exact hmem
  rw [fromEntities, List.map_append, List.map_append, Dict.get?_ofList_append, Dict.get?_ofList_append,
    hnone _ hback, hnone _ hfront, Option.none_or, Option.or_none]
  rfl

theorem fromEntities_prefixEntities (item : CompiledComponent) :
    fromEntities (prefixEntities item.component item.scenario.entities) =
      Simulator.renameWorld item.places (fromEntities item.scenario.entities) := by
  rw [← fromEntities_renamed]
  refine congrArg _ (List.map_congr_left ?_)
  intro entity hentity
  have hid : item.places.ids entity.entityId = prefixed item.component.aliasName entity.entityId :=
    placing_of_mem (List.mem_map_of_mem hentity)
  unfold prefixEntity renameEntity
  simp only [hid]

theorem stands_start (h : Hosts whole item aliases) (hself : item.SelfContained aliases) :
    item.Stands (fromEntities whole.entities) (fromEntities item.scenario.entities) := by
  obtain ⟨front, back, hentities⟩ := h.entities
  have hsplit : entityIds whole.entities = entityIds front ++
      entityIds (prefixEntities item.component item.scenario.entities) ++ entityIds back := by
    rw [hentities]
    exact List.map_append.trans (congrArg (· ++ _) List.map_append)
  intro placed hplaced
  obtain ⟨entityId, hid, rfl⟩ := List.mem_map.mp hplaced
  have hbeside : item.places.ids entityId ∉ entityIds front ∧ item.places.ids entityId ∉ entityIds back := by
    by_cases hown : entityId ∈ entityIds item.scenario.entities
    · have hmiddle : item.places.ids entityId ∈
          entityIds (prefixEntities item.component item.scenario.entities) := by
        obtain ⟨entity, hentity, rfl⟩ := List.mem_map.mp hown
        rw [placing_of_mem hown]
        exact List.mem_map.mpr ⟨_, List.mem_map_of_mem hentity, rfl⟩
      have hnodup := h.nodup
      rw [hsplit, List.nodup_append', List.nodup_append'] at hnodup
      obtain ⟨⟨-, -, hfront⟩, -, hback⟩ := hnodup
      exact ⟨fun hmem => hfront hmem hmiddle, hback (List.mem_append_right _ hmiddle)⟩
    · have hnone := (hself.names entityId hid).resolve_left hown
      have hwhole : entityId ∉ entityIds whole.entities := by
        intro hmem
        obtain ⟨aliasName, hknown, hbehind⟩ := h.ids entityId hmem
        rw [hnone aliasName (List.mem_cons_of_mem _ hknown)] at hbehind
        cases hbehind
      rw [hsplit] at hwhole
      rw [placing_of_not_behind hown (hnone _ List.mem_cons_self)]
      exact ⟨fun hmem => hwhole (List.mem_append_left _ (List.mem_append_left _ hmem)),
        fun hmem => hwhole (List.mem_append_right _ hmem)⟩
  rw [hentities, ← fromEntities_prefixEntities]
  exact get?_fromEntities_between hbeside.1 hbeside.2

theorem filter_disturbanceItems (aliasName : String) (order : Nat) (mutations : List ScheduledMutation) :
    ((disturbanceItems order mutations).filter (owns aliasName)).map dueOf =
      (mutations.filter fun scheduled => behind aliasName scheduled.mutationId).map
        fun scheduled => (scheduled.atSeconds, scheduled.mutation) := by
  induction mutations generalizing order with
  | nil => rfl
  | cons first mutations ih =>
    rw [disturbanceItems, List.filter_cons, List.filter_cons]
    show List.map dueOf (if behind aliasName first.mutationId = true then _ else _) = _
    split
    · rw [List.map_cons, List.map_cons, ih]
      rfl
    · exact ih (order + 1)

theorem map_dueIn_disturbanceItems (item : CompiledComponent) (order : Nat)
    (mutations : List ScheduledMutation) :
    (disturbanceItems order mutations).map item.dueIn = mutations.map fun scheduled =>
      (item.offset + scheduled.atSeconds, scheduled.mutation.renamed item.places) := by
  induction mutations generalizing order with
  | nil => rfl
  | cons first mutations ih =>
    rw [disturbanceItems, List.map_cons, ih, List.map_cons]
    rfl

theorem dueOf_lt (one two : QueueItem) : (dueOf one).1 < (dueOf two).1 ↔
    one.atSeconds < two.atSeconds := Iff.rfl

theorem dueIn_lt (item : CompiledComponent) (one two : QueueItem) :
    (item.dueIn one).1 < (item.dueIn two).1 ↔ one.atSeconds < two.atSeconds := Nat.add_lt_add_iff_left

theorem insertionSort_prefixMutations (hself : item.SelfContained aliases) :
    ((prefixMutations item.component item.entityMap
        item.scenario.disturbance.mutations item.offset).insertionSort byTimeAndId).map
          (fun scheduled => (scheduled.atSeconds, scheduled.mutation)) =
      sortedBy Prod.fst (item.scenario.disturbance.mutations.map fun scheduled =>
        (item.offset + scheduled.atSeconds, scheduled.mutation.renamed item.places)) := by
  have hlisted : (prefixMutations item.component item.entityMap
      item.scenario.disturbance.mutations item.offset).Pairwise
        fun one two => byTimeAndId one two ↔ one.atSeconds ≤ two.atSeconds := by
    apply List.pairwise_map.mpr
    apply hself.listed.imp
    intro one two hids
    show (one.atSeconds + item.offset < two.atSeconds + item.offset ∨
      one.atSeconds + item.offset = two.atSeconds + item.offset ∧ _ ≤ _) ↔
        one.atSeconds + item.offset ≤ two.atSeconds + item.offset
    constructor
    · omega
    · intro hle
      by_cases hsame : one.atSeconds = two.atSeconds
      · exact .inr ⟨by omega, hids hsame⟩
      · exact .inl (by omega)
  rw [insertionSort_congr hlisted]
  have hmap := List.map_insertionSort (fun one two : ScheduledMutation => one.atSeconds ≤ two.atSeconds)
    (fun one two : Nat × StateMutation => one.1 ≤ two.1)
    (fun scheduled => (scheduled.atSeconds, scheduled.mutation))
    (prefixMutations item.component item.entityMap
      item.scenario.disturbance.mutations item.offset) fun _ _ _ _ => Iff.rfl
  rw [hmap, sortedBy, prefixMutations, List.map_map]
  refine congrArg _ (List.map_congr_left ?_)
  intro scheduled hscheduled
  have hmutation : scheduled.mutation ∈ item.mutations :=
    List.mem_append_left _ (List.mem_map_of_mem hscheduled)
  show (scheduled.atSeconds + item.offset, rewriteMutation _ scheduled.mutation) = _
  rw [rewriteMutation_places hself hmutation, Nat.add_comm]

theorem queue_start (h : Hosts whole item aliases) (hself : item.SelfContained aliases) :
    ((initialState texts whole).queue.filter (owns item.component.aliasName)).map dueOf =
      (initialState texts item.scenario).queue.map item.dueIn := by
  have htogether := map_filter_foldl_push (owns item.component.aliasName) dueOf_lt
    (show InTime [] from List.Pairwise.nil) (numberedIn_disturbanceItems 0 whole.disturbance.mutations).rising
    fun _ hnone => absurd hnone List.not_mem_nil
  have halone := map_filter_foldl_push (fun _ => true) (dueIn_lt item)
    (show InTime [] from List.Pairwise.nil)
    (numberedIn_disturbanceItems 0 item.scenario.disturbance.mutations).rising
    fun _ hnone => absurd hnone List.not_mem_nil
  simp only [List.filter_true, map_dueIn_disturbanceItems] at halone
  rw [filter_disturbanceItems, h.disturbances, insertionSort_prefixMutations hself] at htogether
  refine htogether.trans (Eq.trans ?_ halone.symm)
  rw [List.filter_nil, List.map_nil, List.map_nil, foldl_insertAfter, foldl_insertAfter]
  exact (pairwise_sortedBy Prod.fst _).insertionSort_eq

end Hosting

end KubeOps.Scenarios
