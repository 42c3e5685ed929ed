import KubeOps.Scenarios.Composer
import KubeOps.Simulator.Equivariance

/-! The entities of a component of a composition, and whatever else it names: mutations and conditions
behind an alias do and say about the world of the composition what they do and say about their own. -/
namespace KubeOps.Scenarios

open KubeOps.Foundation KubeOps.Models KubeOps.Discovery KubeOps.Invariants KubeOps.Simulator

section Aliases

variable {aliasName other text left right : String}

theorem unbroken_of_isAlias (h : isAlias aliasName = true) : Unbroken ':' aliasName := by
  intro hmem
  have hsign := List.all_eq_true.mp (Bool.and_eq_true_iff.mp h).2 ':' hmem
  exact absurd hsign (by decide)

theorem prefixed_inj (h : prefixed aliasName left = prefixed aliasName right) : left = right := by
  have hlist := congrArg String.toList h
  rw [toList_prefixed, toList_prefixed, List.append_cancel_left_eq, List.cons.injEq, List.cons.injEq] at hlist
  exact String.toList_inj.mp hlist.2.2

def behind (aliasName entityId : String) : Bool := (aliasName.toList ++ [':', ':']).isPrefixOf entityId.toList

theorem behind_prefixed (aliasName text : String) : behind aliasName (prefixed aliasName text) = true := by
  rw [behind, List.isPrefixOf_iff_prefix, toList_prefixed]
  exact ⟨text.toList, by simp⟩

theorem not_behind_prefixed (halias : isAlias aliasName = true) (hother : isAlias other = true)
    (h : aliasName ≠ other) (text : String) : behind aliasName (prefixed other text) = false := by
  rw [Bool.eq_false_iff, Ne, behind, List.isPrefixOf_iff_prefix, toList_prefixed]
  rintro ⟨rest, hrest⟩
  rw [List.append_assoc] at hrest
  have hsame := append_cons_inj (unbroken_of_isAlias halias) (unbroken_of_isAlias hother) hrest
  exact h (String.toList_inj.mp hsame.1)

theorem not_behind_empty (aliasName : String) : behind aliasName "" = false := by
  rw [Bool.eq_false_iff, Ne, behind, List.isPrefixOf_iff_prefix]
  intro hprefix
  have hlength := hprefix.length_le
  simp at hlength

def entityIds (entities : List EntityDocument) : List String := entities.map fun entity => entity.entityId

theorem empty_notMem_entityIds (entities : List EntityDocument) : "" ∉ entityIds entities := by
  intro hmem
  obtain ⟨entity, -, hempty⟩ := List.mem_map.mp hmem
  exact entity.entityId_ne hempty

/-- Where an id stands in the composition: that of an entity of the component behind its alias, any other
where it stood. -/
def placeOf (component : CompositionComponent) (entities : List EntityDocument) (entityId : String) : String :=
  if entityId ∈ entityIds entities ∨ behind component.aliasName entityId = true then
    prefixed component.aliasName entityId else entityId

theorem placeOf_injective (component : CompositionComponent) (entities : List EntityDocument) :
    Function.Injective (placeOf component entities) := by
  intro one two h
  unfold placeOf at h
  split at h
  · split at h
    · exact prefixed_inj h
    · rename_i htwo
      exact absurd (.inr (h ▸ behind_prefixed _ _)) htwo
  · rename_i hone
    split at h
    · exact absurd (.inr (h ▸ behind_prefixed _ _)) hone
    · exact h

def placing (component : CompositionComponent) (entities : List EntityDocument) : IdRenaming where
  ids := ⟨placeOf component entities, placeOf_injective component entities⟩
  ids_empty := if_neg fun h => h.elim (empty_notMem_entityIds entities) fun hbehind => by
    rw [not_behind_empty] at hbehind
    cases hbehind

variable {component : CompositionComponent} {entities : List EntityDocument} {entityId : String}

theorem placing_of_mem (h : entityId ∈ entityIds entities) :
    (placing component entities).ids entityId = prefixed component.aliasName entityId := if_pos (.inl h)

theorem placing_of_not_behind (hmem : entityId ∉ entityIds entities)
    (hbehind : behind component.aliasName entityId = false) :
    (placing component entities).ids entityId = entityId :=
  if_neg fun h => h.elim hmem fun htrue => by rw [hbehind] at htrue; cases htrue

theorem get?_entityMapOf : (entityMapOf component entities).get? entityId =
    if entityId ∈ entityIds entities then some (prefixed component.aliasName entityId) else none := by
  split
  · rename_i hmem
    have hkey : entityId ∈ (entityMapOf component entities).keys := by
      rw [entityMapOf, Dict.mem_keys_ofList, List.map_map]
      exact hmem
    obtain ⟨found, hfound⟩ := Option.isSome_iff_exists.mp (Dict.isSome_get?_iff.mpr hkey)
    obtain ⟨entity, -, hentity⟩ := List.mem_map.mp (Dict.mem_of_mem_ofList (Dict.get?_eq_some.mp hfound))
    obtain ⟨rfl, rfl⟩ := Prod.mk.inj hentity
    exact hfound
  · rename_i hmem
    rw [Dict.get?_eq_none, entityMapOf, Dict.mem_keys_ofList, List.map_map]
    exact hmem

/-- The ids of the component, and others that stand behind no alias. -/
def Placed (component : CompositionComponent) (entities : List EntityDocument) (entityId : String) : Prop :=
  entityId ∈ entityIds entities ∨ behind component.aliasName entityId = false

theorem rename_entityMapOf (h : Placed component entities entityId) :
    rename (entityMapOf component entities) entityId = (placing component entities).ids entityId := by
  rw [rename, get?_entityMapOf]
  by_cases hmem : entityId ∈ entityIds entities
  · rw [if_pos hmem, placing_of_mem hmem]
    rfl
  · rw [if_neg hmem, placing_of_not_behind hmem (h.resolve_left hmem)]
    rfl

end Aliases

section Mutations

def payloadIds (mutation : StateMutation) : List String :=
  match mutation.entityPayload.bind fun payload => payload.get? "entity_id" with
  | some (.str entityId) => [entityId]
  | _ => []

def idsOf (mutation : StateMutation) : List String := mutation.entityId :: payloadIds mutation

def touched (mutation : StateMutation) : List String :=
  match mutation.mutationType with
  | .setState | .deleteEntity => [mutation.entityId]
  | .createEntity => payloadIds mutation

theorem touched_subset (mutation : StateMutation) : touched mutation ⊆ idsOf mutation := by
  unfold touched idsOf
  cases mutation.mutationType with
  | setState => exact List.cons_subset_cons _ (List.nil_subset _)
  | deleteEntity => exact List.cons_subset_cons _ (List.nil_subset _)
  | createEntity => exact List.subset_cons_self _ _

def AgreeOn (ids : List String) (one two : World) : Prop :=
  ∀ entityId ∈ ids, one.get? entityId = two.get? entityId

variable {ids : List String} {one two world next : World} {mutation : StateMutation}

theorem mem_payloadIds {payload : JsonObject} {entity : String × Value}
    (hpayload : mutation.entityPayload = some payload) (h : validateEntity payload = some entity) :
    entity.1 ∈ payloadIds mutation := by
  obtain ⟨entityId, hid, h⟩ := Option.bind_eq_some_iff.mp h
  obtain ⟨fields, -, h⟩ := Option.bind_eq_some_iff.mp h
  obtain rfl := Option.some.inj h
  obtain ⟨hstring, -⟩ := Option.filter_eq_some_iff.mp hid
  obtain ⟨value, hvalue, htext⟩ := Option.bind_eq_some_iff.mp hstring
  unfold payloadIds
  rw [hpayload, Option.bind_some, hvalue]
  cases value with
  | str found =>
    obtain rfl := Option.some.inj htext
    exact List.mem_singleton_self _
  | _ => cases htext

theorem AgreeOn.set (h : AgreeOn ids one two) (entityId : String) (state : Value) :
    AgreeOn ids (one.set entityId state) (two.set entityId state) := by
  intro other hother
  rw [Dict.get?_set, Dict.get?_set, h other hother]

theorem applyMutation_agree (htouched : touched mutation ⊆ ids) (h : AgreeOn ids one two) :
    (∃ failure, applyMutation one mutation = .error failure ∧ applyMutation two mutation = .error failure) ∨
      ∃ one' two', applyMutation one mutation = .ok one' ∧ applyMutation two mutation = .ok two' ∧
        AgreeOn ids one' two' := by
  unfold touched at htouched
  unfold applyMutation
  cases htype : mutation.mutationType with
  | setState =>
    rw [htype] at htouched
    dsimp only at htouched ⊢
    cases mutation.path.filter fun path => path ≠ "" with
    | none => exact .inl ⟨_, rfl, rfl⟩
    | some path =>
      dsimp only
      rw [h mutation.entityId (htouched List.mem_cons_self)]
      cases two.get? mutation.entityId with
      | none => exact .inl ⟨_, rfl, rfl⟩
      | some state => exact .inr ⟨_, _, rfl, rfl, h.set mutation.entityId _⟩
  | deleteEntity =>
    refine .inr ⟨_, _, rfl, rfl, ?_⟩
    intro other hother
    rw [Dict.get?_erase, Dict.get?_erase, h other hother]
  | createEntity =>
    rw [htype] at htouched
    dsimp only at htouched ⊢
    cases hpayload : mutation.entityPayload with
    | none => exact .inl ⟨_, rfl, rfl⟩
    | some payload =>
      dsimp only
      cases hvalid : validateEntity payload with
      | none => exact .inl ⟨_, rfl, rfl⟩
      | some entity =>
        dsimp only
        rw [h entity.1 (htouched (mem_payloadIds hpayload hvalid))]
        split
        · exact .inl ⟨_, rfl, rfl⟩
        · exact .inr ⟨_, _, rfl, rfl, h.set entity.1 _⟩

theorem applyMutation_untouched (htouched : ∀ entityId ∈ touched mutation, entityId ∉ ids)
    (h : applyMutation world mutation = .ok next) : AgreeOn ids next world := by
  have hset : ∀ (entityId : String) (state : Value), entityId ∈ touched mutation →
      AgreeOn ids (world.set entityId state) world := by
    intro entityId state hentity other hother
    apply Dict.get?_set_ne
    rintro rfl
    exact htouched _ hentity hother
  unfold touched at htouched hset
  unfold applyMutation at h
  cases htype : mutation.mutationType with
  | setState =>
    rw [htype] at h hset
    dsimp only at h hset
    split at h
    · cases h
    · split at h
      · cases h
      · obtain rfl := Except.ok.inj h
        exact hset _ _ List.mem_cons_self
  | deleteEntity =>
    rw [htype] at h htouched
    obtain rfl := Except.ok.inj h
    intro other hother
    rw [Dict.get?_erase, if_neg]
    rintro rfl
    exact htouched _ List.mem_cons_self hother
  | createEntity =>
    rw [htype] at h hset
    dsimp only at h hset
    split at h
    · cases h
    · rename_i payload hpayload
      split at h
      · cases h
      · rename_i entity hvalid
        split at h
        · cases h
        · obtain rfl := Except.ok.inj h
          exact hset _ _ (mem_payloadIds hpayload hvalid)

variable {component : CompositionComponent} {entities : List EntityDocument}

theorem rewritePayload_eq {payload : JsonObject}
    (h : ∀ entityId, payload.get? "entity_id" = some (.str entityId) → Placed component entities entityId) :
    rewritePayload (entityMapOf component entities) payload =
      renamePayload (placing component entities) payload := by
  unfold rewritePayload renamePayload
  cases hfound : payload.get? "entity_id" with
  | none => rfl
  | some value =>
    cases value with
    | str entityId =>
      dsimp only
      rw [rename_entityMapOf (h entityId hfound)]
    | _ => rfl

theorem rewriteMutation_eq (h : ∀ entityId ∈ idsOf mutation, Placed component entities entityId) :
    rewriteMutation (entityMapOf component entities) mutation =
      mutation.renamed (placing component entities) := by
  have hpayload : mutation.entityPayload.map (rewritePayload (entityMapOf component entities)) =
      mutation.entityPayload.map (renamePayload (placing component entities)) := by
    apply Option.map_congr
    intro payload hpayload
    apply rewritePayload_eq
    intro entityId hid
    apply h
    unfold idsOf payloadIds
    rw [hpayload, Option.bind_some, hid]
    exact List.mem_cons_of_mem _ List.mem_cons_self
  unfold rewriteMutation StateMutation.renamed
  rw [rename_entityMapOf (h _ List.mem_cons_self), hpayload]

theorem payloadIds_renamed (σ : IdRenaming) (mutation : StateMutation) :
    payloadIds (mutation.renamed σ) = (payloadIds mutation).map σ.ids := by
  unfold payloadIds
  show (match (mutation.entityPayload.map (renamePayload σ)).bind fun payload => payload.get? "entity_id" with
    | some (.str entityId) => [entityId]
    | _ => []) = _
  cases mutation.entityPayload with
  | none => rfl
  | some payload =>
    rw [Option.map_some, Option.bind_some, Option.bind_some]
    unfold renamePayload
    cases hfound : payload.get? "entity_id" with
    | none =>
      dsimp only
      rw [hfound]
      rfl
    | some value =>
      cases value with
      | str entityId =>
        dsimp only
        rw [Dict.get?_set_self]
        rfl
      | _ =>
        dsimp only
        rw [hfound]
        rfl

theorem touched_renamed (σ : IdRenaming) (mutation : StateMutation) :
    touched (mutation.renamed σ) = (touched mutation).map σ.ids := by
  unfold touched
  show (match mutation.mutationType with
    | .setState | .deleteEntity => [σ.ids mutation.entityId]
    | .createEntity => payloadIds (mutation.renamed σ)) = _
  cases mutation.mutationType with
  | setState => rfl
  | deleteEntity => rfl
  | createEntity => exact payloadIds_renamed σ mutation

end Mutations

section Conditions

/-- A condition says the same about entities under other ids. A comparison of two fields does where it is not
rewritten only if it names none of the component's own entities. -/
def SaysTheSame (own : List String) : Predicate → Prop
  | .fieldsEqual leftId leftPath rightId rightPath =>
    leftId ∉ own ∧ rightId ∉ own ∧ ComparesNoId (.fieldsEqual leftId leftPath rightId rightPath)
  | predicate => ComparesNoId predicate

variable {component : CompositionComponent} {entities : List EntityDocument} {ids : List String}
  {whole own : World}
variable {texts : ValueTexts} {condition : Predicate} {entityId path : String}

def Stands (component : CompositionComponent) (entities : List EntityDocument) (ids : List String)
    (whole own : World) : Prop :=
  AgreeOn (ids.map (placing component entities).ids) whole
    (Simulator.renameWorld (placing component entities) own)

theorem Stands.get? (h : Stands component entities ids whole own) (hid : entityId ∈ ids) :
    whole.get? ((placing component entities).ids entityId) =
      (own.get? entityId).map (renameState (placing component entities)) := by
  rw [h _ (List.mem_map_of_mem hid), Simulator.get?_renameWorld]

theorem Stands.value (h : Stands component entities ids whole own) (hid : entityId ∈ ids)
    (hpath : path ≠ "" ∧ AvoidsId path) :
    ((whole.get? ((placing component entities).ids entityId)).bind fun state => state.getPath path) =
      (own.get? entityId).bind fun state => state.getPath path := by
  rw [h.get? hid, Option.bind_map]
  exact Option.bind_congr fun state _ => getPath_renameState hpath.1 hpath.2

theorem Stands.number (h : Stands component entities ids whole own) (hid : entityId ∈ ids) (path : String) :
    (((whole.get? ((placing component entities).ids entityId)).bind fun state => state.getPath path).bind
        Value.number?) =
      ((own.get? entityId).bind fun state => state.getPath path).bind Value.number? := by
  rw [h.get? hid]
  cases own.get? entityId with
  | none => rfl
  | some state =>
    obtain ⟨g, hnumber, hpath⟩ := @getPath_renameState_any (placing component entities) state path
    show ((renameState _ state).getPath path).bind _ = (state.getPath path).bind _
    rw [hpath, Option.bind_map]
    exact Option.bind_congr fun value _ => hnumber value

theorem truth_rewritten (hplaced : ∀ entityId ∈ namedEntities condition, Placed component entities entityId)
    (hnamed : namedEntities condition ⊆ ids) (h : Stands component entities ids whole own)
    (hparts : ∀ part ∈ parts condition, SaysTheSame (entityIds entities) part) :
    truth texts whole [] (rewritePredicate (entityMapOf component entities) condition) =
      truth texts own [] condition := by
  have heach : ∀ predicates : List Predicate, (∀ child ∈ predicates,
      (∀ entityId ∈ namedEntities child, Placed component entities entityId) → namedEntities child ⊆ ids →
        (∀ part ∈ parts child, SaysTheSame (entityIds entities) part) →
        truth texts whole [] (rewritePredicate (entityMapOf component entities) child) =
          truth texts own [] child) →
      (∀ entityId ∈ namedEntitiesOfEach predicates, Placed component entities entityId) →
      namedEntitiesOfEach predicates ⊆ ids →
      (∀ part ∈ partsOfEach predicates, SaysTheSame (entityIds entities) part) →
      (rewriteEach (entityMapOf component entities) predicates).map (truth texts whole []) =
        predicates.map (truth texts own []) := by
    intro predicates ih hplaced hnamed hparts
    rw [rewriteEach_eq, List.map_map]
    apply List.map_congr_left
    intro child hchild
    apply ih child hchild
    · exact fun entityId hentity => hplaced entityId (mem_namedEntitiesOfEach hchild hentity)
    · exact fun entityId hentity => hnamed (mem_namedEntitiesOfEach hchild hentity)
    · exact fun part hpart => hparts part (mem_partsOfEach.mpr ⟨child, hchild, hpart⟩)
  have hleaf := hparts condition (self_mem_parts condition)
  induction condition using predicate_induct with
  | fieldEquals entityId path value =>
    show (fieldCompare _ _ _ path value true).satisfied = (fieldCompare _ _ _ path value true).satisfied
    rw [satisfied_fieldCompare, satisfied_fieldCompare, rename_entityMapOf (hplaced _ List.mem_cons_self),
      h.value (hnamed List.mem_cons_self) hleaf]
  | fieldNotEquals entityId path value =>
    show (fieldCompare _ _ _ path value false).satisfied = (fieldCompare _ _ _ path value false).satisfied
    rw [satisfied_fieldCompare, satisfied_fieldCompare, rename_entityMapOf (hplaced _ List.mem_cons_self),
      h.value (hnamed List.mem_cons_self) hleaf]
  | fieldExists entityId path expected =>
    show (Invariants.fieldExists _ _ _ path expected).satisfied =
      (Invariants.fieldExists _ _ _ path expected).satisfied
    rw [satisfied_fieldExists, satisfied_fieldExists, rename_entityMapOf (hplaced _ List.mem_cons_self),
      h.get? (hnamed List.mem_cons_self), Option.map_map]
    apply Option.map_congr
    intro state _
    obtain ⟨g, -, hpath⟩ := @getPath_renameState_any (placing component entities) state path
    show (((renameState _ state).getPath path).isSome == expected) = _
    rw [hpath, Option.isSome_map]
  | fieldGte entityId path value =>
    show (numericCompare _ _ _ path value true).satisfied = (numericCompare _ _ _ path value true).satisfied
    rw [satisfied_numericCompare, satisfied_numericCompare, rename_entityMapOf (hplaced _ List.mem_cons_self),
      h.number (hnamed List.mem_cons_self)]
  | fieldLte entityId path value =>
    show (numericCompare _ _ _ path value false).satisfied = (numericCompare _ _ _ path value false).satisfied
    rw [satisfied_numericCompare, satisfied_numericCompare, rename_entityMapOf (hplaced _ List.mem_cons_self),
      h.number (hnamed List.mem_cons_self)]
  | fieldsEqual leftId leftPath rightId rightPath =>
    obtain ⟨hleft, hright, hpaths⟩ := hleaf
    have hpaths : (leftPath ≠ "" ∧ AvoidsId leftPath) ∧ rightPath ≠ "" ∧ AvoidsId rightPath := hpaths
    have hleftId : leftId ∈ namedEntities (.fieldsEqual leftId leftPath rightId rightPath) := List.mem_cons_self
    have hrightId : rightId ∈ namedEntities (.fieldsEqual leftId leftPath rightId rightPath) :=
      List.mem_cons_of_mem _ List.mem_cons_self
    have hleftValue := h.value (hnamed hleftId) hpaths.1
    have hrightValue := h.value (hnamed hrightId) hpaths.2
    rw [placing_of_not_behind hleft ((hplaced _ hleftId).resolve_left hleft)] at hleftValue
    rw [placing_of_not_behind hright ((hplaced _ hrightId).resolve_left hright)] at hrightValue
    show (Invariants.fieldsEqual _ _ leftPath _ rightPath).satisfied =
      (Invariants.fieldsEqual _ _ leftPath _ rightPath).satisfied
    rw [satisfied_fieldsEqual, satisfied_fieldsEqual, hleftValue, hrightValue]
  | relatedCountGte sourceId types direction targetPath targetEquals minimum => rfl
  | allOf predicates ih =>
    rw [rewritePredicate, truth_allOf, truth_allOf, heach predicates _ hplaced hnamed fun part hpart =>
      hparts part (List.mem_cons_of_mem _ hpart)]
    exact fun child hchild hplaced hnamed hparts =>
      ih child hchild hplaced hnamed hparts (hparts child (self_mem_parts child))
  | anyOf predicates ih =>
    rw [rewritePredicate, truth_anyOf, truth_anyOf, heach predicates _ hplaced hnamed fun part hpart =>
      hparts part (List.mem_cons_of_mem _ hpart)]
    exact fun child hchild hplaced hnamed hparts =>
      ih child hchild hplaced hnamed hparts (hparts child (self_mem_parts child))
  | not child ih =>
    have hchild : ∀ part ∈ parts child, SaysTheSame (entityIds entities) part :=
      fun part hpart => hparts part (List.mem_cons_of_mem _ hpart)
    rw [rewritePredicate, truth_not, truth_not, ih hplaced hnamed hchild (hchild child (self_mem_parts child))]

end Conditions

end KubeOps.Scenarios
