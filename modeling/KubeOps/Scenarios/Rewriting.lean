import KubeOps.Discovery.EntityText
import KubeOps.Invariants.Monotone

/-! How a composition rewrites predicates, and for which of them this means the same in the
renamed world. -/
namespace KubeOps.Scenarios

open KubeOps.Foundation KubeOps.Models KubeOps.Discovery KubeOps.Invariants

section Code

/-- `entity_map.get(entity_id, entity_id)` -/
def rename (entityMap : Dict String String) (entityId : String) : String :=
  (entityMap.get? entityId).getD entityId

variable (entityMap : Dict String String)

mutual

/-- `_rewrite_predicate_payload`: only a field `entity_id` is renamed, here and in the children. -/
def rewritePredicate : Predicate → Predicate
  | .fieldEquals entityId path value => .fieldEquals (rename entityMap entityId) path value
  | .fieldNotEquals entityId path value => .fieldNotEquals (rename entityMap entityId) path value
  | .fieldExists entityId path expected => .fieldExists (rename entityMap entityId) path expected
  | .fieldGte entityId path value => .fieldGte (rename entityMap entityId) path value
  | .fieldLte entityId path value => .fieldLte (rename entityMap entityId) path value
  | .fieldsEqual leftId leftPath rightId rightPath => .fieldsEqual leftId leftPath rightId rightPath
  | .relatedCountGte sourceId types direction targetPath targetEquals minimum =>
    .relatedCountGte sourceId types direction targetPath targetEquals minimum
  | .allOf predicates => .allOf (rewriteEach predicates)
  | .anyOf predicates => .anyOf (rewriteEach predicates)
  | .not predicate => .not (rewritePredicate predicate)

def rewriteEach : List Predicate → List Predicate
  | [] => []
  | predicate :: rest => rewritePredicate predicate :: rewriteEach rest

end

theorem rewriteEach_eq (predicates : List Predicate) :
    rewriteEach entityMap predicates = predicates.map (rewritePredicate entityMap) := by
  induction predicates with
  | nil => rfl
  | cons predicate predicates ih => rw [rewriteEach, ih, List.map_cons]

end Code

section Renaming

variable (entityMap : Dict String String)

def renameWorld (world : World) : World :=
  Dict.ofList (world.entries.map fun entry => (rename entityMap entry.1, entry.2))

def renameRelationship (relationship : Relationship) : Relationship :=
  { relationship with
    sourceId := rename entityMap relationship.sourceId
    targetId := rename entityMap relationship.targetId }

mutual

def namedEntities : Predicate → List String
  | .fieldEquals entityId _ _ | .fieldNotEquals entityId _ _ | .fieldExists entityId _ _
  | .fieldGte entityId _ _ | .fieldLte entityId _ _ => [entityId]
  | .fieldsEqual leftId _ rightId _ => [leftId, rightId]
  | .relatedCountGte sourceId _ _ _ _ _ => [sourceId]
  | .allOf predicates | .anyOf predicates => namedEntitiesOfEach predicates
  | .not predicate => namedEntities predicate

def namedEntitiesOfEach : List Predicate → List String
  | [] => []
  | predicate :: rest => namedEntities predicate ++ namedEntitiesOfEach rest

end

def idsInUse (world : World) (relationships : List Relationship) (predicate : Predicate) : List String :=
  world.keys ++ relationships.flatMap (fun relationship => [relationship.sourceId, relationship.targetId]) ++
    namedEntities predicate

/-- No two entities that are in use get one name. -/
def InjectiveOn (ids : List String) : Prop :=
  ∀ one ∈ ids, ∀ two ∈ ids, rename entityMap one = rename entityMap two → one = two

/-- In every world and for every renaming of its entities, the rewritten predicate says about the
renamed world what the predicate says about the world. -/
def RewrittenFaithfully (texts : ValueTexts) (predicate : Predicate) : Prop :=
  ∀ (entityMap : Dict String String) (world : World) (relationships : List Relationship),
    InjectiveOn entityMap (idsInUse world relationships predicate) →
    truth texts (renameWorld entityMap world) (relationships.map (renameRelationship entityMap))
      (rewritePredicate entityMap predicate) = truth texts world relationships predicate

/-- A leaf with a field `entity_id`, or a count that is always large enough. -/
def NamesByEntityId : Predicate → Prop
  | .fieldsEqual _ _ _ _ => False
  | .relatedCountGte _ _ _ _ _ minimum => minimum = 0
  | _ => True

end Renaming

section Faithful

variable {entityMap : Dict String String} {world : World} {relationships : List Relationship}
  {ids : List String}
variable {texts : ValueTexts} {predicate : Predicate}

theorem InjectiveOn.mono {others : List String} (h : InjectiveOn entityMap ids) (hsubset : others ⊆ ids) :
    InjectiveOn entityMap others := fun one hone two htwo => h one (hsubset hone) two (hsubset htwo)

theorem get?_renameWorld {entityId : String} (h : InjectiveOn entityMap (entityId :: world.keys)) :
    (renameWorld entityMap world).get? (rename entityMap entityId) = world.get? entityId := by
  have hkey : ∀ entry ∈ world.entries, entry.1 ∈ entityId :: world.keys :=
    fun entry hentry => List.mem_cons_of_mem _ (List.mem_map_of_mem hentry)
  have hnodup : ((world.entries.map fun entry => (rename entityMap entry.1, entry.2)).map Prod.fst).Nodup := by
    have hkeys := world.keys_nodup.map_on fun one hone two htwo hsame =>
      h one (List.mem_cons_of_mem _ hone) two (List.mem_cons_of_mem _ htwo) hsame
    rw [Dict.keys, List.map_map] at hkeys
    rwa [List.map_map]
  apply Option.ext
  intro state
  rw [renameWorld, Dict.get?_ofList_eq_some hnodup, Dict.get?_eq_some, List.mem_map]
  constructor
  · rintro ⟨entry, hentry, hpair⟩
    obtain ⟨hname, rfl⟩ := Prod.mk.inj hpair
    rw [← h entry.1 (hkey entry hentry) entityId List.mem_cons_self hname]
    exact hentry
  · intro hentry
    exact ⟨(entityId, state), hentry, rfl⟩

theorem mem_namedEntitiesOfEach {predicates : List Predicate} {entityId : String}
    (hpredicate : predicate ∈ predicates)
    (h : entityId ∈ namedEntities predicate) : entityId ∈ namedEntitiesOfEach predicates := by
  induction predicates with
  | nil => cases hpredicate
  | cons first rest ih =>
    rcases List.mem_cons.mp hpredicate with rfl | hrest
    · exact List.mem_append_left _ h
    · exact List.mem_append_right _ (ih hrest)

theorem InjectiveOn.of_mem {predicates : List Predicate} (hpredicate : predicate ∈ predicates)
    (h : InjectiveOn entityMap (namedEntitiesOfEach predicates ++ ids)) :
    InjectiveOn entityMap (namedEntities predicate ++ ids) := by
  apply h.mono
  intro entityId hentity
  rcases List.mem_append.mp hentity with hnamed | hother
  · exact List.mem_append_left _ (mem_namedEntitiesOfEach hpredicate hnamed)
  · exact List.mem_append_right _ hother

theorem map_truth_rewriteEach {predicates : List Predicate} {others : List Relationship}
    (h : ∀ child ∈ predicates, (∀ part ∈ parts child, NamesByEntityId part) →
      InjectiveOn entityMap (namedEntities child ++ world.keys) →
      truth texts (renameWorld entityMap world) others (rewritePredicate entityMap child) =
        truth texts world relationships child)
    (hleaves : ∀ part ∈ partsOfEach predicates, NamesByEntityId part)
    (hinjective : InjectiveOn entityMap (namedEntitiesOfEach predicates ++ world.keys)) :
    (rewriteEach entityMap predicates).map (truth texts (renameWorld entityMap world) others) =
      predicates.map (truth texts world relationships) := by
  rw [rewriteEach_eq, List.map_map]
  apply List.map_congr_left
  intro child hchild
  apply h child hchild
  · intro part hpart
    exact hleaves part (mem_partsOfEach.mpr ⟨child, hchild, hpart⟩)
  · exact hinjective.of_mem hchild

theorem truth_rewritePredicate (hleaves : ∀ part ∈ parts predicate, NamesByEntityId part)
    (hinjective : InjectiveOn entityMap (namedEntities predicate ++ world.keys)) (others : List Relationship) :
    truth texts (renameWorld entityMap world) others (rewritePredicate entityMap predicate) =
      truth texts world relationships predicate := by
  have hstate : ∀ entityId, InjectiveOn entityMap ([entityId] ++ world.keys) →
      (renameWorld entityMap world).get? (rename entityMap entityId) = world.get? entityId :=
    fun entityId h => get?_renameWorld h
  induction predicate using predicate_induct with
  | fieldEquals entityId path value =>
    show (fieldCompare _ _ _ path value true).satisfied = (fieldCompare _ _ _ path value true).satisfied
    rw [satisfied_fieldCompare, satisfied_fieldCompare, hstate entityId hinjective]
  | fieldNotEquals entityId path value =>
    show (fieldCompare _ _ _ path value false).satisfied = (fieldCompare _ _ _ path value false).satisfied
    rw [satisfied_fieldCompare, satisfied_fieldCompare, hstate entityId hinjective]
  | fieldExists entityId path expected =>
    show (Invariants.fieldExists _ _ _ path expected).satisfied =
      (Invariants.fieldExists _ _ _ path expected).satisfied
    rw [satisfied_fieldExists, satisfied_fieldExists, hstate entityId hinjective]
  | fieldGte entityId path value =>
    show (numericCompare _ _ _ path value true).satisfied = (numericCompare _ _ _ path value true).satisfied
    rw [satisfied_numericCompare, satisfied_numericCompare, hstate entityId hinjective]
  | fieldLte entityId path value =>
    show (numericCompare _ _ _ path value false).satisfied = (numericCompare _ _ _ path value false).satisfied
    rw [satisfied_numericCompare, satisfied_numericCompare, hstate entityId hinjective]
  | fieldsEqual leftId leftPath rightId rightPath => exact absurd (hleaves _ List.mem_cons_self) id
  | relatedCountGte sourceId types direction targetPath targetEquals minimum =>
    obtain rfl : minimum = 0 := hleaves _ List.mem_cons_self
    show some (decide (0 ≤ _)) = some (decide (0 ≤ _))
    rw [decide_eq_true (Nat.zero_le _), decide_eq_true (Nat.zero_le _)]
  | allOf predicates ih =>
    rw [rewritePredicate, truth_allOf, truth_allOf]
    rw [map_truth_rewriteEach ih (fun part hpart => hleaves part (List.mem_cons_of_mem _ hpart)) hinjective]
  | anyOf predicates ih =>
    rw [rewritePredicate, truth_anyOf, truth_anyOf]
    rw [map_truth_rewriteEach ih (fun part hpart => hleaves part (List.mem_cons_of_mem _ hpart)) hinjective]
  | not child ih =>
    rw [rewritePredicate, truth_not, truth_not,
      ih (fun part hpart => hleaves part (List.mem_cons_of_mem _ hpart))
      hinjective]

end Faithful

section Values

theorem pyEq_valueOfJson_self {value : Json} (h : value.WellFormed) :
    (valueOfJson value).pyEq (valueOfJson value) = true := by
  induction value using Json.induct with
  | null => rfl
  | bool value => simp [valueOfJson, Value.pyEq, Value.number?]
  | int value => simp [valueOfJson, Value.pyEq, Value.number?]
  | float value => simp [valueOfJson, Value.pyEq, Value.number?]
  | str value => simp [valueOfJson, Value.pyEq]
  | list items ih =>
    rw [Json.wellFormed_list] at h
    rw [valueOfJson, Value.pyEq, valuesOfItems_eq]
    apply Value.pyEqItems_self
    rw [List.forall_mem_map]
    exact fun item hitem => ih item hitem (h item hitem)
  | dict entries ih =>
    rw [Json.wellFormed_dict] at h
    rw [valueOfJson, Value.pyEq, valuesOfEntries_eq, decide_eq_true rfl, Bool.true_and]
    apply Value.pyEqEntries_of_subset
    · rw [List.map_map]
      exact h.1
    · rw [List.forall_mem_map]
      exact fun entry hentry => ih entry hentry (h.2 entry hentry)
    · exact List.Subset.refl _

def keysOf (path : String) : List String := if path = "" then [] else pathParts path

theorem getPath_eq (state : Value) (path : String) : state.getPath path = state.valueAt (keysOf path) := by
  unfold Value.getPath keysOf
  split
  · rfl
  · rfl

def nested (value : Value) : List String → Value
  | [] => value
  | key :: keys => .dict [(key, nested value keys)]

theorem valueAt_nested (value : Value) (keys : List String) :
    (nested value keys).valueAt keys = some value := by
  induction keys with
  | nil => rfl
  | cons key keys ih =>
    rw [nested, Value.valueAt, Value.entry?]
    simpa using ih

/-- A state with a value at two places. -/
def bothNested : List String → List String → Value
  | [], others => nested .null others
  | keys, [] => nested .null keys
  | key :: keys, other :: others =>
    if key = other then .dict [(key, bothNested keys others)]
    else .dict [(key, nested .null keys), (other, nested .null others)]

theorem valueAt_bothNested (keys others : List String) :
    (∃ value, (bothNested keys others).valueAt keys = some value) ∧
      ∃ value, (bothNested keys others).valueAt others = some value := by
  induction keys, others using bothNested.induct with
  | case1 others =>
    rw [bothNested]
    exact ⟨⟨_, rfl⟩, ⟨_, valueAt_nested .null others⟩⟩
  | case2 keys hkeys =>
    rw [bothNested]
    exact ⟨⟨_, valueAt_nested .null keys⟩, ⟨_, rfl⟩⟩
    exact hkeys
  | case3 keys other others ih =>
    rw [bothNested, if_pos rfl]
    simpa [Value.valueAt, Value.entry?] using ih
  | case4 key keys other others hkey =>
    rw [bothNested, if_neg hkey]
    simp [Value.valueAt, Value.entry?, hkey, valueAt_nested]

end Values

section Exactness

def padded (text : String) (extra : Nat) : String :=
  String.ofList (List.replicate (text.length + 1 + extra) 'x')

theorem length_padded (text : String) (extra : Nat) : (padded text extra).length = text.length + 1 + extra := by
  rw [padded, String.length_ofList, List.length_replicate]

theorem padded_ne (text : String) (extra : Nat) : padded text extra ≠ text := by
  intro h
  have hlength := length_padded text extra
  rw [h] at hlength
  omega

theorem padded_injective (text : String) : Function.Injective (padded text) := by
  intro one two h
  have hlength := congrArg String.length h
  rw [length_padded, length_padded] at hlength
  omega

def newName (entityId fresh : String) : Dict String String := Dict.ofList [(entityId, fresh)]

variable {entityId other fresh : String} {ids : List String}

theorem rename_newName_self (entityId fresh : String) : rename (newName entityId fresh) entityId = fresh := by
  simp [rename, newName, Dict.ofList]

theorem rename_newName_ne (h : other ≠ entityId) : rename (newName entityId fresh) other = other := by
  rw [rename, newName, Dict.ofList, List.foldl_cons, List.foldl_nil, Dict.get?_set_ne _ _ h, Dict.get?_empty]
  rfl

theorem injectiveOn_newName (h : fresh ∉ ids) : InjectiveOn (newName entityId fresh) ids := by
  intro one hone two htwo hsame
  have hne : ∀ id ∈ ids, id ≠ fresh := fun id hid hfresh => h (hfresh ▸ hid)
  by_cases hfirst : one = entityId
  · by_cases hsecond : two = entityId
    · rw [hfirst, hsecond]
    · rw [hfirst, rename_newName_self, rename_newName_ne hsecond] at hsame
      exact absurd hsame.symm (hne two htwo)
  · by_cases hsecond : two = entityId
    · rw [hsecond, rename_newName_self, rename_newName_ne hfirst] at hsame
      exact absurd hsame (hne one hone)
    · rwa [rename_newName_ne hfirst, rename_newName_ne hsecond] at hsame

theorem get?_renameWorld_old {world : World} (h : fresh ≠ entityId) :
    (renameWorld (newName entityId fresh) world).get? entityId = none := by
  rw [Dict.get?_eq_none, renameWorld, Dict.mem_keys_ofList]
  simp only [List.map_map, List.mem_map, Function.comp_apply, not_exists, not_and]
  intro entry _ hname
  by_cases hkey : entry.1 = entityId
  · rw [hkey, rename_newName_self] at hname
    exact h hname
  · rw [rename_newName_ne hkey] at hname
    exact hkey hname

def uniformWorld (ids : List String) (state : Value) : World :=
  Dict.ofList (ids.map fun entityId => (entityId, state))

theorem keys_uniformWorld_subset (ids : List String) (state : Value) : (uniformWorld ids state).keys ⊆ ids := by
  intro entityId hkey
  rw [uniformWorld, Dict.mem_keys_ofList, List.map_map] at hkey
  exact (List.mem_map.mp hkey).elim fun id hid => hid.2 ▸ hid.1

theorem get?_uniformWorld {state : Value} (h : entityId ∈ ids) :
    (uniformWorld ids state).get? entityId = some state := by
  have hkey : entityId ∈ (uniformWorld ids state).keys := by
    rw [uniformWorld, Dict.mem_keys_ofList, List.map_map]
    exact List.mem_map.mpr ⟨entityId, h, rfl⟩
  obtain ⟨found, hfound⟩ := Option.isSome_iff_exists.mp (Dict.isSome_get?_iff.mpr hkey)
  obtain ⟨id, -, hpair⟩ := List.mem_map.mp (Dict.mem_of_mem_ofList (Dict.get?_eq_some.mp hfound))
  rw [hfound, ← (Prod.mk.inj hpair).2]

variable {texts : ValueTexts}

theorem not_faithful_fieldsEqual (leftId leftPath rightId rightPath : String) :
    ¬ RewrittenFaithfully texts (.fieldsEqual leftId leftPath rightId rightPath) := by
  intro h
  obtain ⟨⟨one, hone⟩, two, htwo⟩ := valueAt_bothNested (keysOf leftPath) (keysOf rightPath)
  rw [← getPath_eq] at hone htwo
  have hfresh : padded (leftId ++ rightId) 0 ∉ [leftId, rightId] := by
    have hlength := length_padded (leftId ++ rightId) 0
    rw [String.length_append] at hlength
    intro hmem
    rcases List.mem_pair.mp hmem with hsame | hsame
    · rw [hsame] at hlength
      omega
    · rw [hsame] at hlength
      omega
  have hsame := h (newName leftId (padded (leftId ++ rightId) 0))
    (uniformWorld [leftId, rightId] (bothNested (keysOf leftPath) (keysOf rightPath))) [] (by
      apply injectiveOn_newName
      intro hmem
      rw [idsInUse, List.flatMap_nil, List.append_nil, List.mem_append] at hmem
      exact hfresh (hmem.elim (fun hkey => keys_uniformWorld_subset _ _ hkey) id))
  have hrenamed : truth texts (renameWorld (newName leftId (padded (leftId ++ rightId) 0))
      (uniformWorld [leftId, rightId] (bothNested (keysOf leftPath) (keysOf rightPath)))) []
      (.fieldsEqual leftId leftPath rightId rightPath) = none := by
    rw [truth, evaluate, fieldsEqual, get?_renameWorld_old fun hold => hfresh (List.mem_pair.mpr (.inl hold))]
  have htruth : truth texts
    (uniformWorld [leftId, rightId] (bothNested (keysOf leftPath) (keysOf rightPath))) []
      (.fieldsEqual leftId leftPath rightId rightPath) = some (one.pyEq two) := by
    rw [truth, evaluate, fieldsEqual, get?_uniformWorld List.mem_cons_self,
      get?_uniformWorld (List.mem_cons_of_mem _ List.mem_cons_self)]
    dsimp only
    rw [hone, htwo]
  rw [List.map_nil, rewritePredicate, hrenamed, htruth] at hsame
  cases hsame

def leading (types : List String) (direction : RelationshipDirection) (sourceId targetId : String) :
    Relationship :=
  if direction = .incoming then ⟨targetId, targetId, sourceId, types.head?.getD ""⟩
  else ⟨targetId, sourceId, targetId, types.head?.getD ""⟩

variable {sourceId targetId : String} (types : List String) (direction : RelationshipDirection)

theorem head?_mem (h : types ≠ []) : types.head?.getD "" ∈ types := by
  cases types with
  | nil => exact absurd rfl h
  | cons first rest => exact List.mem_cons_self

theorem relatedEntity_leading (h : targetId ≠ sourceId) :
    relatedEntity sourceId types direction (leading types direction sourceId targetId) = some targetId := by
  have htype : ¬ (types ≠ [] ∧ types.head?.getD "" ∉ types) := fun hother => hother.2 (head?_mem types hother.1)
  cases direction <;> simp [relatedEntity, leading, htype, h]

theorem relatedEntity_renamed (hfresh : fresh ≠ sourceId) (h : targetId ≠ sourceId) :
    relatedEntity sourceId types direction
      (renameRelationship (newName sourceId fresh) (leading types direction sourceId targetId)) = none := by
  cases direction <;>
    simp [relatedEntity, leading, renameRelationship, rename_newName_self, rename_newName_ne h, hfresh, h]

/-- Entities with other names than a given one. -/
def others (sourceId : String) (count : Nat) : List String :=
  (List.range count).map fun n => padded sourceId (n + 1)

theorem mem_others {count : Nat} : targetId ∈ others sourceId count ↔
    ∃ n < count, padded sourceId (n + 1) = targetId := by
  simp [others]

theorem others_nodup (sourceId : String) (count : Nat) : (others sourceId count).Nodup :=
  List.nodup_range.map fun _ _ h => Nat.succ_injective (padded_injective sourceId h)

theorem ne_of_mem_others {count : Nat} (h : targetId ∈ others sourceId count) :
    targetId ≠ sourceId ∧ targetId ≠ padded sourceId 0 := by
  obtain ⟨n, -, rfl⟩ := mem_others.mp h
  exact ⟨padded_ne sourceId (n + 1), fun hsame => Nat.succ_ne_zero n (padded_injective sourceId hsame)⟩

theorem idsInUse_leading_subset {targetPath : Option String} {targetEquals : Json}
    {minimum count : Nat} (state : Value) :
    idsInUse (uniformWorld (others sourceId count) state)
      ((others sourceId count).map (leading types direction sourceId))
      (.relatedCountGte sourceId types direction targetPath targetEquals minimum) ⊆
        sourceId :: others sourceId count := by
  intro entityId hmem
  simp only [idsInUse, List.mem_append, List.mem_flatMap, List.mem_map, namedEntities] at hmem
  rcases hmem with (hkey | ⟨relationship, ⟨otherId, hother, rfl⟩, hend⟩) | hnamed
  · exact List.mem_cons_of_mem _ (keys_uniformWorld_subset _ _ hkey)
  · have hends : entityId = sourceId ∨ entityId = otherId := by
      cases direction <;> simpa [leading, or_comm] using hend
    rcases hends with rfl | rfl
    · exact List.mem_cons_self
    · exact List.mem_cons_of_mem _ hother
  · rw [List.mem_singleton.mp hnamed]
    exact List.mem_cons_self

theorem countsAsRelated_uniform {targetPath : Option String} {targetEquals : Json} (h : targetEquals.WellFormed)
    (htarget : targetId ∈ ids) :
    countsAsRelated (uniformWorld ids (nested (valueOfJson targetEquals) (keysOf (targetPath.getD ""))))
      targetPath targetEquals targetId = true := by
  unfold countsAsRelated
  cases hpath : targetPath.filter fun path => path ≠ "" with
  | none => rfl
  | some path =>
    obtain ⟨rfl, -⟩ := Option.filter_eq_some_iff.mp hpath
    rw [get?_uniformWorld htarget]
    simp only [Option.bind_some, Option.getD_some, getPath_eq, valueAt_nested, Option.any_some]
    exact pyEq_valueOfJson_self h

theorem truth_relatedCount {world : World} {relationships : List Relationship} {targetPath : Option String}
    {targetEquals : Json} {minimum : Nat} :
    truth texts world relationships
      (.relatedCountGte sourceId types direction targetPath targetEquals minimum) =
      some (decide (minimum ≤
        (relatedEntities world sourceId types direction targetPath targetEquals relationships).length)) := rfl

theorem relatedEntities_renamed {world : World} {targetPath : Option String}
    {targetEquals : Json} {count : Nat} :
    relatedEntities world sourceId types direction targetPath targetEquals
      (((others sourceId count).map (leading types direction sourceId)).map
        (renameRelationship (newName sourceId (padded sourceId 0)))) = [] := by
  rw [relatedEntities, sortedSet_eq_nil, List.filter_eq_nil_iff]
  intro targetId htarget
  rw [List.mem_filterMap] at htarget
  obtain ⟨relationship, hrelationship, htarget⟩ := htarget
  rw [List.map_map, List.mem_map] at hrelationship
  obtain ⟨otherId, hother, rfl⟩ := hrelationship
  rw [Function.comp_apply,
    relatedEntity_renamed types direction (padded_ne sourceId 0) (ne_of_mem_others hother).1] at htarget
  cases htarget

theorem length_relatedEntities_leading {targetPath : Option String} {targetEquals : Json} {count : Nat}
    (h : targetEquals.WellFormed) :
    (relatedEntities
      (uniformWorld (others sourceId count) (nested (valueOfJson targetEquals) (keysOf (targetPath.getD ""))))
      sourceId types direction targetPath targetEquals
      ((others sourceId count).map (leading types direction sourceId))).length = count := by
  have hrelated : ((others sourceId count).map (leading types direction sourceId)).filterMap
      (relatedEntity sourceId types direction) = others sourceId count := by
    rw [List.filterMap_map]
    calc (others sourceId count).filterMap
            (relatedEntity sourceId types direction ∘ leading types direction sourceId)
        = (others sourceId count).filterMap some := List.filterMap_congr fun otherId hother =>
          relatedEntity_leading types direction (ne_of_mem_others hother).1
      _ = others sourceId count := List.filterMap_some
  rw [relatedEntities, hrelated, List.filter_eq_self.mpr fun otherId hother => countsAsRelated_uniform h hother,
    sortedSet, (others_nodup sourceId count).dedup, List.length_insertionSort, others, List.length_map,
    List.length_range]

theorem not_faithful_relatedCount {targetPath : Option String} {targetEquals : Json} {minimum : Nat}
    (h : targetEquals.WellFormed) (hminimum : minimum ≠ 0) :
    ¬ RewrittenFaithfully texts
      (.relatedCountGte sourceId types direction targetPath targetEquals minimum) := by
  intro hfaithful
  have hfresh : ∀ entityId ∈ sourceId :: others sourceId minimum, entityId ≠ padded sourceId 0 :=
    List.forall_mem_cons.mpr ⟨(padded_ne sourceId 0).symm, fun _ hother => (ne_of_mem_others hother).2⟩
  have hsame := hfaithful (newName sourceId (padded sourceId 0))
    (uniformWorld (others sourceId minimum) (nested (valueOfJson targetEquals) (keysOf (targetPath.getD ""))))
    ((others sourceId minimum).map (leading types direction sourceId)) (by
      apply injectiveOn_newName
      intro hmem
      exact hfresh _ (idsInUse_leading_subset types direction _ hmem) rfl)
  rw [rewritePredicate, truth_relatedCount, truth_relatedCount, relatedEntities_renamed,
    length_relatedEntities_leading types direction h, List.length_nil, Option.some.injEq,
      decide_eq_decide] at hsame
  exact hminimum (Nat.le_zero.mp (hsame.mpr (Nat.le_refl minimum)))

/-- A predicate and all its parts are rewritten faithfully exactly where no part compares two
fields or counts related entities up to a positive minimum. -/
theorem rewrites_faithfully_iff (texts : ValueTexts) (predicate : Predicate)
    (hvalues : ∀ sourceId types direction targetPath targetEquals minimum,
      Predicate.relatedCountGte sourceId types direction targetPath targetEquals minimum ∈ parts predicate →
      targetEquals.WellFormed) :
    (∀ part ∈ parts predicate, RewrittenFaithfully texts part) ↔
      ∀ part ∈ parts predicate, NamesByEntityId part := by
  constructor
  · intro h part hpart
    cases part with
    | fieldEquals _ _ _ | fieldNotEquals _ _ _ | fieldExists _ _ _ | fieldGte _ _ _ | fieldLte _ _ _ | allOf _
    | anyOf _ | not _ => trivial
    | fieldsEqual leftId leftPath rightId rightPath =>
      exact not_faithful_fieldsEqual leftId leftPath rightId rightPath (h _ hpart)
    | relatedCountGte sourceId types direction targetPath targetEquals minimum =>
      by_contra hminimum
      exact not_faithful_relatedCount types direction (hvalues _ _ _ _ _ _ hpart) hminimum (h _ hpart)
  · intro h part hpart entityMap world relationships hinjective
    apply truth_rewritePredicate
    · exact fun inner hinner => h inner (parts_trans hpart inner hinner)
    · apply hinjective.mono
      intro entityId hentity
      rw [idsInUse]
      rcases List.mem_append.mp hentity with hnamed | hkey
      · exact List.mem_append_right _ hnamed
      · exact List.mem_append_left _ (List.mem_append_left _ hkey)

/-- The service runs the version that is desired. -/
def rolledOut : Predicate := .fieldsEqual "api" "desired_state.version" "api" "observed_state.version"

def apiWorld : World := Dict.ofList [("api", .dict [("desired_state", .dict [("version", .str "2")]),
  ("observed_state", .dict [("version", .str "2"), ("ready", .bool true)])])]

def apiReady : Predicate := .allOf [.fieldEquals "api" "observed_state.ready" (.bool true),
  .not (.fieldExists "api" "observed_state.error" true)]

theorem rewrites_faithfully_ready : RewrittenFaithfully plainTexts apiReady := by
  have hvalues : ∀ sourceId types direction targetPath targetEquals minimum,
      Predicate.relatedCountGte sourceId types direction targetPath targetEquals minimum ∈ parts apiReady →
      targetEquals.WellFormed := by
    intro sourceId types direction targetPath targetEquals minimum hpart
    simp [apiReady, parts, partsOfEach] at hpart
  have hparts : ∀ part ∈ parts apiReady, NamesByEntityId part := by
    intro part hpart
    simp only [apiReady, parts, partsOfEach, List.mem_cons, List.mem_append, List.not_mem_nil,
      or_false] at hpart
    rcases hpart with rfl | rfl | rfl | rfl
    · trivial
    · trivial
    · trivial
    · trivial
  exact (rewrites_faithfully_iff plainTexts apiReady hvalues).mpr hparts _ (self_mem_parts _)

/-- The service is called otherwise in the composition, and its rollout is no longer seen. -/
theorem rolled_out_not_faithful :
    InjectiveOn (newName "api" "left::api") (idsInUse apiWorld [] rolledOut) ∧
    truth plainTexts apiWorld [] rolledOut = some true ∧
    truth plainTexts (renameWorld (newName "api" "left::api") apiWorld) []
      (rewritePredicate (newName "api" "left::api") rolledOut) = none :=
  ⟨by unfold InjectiveOn; decide, by decide, by decide⟩

end Exactness

end KubeOps.Scenarios
