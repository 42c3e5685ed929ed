import KubeOps.Topology.Links

/-! The links of the passes as batches of writes under identifiers, and what becomes of them when
the entities come in another order. -/
namespace KubeOps.Topology

open KubeOps.Foundation KubeOps.Models KubeOps.Discovery

variable (python : Python)

section Definitions

def linksIn (pass : Pass) (entity : OperationalEntity) : List GraphRelationship :=
  (pass.links entity).toOption.getD []

def writesOf (links : List GraphRelationship) : List (String × GraphRelationship) :=
  links.map fun item => (item.relationshipId, item)

def batchOf (entities : List OperationalEntity) (pass : Pass) :
    Batch OperationalEntity String GraphRelationship where
  items := ofKind python entities pass.kind
  writes entity := writesOf (linksIn pass entity)

def batches (entities : List OperationalEntity) : List (Batch OperationalEntity String GraphRelationship) :=
  (passes python (.ofEntities python entities)).map (batchOf python entities)

/-- No pass makes links with one identifier for two entities, unless a later pass makes one too. -/
def Unambiguous (entities : List OperationalEntity) : Prop := ∀ key, Settled key (batches python entities)

/-- All links can be made. -/
def Linkable (entities : List OperationalEntity) : Prop :=
  ∀ pass ∈ passes python (.ofEntities python entities), ∀ entity ∈ ofKind python entities pass.kind,
    ∃ links, pass.links entity = .ok links

structure WellIdentified (entities : List OperationalEntity)
    (relationships : List GraphRelationship) : Prop where
  ids : (entities.map fun entity => entity.entityId).Nodup
  names : (entities.map fun entity => (kindOf python entity, entity.namespaceName, entity.name)).Nodup
  uids : (entities.filterMap (uidOf python)).Nodup
  relationshipIds : (relationships.map fun item => item.relationshipId).Nodup
  joins : ∀ item ∈ relationships, Joins entities item

end Definitions

variable {python} {entities others : List OperationalEntity} {relationships : List GraphRelationship}

section Adding

theorem mapM_flatten_eq_ok_iff {ε α β : Type} {f : α → Except ε (List β)} {items : List α} {values : List β} :
    (items.mapM f >>= fun lists => pure lists.flatten) = Except.ok values ↔
      (∀ item ∈ items, ∃ list, f item = .ok list) ∧ values = items.flatMap fun item =>
        (f item).toOption.getD [] := by
  have hflatten : (∀ item ∈ items, ∃ list, f item = .ok list) →
      (items.filterMap fun item => (f item).toOption).flatten = items.flatMap fun item =>
        (f item).toOption.getD [] := by
    intro hall
    induction items with
    | nil => rfl
    | cons item items ih =>
      rw [List.forall_mem_cons] at hall
      obtain ⟨list, hlist⟩ := hall.1
      rw [List.flatMap_cons, List.filterMap_cons, hlist]
      show list ++ _ = list ++ _
      rw [ih hall.2]
  constructor
  · intro h
    obtain ⟨lists, hlists, h⟩ := except_bind_eq_ok h
    obtain ⟨hall, rfl⟩ := mapM_eq_ok_iff.mp hlists
    refine ⟨hall, ?_⟩
    rw [← hflatten hall]
    exact (Except.ok.inj h).symm
  · rintro ⟨hall, rfl⟩
    rw [mapM_eq_ok_iff.mpr ⟨hall, rfl⟩, ← hflatten hall]
    rfl

theorem addedLinks_eq_ok_iff {added : List GraphRelationship} : addedLinks python entities = .ok added ↔
    Linkable python entities ∧ added = (passes python (.ofEntities python entities)).flatMap fun pass =>
      (ofKind python entities pass.kind).flatMap (linksIn pass) := by
  unfold addedLinks
  rw [mapM_flatten_eq_ok_iff]
  simp only [mapM_flatten_eq_ok_iff]
  constructor
  · rintro ⟨hall, rfl⟩
    refine ⟨fun pass hpass => ?_, List.flatMap_congr fun pass hpass => ?_⟩
    · obtain ⟨list, hlinks, -⟩ := hall pass hpass
      exact hlinks
    · obtain ⟨list, hlinks, hlist⟩ := hall pass hpass
      rw [mapM_flatten_eq_ok_iff.mpr ⟨hlinks, rfl⟩]
      rfl
  · rintro ⟨hall, rfl⟩
    refine ⟨fun pass hpass => ⟨_, hall pass hpass, rfl⟩, List.flatMap_congr fun pass hpass => ?_⟩
    rw [mapM_flatten_eq_ok_iff.mpr ⟨hall pass hpass, rfl⟩]
    rfl

theorem get?_byIdentifier_added {added : List GraphRelationship} (h : addedLinks python entities = .ok added)
    (key : String) : (byIdentifier (relationships ++ added)).get? key =
      (lastWritten key (batches python entities)).or ((byIdentifier relationships).get? key) := by
  obtain ⟨-, rfl⟩ := addedLinks_eq_ok_iff.mp h
  rw [byIdentifier, List.map_append, Dict.get?_ofList_append, ← get?_ofList_batches, batches, List.flatMap_map]
  simp only [List.map_flatMap, batchOf, writesOf]
  rfl

end Adding

section Reordering

variable (hnames : (entities.map fun entity => (kindOf python entity, entity.namespaceName, entity.name)).Nodup)
  (huids : (entities.filterMap (uidOf python)).Nodup)
  (hids : (entities.map fun entity => entity.entityId).Nodup)

theorem get?_ofList_of_perm {κ ν : Type} [DecidableEq κ] {left right : List (κ × ν)}
    (hnodup : (left.map Prod.fst).Nodup) (h : left.Perm right) (key : κ) :
    (Dict.ofList left).get? key = (Dict.ofList right).get? key := by
  apply Option.ext
  intro value
  rw [Dict.get?_ofList_eq_some hnodup, Dict.get?_ofList_eq_some
    ((h.map Prod.fst).nodup_iff.mp hnodup), h.mem_iff]

include hnames huids in
theorem index_of_perm (h : entities.Perm others) : EntityIndex.ofEntities python others =
    { EntityIndex.ofEntities python entities with pods := ofKind python others "Pod" } := by
  have hnamed : (EntityIndex.ofEntities python others).named =
    (EntityIndex.ofEntities python entities).named := by
    funext key
    symm
    apply get?_ofList_of_perm _ (h.map _)
    rw [List.map_map]
    exact hnames
  have hwithUid : (EntityIndex.ofEntities python others).withUid =
    (EntityIndex.ofEntities python entities).withUid := by
    funext uid
    symm
    apply get?_ofList_of_perm _ (h.filterMap _)
    rw [List.map_filterMap]
    simpa only [Option.map_map, Function.comp_def, Option.map_id'] using huids
  show EntityIndex.mk (EntityIndex.ofEntities python others).named
    (EntityIndex.ofEntities python others).withUid _ = _
  rw [hnamed, hwithUid]

/-- Two passes over one kind that make the same links, except for their order. -/
structure Pass.Alike (one two : Pass) : Prop where
  kind : one.kind = two.kind
  linkable : ∀ entity, (∃ links, one.links entity = .ok links) ↔ ∃ links, two.links entity = .ok links
  written : ∀ entity key, (Dict.ofList (writesOf (linksIn one entity))).get? key =
    (Dict.ofList (writesOf (linksIn two entity))).get? key

theorem Pass.Alike.rfl {pass : Pass} : pass.Alike pass := ⟨by rfl, fun _ => Iff.rfl, fun _ _ => by rfl⟩

theorem linkId_right_injective {relationshipType sourceId one two : String}
    (h : linkId relationshipType sourceId one = linkId relationshipType sourceId two) : one = two := by
  have hlist := congrArg String.toList h
  simp only [linkId, String.toList_append] at hlist
  exact String.toList_inj.mp (List.append_cancel_left (List.append_cancel_left (List.append_cancel_left
    (List.append_cancel_left hlist))))

theorem nodup_serviceSelection {index : EntityIndex} (hpods : (index.pods.map fun pod => pod.entityId).Nodup)
    (service : OperationalEntity) :
    ((writesOf (serviceSelection index service)).map Prod.fst).Nodup := by
  unfold serviceSelection writesOf
  split
  · split
    · exact List.nodup_nil
    · rw [List.map_map, List.map_map]
      apply List.Nodup.map_on
      · intro one hone two htwo hsame
        exact List.inj_on_of_nodup_map hpods (List.mem_of_mem_filter hone) (List.mem_of_mem_filter htwo)
          (linkId_right_injective hsame)
      · exact (List.Nodup.of_map _ hpods).filter _
  · exact List.nodup_nil

theorem perm_serviceSelection {index : EntityIndex} {pods : List OperationalEntity} (h : index.pods.Perm pods)
    (service : OperationalEntity) :
    (serviceSelection index service).Perm (serviceSelection { index with pods } service) := by
  unfold serviceSelection
  split
  · split
    · exact .rfl
    · exact (h.filter _).map _
  · exact .rfl

include hids in
theorem passes_alike {index : EntityIndex} (hpods : index.pods = ofKind python entities "Pod")
    {pods : List OperationalEntity} (h : index.pods.Perm pods) :
    List.Forall₂ Pass.Alike (passes python index) (passes python { index with pods }) := by
  have hnodup : (index.pods.map fun pod => pod.entityId).Nodup := by
    rw [hpods]
    exact hids.sublist (List.filter_sublist.map _)
  refine .cons .rfl (.cons .rfl (.cons .rfl (.cons ⟨rfl, fun _ => ?_, ?_⟩ (.cons .rfl (.cons .rfl (.cons .rfl
    (.cons .rfl (.cons .rfl .nil))))))))
  · exact iff_of_true ⟨_, rfl⟩ ⟨_, rfl⟩
  · intro service key
    exact get?_ofList_of_perm (nodup_serviceSelection hnodup service)
      ((perm_serviceSelection h service).map _) key

include hnames huids hids in
theorem batches_rearranged (h : entities.Perm others) :
    List.Forall₂ Batch.Rearranged (batches python entities) (batches python others) := by
  rw [batches, batches, index_of_perm hnames huids h, List.forall₂_map_left_iff, List.forall₂_map_right_iff]
  refine (passes_alike hids rfl (h.filter _)).imp ?_
  intro one two halike
  constructor
  · show (ofKind python entities one.kind).Perm (ofKind python others two.kind)
    rw [halike.kind]
    exact h.filter _
  · intro entity _ key
    exact halike.written entity key

theorem forall₂_append_left {α β : Type} {related : α → β → Prop} {before after : List α} {items : List β}
    (h : List.Forall₂ related (before ++ after) items) : ∃ left right,
      List.Forall₂ related before left ∧ List.Forall₂ related after right ∧ items = left ++ right := by
  induction before generalizing items with
  | nil => exact ⟨[], items, .nil, h, rfl⟩
  | cons item before ih =>
    obtain ⟨value, rest, hvalue, hrest, rfl⟩ := List.forall₂_cons_left_iff.mp h
    obtain ⟨left, right, hleft, hright, rfl⟩ := ih hrest
    exact ⟨value :: left, right, .cons hvalue hleft, hright, rfl⟩

theorem exists_left_of_forall₂ {α β : Type} {related : α → β → Prop} {left : List α} {right : List β}
    (h : List.Forall₂ related left right) {two : β} (htwo : two ∈ right) : ∃ one ∈ left, related one two := by
  induction h with
  | nil => cases htwo
  | cons hfirst _ ih =>
    rcases List.mem_cons.mp htwo with rfl | hrest
    · exact ⟨_, List.mem_cons_self, hfirst⟩
    · obtain ⟨one, hone, hrelated⟩ := ih hrest
      exact ⟨one, List.mem_cons_of_mem _ hone, hrelated⟩

include hnames huids hids in
theorem linkable_of_perm (h : entities.Perm others) (hlinkable : Linkable python entities) :
    Linkable python others := by
  intro two htwo entity hentity
  rw [index_of_perm hnames huids h] at htwo
  obtain ⟨one, hone, halike⟩ := exists_left_of_forall₂ (passes_alike hids rfl (h.filter _)) htwo
  rw [← halike.linkable]
  apply hlinkable one hone entity
  rw [halike.kind]
  exact (h.filter _).mem_iff.mpr hentity

end Reordering

end KubeOps.Topology
