import KubeOps.Foundation.Segments
import KubeOps.Topology.Batches

/-! The compiled graph joins entities that are there, does not change when it is compiled again,
and does not depend on the order of what it is made from: as long as no two entities of one kind
are linked under one identifier. -/
namespace KubeOps.Topology

open KubeOps.Foundation KubeOps.Models KubeOps.Discovery

section Arrows

variable {python : Python} {entities : List OperationalEntity} {entity : OperationalEntity} {key : String}

/-- A text with `->` in it. -/
def HasArrow (text : String) : Prop := ['-', '>'] <:+: text.toList

instance (text : String) : Decidable (HasArrow text) := inferInstanceAs (Decidable (_ <:+: _))

theorem linkId_inj {relationshipType otherType sourceId otherSource targetId otherTarget : String}
    (htype : ':' ∉ relationshipType.toList) (hotherType : ':' ∉ otherType.toList)
    (hsource : ¬ HasArrow sourceId) (hotherSource : ¬ HasArrow otherSource)
    (h : linkId relationshipType sourceId targetId = linkId otherType otherSource otherTarget) :
    relationshipType = otherType ∧ sourceId = otherSource ∧ targetId = otherTarget := by
  have hlist := congrArg String.toList h
  simp only [linkId, String.toList_append] at hlist
  obtain ⟨hone, hrest⟩ := append_cons_inj htype hotherType hlist
  obtain ⟨htwo, hthree⟩ := append_pair_inj (by decide) hsource hotherSource hrest
  exact ⟨String.toList_inj.mp hone, String.toList_inj.mp htwo, String.toList_inj.mp hthree⟩

theorem mem_linksIn_of_writtenBy {pass : Pass} {item : GraphRelationship}
    (h : (batchOf python entities pass).writtenBy key entity = some item) :
    item ∈ linksIn pass entity ∧ item.relationshipId = key := by
  obtain ⟨found, hfound, hpair⟩ := List.mem_map.mp (Dict.mem_of_mem_ofList (Dict.get?_eq_some.mp h))
  obtain ⟨hkey, rfl⟩ := Prod.mk.inj hpair
  exact ⟨hfound, hkey⟩

theorem madeFor_linksIn {pass : Pass} (hpass : pass ∈ passes python (.ofEntities python entities))
    (hentity : entity ∈ entities) : MadeFor entities entity (linksIn pass entity) := by
  unfold linksIn
  cases hlinks : pass.links entity with
  | error error => exact nofun
  | ok links => exact madeFor_pass (EntityIndex.finds_ofEntities python entities) hentity hpass hlinks

theorem settled_of_unique {α κ ν : Type} [DecidableEq κ] {key : κ} {batches : List (Batch α κ ν)}
    (h : ∀ batch ∈ batches, ∀ one ∈ batch.items, ∀ two ∈ batch.items,
      batch.writtenBy key one ≠ none → batch.writtenBy key two ≠ none → one = two) : Settled key batches := by
  induction batches with
  | nil => trivial
  | cons batch batches ih =>
    rw [List.forall_mem_cons] at h
    exact ⟨ih h.2, fun _ => h.1⟩

theorem unambiguous_of_no_arrow (hids : (entities.map fun entity => entity.entityId).Nodup)
    (h : ∀ entity ∈ entities, ¬ HasArrow entity.entityId) : Unambiguous python entities := by
  intro key
  apply settled_of_unique
  intro batch hbatch one hone two htwo hwritesOne hwritesTwo
  obtain ⟨pass, hpass, rfl⟩ := List.mem_map.mp hbatch
  have hmemOne := List.mem_of_mem_filter hone
  have hmemTwo := List.mem_of_mem_filter htwo
  obtain ⟨left, hleft⟩ := Option.ne_none_iff_exists'.mp hwritesOne
  obtain ⟨right, hright⟩ := Option.ne_none_iff_exists'.mp hwritesTwo
  obtain ⟨hleft, hleftId⟩ := mem_linksIn_of_writtenBy hleft
  obtain ⟨hright, hrightId⟩ := mem_linksIn_of_writtenBy hright
  obtain ⟨hleftFor, ⟨⟨leftSource, hleftSource, hleftSourceId⟩, -⟩, hleftType, hleftLink⟩ :=
    madeFor_linksIn hpass hmemOne left hleft
  obtain ⟨hrightFor, ⟨⟨rightSource, hrightSource, hrightSourceId⟩, -⟩, hrightType, hrightLink⟩ :=
    madeFor_linksIn hpass hmemTwo right hright
  have hsame : linkId left.relationshipType left.sourceId left.targetId =
      linkId right.relationshipType right.sourceId right.targetId := by
    rw [← hleftLink, ← hrightLink, hleftId, hrightId]
  have hclear : ¬ HasArrow left.sourceId ∧ ¬ HasArrow right.sourceId := by
    rw [hleftSourceId, hrightSourceId]
    exact ⟨h leftSource hleftSource, h rightSource hrightSource⟩
  obtain ⟨htype, hsource, htarget⟩ := linkId_inj hleftType hrightType hclear.1 hclear.2 hsame
  have hfor : linkedFor left = linkedFor right := by
    unfold linkedFor
    rw [htype, hsource, htarget]
  exact List.inj_on_of_nodup_map hids hmemOne hmemTwo (hleftFor.symm.trans (hfor.trans hrightFor))

end Arrows

variable (python : Python)

section Definitions

structure Closed (entities : List OperationalEntity) (graph : TopologyGraph) : Prop where
  joins : ∀ item ∈ graph.relationships, Joins entities item
  ids : (graph.relationships.map fun item => item.relationshipId).Nodup

/-- The same graph: the keys of the layers come in no particular order, nor do the warnings. -/
structure SameGraph (left right : TopologyGraph) : Prop where
  entities : left.entities = right.entities
  relationships : left.relationships = right.relationships
  layers : ∀ plane, left.layers.get? plane = right.layers.get? plane
  statistics : left.statistics = right.statistics
  warnings : left.warnings.Perm right.warnings

/-- The graph's own entities and relationships lead to the same relationships. -/
def Recompiles (graph : TopologyGraph) : Prop :=
  ∃ again, TopologyCompiler.compile python graph.entities graph.relationships = .ok again ∧
    again.relationships = graph.relationships

def OrderFree (entities : List OperationalEntity) (relationships : List GraphRelationship)
    (graph : TopologyGraph) : Prop :=
  ∀ otherEntities otherRelationships, entities.Perm otherEntities → relationships.Perm otherRelationships →
    ∃ other, TopologyCompiler.compile python otherEntities otherRelationships = .ok other ∧
      SameGraph graph other

end Definitions

variable {python} {entities others : List OperationalEntity} {relationships added : List GraphRelationship}
variable {graph : TopologyGraph} {key : String}

section Identifiers

variable (relationships) in
theorem relationshipId_of_get? {item : GraphRelationship}
    (h : (byIdentifier relationships).get? key = some item) :
    item ∈ relationships ∧ item.relationshipId = key := by
  obtain ⟨found, hfound, hpair⟩ := List.mem_map.mp (Dict.mem_of_mem_ofList (Dict.get?_eq_some.mp h))
  obtain ⟨hkey, rfl⟩ := Prod.mk.inj hpair
  exact ⟨hfound, hkey⟩

theorem map_values_byIdentifier (relationships : List GraphRelationship) :
    ((byIdentifier relationships).values.map fun item => item.relationshipId) =
      (byIdentifier relationships).keys := by
  rw [Dict.values, Dict.keys, List.map_map]
  apply List.map_congr_left
  intro entry hentry
  exact (relationshipId_of_get? relationships (Dict.get?_eq_some.mpr hentry)).2

theorem nodup_values_byIdentifier (relationships : List GraphRelationship) :
    ((byIdentifier relationships).values.map fun item => item.relationshipId).Nodup := by
  rw [map_values_byIdentifier]
  exact Dict.keys_nodup _

def finalRelationships (relationships : List GraphRelationship) : List GraphRelationship :=
  sortedBy (fun item => item.relationshipId) (byIdentifier relationships).values

theorem perm_finalRelationships (relationships : List GraphRelationship) :
    (finalRelationships relationships).Perm (byIdentifier relationships).values := perm_sortedBy _ _

theorem nodup_finalRelationships (relationships : List GraphRelationship) :
    ((finalRelationships relationships).map fun item => item.relationshipId).Nodup :=
  ((perm_finalRelationships relationships).map _).nodup_iff.mpr (nodup_values_byIdentifier relationships)

theorem get?_finalRelationships (relationships : List GraphRelationship) (key : String) :
    (byIdentifier (finalRelationships relationships)).get? key = (byIdentifier relationships).get? key := by
  apply Option.ext
  intro item
  rw [byIdentifier, Dict.get?_ofList_eq_some, List.mem_map]
  · constructor
    · rintro ⟨found, hfound, hpair⟩
      obtain ⟨rfl, rfl⟩ := Prod.mk.inj hpair
      obtain ⟨other, hother⟩ := Dict.mem_values.mp ((perm_finalRelationships relationships).mem_iff.mp hfound)
      have hlookup := Dict.get?_eq_some.mpr hother
      rw [(relationshipId_of_get? relationships hlookup).2]
      exact hlookup
    · intro hlookup
      refine ⟨item, ?_, ?_⟩
      · exact (perm_finalRelationships relationships).mem_iff.mpr
          (Dict.mem_values.mpr ⟨key, Dict.get?_eq_some.mp hlookup⟩)
      · rw [(relationshipId_of_get? relationships hlookup).2]
  · rw [List.map_map]
    exact nodup_finalRelationships relationships

theorem finalRelationships_eq_iff {left right : List GraphRelationship} :
    finalRelationships left = finalRelationships right ↔
      ∀ key, (byIdentifier left).get? key = (byIdentifier right).get? key := by
  constructor
  · intro h key
    rw [← get?_finalRelationships left, h, get?_finalRelationships]
  · intro h
    exact sortedBy_eq_of_perm (nodup_values_byIdentifier left) ((Dict.perm_entries h).map Prod.snd)

end Identifiers

section Compiling

theorem compile_eq_ok_iff : TopologyCompiler.compile python entities relationships = .ok graph ↔
    ∃ added, addedLinks python entities = .ok added ∧
      graph = graphOf python entities (finalRelationships (relationships ++ added)) := by
  constructor
  · intro h
    obtain ⟨added, hadded, h⟩ := except_bind_eq_ok h
    exact ⟨added, hadded, (Except.ok.inj h).symm⟩
  · rintro ⟨added, hadded, rfl⟩
    rw [TopologyCompiler.compile, hadded]
    rfl

theorem joins_added (h : addedLinks python entities = .ok added) : ∀ item ∈ added, Joins entities item := by
  obtain ⟨hlinkable, rfl⟩ := addedLinks_eq_ok_iff.mp h
  intro item hitem
  obtain ⟨pass, hpass, hitem⟩ := List.mem_flatMap.mp hitem
  obtain ⟨entity, hentity, hitem⟩ := List.mem_flatMap.mp hitem
  obtain ⟨links, hlinks⟩ := hlinkable pass hpass entity hentity
  rw [linksIn, hlinks] at hitem
  exact (madeFor_pass (EntityIndex.finds_ofEntities python entities)
    (List.mem_of_mem_filter hentity) hpass hlinks item hitem).2.1

theorem closed_graph (hwell : WellIdentified python entities relationships)
    (h : addedLinks python entities = .ok added) :
    Closed entities (graphOf python entities (finalRelationships (relationships ++ added))) where
  joins := by
    intro item hitem
    obtain ⟨key, hentry⟩ := Dict.mem_values.mp ((perm_finalRelationships _).mem_iff.mp hitem)
    rcases List.mem_append.mp (relationshipId_of_get? _ (Dict.get?_eq_some.mpr hentry)).1 with hbase | hadded
    · exact hwell.joins item hbase
    · exact joins_added h item hadded
  ids := nodup_finalRelationships _

theorem eq_nil_iff_of_perm {α : Type} {left right : List α} (h : left.Perm right) : left = [] ↔ right = [] := by
  rw [← List.length_eq_zero_iff, ← List.length_eq_zero_iff, h.length_eq]

theorem sameGraph_of_perm (hids : (entities.map fun entity => entity.entityId).Nodup)
    (h : entities.Perm others) :
    SameGraph (graphOf python entities relationships) (graphOf python others relationships) := by
  have hwarnings : (entities.flatMap (warningsOf python relationships)).Perm
      (others.flatMap (warningsOf python relationships)) := h.flatMap_right _
  have hcounted : ∀ {left right : List String}, left.Perm right → counted left = counted right := by
    intro left right hperm
    unfold counted sortedSet
    rw [insertionSort_eq_of_perm hperm.dedup]
    exact List.map_congr_left fun text _ => by rw [hperm.count_eq]
  exact {
    entities := sortedBy_eq_of_perm hids h
    relationships := rfl
    layers := by
      intro plane
      show ((Dict.grouped _ _ entities).mapValues _).get? plane =
        ((Dict.grouped _ _ others).mapValues _).get? plane
      rw [Dict.get?_mapValues, Dict.get?_mapValues, Dict.get?_grouped_eq, Dict.get?_grouped_eq]
      have hgroup := h.filter fun entity => entity.plane.text = plane
      by_cases hnone : (entities.filter fun entity => entity.plane.text = plane) = []
      · rw [if_pos hnone, if_pos ((eq_nil_iff_of_perm hgroup).mp hnone)]
      · rw [if_neg hnone, if_neg fun hother => hnone ((eq_nil_iff_of_perm hgroup).mpr hother), Option.map_some,
          Option.map_some, insertionSort_eq_of_perm (hgroup.map _)]
    statistics := by
      show TopologyStatistics.mk _ _ _ _ _ _ = TopologyStatistics.mk _ _ _ _ _ _
      rw [h.length_eq, hcounted (h.map _), (((h.filterMap _).filter _).dedup).length_eq, hwarnings.length_eq]
    warnings := hwarnings }

end Compiling

section Ordering

variable (hwell : WellIdentified python entities relationships)

include hwell

theorem exists_added_of_perm (hadded : addedLinks python entities = .ok added) (h : entities.Perm others) :
    ∃ otherAdded, addedLinks python others = .ok otherAdded :=
  ⟨_, addedLinks_eq_ok_iff.mpr ⟨linkable_of_perm hwell.names hwell.uids hwell.ids h
    (addedLinks_eq_ok_iff.mp hadded).1, rfl⟩⟩

theorem recompiles_of_unambiguous (hadded : addedLinks python entities = .ok added)
    (hclear : Unambiguous python entities) :
    Recompiles python (graphOf python entities (finalRelationships (relationships ++ added))) := by
  have hperm : entities.Perm (sortedBy (fun entity => entity.entityId) entities) := (perm_sortedBy _ _).symm
  obtain ⟨otherAdded, hother⟩ := exists_added_of_perm hwell hadded hperm
  refine ⟨_, compile_eq_ok_iff.mpr ⟨otherAdded, hother, rfl⟩, ?_⟩
  apply finalRelationships_eq_iff.mpr
  intro key
  have hlast := lastWritten_rearranged (batches_rearranged hwell.names hwell.uids hwell.ids hperm) (hclear key)
  have hbase :
    (byIdentifier (graphOf python entities (finalRelationships (relationships ++ added))).relationships).get?
      key = (byIdentifier (relationships ++ added)).get? key := get?_finalRelationships _ key
  rw [get?_byIdentifier_added hother, ← hlast, hbase, get?_byIdentifier_added hadded]
  cases lastWritten key (batches python entities) <;> rfl

theorem orderFree_of_unambiguous (hadded : addedLinks python entities = .ok added)
    (hclear : Unambiguous python entities) :
    OrderFree python entities relationships
      (graphOf python entities (finalRelationships (relationships ++ added))) := by
  intro otherEntities otherRelationships hentities hrelationships
  obtain ⟨otherAdded, hother⟩ := exists_added_of_perm hwell hadded hentities
  refine ⟨_, compile_eq_ok_iff.mpr ⟨otherAdded, hother, rfl⟩, ?_⟩
  have hfinal : finalRelationships (relationships ++ added) =
    finalRelationships (otherRelationships ++ otherAdded) := by
    rw [finalRelationships_eq_iff]
    intro key
    have hlast :=
      lastWritten_rearranged (batches_rearranged hwell.names hwell.uids hwell.ids hentities) (hclear key)
    have hbase : (byIdentifier relationships).get? key = (byIdentifier otherRelationships).get? key := by
      apply get?_ofList_of_perm _ (hrelationships.map _)
      rw [List.map_map]
      exact hwell.relationshipIds
    rw [get?_byIdentifier_added hadded, get?_byIdentifier_added hother, hlast, hbase]
  rw [← hfinal]
  exact sameGraph_of_perm hwell.ids hentities

theorem exists_last {before later : List (Batch OperationalEntity String GraphRelationship)}
    {batch : Batch OperationalEntity String GraphRelationship} {entity : OperationalEntity}
    (hsplit : batches python entities = before ++ batch :: later)
    (hnone : ∀ other ∈ later, other.written key = none)
    (hmem : entity ∈ batch.items) (hwrites : batch.writtenBy key entity ≠ none) :
    ∃ others, entities.Perm others ∧ lastWritten key (batches python others) = batch.writtenBy key entity := by
  have hbatch : batch ∈ batches python entities := by
    rw [hsplit]
    exact List.mem_append_right _ List.mem_cons_self
  obtain ⟨pass, -, rfl⟩ := List.mem_map.mp hbatch
  obtain ⟨hentity, hkind⟩ := List.mem_filter.mp hmem
  obtain ⟨first, rest, rfl⟩ := List.append_of_mem hentity
  have hperm : (first ++ entity :: rest).Perm ((first ++ rest) ++ [entity]) :=
    List.perm_middle.trans (List.perm_append_singleton entity (first ++ rest)).symm
  refine ⟨(first ++ rest) ++ [entity], hperm, ?_⟩
  have hrearranged := batches_rearranged hwell.names hwell.uids hwell.ids hperm
  rw [hsplit] at hrearranged
  obtain ⟨otherBefore, otherTail, hbefore, htail, hothers⟩ := forall₂_append_left hrearranged
  obtain ⟨other, otherLater, hother, hlater, rfl⟩ := List.forall₂_cons_left_iff.mp htail
  have hotherMem : other ∈ batches python ((first ++ rest) ++ [entity]) := by
    rw [hothers]
    exact List.mem_append_right _ List.mem_cons_self
  obtain ⟨otherPass, -, rfl⟩ := List.mem_map.mp hotherMem
  have hotherKind := (List.mem_filter.mp (hother.items.mem_iff.mp hmem)).2
  have hlast : (batchOf python ((first ++ rest) ++ [entity]) otherPass).items =
      (ofKind python (first ++ rest) otherPass.kind) ++ [entity] := by
    show ofKind python _ _ = _
    rw [ofKind, ofKind, List.filter_append, List.filter_singleton, hotherKind]
    rfl
  have hwrittenBy := hother.writtenBy entity hmem key
  have hnoneLater : lastWritten key otherLater = none := by
    rw [lastWritten_eq_none]
    intro later hmemLater
    obtain ⟨one, hone, hsame⟩ := exists_left_of_forall₂ hlater hmemLater
    exact (hsame.written_eq_none key).mp (hnone one hone)
  rw [hwrittenBy] at hwrites ⊢
  rw [hothers, lastWritten_append, lastWritten, hnoneLater, Option.none_or, Batch.written_of_last hlast hwrites]
  obtain ⟨item, hitem⟩ := Option.ne_none_iff_exists'.mp hwrites
  rw [hitem]
  rfl

theorem unambiguous_of_orderFree
    (hfree : OrderFree python entities relationships
      (graphOf python entities (finalRelationships (relationships ++ added)))) :
    Unambiguous python entities := by
  intro key
  by_contra hambiguous
  obtain ⟨before, batch, later, hsplit, hnone, one, hone, two, htwo, hwritesOne, hwritesTwo, hne⟩ :=
    exists_of_not_settled hambiguous
  have hstays : ∀ entity ∈ batch.items, batch.writtenBy key entity ≠ none →
      (byIdentifier (relationships ++ added)).get? key = batch.writtenBy key entity := by
    intro entity hentity hwrites
    obtain ⟨others, hperm, hlast⟩ := exists_last hwell hsplit hnone hentity hwrites
    obtain ⟨other, hcompile, hsame⟩ := hfree others relationships hperm .rfl
    obtain ⟨otherAdded, hother, rfl⟩ := compile_eq_ok_iff.mp hcompile
    have hrelationships : finalRelationships (relationships ++ added) =
      finalRelationships (relationships ++ otherAdded) :=
      hsame.relationships
    rw [finalRelationships_eq_iff.mp hrelationships, get?_byIdentifier_added hother, hlast]
    obtain ⟨item, hitem⟩ := Option.ne_none_iff_exists'.mp hwrites
    rw [hitem]
    rfl
  have hnamed : ∀ entity ∈ batch.items, ∀ item, batch.writtenBy key entity = some item →
      entity ∈ entities ∧ linkedFor item = entity.entityId := by
    intro entity hentity item hitem
    have hbatch : batch ∈ batches python entities := by
      rw [hsplit]
      exact List.mem_append_right _ List.mem_cons_self
    obtain ⟨pass, hpass, rfl⟩ := List.mem_map.mp hbatch
    have hmem := List.mem_of_mem_filter hentity
    exact ⟨hmem, (madeFor_linksIn hpass hmem item (mem_linksIn_of_writtenBy hitem).1).1⟩
  obtain ⟨item, hitem⟩ := Option.ne_none_iff_exists'.mp hwritesOne
  have hother : batch.writtenBy key two = some item := by
    rw [← hstays two htwo hwritesTwo, hstays one hone hwritesOne, hitem]
  obtain ⟨hmemOne, hidOne⟩ := hnamed one hone item hitem
  obtain ⟨hmemTwo, hidTwo⟩ := hnamed two htwo item hother
  exact hne (List.inj_on_of_nodup_map hwell.ids hmemOne hmemTwo (hidOne.symm.trans hidTwo))

end Ordering

/-- The graph of entities and relationships that are told apart is closed, is its own graph and
does not depend on their order, exactly where the identifiers of the links are unambiguous. -/
theorem compile_orderFree_iff (python : Python) {entities : List OperationalEntity}
    {relationships : List GraphRelationship} {graph : TopologyGraph}
    (hwell : WellIdentified python entities relationships)
    (hcompile : TopologyCompiler.compile python entities relationships = .ok graph) :
    Closed entities graph ∧ Recompiles python graph ∧ OrderFree python entities relationships graph ↔
      Unambiguous python entities := by
  obtain ⟨added, hadded, rfl⟩ := compile_eq_ok_iff.mp hcompile
  constructor
  · rintro ⟨-, -, hfree⟩
    exact unambiguous_of_orderFree hwell hfree
  · intro hclear
    exact ⟨closed_graph hwell hadded, recompiles_of_unambiguous hwell hadded hclear,
      orderFree_of_unambiguous hwell hadded hclear⟩

def labelled (kind id : String) (hid : id ≠ "") : OperationalEntity where
  entityId := id
  entityId_ne := hid
  entityType := kind
  name := id
  plane := .workload
  namespaceName := some "shop"
  labels := Dict.ofList [("app", "web")]
  extensions := Dict.ofList [("kubernetes", .dict [("kind", .str kind),
    ("sanitized_resource", .dict [("spec", .dict [("selector", .dict [("app", .str "web")])])])])]

def webShop : List OperationalEntity :=
  [labelled "Service" "web" (by decide), labelled "Pod" "web-1" (by decide)]

theorem compile_orderFree_webShop : ∃ graph, TopologyCompiler.compile Python.plain webShop [] = .ok graph ∧
    graph.relationships.map (fun item => item.relationshipId) = ["selects:web->web-1"] ∧
    Closed webShop graph ∧ Recompiles Python.plain graph ∧ OrderFree Python.plain webShop [] graph := by
  refine ⟨_, rfl, by decide, ?_⟩
  have hwell : WellIdentified Python.plain webShop [] := ⟨by decide, by decide, by decide, by decide, nofun⟩
  exact (compile_orderFree_iff Python.plain hwell rfl).mpr
    (unambiguous_of_no_arrow hwell.ids (by decide))

/-- Two services that select two pods, where one identifier stands for two of the links. -/
def arrowShop : List OperationalEntity := [
  labelled "Service" "a" (by decide), labelled "Service" "a->b" (by decide),
  labelled "Pod" "b->c" (by decide), labelled "Pod" "c" (by decide)]

/-- Which of the two links is left depends on the order of the services. -/
theorem compile_arrowShop_not_orderFree : WellIdentified Python.plain arrowShop [] ∧
    ∃ graph, TopologyCompiler.compile Python.plain arrowShop [] = .ok graph ∧
      ¬ (Closed arrowShop graph ∧ Recompiles Python.plain graph ∧
        OrderFree Python.plain arrowShop [] graph) := by
  refine ⟨⟨by decide, by decide, by decide, by decide, nofun⟩, _, rfl, ?_⟩
  rintro ⟨-, -, hfree⟩
  obtain ⟨other, hother, hsame⟩ := hfree arrowShop.reverse [] (List.reverse_perm _).symm .rfl
  obtain rfl := Except.ok.inj hother
  exact absurd (congrArg (List.map fun item => item.sourceId) hsame.relationships) (by decide)

end KubeOps.Topology
