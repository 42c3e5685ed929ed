import KubeOps.Foundation.Overwriting
import KubeOps.Foundation.Program
import KubeOps.Topology.Compiler

/-! What the passes link: entities that are there, and each link is made for one of its ends. -/
namespace KubeOps.Topology

open KubeOps.Foundation KubeOps.Models KubeOps.Discovery

variable {python : Python} {index other : EntityIndex} {entities : List OperationalEntity}
variable {entity source target : OperationalEntity} {links left right : List GraphRelationship}

section Ends

/-- The identifier of the entity for which a link was made: the target, for two types. -/
def linkedFor (item : GraphRelationship) : String :=
  if item.relationshipType ∈ ["controls", "publishes_endpoints"] then item.targetId else item.sourceId

def Joins (entities : List OperationalEntity) (item : GraphRelationship) : Prop :=
  (∃ source ∈ entities, item.sourceId = source.entityId) ∧ ∃ target ∈ entities, item.targetId = target.entityId

/-- The identifier tells the type, which has no colon in it, and the ends. -/
def Identified (item : GraphRelationship) : Prop :=
  ':' ∉ item.relationshipType.toList ∧ item.relationshipId =
    linkId item.relationshipType item.sourceId item.targetId

def MadeFor (entities : List OperationalEntity) (entity : OperationalEntity)
    (links : List GraphRelationship) : Prop :=
  ∀ item ∈ links, linkedFor item = entity.entityId ∧ Joins entities item ∧ Identified item

theorem MadeFor.append (hleft : MadeFor entities entity left) (hright : MadeFor entities entity right) :
    MadeFor entities entity (left ++ right) := by
  intro item hitem
  exact (List.mem_append.mp hitem).elim (hleft item) (hright item)

theorem MadeFor.flatMap {α : Type} {items : List α} {f : α → List GraphRelationship}
    (h : ∀ item ∈ items, MadeFor entities entity (f item)) : MadeFor entities entity (items.flatMap f) := by
  intro link hlink
  obtain ⟨item, hitem, hlink⟩ := List.mem_flatMap.mp hlink
  exact h item hitem link hlink

theorem MadeFor.flatten {lists : List (List GraphRelationship)}
    (h : ∀ links ∈ lists, MadeFor entities entity links) :
    MadeFor entities entity lists.flatten := by
  intro link hlink
  obtain ⟨links, hlinks, hlink⟩ := List.mem_flatten.mp hlink
  exact h links hlinks link hlink

structure EntityIndex.Finds (index : EntityIndex) (entities : List OperationalEntity) : Prop where
  named : ∀ key entity, index.named key = some entity → entity ∈ entities
  withUid : ∀ uid entity, index.withUid uid = some entity → entity ∈ entities
  pods : ∀ pod ∈ index.pods, pod ∈ entities

theorem EntityIndex.finds_ofEntities (python : Python) (entities : List OperationalEntity) :
    (EntityIndex.ofEntities python entities).Finds entities where
  named := by
    intro key entity h
    obtain ⟨found, hfound, hpair⟩ := List.mem_map.mp (Dict.mem_of_mem_ofList (Dict.get?_eq_some.mp h))
    rw [← (Prod.mk.inj hpair).2]
    exact hfound
  withUid := by
    intro uid entity h
    obtain ⟨found, hfound, hpair⟩ := List.mem_filterMap.mp (Dict.mem_of_mem_ofList (Dict.get?_eq_some.mp h))
    obtain ⟨text, -, hpair⟩ := Option.map_eq_some_iff.mp hpair
    rw [← (Prod.mk.inj hpair).2]
    exact hfound
  pods := fun _ hpod => (List.mem_filter.mp hpod).1

theorem MadeFor.link_to {found : Option OperationalEntity} {relationshipType provenance : String}
    {contract : OperationalEntity → JsonObject} (hentity : entity ∈ entities)
    (hfound : ∀ target, found = some target → target ∈ entities)
    (htype : relationshipType ∉ ["controls", "publishes_endpoints"] ∧ ':' ∉ relationshipType.toList) :
    MadeFor entities entity (linkTo found fun target =>
      relationship entity target relationshipType provenance (contract target)) := by
  intro item hitem
  obtain ⟨target, htarget, rfl⟩ := Option.map_eq_some_iff.mp (Option.mem_toList.mp hitem)
  exact ⟨if_neg htype.1, ⟨⟨entity, hentity, rfl⟩, target, hfound target htarget, rfl⟩, htype.2, rfl⟩

theorem MadeFor.link_from {found : Option OperationalEntity} {relationshipType provenance : String}
    {contract : OperationalEntity → JsonObject} (hentity : entity ∈ entities)
    (hfound : ∀ source, found = some source → source ∈ entities)
    (htype : relationshipType ∈ ["controls", "publishes_endpoints"] ∧ ':' ∉ relationshipType.toList) :
    MadeFor entities entity (linkTo found fun source =>
      relationship source entity relationshipType provenance (contract source)) := by
  intro item hitem
  obtain ⟨source, hsource, rfl⟩ := Option.map_eq_some_iff.mp (Option.mem_toList.mp hitem)
  exact ⟨if_pos htype.1, ⟨⟨source, hfound source hsource, rfl⟩, entity, hentity, rfl⟩, htype.2, rfl⟩

end Ends

section Passes

variable (hindex : index.Finds entities) (hentity : entity ∈ entities)

include hindex in
theorem bind_named {name : Option String} {key : String → String × Option String × String} :
    ∀ target, (name.bind fun name => index.named (key name)) = some target → target ∈ entities := by
  intro target h
  obtain ⟨name, -, h⟩ := Option.bind_eq_some_iff.mp h
  exact hindex.named _ _ h

include hindex hentity

theorem madeFor_workloadPodControl (h : workloadPodControl python index entity = .ok links) :
    MadeFor entities entity links := by
  obtain ⟨owners, -, h⟩ := except_bind_eq_ok h
  obtain ⟨lists, hlists, h⟩ := except_bind_eq_ok h
  rw [← Except.ok.inj h]
  apply MadeFor.flatten
  intro found hfound
  obtain ⟨owner, -, hmade⟩ := mem_of_mapM hlists hfound
  obtain ⟨uid, -, hmade⟩ := except_bind_eq_ok hmade
  rw [← Except.ok.inj hmade]
  exact .link_from hentity (hindex.withUid _) (by decide)

theorem madeFor_podDependencies (h : podDependencies python index entity = .ok links) :
    MadeFor entities entity links := by
  obtain ⟨refs, -, h⟩ := except_bind_eq_ok h
  rw [← Except.ok.inj h]
  refine .append (.append ?_ ?_) (.flatMap ?_)
  · exact .link_to hentity (bind_named hindex) (by decide)
  · exact .link_to hentity (hindex.named _) (by decide)
  · intro ref _
    apply MadeFor.link_to hentity (hindex.named _)
    cases ref.1 <;> decide

theorem madeFor_serviceSelection : MadeFor entities entity (serviceSelection index entity) := by
  unfold serviceSelection
  split
  · split
    · exact nofun
    · intro item hitem
      obtain ⟨pod, hpod, rfl⟩ := List.mem_map.mp hitem
      have hmem := hindex.pods pod (List.mem_filter.mp hpod).1
      have htype : ':' ∉ "selects".toList := by decide
      exact ⟨by rfl, ⟨⟨entity, hentity, by rfl⟩, pod, hmem, by rfl⟩, htype, by rfl⟩
  · exact nofun

theorem madeFor_endpointSliceLinks (h : endpointSliceLinks python index entity = .ok links) :
    MadeFor entities entity links := by
  obtain ⟨endpoints, -, h⟩ := except_bind_eq_ok h
  rw [← Except.ok.inj h]
  refine .append (.link_from hentity (bind_named hindex) (by decide)) (.flatMap ?_)
  intro endpoint _
  apply MadeFor.link_to hentity _ (by decide)
  intro target htarget
  rcases Option.or_eq_some_iff.mp htarget with huid | ⟨-, hname⟩
  · exact hindex.withUid _ _ huid
  · exact hindex.named _ _ hname

theorem madeFor_ingressLinks (h : ingressLinks python index entity = .ok links) :
    MadeFor entities entity links := by
  obtain ⟨found, -, h⟩ := except_bind_eq_ok h
  rw [← Except.ok.inj h]
  apply MadeFor.flatMap
  intro backend _
  exact .link_to hentity (bind_named hindex) (by decide)

theorem madeFor_storageLinks : MadeFor entities entity (storageLinks python index entity) :=
  .append (.link_to hentity (bind_named hindex) (by decide)) (.link_to hentity (bind_named hindex) (by decide))

omit hentity in
theorem lookup_mem {kind name : String} {namespaceName : Option Json} {found : Option OperationalEntity}
    (h : lookup index kind namespaceName name = .ok found) : ∀ target, found = some target →
      target ∈ entities := by
  intro target htarget
  subst htarget
  unfold lookup at h
  split at h
  · exact hindex.named _ _ (Except.ok.inj h)
  · exact hindex.named _ _ (Except.ok.inj h)
  · exact hindex.named _ _ (Except.ok.inj h)
  · cases h
  · cases h
  · cases h

theorem madeFor_rbacLinks (h : rbacLinks python index entity = .ok links) : MadeFor entities entity links := by
  obtain ⟨subjects, -, h⟩ := except_bind_eq_ok h
  obtain ⟨targets, htargets, h⟩ := except_bind_eq_ok h
  rw [← Except.ok.inj h]
  refine .append (.link_to hentity ?_ (by decide)) (.flatMap ?_)
  · intro role hrole
    unfold grantedRole at hrole
    split at hrole
    · exact hindex.named _ _ hrole
    · cases hrole
  · intro target htarget
    obtain ⟨subject, -, hsubject⟩ := mem_of_mapM htargets htarget
    exact .link_to hentity (lookup_mem hindex hsubject) (by decide)

theorem madeFor_pass {pass : Pass} (hpass : pass ∈ passes python index) (h : pass.links entity = .ok links) :
    MadeFor entities entity links := by
  simp only [passes, List.mem_cons, List.not_mem_nil, or_false] at hpass
  rcases hpass with rfl | rfl | rfl | rfl | rfl | rfl | rfl | rfl | rfl
  · exact madeFor_workloadPodControl hindex hentity h
  · exact madeFor_workloadPodControl hindex hentity h
  · exact madeFor_podDependencies hindex hentity h
  · rw [← Except.ok.inj h]
    exact madeFor_serviceSelection hindex hentity
  · exact madeFor_endpointSliceLinks hindex hentity h
  · exact madeFor_ingressLinks hindex hentity h
  · rw [← Except.ok.inj h]
    exact madeFor_storageLinks hindex hentity
  · exact madeFor_rbacLinks hindex hentity h
  · exact madeFor_rbacLinks hindex hentity h

end Passes

end KubeOps.Topology
