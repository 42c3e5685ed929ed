import KubeOps.Discovery.Replay

/-! Which owner an owner reference leads to, for entities in one order and in another. -/
namespace KubeOps.Discovery

open KubeOps.Foundation KubeOps.Models

variable (python : Python)

section Ownership

variable {lower : String → String} {left right : List NormalizedEntity}
  {child parent other : NormalizedEntity} {owner : Json}

def entityKind (entity : NormalizedEntity) : String :=
  textOf python (kubernetesOf entity.toOperationalEntity) "kind" ""

/-- Identifiers are made of kinds, namespaces and names. -/
def NamedByScope (lower : String → String) (entities : List NormalizedEntity) : Prop :=
  ∀ entity ∈ entities,
    entity.entityId = canonicalResourceId lower (entityKind python entity) entity.namespaceName entity.name

variable {python}

theorem entityOf_eq_ok {payload : JsonObject} {entity : NormalizedEntity}
    (h : entityOf python lower payload = .ok entity) :
    entityKind python entity = kindOf python payload ∧
      entity.entityId = canonicalResourceId lower (entityKind python entity) entity.namespaceName
        entity.name := by
  obtain ⟨document, hdocument, h⟩ := except_bind_eq_ok h
  obtain ⟨-, hkind, hid⟩ := documentOf_eq_ok hdocument
  obtain ⟨observed, -, h⟩ := except_bind_eq_ok h
  obtain ⟨labels, -, h⟩ := except_bind_eq_ok h
  rw [dif_neg (hid ▸ canonicalResourceId_ne _ _ _ _)] at h
  by_cases hname : document.name = ""
  · rw [if_pos hname] at h
    cases h
  · rw [if_neg hname] at h
    rw [← Except.ok.inj h]
    have hentityKind : ∀ text, python.str (.str text) = text := python.str_str
    constructor
    · show python.str (.str document.resourceKind) = _
      rw [hentityKind, hkind]
    · show document.resourceId = canonicalResourceId lower (python.str (.str document.resourceKind)) _ _
      rw [hentityKind]
      exact hid

theorem mem_of_byScopeKindName {entities : List NormalizedEntity} {key : Option String × String × String}
    (h : (byScopeKindName python entities).get? key = some parent) :
    parent ∈ entities ∧ key = (parent.namespaceName, entityKind python parent, parent.name) := by
  obtain ⟨entity, hentity, hpair⟩ := List.mem_map.mp (Dict.mem_of_mem_ofList (Dict.get?_eq_some.mp h))
  obtain ⟨hkey, rfl⟩ := Prod.mk.inj hpair
  exact ⟨hentity, hkey.symm⟩

variable (python) in
def ownerId (entities : List NormalizedEntity) (child : NormalizedEntity) (owner : Json) : Option String :=
  (parentOf python entities child owner).map fun parent => parent.entityId

theorem ownerRelationship_eq_iff : ownerRelationship child parent owner = ownerRelationship child other owner ↔
    parent.entityId = other.entityId := by
  constructor
  · intro h
    exact congrArg (fun relationship : GraphRelationship => relationship.targetId) h
  · intro h
    simp only [ownerRelationship, h]

theorem isSome_parentOf (h : left.Perm right) (child : NormalizedEntity) (owner : Json) :
    (parentOf python left child owner).isSome = (parentOf python right child owner).isSome := by
  rw [parentOf, parentOf, Option.isSome_or, Option.isSome_or]
  congr 1
  · exact Dict.isSome_get?_ofList_of_perm (h.filterMap _) _
  · exact Dict.isSome_get?_ofList_of_perm (h.map _) _

theorem none_or_some_of_isSome {α β : Type} {one : Option α} {two : Option β} (h : one.isSome = two.isSome) :
    (one = none ∧ two = none) ∨ ∃ left right, one = some left ∧ two = some right := by
  cases one with
  | none =>
    cases two with
    | none => exact .inl ⟨rfl, rfl⟩
    | some right => cases h
  | some left =>
    cases two with
    | none => cases h
    | some right => exact .inr ⟨left, right, rfl, rfl⟩

theorem filterMap_eq_iff {α β : Type} {f g : α → Option β} {items : List α}
    (h : ∀ item ∈ items, (f item).isSome = (g item).isSome) :
    items.filterMap f = items.filterMap g ↔ ∀ item ∈ items, f item = g item := by
  induction items with
  | nil => simp
  | cons item items ih =>
    rw [List.forall_mem_cons] at h ⊢
    rw [List.filterMap_cons, List.filterMap_cons, ← ih h.2]
    obtain ⟨hf, hg⟩ | ⟨one, two, hf, hg⟩ := none_or_some_of_isSome h.1
    · simp [hf, hg]
    · simp [hf, hg]

theorem ownersOf_eq_iff (h : left.Perm right) : ownersOf python left child = ownersOf python right child ↔
    ∀ owner ∈ (ownerReferences child).filter Json.isDict,
      ownerId python left child owner = ownerId python right child owner := by
  rw [ownersOf, ownersOf, filterMap_eq_iff]
  · apply forall₂_congr
    intro owner _
    unfold ownerId
    have hsome : (parentOf python left child owner).isSome = (parentOf python right child owner).isSome :=
      isSome_parentOf h child owner
    obtain ⟨hleft, hright⟩ | ⟨one, two, hleft, hright⟩ := none_or_some_of_isSome hsome
    · simp [hleft, hright]
    · simp [hleft, hright, ownerRelationship_eq_iff]
  · intro owner _
    rw [Option.isSome_map, Option.isSome_map]
    exact isSome_parentOf h child owner

variable (python) in
def idOfUid (entities : List NormalizedEntity) (uid : String) : Option String :=
  ((byUid python NormalizedEntity.toOperationalEntity entities).get? uid).map fun entity => entity.entityId

theorem idOfScope_eq (h : left.Perm right) (hnamed : NamedByScope python lower right)
    (key : Option String × String × String) :
    ((byScopeKindName python left).get? key).map (fun entity => entity.entityId) =
      ((byScopeKindName python right).get? key).map fun entity => entity.entityId := by
  have hsome : ((byScopeKindName python left).get? key).isSome =
    ((byScopeKindName python right).get? key).isSome :=
    Dict.isSome_get?_ofList_of_perm (h.map _) key
  obtain ⟨hone, htwo⟩ | ⟨one, two, hone, htwo⟩ := none_or_some_of_isSome hsome
  · rw [hone, htwo]
  · obtain ⟨hmem, rfl⟩ := mem_of_byScopeKindName hone
    obtain ⟨hother, hkey⟩ := mem_of_byScopeKindName htwo
    simp only [Prod.mk.injEq] at hkey
    rw [hone, htwo, Option.map_some, Option.map_some, hnamed one (h.mem_iff.mp hmem), hnamed two hother,
      hkey.1, hkey.2.1, hkey.2.2]

theorem ownerId_eq_iff (h : left.Perm right) (hnamed : NamedByScope python lower right) :
    ownerId python left child owner = ownerId python right child owner ↔
      idOfUid python left (textOf python owner "uid" "") = idOfUid python right
        (textOf python owner "uid" "") := by
  have hsome : ((byUid python NormalizedEntity.toOperationalEntity left).get?
    (textOf python owner "uid" "")).isSome =
      ((byUid python NormalizedEntity.toOperationalEntity right).get? (textOf python owner "uid" "")).isSome :=
    Dict.isSome_get?_ofList_of_perm (h.filterMap _) _
  unfold ownerId idOfUid parentOf
  obtain ⟨hone, htwo⟩ | ⟨one, two, hone, htwo⟩ := none_or_some_of_isSome hsome
  · rw [hone, htwo, Option.none_or, Option.none_or]
    exact iff_of_true (idOfScope_eq h hnamed _) rfl
  · rw [hone, htwo]
    rfl

end Ownership

end KubeOps.Discovery
