import KubeOps.Discovery.EntityText
import KubeOps.Discovery.Flattening

/-! The diff of two snapshots reports the entities that differ, and what differs in them,
for the entities whose flattened documents and hashes can tell. -/
namespace KubeOps.Discovery

open KubeOps.Foundation KubeOps.Models

section Dumps

namespace EntityDocument

variable (entity : EntityDocument)

theorem wellFormed_strings (items : List String) : (Json.strings items).WellFormed := by
  rw [Json.strings, Json.wellFormed_list]
  exact List.forall_mem_map.mpr fun _ _ => trivial

theorem wellFormed_labels (labels : Dict String String) :
    (Json.dict (labels.entries.map fun label => (label.1, .str label.2))).WellFormed := by
  rw [Json.wellFormed_dict, List.map_map]
  exact ⟨labels.nodup, List.forall_mem_map.mpr fun _ _ => trivial⟩

theorem dump_eq : entity.dump = .dict (entity.fields.map fun field => (field.1, field.2.modelDump false)) := by
  rw [dump, Value.modelDump, Value.dumpFields_eq]
  simp only [Bool.false_and, Bool.not_false, List.filter_true]

theorem wellFormed_dump : entity.dump.WellFormed := by
  rw [dump_eq, Json.wellFormed_dict, List.map_map]
  constructor
  · show (entity.fields.map Prod.fst).Nodup
    simp [fields]
  · rw [List.forall_mem_map]
    unfold fields
    simp only [List.forall_mem_cons, valueOfText_eq, valueOfLabels_eq, modelDump_valueOfJson]
    refine ⟨trivial, trivial, wellFormed_strings _, trivial, trivial, ?_, ?_, wellFormed_labels _,
      entity.desiredState_wellFormed, entity.observedState_wellFormed, wellFormed_strings _,
      entity.extensions_wellFormed, nofun⟩
    · cases entity.namespaceName <;> trivial
    · cases entity.provider <;> trivial

end EntityDocument

end Dumps

section Changes

variable {α β : Type} {idOf hashOf : α → String} {change : Option α → Option α → Option β}
  {before after : List α} {old new : α}

theorem get?_byId {items : List α} (hnodup : (items.map idOf).Nodup) {id : String} {item : α} :
    (Dict.ofList (items.map fun item => (idOf item, item))).get? id = some item ↔
      item ∈ items ∧ idOf item = id := by
  rw [Dict.get?_ofList_eq_some (by rwa [List.map_map]), List.mem_map]
  constructor
  · rintro ⟨found, hfound, hsame⟩
    obtain ⟨hid, rfl⟩ := Prod.mk.inj hsame
    exact ⟨hfound, hid⟩
  · rintro ⟨hitem, rfl⟩
    exact ⟨item, hitem, rfl⟩

theorem change_of_changeOf {old new : Option α} {found : β} (h : changeOf hashOf change old new = some found) :
    change old new = some found := by
  cases old with
  | none => exact h
  | some old =>
    cases new with
    | none => exact h
    | some new => exact (Option.ite_none_left_eq_some.mp h).2

theorem mem_changesBetween {found : β} : found ∈ changesBetween idOf hashOf change before after ↔
    ∃ id, (id ∈ (Dict.ofList (before.map fun item => (idOf item, item))).keys ∨
        id ∈ (Dict.ofList (after.map fun item => (idOf item, item))).keys) ∧
      changeOf hashOf change ((Dict.ofList (before.map fun item => (idOf item, item))).get? id)
        ((Dict.ofList (after.map fun item => (idOf item, item))).get? id) = some found := by
  unfold changesBetween
  simp only [List.mem_filterMap, mem_sortedSet, List.mem_append]

end Changes

section Entities

variable {python : Python} {before after : SnapshotDocument} {old new : EntityDocument}

theorem entityChange_entityId {old new : Option EntityDocument} {id : String} {change : EntityChange}
    (hold : ∀ entity, old = some entity → entity.entityId = id)
    (hnew : ∀ entity, new = some entity → entity.entityId = id)
    (h : entityChange python old new = some change) : change.entityId = id := by
  cases old with
  | none =>
    cases new with
    | none => cases h
    | some new => exact Option.some.inj h ▸ hnew new rfl
  | some old =>
    cases new with
    | none => exact Option.some.inj h ▸ hold old rfl
    | some new => exact Option.some.inj h ▸ hnew new rfl

theorem mem_entityChanges (hbefore : (before.entities.map fun entity => entity.entityId).Nodup)
    (hafter : (after.entities.map fun entity => entity.entityId).Nodup) (hold : old ∈ before.entities)
    (hnew : new ∈ after.entities) (hsame : old.entityId = new.entityId) {change : EntityChange} :
    change ∈ entityChanges python before after ∧ change.entityId = old.entityId ↔
      old.contentHash python ≠ new.contentHash python ∧
        entityChange python (some old) (some new) = some change := by
  have hone : (Dict.ofList (before.entities.map fun entity => (entity.entityId, entity))).get? old.entityId =
      some old := (get?_byId hbefore).mpr ⟨hold, rfl⟩
  have htwo : (Dict.ofList (after.entities.map fun entity => (entity.entityId, entity))).get? old.entityId =
      some new := (get?_byId hafter).mpr ⟨hnew, hsame.symm⟩
  rw [entityChanges, mem_changesBetween]
  constructor
  · rintro ⟨⟨id, -, hfound⟩, hid⟩
    have hids : change.entityId = id :=
      entityChange_entityId (fun _ hentity => ((get?_byId hbefore).mp hentity).2)
        (fun _ hentity => ((get?_byId hafter).mp hentity).2) (change_of_changeOf hfound)
    rw [← hids, hid, hone, htwo] at hfound
    exact Option.ite_none_left_eq_some.mp hfound
  · rintro ⟨hhash, hchange⟩
    refine ⟨⟨old.entityId, .inl (Dict.mem_keys_of_get? hone), ?_⟩, ?_⟩
    · rw [hone, htwo]
      exact Option.ite_none_left_eq_some.mpr ⟨hhash, hchange⟩
    · exact entityChange_entityId (fun entity hentity => Option.some.inj hentity ▸ rfl)
        (fun entity hentity => Option.some.inj hentity ▸ hsame.symm) hchange

end Entities

def optionalFields : List String := ["namespace", "provider"]

structure PairExact (diff : SnapshotDiff) (old new : EntityDocument) : Prop where
  reported : (∃ change ∈ diff.entityChanges, change.entityId = old.entityId ∧ change.changeType = .changed) ↔
    ¬ old.value.Equal new.value
  exact : ∀ change ∈ diff.entityChanges, change.entityId = old.entityId → change.changeType = .changed →
    Exact optionalFields old.dump new.dump change.fieldChanges

/-- Different texts with one hash. -/
def Collide (python : Python) (old new : EntityDocument) : Prop :=
  old.value.canonicalJson ≠ new.value.canonicalJson ∧
    python.sha256 old.value.canonicalJson = python.sha256 new.value.canonicalJson

/-- The pairs of entities of which a diff can tell. -/
def Diffable (python : Python) (old new : EntityDocument) : Prop :=
  (old.value.Equal new.value ∧ (old.SetsAlike new ∨ Collide python old new)) ∨
  (¬ old.value.Equal new.value ∧ ¬ Collide python old new ∧ ¬ Json.Same old.dump new.dump ∧
    Traceable optionalFields old.dump new.dump)

section Exactness

variable {python : Python} {uuid createdAtIso : String} {before after : SnapshotDocument}
  {old new : EntityDocument} {diff : SnapshotDiff}

theorem contentHash_ne_iff : old.contentHash python ≠ new.contentHash python ↔
    ¬ (old.value.Equal new.value ∧ old.SetsAlike new) ∧ ¬ Collide python old new := by
  rw [← EntityDocument.canonicalJson_eq_iff]
  change python.sha256 old.value.canonicalJson ≠ python.sha256 new.value.canonicalJson ↔ _
  unfold Collide
  constructor
  · intro h
    exact ⟨fun htext => h (congrArg python.sha256 htext), fun hcollide => h hcollide.2⟩
  · rintro ⟨htext, hcollide⟩ hhash
    exact hcollide ⟨htext, hhash⟩

theorem entityChanges_of_diff (h : diffSnapshots python uuid createdAtIso before after = .ok diff) :
    diff.entityChanges = entityChanges python before after := by
  unfold diffSnapshots at h
  split at h
  · cases h
  · exact Except.ok.inj h ▸ rfl

section Pair

variable (h : diffSnapshots python uuid createdAtIso before after = .ok diff)
  (hbefore : (before.entities.map fun entity => entity.entityId).Nodup)
  (hafter : (after.entities.map fun entity => entity.entityId).Nodup) (hold : old ∈ before.entities)
  (hnew : new ∈ after.entities) (hsame : old.entityId = new.entityId)

include h hbefore hafter hold hnew hsame

theorem mem_diff (change : EntityChange) : change ∈ diff.entityChanges ∧ change.entityId = old.entityId ↔
    old.contentHash python ≠ new.contentHash python ∧
      entityChange python (some old) (some new) = some change := by
  rw [entityChanges_of_diff h]
  exact mem_entityChanges hbefore hafter hold hnew hsame

theorem reported_iff : (∃ change ∈ diff.entityChanges,
    change.entityId = old.entityId ∧ change.changeType = .changed) ↔
      old.contentHash python ≠ new.contentHash python := by
  have hchanges := mem_diff h hbefore hafter hold hnew hsame
  constructor
  · rintro ⟨change, hmem, hid, -⟩
    exact ((hchanges change).mp ⟨hmem, hid⟩).1
  · intro hhash
    obtain ⟨hmem, hid⟩ := (hchanges _).mpr ⟨hhash, rfl⟩
    exact ⟨_, hmem, hid, rfl⟩

theorem fieldChanges_exact_iff : (∀ change ∈ diff.entityChanges, change.entityId = old.entityId →
    change.changeType = .changed → Exact optionalFields old.dump new.dump change.fieldChanges) ↔
      (old.contentHash python ≠ new.contentHash python →
        Traceable optionalFields old.dump new.dump ∧ ¬ Json.Same old.dump new.dump) := by
  have hchanges := mem_diff h hbefore hafter hold hnew hsame
  rw [← exact_iff old.wellFormed_dump new.wellFormed_dump]
  constructor
  · intro hall hhash
    obtain ⟨hmem, hid⟩ := (hchanges _).mpr ⟨hhash, rfl⟩
    exact hall _ hmem hid rfl
  · intro hall change hmem hid _
    obtain ⟨hhash, hchange⟩ := (hchanges change).mp ⟨hmem, hid⟩
    exact Option.some.inj hchange ▸ hall hhash

theorem pairExact_iff : PairExact diff old new ↔ Diffable python old new := by
  have hpair : PairExact diff old new ↔
      (old.contentHash python ≠ new.contentHash python ↔ ¬ old.value.Equal new.value) ∧
        (old.contentHash python ≠ new.contentHash python →
          Traceable optionalFields old.dump new.dump ∧ ¬ Json.Same old.dump new.dump) := by
    rw [← fieldChanges_exact_iff h hbefore hafter hold hnew hsame,
      ← reported_iff h hbefore hafter hold hnew hsame]
    exact ⟨fun hpair => ⟨hpair.reported, hpair.exact⟩, fun hpair => ⟨hpair.1, hpair.2⟩⟩
  rw [hpair, contentHash_ne_iff, Diffable]
  by_cases hequal : old.value.Equal new.value
  · simp only [hequal, true_and, not_true_eq_false, iff_false, false_and, or_false, not_and_or, not_not]
    refine and_iff_left_of_imp fun htold hdiffer => ?_
    exact absurd htold (not_or_intro hdiffer.1 hdiffer.2)
  · simp only [hequal, false_and, not_false_eq_true, true_and, iff_true, false_or]
    constructor
    · rintro ⟨hcollide, htraced⟩
      exact ⟨hcollide, (htraced hcollide).2, (htraced hcollide).1⟩
    · rintro ⟨hcollide, hdiffer, htraced⟩
      exact ⟨hcollide, fun _ => ⟨htraced, hdiffer⟩⟩

end Pair

/-- A diff is exact for every entity in both snapshots if and only if each of these pairs is one
of which it can tell. -/
theorem diff_exact_iff (python : Python) (uuid createdAtIso : String) (before after : SnapshotDocument)
    (henvironment : before.environmentId = after.environmentId)
    (hbefore : (before.entities.map fun entity => entity.entityId).Nodup)
    (hafter : (after.entities.map fun entity => entity.entityId).Nodup) :
    (∃ diff, diffSnapshots python uuid createdAtIso before after = .ok diff ∧
      ∀ old ∈ before.entities, ∀ new ∈ after.entities, old.entityId = new.entityId → PairExact diff old new) ↔
    ∀ old ∈ before.entities, ∀ new ∈ after.entities, old.entityId = new.entityId →
      Diffable python old new := by
  have hok : ∃ diff, diffSnapshots python uuid createdAtIso before after = .ok diff := by
    unfold diffSnapshots
    rw [if_neg (not_not_intro henvironment)]
    exact ⟨_, rfl⟩
  constructor
  · rintro ⟨diff, hdiff, hall⟩ old hold new hnew hsame
    exact (pairExact_iff hdiff hbefore hafter hold hnew hsame).mp (hall old hold new hnew hsame)
  · intro hall
    obtain ⟨diff, hdiff⟩ := hok
    refine ⟨diff, hdiff, fun old hold new hnew hsame => ?_⟩
    exact (pairExact_iff hdiff hbefore hafter hold hnew hsame).mpr (hall old hold new hnew hsame)

end Exactness

section Paused

def deployment (desiredState : JsonObject) (h : (Json.dict desiredState.entries).WellFormed) :
    EntityDocument where
  entityId := "deployment:checkout"
  entityId_ne := by decide
  entityType := "deployment"
  name := "checkout"
  plane := .workload
  desiredState
  lineage_nodup := List.nodup_nil
  capabilities_nodup := List.nodup_nil
  desiredState_wellFormed := h
  observedState_wellFormed := Json.wellFormed_empty
  extensions_wellFormed := Json.wellFormed_empty

def replicas : JsonObject := ⟨[("replicas", .int 1)], by decide⟩

/-- `paused` is there and null. -/
def replicasPaused : JsonObject := ⟨[("replicas", .int 1), ("paused", .null)], by decide⟩

theorem wellFormed_replicas : (Json.dict replicas.entries).WellFormed := by
  simp [replicas, Json.WellFormed, Json.WellFormedEntries]

theorem wellFormed_replicasPaused : (Json.dict replicasPaused.entries).WellFormed := by
  simp [replicasPaused, Json.WellFormed, Json.WellFormedEntries]

def deployed (snapshotId : String) (entity : EntityDocument) : SnapshotDocument where
  snapshotId
  environmentId := "environment:shop"
  entities := [entity]

theorem diff_exact_unchanged :
    ∃ diff, diffSnapshots Python.plain "1" "2026-01-01T00:00:00+00:00"
        (deployed "snapshot:1" (deployment replicas wellFormed_replicas))
        (deployed "snapshot:2" (deployment replicas wellFormed_replicas)) = .ok diff ∧
      ∀ old ∈ [deployment replicas wellFormed_replicas], ∀ new ∈ [deployment replicas wellFormed_replicas],
        old.entityId = new.entityId → PairExact diff old new := by
  refine (diff_exact_iff Python.plain "1" "2026-01-01T00:00:00+00:00"
    (deployed "snapshot:1" (deployment replicas wellFormed_replicas))
    (deployed "snapshot:2" (deployment replicas wellFormed_replicas)) rfl (List.nodup_singleton _)
    (List.nodup_singleton _)).mpr ?_
  intro old hold new hnew _
  rw [List.mem_singleton.mp hold, List.mem_singleton.mp hnew]
  exact .inl ⟨Value.equal_refl _, .inl ⟨rfl, rfl⟩⟩

theorem not_same_replicas : ¬ Json.Same (.dict replicasPaused.entries) (.dict replicas.entries) := by
  intro h
  have hrel := (Json.same_dict_iff replicasPaused.nodup replicas.nodup).mp h "paused"
  rw [show Json.entry? "paused" (.dict replicasPaused.entries) = some .null from rfl,
    show Json.entry? "paused" (.dict replicas.entries) = none from rfl] at hrel
  cases hrel

/-- A null that goes is reported as a change of no field. -/
theorem diff_paused_not_exact :
    ¬ ∃ diff, diffSnapshots Python.plain "1" "2026-01-01T00:00:00+00:00"
        (deployed "snapshot:1" (deployment replicasPaused wellFormed_replicasPaused))
        (deployed "snapshot:2" (deployment replicas wellFormed_replicas)) = .ok diff ∧
      ∀ old ∈ [deployment replicasPaused wellFormed_replicasPaused],
        ∀ new ∈ [deployment replicas wellFormed_replicas],
        old.entityId = new.entityId → PairExact diff old new := by
  rintro ⟨diff, hdiff, hall⟩
  have hexact := hall _ (List.mem_singleton_self _) _ (List.mem_singleton_self _) rfl
  rcases (pairExact_iff hdiff (List.nodup_singleton _) (List.nodup_singleton _) (List.mem_singleton_self _)
    (List.mem_singleton_self _) rfl).mp hexact with hequal | htraced
  · have hfields := (equal_model_iff ((EntityDocument.fields_names _).trans
      (EntityDocument.fields_names _).symm)).mp hequal.1
    simp only [EntityDocument.fields, List.forall₂_cons, equal_valueOfJson] at hfields
    exact not_same_replicas hfields.2.2.2.2.2.2.2.2.2.1
  · have hkept := htraced.2.2.2.kept ["desired_state", "paused"]
    exact absurd hkept.1 (by decide)

end Paused

end KubeOps.Discovery
