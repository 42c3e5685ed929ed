import KubeOps.Discovery.Ownership

/-! Exporting a bundle and collecting it again brings back its resources, its entities and their
owners, unless the names of a secret's keys are lost or resources share a uid. -/
namespace KubeOps.Discovery

open KubeOps.Foundation KubeOps.Models

variable (python : Python) (lower : String → String)

section Trips

structure RoundTrips (bundle again : DiscoveryBundle) : Prop where
  resources : (identified again.resources).Perm (identified bundle.resources)
  entities : again.entities.Perm bundle.entities
  owners : ∀ child ∈ bundle.entities, ownersOf python again.entities child =
    ownersOf python bundle.entities child
  relationships : again.relationships.Perm bundle.relationships

structure SameContents (bundle again : DiscoveryBundle) : Prop where
  resources : identified again.resources = identified bundle.resources
  entities : again.entities = bundle.entities
  relationships : again.relationships = bundle.relationships

/-- A uid that an owner reference names stands for one identifier, whether the last resource that
has it is looked for in the order of the entities or in the order of their kinds. -/
def SharedUidsAgree (entities : List NormalizedEntity) : Prop :=
  ∀ child ∈ entities, ∀ owner ∈ (ownerReferences child).filter Json.isDict,
    idOfUid python (inKeyOrder (entityKind python) entities) (textOf python owner "uid" "") =
      idOfUid python entities (textOf python owner "uid" "")

variable {python lower} {call : CollectorCall} {raw : RawCollection} {bundle again : DiscoveryBundle}
variable {payloads : List JsonObject}

theorem MadeOf.namedByScope (h : MadeOf python lower payloads bundle) :
    NamedByScope python lower bundle.entities := by
  intro entity hentity
  rw [h.entities] at hentity
  obtain ⟨payload, -, hread⟩ := List.mem_filterMap.mp hentity
  exact (entityOf_eq_ok (except_toOption_eq_some.mp hread)).2

theorem MadeOf.inKeyOrder_entities (h : MadeOf python lower payloads bundle) :
    inKeyOrder (entityKind python) bundle.entities =
      (inKeyOrder (kindOf python) payloads).filterMap fun payload =>
        (entityOf python lower payload).toOption := by
  rw [h.entities]
  apply inKeyOrder_filterMap
  · intro payload hpayload
    obtain ⟨entity, hentity⟩ := h.readable payload hpayload
    rw [hentity]
    rfl
  · intro payload _ entity hentity
    exact (entityOf_eq_ok (except_toOption_eq_some.mp hentity)).1

theorem MadeOf.sameContents (hmade : MadeOf python lower payloads bundle)
    (hagain : MadeOf python lower payloads again) :
    SameContents bundle again where
  resources := hagain.resources.trans hmade.resources.symm
  entities := hagain.entities.trans hmade.entities.symm
  relationships := by
    rw [hagain.relationships, hmade.relationships, hagain.entities, hmade.entities]

theorem snd_identified (documents : List ResourceDocument) :
    (identified documents).map Prod.snd = documents.map ResourceDocument.payload := by
  rw [identified, List.map_map]
  rfl

theorem perm_replayed_iff (hsanitized : Sanitized payloads) :
    (replayed python payloads).Perm payloads ↔ ∀ payload ∈ payloads, ListsNoKeys payload := by
  constructor
  · intro hperm payload hpayload
    obtain ⟨found, hfound, rfl⟩ := List.mem_map.mp (hperm.mem_iff.mpr hpayload)
    obtain ⟨resource, rfl⟩ := hsanitized found (perm_inKeyOrder.mem_iff.mp hfound)
    exact listsNoKeys_again resource
  · intro hlists
    have hsame : replayed python payloads = inKeyOrder (kindOf python) payloads := by
      refine (List.map_congr_left ?_).trans (List.map_id _)
      intro payload hpayload
      have hmem := perm_inKeyOrder.mem_iff.mp hpayload
      obtain ⟨resource, rfl⟩ := hsanitized payload hmem
      exact (sanitizeResource_again_eq_iff resource).mpr (hlists _ hmem)
    rw [hsame]
    exact perm_inKeyOrder

theorem entities_replayed (hmade : MadeOf python lower payloads bundle)
    (hagain : MadeOf python lower (replayed python payloads) again) (hsanitized : Sanitized payloads)
    (hlists : ∀ payload ∈ payloads, ListsNoKeys payload) :
    again.entities = inKeyOrder (entityKind python) bundle.entities := by
  rw [hmade.inKeyOrder_entities, hagain.entities]
  congr 1
  refine (List.map_congr_left ?_).trans (List.map_id _)
  intro payload hpayload
  have hmem := perm_inKeyOrder.mem_iff.mp hpayload
  obtain ⟨resource, rfl⟩ := hsanitized payload hmem
  exact (sanitizeResource_again_eq_iff resource).mpr (hlists _ hmem)

theorem roundTrips_iff (hmade : MadeOf python lower payloads bundle)
    (hagain : MadeOf python lower (replayed python payloads) again) (hsanitized : Sanitized payloads) :
    RoundTrips python bundle again ↔
      (∀ payload ∈ payloads, ListsNoKeys payload) ∧ SharedUidsAgree python bundle.entities := by
  have howners : (∀ payload ∈ payloads, ListsNoKeys payload) → again.entities.Perm bundle.entities ∧
      ((∀ child ∈ bundle.entities, ownersOf python again.entities child =
        ownersOf python bundle.entities child) ↔
        SharedUidsAgree python bundle.entities) := by
    intro hlists
    rw [entities_replayed hmade hagain hsanitized hlists]
    refine ⟨perm_inKeyOrder, ?_⟩
    apply forall₂_congr
    intro child _
    rw [ownersOf_eq_iff perm_inKeyOrder]
    exact forall₂_congr fun owner _ => ownerId_eq_iff perm_inKeyOrder hmade.namedByScope
  constructor
  · intro h
    have hperm : (replayed python payloads).Perm payloads := by
      rw [← hagain.documents, ← hmade.documents, ← snd_identified, ← snd_identified]
      exact h.resources.map Prod.snd
    have hlists := (perm_replayed_iff hsanitized).mp hperm
    exact ⟨hlists, (howners hlists).2.mp h.owners⟩
  · intro h
    obtain ⟨hentities, hsame⟩ := howners h.1
    have hchildren := hsame.mpr h.2
    exact {
      resources := by
        rw [hagain.resources, hmade.resources]
        exact ((perm_replayed_iff hsanitized).mpr h.1).filterMap _
      entities := hentities
      owners := hchildren
      relationships := by
        rw [hagain.relationships, hmade.relationships]
        apply (hentities.flatMap_right _).trans
        rw [ownerRelationships, List.flatMap_congr hchildren] }

def RawCollection.IsSanitized (raw : RawCollection) : Prop := ∃ resources, raw.resources = sanitizeAll resources

theorem isSanitized_kubectl {strip : String → String} {fingerprint : String} {gaps : List Json}
    {validation : Json}
    {results : List (String × GetResult)}
    (h : KubectlDiscoverySource.collect lower strip fingerprint gaps validation results = .ok raw) :
    raw.IsSanitized := by
  obtain ⟨listed, -, h⟩ := except_bind_eq_ok h
  rw [← Except.ok.inj h]
  exact ⟨_, rfl⟩

theorem isSanitized_fixture {path : String} {payload : JsonObject} {resourceTypes : Option (List String)}
    (h : FixtureDiscoverySource.collect python path payload resourceTypes = .ok raw) : raw.IsSanitized := by
  unfold FixtureDiscoverySource.collect at h
  cases hresources : (payload.get? "resources").getD (.dict []) with
  | dict resources =>
    simp only [hresources] at h
    obtain ⟨issues, -, h⟩ := except_bind_eq_ok h
    obtain ⟨permissionGaps, -, h⟩ := except_bind_eq_ok h
    rw [← Except.ok.inj h]
    exact ⟨_, rfl⟩
  | null | bool _ | int _ | float _ | str _ | list _ =>
    simp only [hresources] at h
    cases h

/-- A bundle from a source that sanitizes can be exported and collected again, and a second time
changes nothing. The first time keeps resources, entities and owners exactly where no secret
has key names listed and no uid that is referred to stands for two resources. -/
theorem replay_roundTrips_iff (python : Python) (lower : String → String) {call : CollectorCall}
    {raw : RawCollection}
    {bundle : DiscoveryBundle} (hsanitized : raw.IsSanitized)
    (hcollect : DiscoveryCollector.collect python lower call raw = .ok bundle)
    (path nextPath : String) (replayCall nextCall : CollectorCall) (snapshotId nextSnapshotId : Option String) :
    ∃ again, replay python lower path replayCall bundle snapshotId = .ok again ∧
      (∃ next, replay python lower nextPath nextCall again nextSnapshotId = .ok next ∧
        SameContents again next) ∧
      (RoundTrips python bundle again ↔
        (∀ document ∈ bundle.resources, ListsNoKeys document.payload) ∧
          SharedUidsAgree python bundle.entities) := by
  obtain ⟨resources, hresources⟩ := hsanitized
  have hmade := MadeOf.of_collect hcollect
  have hpayloads : Sanitized (inTypeOrder raw.resources) := by
    rw [hresources]
    exact sanitized_inTypeOrder resources
  obtain ⟨again, hagain, hmadeAgain, hseverity⟩ :=
    exists_replay hmade hpayloads (severity_collect hcollect) path replayCall snapshotId
  obtain ⟨next, hnext, hmadeNext, -⟩ :=
    exists_replay hmadeAgain sanitized_replayed hseverity nextPath nextCall nextSnapshotId
  rw [replayed_replayed hpayloads] at hmadeNext
  refine ⟨again, hagain, ⟨next, hnext, hmadeAgain.sameContents hmadeNext⟩, ?_⟩
  rw [roundTrips_iff hmade hmadeAgain hpayloads, ← hmade.documents, List.forall_mem_map]

theorem listsNoKeys_of_others {documents : List ResourceDocument}
    (h : documents.all fun document => !isSecret document.payload) :
    ∀ document ∈ documents, ListsNoKeys document.payload := by
  intro document hdocument hsecret
  have hother := List.all_eq_true.mp h document hdocument
  rw [hsecret] at hother
  cases hother

def ownedPod : Dict String (List JsonObject) := Dict.ofList [
  ("pods", [Dict.ofList [("kind", .str "Pod"), ("metadata", .dict [("name", .str "web-1"),
    ("ownerReferences",
      .list [.dict [("uid", .str "u1"), ("kind", .str "ReplicaSet"), ("name", .str "web")]])])]]),
  ("replicasets.apps", [Dict.ofList [("kind", .str "ReplicaSet"),
    ("metadata", .dict [("name", .str "web"), ("uid", .str "u1")])]])]

theorem replay_roundTrips_ownedPod : ∃ bundle,
    DiscoveryCollector.collect Python.plain id fixtureRun
      { emptyFixture with resources := sanitizeAll ownedPod } =
      .ok bundle ∧
    bundle.relationships.map (fun relationship => relationship.relationshipId) =
      ["owner:k8s/Pod/_cluster/web-1->k8s/ReplicaSet/_cluster/web"] ∧
    ∃ again, replay Python.plain id "replay.json" fixtureRun bundle none = .ok again ∧
      RoundTrips Python.plain bundle again := by
  refine ⟨_, rfl, rfl, ?_⟩
  have hsanitized : RawCollection.IsSanitized
    { emptyFixture with resources := sanitizeAll ownedPod } := ⟨_, rfl⟩
  obtain ⟨again, hagain, -, htrips⟩ := replay_roundTrips_iff Python.plain id hsanitized rfl
    "replay.json" "next.json" fixtureRun fixtureRun none none
  refine ⟨again, hagain, htrips.mpr ⟨?_, ?_⟩⟩
  · exact listsNoKeys_of_others (by decide)
  · unfold SharedUidsAgree
    decide

/-- The name of the one key of a secret is lost. -/
theorem replay_loses_keys : ∃ bundle,
    DiscoveryCollector.collect Python.plain id fixtureRun
      { emptyFixture with resources := sanitizeAll secretList } =
      .ok bundle ∧
    ∃ again, replay Python.plain id "replay.json" fixtureRun bundle none = .ok again ∧
      ¬ RoundTrips Python.plain bundle again := by
  refine ⟨_, rfl, _, rfl, ?_⟩
  intro h
  have hresources := List.perm_singleton.mp h.resources
  have hsummaries := congrArg (List.map fun pair : String × JsonObject =>
    ((pair.2.get? "redaction").bind (Json.entry? "data_keys")).map Json.stringItems) hresources
  exact absurd hsummaries (by decide)

end Trips

end KubeOps.Discovery
