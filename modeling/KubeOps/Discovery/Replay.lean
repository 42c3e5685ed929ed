import KubeOps.Discovery.Resanitizing
import KubeOps.Foundation.Grouping

/-! A bundle that is exported as a fixture and collected again. -/
namespace KubeOps.Discovery

open KubeOps.Foundation KubeOps.Models

variable (python : Python) (lower : String → String)

def replay (path : String) (call : CollectorCall) (bundle : DiscoveryBundle) (snapshotId : Option String) :
    Except PyError DiscoveryBundle := do
  let raw ← FixtureDiscoverySource.collect python path (exportDiscoveryFixture bundle snapshotId) none
  DiscoveryCollector.collect python lower call raw

section Payloads

def documentOf (payload : JsonObject) : Except PyError ResourceDocument :=
  resourceDocument python lower payload "" ""

def entityOf (payload : JsonObject) : Except PyError NormalizedEntity :=
  documentOf python lower payload >>= normalizeEntity python lower

/-- `str(payload.get("kind", "Unknown"))` -/
def kindOf (payload : JsonObject) : String := ((payload.get? "kind").map python.str).getD "Unknown"

variable {python lower} {call : CollectorCall} {raw : RawCollection} {bundle : DiscoveryBundle}
  {payload : JsonObject}
variable {document : ResourceDocument} {entity : NormalizedEntity}

theorem resourceDocument_eq (source observedAtIso : String) :
    resourceDocument python lower payload source observedAtIso =
      (documentOf python lower payload).map fun document => { document with source, observedAtIso } := by
  simp only [documentOf, resourceDocument]
  cases namespaceOf (Json.entry? "namespace" (Json.objectOr (payload.get? "metadata"))) <;> rfl

theorem documentOf_eq_ok (h : documentOf python lower payload = .ok document) :
    document.payload = payload ∧ document.resourceKind = kindOf python payload ∧
      document.resourceId = canonicalResourceId lower document.resourceKind document.namespaceName
        document.name := by
  obtain ⟨namespaceName, -, h⟩ := except_bind_eq_ok h
  rw [← Except.ok.inj h]
  exact ⟨rfl, rfl, rfl⟩

def identified (documents : List ResourceDocument) : List (String × JsonObject) :=
  documents.map fun document => (document.resourceId, document.payload)

variable (python lower) in
def identify (payload : JsonObject) : Option (String × JsonObject) :=
  (documentOf python lower payload).toOption.map fun document => (document.resourceId, payload)

variable (python lower) in
structure MadeOf (payloads : List JsonObject) (bundle : DiscoveryBundle) : Prop where
  readable : ∀ payload ∈ payloads, ∃ entity, entityOf python lower payload = .ok entity
  resources : identified bundle.resources = payloads.filterMap (identify python lower)
  entities : bundle.entities = payloads.filterMap fun payload => (entityOf python lower payload).toOption
  relationships : bundle.relationships = ownerRelationships python bundle.entities
  documents : bundle.resources.map ResourceDocument.payload = payloads
  kinds : ∀ document ∈ bundle.resources, document.resourceKind = kindOf python document.payload

theorem toOption_read (source observedAtIso : String) :
    (resourceDocument python lower payload source observedAtIso).toOption.map
      (fun document => (document.resourceId, document.payload)) = identify python lower payload ∧
    (resourceDocument python lower payload source observedAtIso).toOption.bind
      (fun document => (normalizeEntity python lower document).toOption) =
        (entityOf python lower payload).toOption := by
  rw [resourceDocument_eq, identify, entityOf]
  cases hdocument : documentOf python lower payload with
  | error error => exact ⟨rfl, rfl⟩
  | ok document =>
    constructor
    · show some (document.resourceId, document.payload) = some (document.resourceId, payload)
      rw [(documentOf_eq_ok hdocument).1]
    · rfl

theorem MadeOf.of_collect (h : DiscoveryCollector.collect python lower call raw = .ok bundle) :
    MadeOf python lower (inTypeOrder raw.resources) bundle := by
  have hpayloads := payloads_collect h
  obtain ⟨documents, hdocuments, h⟩ := except_bind_eq_ok h
  obtain ⟨entities, hentities, h⟩ := except_bind_eq_ok h
  obtain ⟨issues, -, h⟩ := except_bind_eq_ok h
  obtain ⟨hread, hdocumentsEq⟩ := mapM_eq_ok_iff.mp hdocuments
  obtain ⟨hnormal, hentitiesEq⟩ := mapM_eq_ok_iff.mp hentities
  have hkinds : ∀ document ∈ documents, document.resourceKind = kindOf python document.payload := by
    intro document hmem
    obtain ⟨payload, -, hdocument⟩ := mem_of_mapM hdocuments hmem
    rw [resourceDocument_eq] at hdocument
    obtain ⟨found, hfound, rfl⟩ := except_map_eq_ok hdocument
    obtain ⟨hpayload, hkind, -⟩ := documentOf_eq_ok hfound
    rw [hkind, ← hpayload]
  rw [← Except.ok.inj h] at hpayloads ⊢
  exact {
    readable := by
      intro payload hpayload
      obtain ⟨document, hmem, hdocument⟩ := exists_mem_of_mapM hdocuments hpayload
      obtain ⟨entity, hentity⟩ := hnormal document hmem
      rw [resourceDocument_eq] at hdocument
      obtain ⟨found, hfound, rfl⟩ := except_map_eq_ok hdocument
      refine ⟨entity, ?_⟩
      rw [entityOf, hfound]
      exact hentity
    resources := by
      show documents.map _ = _
      rw [hdocumentsEq, List.map_filterMap]
      exact List.filterMap_congr fun payload _ => (toOption_read _ _).1
    entities := by
      show entities = _
      rw [hentitiesEq, hdocumentsEq, List.filterMap_filterMap]
      exact List.filterMap_congr fun payload _ => (toOption_read _ _).2
    relationships := rfl
    documents := hpayloads
    kinds := hkinds }

theorem exists_collect (hentities : ∀ payload ∈ inTypeOrder raw.resources, ∃ entity,
      entityOf python lower payload = .ok entity)
    (hissues : ∀ item ∈ raw.issues, ∀ sourceId uuid, ∃ issue, readIssue sourceId uuid item = .ok issue) :
    ∃ bundle, DiscoveryCollector.collect python lower call raw = .ok bundle := by
  obtain ⟨documents, hdocuments⟩ : ∃ documents, documentsOf python lower call raw.resources =
    .ok documents := by
    apply exists_mapM_ok
    intro payload hpayload
    obtain ⟨entity, hentity⟩ := hentities payload hpayload
    obtain ⟨document, hdocument, -⟩ := except_bind_eq_ok hentity
    rw [resourceDocument_eq, hdocument]
    exact ⟨_, rfl⟩
  obtain ⟨entities, hnormal⟩ : ∃ entities, documents.mapM (normalizeEntity python lower) = .ok entities := by
    apply exists_mapM_ok
    intro document hdocument
    obtain ⟨payload, hpayload, hread⟩ := mem_of_mapM hdocuments hdocument
    obtain ⟨entity, hentity⟩ := hentities payload hpayload
    rw [resourceDocument_eq] at hread
    obtain ⟨found, hfound, rfl⟩ := except_map_eq_ok hread
    rw [entityOf, hfound] at hentity
    exact ⟨entity, hentity⟩
  obtain ⟨issues, hread⟩ : ∃ issues, ((raw.issues.zipIdx).mapM fun item =>
      readIssue call.sourceId (call.issueId item.2) item.1) = .ok issues := by
    apply exists_mapM_ok
    intro item hitem
    exact hissues item.1 (List.fst_mem_of_mem_zipIdx hitem) _ _
  unfold DiscoveryCollector.collect
  rw [hdocuments]
  show ∃ bundle, (documents.mapM (normalizeEntity python lower) >>= _) = Except.ok bundle
  rw [hnormal]
  show ∃ bundle,
    (((raw.issues.zipIdx).mapM fun item => readIssue call.sourceId (call.issueId item.2) item.1) >>= _) =
    Except.ok bundle
  rw [hread]
  exact ⟨_, rfl⟩

end Payloads

section Fixtures

variable {python lower} {call : CollectorCall} {raw : RawCollection} {bundle : DiscoveryBundle}

theorem readIssue_issueJson {issue : DiscoveryIssue} (h : issue.severity ∈ ["info", "warning", "error"])
    (sourceId uuid : String) : ∃ again, readIssue sourceId uuid (issueJson issue) = .ok again := by
  have hresource : ∃ resourceType, namespaceOf (Json.entry? "resource_type" (issueJson issue)) =
    .ok resourceType := by
    show ∃ resourceType, namespaceOf (some ((issue.resourceType.map Json.str).getD .null)) = .ok resourceType
    cases issue.resourceType with
    | none => exact ⟨none, rfl⟩
    | some resourceType => exact ⟨some resourceType, rfl⟩
  obtain ⟨resourceType, hresource⟩ := hresource
  refine ⟨⟨uuid, issue.severity, issue.collectorId, resourceType, issue.message,
    Dict.ofList issue.details.entries⟩, ?_⟩
  unfold readIssue
  rw [hresource]
  show (if issue.severity ∉ ["info", "warning", "error"] then _ else _) = _
  rw [if_neg (not_not.mpr h)]
  rfl

theorem severity_readIssue {sourceId uuid : String} {item : Json} {issue : DiscoveryIssue}
    (h : readIssue sourceId uuid item = .ok issue) : issue.severity ∈ ["info", "warning", "error"] := by
  obtain ⟨severity, -, h⟩ := except_bind_eq_ok h
  obtain ⟨collectorId, -, h⟩ := except_bind_eq_ok h
  obtain ⟨message, -, h⟩ := except_bind_eq_ok h
  obtain ⟨resourceType, -, h⟩ := except_bind_eq_ok h
  by_cases hseverity : severity ∈ ["info", "warning", "error"]
  · rw [if_neg (not_not.mpr hseverity)] at h
    cases hdetails : Json.entry? "details" item with
    | none =>
      simp only [hdetails] at h
      rw [← Except.ok.inj h]
      exact hseverity
    | some details =>
      simp only [hdetails] at h
      cases details with
      | dict details =>
        rw [← Except.ok.inj h]
        exact hseverity
      | null | bool _ | int _ | float _ | str _ | list _ => cases h
  · rw [if_pos hseverity] at h
    cases h

theorem severity_collect (h : DiscoveryCollector.collect python lower call raw = .ok bundle) :
    ∀ issue ∈ bundle.issues, issue.severity ∈ ["info", "warning", "error"] := by
  obtain ⟨documents, -, h⟩ := except_bind_eq_ok h
  obtain ⟨entities, -, h⟩ := except_bind_eq_ok h
  obtain ⟨issues, hissues, h⟩ := except_bind_eq_ok h
  rw [← Except.ok.inj h]
  intro issue hissue
  obtain ⟨item, -, hitem⟩ := mem_of_mapM hissues hissue
  exact severity_readIssue hitem

theorem objectsIn_dicts (payloads : List JsonObject) :
    objectsIn (payloads.map fun payload => .dict payload.entries) = payloads := by
  rw [objectsIn, List.filterMap_map]
  exact (List.filterMap_congr fun payload _ => congrArg some (Dict.ofList_entries payload)).trans
    List.filterMap_some

theorem documents_exported (resources : Dict String (List JsonObject)) :
    FixtureDiscoverySource.documents (resources.entries.map fun entry =>
      (entry.1, .list (entry.2.map fun payload => .dict payload.entries))) none = resources := by
  rw [FixtureDiscoverySource.documents, List.filterMap_map, List.map_map]
  have hall : ∀ entry ∈ resources.entries, ((fun entry : String × Json =>
      if entry.1 ∈ resources.entries.map (Prod.fst ∘ fun entry =>
        (entry.1, Json.list (entry.2.map fun payload => .dict payload.entries))) then
        (FixtureDiscoverySource.listOf entry.2).map fun items => (entry.1, objectsIn items) else none) ∘
      fun entry => (entry.1, .list (entry.2.map fun payload => .dict payload.entries))) entry = some entry := by
    intro entry hentry
    refine (if_pos (List.mem_map.mpr ⟨entry, hentry, rfl⟩)).trans ?_
    show some (entry.1, objectsIn (entry.2.map fun payload => .dict payload.entries)) = some entry
    rw [objectsIn_dicts]
  rw [List.filterMap_congr hall, List.filterMap_some, Dict.ofList_entries]

theorem exportedResources_eq (documents : List ResourceDocument) : exportedResources documents =
    Dict.grouped ResourceDocument.resourceKind ResourceDocument.payload documents := rfl

theorem inTypeOrder_exported (documents : List ResourceDocument) :
    inTypeOrder (exportedResources documents) =
      (inKeyOrder ResourceDocument.resourceKind documents).map ResourceDocument.payload := by
  rw [exportedResources_eq, inTypeOrder, Dict.insertionSort_keys_grouped, inKeyOrder, List.map_flatMap]
  exact List.flatMap_congr fun kind _ => Dict.get?_grouped kind

theorem collect_exported (path : String) (snapshotId : Option String) : ∃ raw,
    FixtureDiscoverySource.collect python path (exportDiscoveryFixture bundle snapshotId) none = .ok raw ∧
      raw.resources = sanitizeAll (exportedResources bundle.resources) ∧
        raw.issues = bundle.issues.map issueJson := by
  refine ⟨_, rfl, ?_, rfl⟩
  rw [documents_exported]

end Fixtures

section Redactions

variable {python lower} {payload : JsonObject} {entity : NormalizedEntity}

theorem get?_redacted {key : String} (value : Json) (h : key ≠ "redaction") :
    (payload.set "redaction" value).get? key = payload.get? key := Dict.get?_set_ne _ _ h

theorem documentOf_redacted (value : Json) : documentOf python lower (payload.set "redaction" value) =
    (documentOf python lower payload).map fun document =>
      { document with payload := payload.set "redaction" value } := by
  simp only [documentOf, resourceDocument, get?_redacted value (show "metadata" ≠ "redaction" by decide),
    get?_redacted value (show "kind" ≠ "redaction" by decide),
    get?_redacted value (show "apiVersion" ≠ "redaction" by decide)]
  cases namespaceOf (Json.entry? "namespace" (Json.objectOr (payload.get? "metadata"))) <;> rfl

theorem getPath_redacted (value : Json) :
    (Json.dict (payload.set "redaction" value).entries).getPath "spec.replicas" =
    (Json.dict payload.entries).getPath "spec.replicas" := by
  have hparts : pathParts "spec.replicas" = ["spec", "replicas"] := by decide
  rw [Json.getPath, Json.getPath, if_neg (by decide), if_neg (by decide), hparts]
  show ((payload.set "redaction" value).get? "spec").bind _ = (payload.get? "spec").bind _
  rw [get?_redacted value (by decide)]

theorem observedStateOf_redacted (value : Json) :
    observedStateOf python (payload.set "redaction" value) = observedStateOf python payload := by
  simp only [observedStateOf, observedOfKind, get?_redacted value (show "metadata" ≠ "redaction" by decide),
    get?_redacted value (show "kind" ≠ "redaction" by decide),
    get?_redacted value (show "status" ≠ "redaction" by decide), getPath_redacted]

theorem entityOf_redacted (h : entityOf python lower payload = .ok entity) (value : Json) :
    ∃ again, entityOf python lower (payload.set "redaction" value) = .ok again := by
  obtain ⟨document, hdocument, h⟩ := except_bind_eq_ok h
  obtain ⟨hpayload, -⟩ := documentOf_eq_ok hdocument
  obtain ⟨observed, hobserved, h⟩ := except_bind_eq_ok h
  obtain ⟨labels, hlabels, h⟩ := except_bind_eq_ok h
  have hid : document.resourceId ≠ "" := by
    rw [(documentOf_eq_ok hdocument).2.2]
    exact canonicalResourceId_ne _ _ _ _
  rw [dif_neg hid] at h
  by_cases hname : document.name = ""
  · rw [if_pos hname] at h
    cases h
  rw [hpayload] at hobserved hlabels
  rw [entityOf, documentOf_redacted, hdocument]
  show ∃ again, normalizeEntity python lower
    { document with payload := payload.set "redaction" value } = .ok again
  simp only [normalizeEntity, observedStateOf_redacted, hobserved,
    get?_redacted value (show "metadata" ≠ "redaction" by decide), hid, hname]
  show ∃ again,
    (labelsOf (Json.objectOr (Json.entry? "labels" (Json.objectOr (payload.get? "metadata")))) >>= _) =
    Except.ok again
  rw [hlabels]
  exact ⟨_, rfl⟩

variable (payload) in
theorem kindOf_redacted (value : Json) : kindOf python (payload.set "redaction" value) =
    kindOf python payload := by
  rw [kindOf, kindOf, get?_redacted value (by decide)]

theorem entityOf_again {resource : JsonObject}
    (h : entityOf python lower (sanitizeResource resource) = .ok entity) :
    ∃ again, entityOf python lower (sanitizeResource (sanitizeResource resource)) = .ok again := by
  rw [sanitizeResource_again]
  split
  · exact entityOf_redacted h _
  · exact ⟨entity, h⟩

theorem kindOf_again (resource : JsonObject) :
    kindOf python (sanitizeResource (sanitizeResource resource)) =
      kindOf python (sanitizeResource resource) := by
  rw [sanitizeResource_again]
  split
  · exact kindOf_redacted _ _
  · rfl

end Redactions

section Replays

variable {python lower} {call : CollectorCall} {raw : RawCollection} {bundle : DiscoveryBundle}
variable {payloads : List JsonObject}

def Sanitized (payloads : List JsonObject) : Prop :=
  ∀ payload ∈ payloads, ∃ resource, payload = sanitizeResource resource

variable (python) in
def replayed (payloads : List JsonObject) : List JsonObject :=
  (inKeyOrder (kindOf python) payloads).map sanitizeResource

theorem sanitized_replayed : Sanitized (replayed python payloads) := by
  intro payload hpayload
  obtain ⟨resource, -, rfl⟩ := List.mem_map.mp hpayload
  exact ⟨resource, rfl⟩

theorem sanitized_inTypeOrder (resources : Dict String (List JsonObject)) :
    Sanitized (inTypeOrder (sanitizeAll resources)) := by
  intro payload hpayload
  rw [sanitizeAll, inTypeOrder_mapValues] at hpayload
  obtain ⟨resource, -, rfl⟩ := List.mem_map.mp hpayload
  exact ⟨resource, rfl⟩

theorem exists_replay (hmade : MadeOf python lower payloads bundle) (hsanitized : Sanitized payloads)
    (hseverity : ∀ issue ∈ bundle.issues, issue.severity ∈ ["info", "warning", "error"])
    (path : String) (call : CollectorCall) (snapshotId : Option String) :
    ∃ again, replay python lower path call bundle snapshotId = .ok again ∧
      MadeOf python lower (replayed python payloads) again ∧
      ∀ issue ∈ again.issues, issue.severity ∈ ["info", "warning", "error"] := by
  obtain ⟨raw, hraw, hresources, hissues⟩ :
    ∃ raw, FixtureDiscoverySource.collect python path
      (exportDiscoveryFixture bundle snapshotId) none = .ok raw ∧
      raw.resources = sanitizeAll (exportedResources bundle.resources) ∧
      raw.issues = bundle.issues.map issueJson := collect_exported path snapshotId
  have horder : inTypeOrder raw.resources = replayed python payloads := by
    rw [hresources, sanitizeAll, inTypeOrder_mapValues, inTypeOrder_exported, replayed, ← hmade.documents]
    congr 1
    symm
    apply inKeyOrder_map
    intro document hdocument
    exact (hmade.kinds document hdocument).symm
  obtain ⟨again, hagain⟩ : ∃ again, DiscoveryCollector.collect python lower call raw = .ok again := by
    apply exists_collect
    · rw [horder]
      intro payload hpayload
      obtain ⟨found, hfound, rfl⟩ := List.mem_map.mp hpayload
      have hmem := perm_inKeyOrder.mem_iff.mp hfound
      obtain ⟨resource, rfl⟩ := hsanitized found hmem
      obtain ⟨entity, hentity⟩ := hmade.readable _ hmem
      exact entityOf_again hentity
    · rw [hissues]
      intro item hitem
      obtain ⟨issue, hissue, rfl⟩ := List.mem_map.mp hitem
      exact readIssue_issueJson (hseverity issue hissue)
  refine ⟨again, ?_, ?_, severity_collect hagain⟩
  · rw [replay, hraw]
    exact hagain
  · rw [← horder]
    exact .of_collect hagain

theorem replayed_replayed (hsanitized : Sanitized payloads) :
    replayed python (replayed python payloads) = replayed python payloads := by
  have hkind : ∀ payload ∈ inKeyOrder (kindOf python) payloads,
      kindOf python (sanitizeResource payload) = kindOf python payload := by
    intro payload hpayload
    obtain ⟨resource, rfl⟩ := hsanitized payload (perm_inKeyOrder.mem_iff.mp hpayload)
    exact kindOf_again resource
  rw [replayed, replayed, inKeyOrder_map hkind, inKeyOrder_inKeyOrder, List.map_map]
  apply List.map_congr_left
  intro payload hpayload
  obtain ⟨resource, rfl⟩ := hsanitized payload (perm_inKeyOrder.mem_iff.mp hpayload)
  exact sanitizeResource_thrice resource

end Replays

end KubeOps.Discovery
