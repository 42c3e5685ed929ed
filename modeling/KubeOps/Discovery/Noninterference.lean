import KubeOps.Discovery.Collector
import KubeOps.Foundation.Program

/-! Two documents with one outline are sanitized alike, unless a secret has a key `data` below
its top level: the walk goes on into the value of that key. -/
namespace KubeOps.Discovery

open KubeOps.Foundation KubeOps.Models

variable {secret : Bool} {entries : List (String × Json)} {items : List Json} {value : Json} {key : String}

section Equations

theorem walkEntries_eq : walkEntries secret entries =
    entries.map fun entry => (entry.1, if isHidden secret entry.1 then redacted else walk secret entry.2) := by
  induction entries with
  | nil => rfl
  | cons entry entries ih => rw [walkEntries, ih, List.map_cons]

theorem walkItems_eq : walkItems secret items = items.map (walk secret) := by
  induction items with
  | nil => rfl
  | cons item items ih => rw [walkItems, ih, List.map_cons]

theorem withoutValuesInEntries_eq : withoutValuesInEntries entries =
    entries.map fun entry => (entry.1, if entry.1 ∈ sensitiveKeys then .null else withoutValues entry.2) := by
  induction entries with
  | nil => rfl
  | cons entry entries ih => rw [withoutValuesInEntries, ih, List.map_cons]

theorem withoutValuesInItems_eq : withoutValuesInItems items = items.map withoutValues := by
  induction items with
  | nil => rfl
  | cons item items ih => rw [withoutValuesInItems, ih, List.map_cons]

theorem exposesDataInEntries_iff : exposesDataInEntries entries = true ↔
    ∃ entry ∈ entries, entry.1 = "data" ∨ entry.1 ∉ sensitiveKeys ∧ exposesData entry.2 = true := by
  induction entries with
  | nil => simp [exposesDataInEntries]
  | cons entry entries ih => simp [exposesDataInEntries, ih]

theorem exposesDataInItems_iff : exposesDataInItems items = true ↔ ∃ item ∈ items, exposesData item = true := by
  induction items with
  | nil => simp [exposesDataInItems]
  | cons item items ih => simp [exposesDataInItems, ih]

theorem isHidden_iff : isHidden secret key = true ↔ key ∈ sensitiveKeys ∧ ¬ (secret = true ∧ key = "data") := by
  rw [isHidden, decide_eq_true_eq]

theorem isHidden_of_sensitive (h : key ∈ sensitiveKeys) (hdata : key = "data" → secret = false) :
    isHidden secret key = true :=
  isHidden_iff.mpr ⟨h, fun hexempt => absurd hexempt.1 (by rw [hdata hexempt.2]; exact Bool.false_ne_true)⟩

end Equations

section Forgetting

theorem exposesData_withoutValues (value : Json) : exposesData (withoutValues value) = exposesData value := by
  induction value using Json.induct with
  | null | bool _ | int _ | float _ | str _ => rfl
  | list items ih =>
    rw [Bool.eq_iff_iff, withoutValues, exposesData, exposesData, exposesDataInItems_iff,
      exposesDataInItems_iff, withoutValuesInItems_eq]
    simp only [List.mem_map, exists_exists_and_eq_and]
    exact exists_congr fun item => and_congr_right fun hitem => by rw [ih item hitem]
  | dict entries ih =>
    rw [Bool.eq_iff_iff, withoutValues, exposesData, exposesData, exposesDataInEntries_iff,
      exposesDataInEntries_iff, withoutValuesInEntries_eq]
    simp only [List.mem_map, exists_exists_and_eq_and]
    apply exists_congr
    intro entry
    apply and_congr_right
    intro hentry
    apply or_congr_right
    apply and_congr_right
    intro hkey
    rw [if_neg hkey, ih entry hentry]

theorem walk_withoutValues (h : secret = true → exposesData value = false) :
    walk secret (withoutValues value) = walk secret value := by
  induction value using Json.induct with
  | null | bool _ | int _ | float _ | str _ => rfl
  | list items ih =>
    rw [withoutValues, walk, walk, walkItems_eq, walkItems_eq, withoutValuesInItems_eq, List.map_map]
    congr 1
    apply List.map_congr_left
    intro item hitem
    apply ih item hitem
    intro hsecret
    have hnone := h hsecret
    rw [exposesData, Bool.eq_false_iff, ne_eq, exposesDataInItems_iff] at hnone
    exact Bool.eq_false_iff.mpr fun hitemExposes => hnone ⟨item, hitem, hitemExposes⟩
  | dict entries ih =>
    rw [withoutValues, walk, walk, walkEntries_eq, walkEntries_eq, withoutValuesInEntries_eq, List.map_map]
    congr 1
    apply List.map_congr_left
    intro entry hentry
    have hclear : secret = true → ¬ (entry.1 = "data" ∨ entry.1 ∉ sensitiveKeys ∧
      exposesData entry.2 = true) := by
      intro hsecret hexposed
      have hnone := h hsecret
      rw [exposesData, Bool.eq_false_iff, ne_eq, exposesDataInEntries_iff] at hnone
      exact hnone ⟨entry, hentry, hexposed⟩
    refine Prod.ext rfl ?_
    show (if isHidden secret entry.1 then redacted else walk secret
      (if entry.1 ∈ sensitiveKeys then .null else withoutValues entry.2)) = _
    by_cases hkey : entry.1 ∈ sensitiveKeys
    · have hhidden : isHidden secret entry.1 = true := by
        apply isHidden_of_sensitive hkey
        intro hdata
        exact Bool.eq_false_iff.mpr fun hsecret => hclear hsecret (.inl hdata)
      rw [if_pos hhidden, if_pos hhidden]
    · rw [if_neg hkey, ih entry hentry]
      intro hsecret
      exact Bool.eq_false_iff.mpr fun hexposed => hclear hsecret (.inr ⟨hkey, hexposed⟩)

theorem withoutValues_eq_str {text : String} : withoutValues value = .str text ↔ value = .str text := by
  cases value <;> simp [withoutValues]

end Forgetting

section Documents

variable {resource other : JsonObject}

theorem get?_outline (resource : JsonObject) (key : String) :
    (outline resource).get? key = (resource.get? key).map (outlineOf (isSecret resource) key) :=
  Dict.get?_mapEntries _ _ _

theorem isSecret_of_outline (h : outline other = outline resource) : isSecret other = isSecret resource := by
  have hkind : ∀ document : JsonObject, (outline document).get? "kind" = some (.str "Secret") ↔
      document.get? "kind" = some (.str "Secret") := by
    intro document
    rw [get?_outline]
    have houtline : outlineOf (isSecret document) "kind" = withoutValues := by
      funext child
      rw [outlineOf, if_neg (by simp), if_neg (by decide)]
    rw [houtline, Option.map_eq_some_iff]
    simp [withoutValues_eq_str]
  rw [isSecret, isSecret, Bool.eq_iff_iff, decide_eq_true_eq, decide_eq_true_eq, ← hkind other, h, hkind]

theorem walk_redaction (dataKeys stringDataKeys : List String) :
    walk true (redaction dataKeys stringDataKeys) = redaction dataKeys stringDataKeys := by
  have hstrings : ∀ names : List String, walk true (Json.strings names) = Json.strings names := by
    intro names
    rw [Json.strings, walk, walkItems_eq, List.map_map]
    rfl
  simp only [redaction, walk, walkEntries, hstrings]
  rfl

theorem sanitizeResource_secret (h : isSecret resource = true) : sanitizeResource resource =
    (((resource.erase "data").erase "stringData").mapEntries fun key child =>
      if isHidden true key then redacted else walk true child).set "redaction"
        (redaction (keyNames (resource.get? "data")) (keyNames (resource.get? "stringData"))) := by
  unfold sanitizeResource summarized
  rw [h]
  simp only [if_true]
  rw [Dict.mapEntries_set, if_neg (by decide), walk_redaction]

theorem sanitizeResource_other (h : isSecret resource = false) : sanitizeResource resource =
    resource.mapEntries fun key child => if isHidden false key then redacted else walk false child := by
  unfold sanitizeResource
  rw [h]
  rfl

theorem keyNames_of_outline (hsecret : isSecret resource = true) (hkey : key = "data" ∨ key = "stringData") :
    keyNames (resource.get? key) = (((outline resource).get? key).map Json.stringItems).getD [] := by
  rw [get?_outline, hsecret, Option.map_map]
  cases hchild : resource.get? key with
  | none => rfl
  | some child =>
    rw [Option.map_some, Option.getD_some, Function.comp_apply, outlineOf, if_pos ⟨rfl, hkey⟩,
      Json.stringItems_strings]

theorem exposed_iff_outline : Exposed resource ↔ isSecret resource = true ∧
    ∃ entry ∈ (outline resource).entries,
    entry.1 ∉ sensitiveKeys ∧ entry.1 ≠ "redaction" ∧ exposesData entry.2 = true := by
  apply and_congr_right
  intro _
  unfold outline
  rw [Dict.entries_mapEntries]
  simp only [List.mem_map, exists_exists_and_eq_and]
  apply exists_congr
  intro entry
  apply and_congr_right
  intro _
  apply and_congr_right
  intro hkey
  rw [outlineOf, if_neg, if_neg hkey, exposesData_withoutValues]
  rintro ⟨-, hmapping | hmapping⟩
  · exact hkey (by rw [hmapping]; decide)
  · exact hkey (by rw [hmapping]; decide)

theorem sanitizeResource_other_outline (h : isSecret resource = false) : sanitizeResource resource =
    (outline resource).mapEntries fun key child =>
      if isHidden false key then redacted else walk false child := by
  rw [sanitizeResource_other h, outline, Dict.mapEntries_mapEntries]
  apply Dict.mapEntries_congr
  intro entry _
  by_cases hkey : entry.1 ∈ sensitiveKeys
  · have hhidden : isHidden false entry.1 = true := isHidden_of_sensitive hkey fun _ => rfl
    simp only [hhidden, if_true]
  · simp only [outlineOf, h, Bool.false_eq_true, false_and, if_false, hkey]
    rw [walk_withoutValues (by simp)]

theorem sanitizeResource_secret_outline (h : isSecret resource = true) (hclear : ¬ Exposed resource) :
    sanitizeResource resource =
      ((((outline resource).erase "data").erase "stringData").mapEntries fun key child =>
        if isHidden true key then redacted else walk true child).set "redaction"
          (redaction ((((outline resource).get? "data").map Json.stringItems).getD [])
            ((((outline resource).get? "stringData").map Json.stringItems).getD [])) := by
  rw [sanitizeResource_secret h, keyNames_of_outline h (.inl rfl), keyNames_of_outline h (.inr rfl)]
  have houtline : ((outline resource).erase "data").erase "stringData" =
      ((resource.erase "data").erase "stringData").mapEntries (outlineOf true) := by
    rw [Dict.mapEntries_erase, Dict.mapEntries_erase, outline, h]
  rw [houtline, Dict.mapEntries_mapEntries]
  apply Dict.mapEntries_set_congr
  intro entry hentry hredaction
  obtain ⟨hstring, hentry⟩ := Dict.mem_entries_erase.mp hentry
  obtain ⟨hdata, hentry⟩ := Dict.mem_entries_erase.mp hentry
  have hmapping : ¬ (true = true ∧ (entry.1 = "data" ∨ entry.1 = "stringData")) :=
    fun hmapping => hmapping.2.elim hdata hstring
  by_cases hkey : entry.1 ∈ sensitiveKeys
  · have hhidden : isHidden true entry.1 = true := isHidden_of_sensitive hkey fun hsame => absurd hsame hdata
    simp only [hhidden, if_true]
  · rw [outlineOf, if_neg hmapping, if_neg hkey, walk_withoutValues]
    intro _
    exact Bool.eq_false_iff.mpr fun hexposed => hclear ⟨h, entry, hentry, hkey, hredaction, hexposed⟩

theorem sanitizeResource_of_outline (h : outline other = outline resource) (hclear : ¬ Exposed resource) :
    sanitizeResource other = sanitizeResource resource := by
  have hkind := isSecret_of_outline h
  cases hsecret : isSecret resource with
  | false =>
    rw [sanitizeResource_other_outline hsecret, sanitizeResource_other_outline (hkind.trans hsecret), h]
  | true =>
    have hother : ¬ Exposed other := by
      rw [exposed_iff_outline, h, hkind, ← exposed_iff_outline]
      exact hclear
    rw [sanitizeResource_secret_outline hsecret hclear,
      sanitizeResource_secret_outline (hkind.trans hsecret) hother, h]

end Documents

section Tampering

mutual

/-- The value with something else under each key `data` that is exposed. -/
def tampered : Json → Json
  | .dict entries => .dict (tamperedEntries entries)
  | .list items => .list (tamperedItems items)
  | value => value

def tamperedEntries : List (String × Json) → List (String × Json)
  | [] => []
  | (key, child) :: rest =>
    (key, if key = "data" then (if child.isNull then .bool true else .null)
      else if key ∈ sensitiveKeys then child else tampered child) :: tamperedEntries rest

def tamperedItems : List Json → List Json
  | [] => []
  | item :: rest => tampered item :: tamperedItems rest

end

theorem tamperedEntries_eq : tamperedEntries entries = entries.map fun entry =>
    (entry.1, if entry.1 = "data" then (if entry.2.isNull then .bool true else .null)
      else if entry.1 ∈ sensitiveKeys then entry.2 else tampered entry.2) := by
  induction entries with
  | nil => rfl
  | cons entry entries ih => rw [tamperedEntries, ih, List.map_cons]

theorem tamperedItems_eq : tamperedItems items = items.map tampered := by
  induction items with
  | nil => rfl
  | cons item items ih => rw [tamperedItems, ih, List.map_cons]

theorem withoutValues_tampered (value : Json) : withoutValues (tampered value) = withoutValues value := by
  induction value using Json.induct with
  | null | bool _ | int _ | float _ | str _ => rfl
  | list items ih =>
    rw [tampered, withoutValues, withoutValues, withoutValuesInItems_eq, withoutValuesInItems_eq,
      tamperedItems_eq, List.map_map]
    congr 1
    exact List.map_congr_left ih
  | dict entries ih =>
    rw [tampered, withoutValues, withoutValues, withoutValuesInEntries_eq, withoutValuesInEntries_eq,
      tamperedEntries_eq, List.map_map]
    congr 1
    apply List.map_congr_left
    intro entry hentry
    refine Prod.ext rfl ?_
    simp only [Function.comp_apply]
    by_cases hkey : entry.1 ∈ sensitiveKeys
    · rw [if_pos hkey, if_pos hkey]
    · have hdata : entry.1 ≠ "data" := by
        intro hdata
        exact hkey (by rw [hdata]; decide)
      rw [if_neg hkey, if_neg hkey, if_neg hdata, if_neg hkey, ih entry hentry]

theorem isNull_walk (value : Json) : (walk secret value).isNull = value.isNull := by
  cases value <;> rfl

theorem walk_tampered_ne (h : exposesData value = true) : walk true (tampered value) ≠ walk true value := by
  induction value using Json.induct with
  | null | bool _ | int _ | float _ | str _ => cases h
  | list items ih =>
    intro hsame
    obtain ⟨item, hitem, hexposed⟩ := exposesDataInItems_iff.mp h
    rw [tampered, walk, walk, walkItems_eq, walkItems_eq, tamperedItems_eq, List.map_map, Json.list.injEq,
      List.map_inj_left] at hsame
    exact ih item hitem hexposed (hsame item hitem)
  | dict entries ih =>
    intro hsame
    obtain ⟨entry, hentry, hexposed⟩ := exposesDataInEntries_iff.mp h
    rw [tampered, walk, walk, walkEntries_eq, walkEntries_eq, tamperedEntries_eq, List.map_map,
      Json.dict.injEq, List.map_inj_left] at hsame
    have hchild := congrArg Prod.snd (hsame entry hentry)
    simp only [Function.comp_apply] at hchild
    rcases hexposed with hdata | ⟨hkey, hexposed⟩
    · have hshown : isHidden true entry.1 = false := by
        rw [hdata]
        decide
      rw [hshown, if_pos hdata] at hchild
      simp only [Bool.false_eq_true, if_false] at hchild
      have hnull := congrArg Json.isNull hchild
      rw [isNull_walk, isNull_walk] at hnull
      cases hvalue : entry.2.isNull with
      | true =>
        rw [hvalue] at hnull
        cases hnull
      | false =>
        rw [hvalue] at hnull
        cases hnull
    · have hshown : isHidden true entry.1 = false :=
        Bool.eq_false_iff.mpr fun hhidden => hkey (isHidden_iff.mp hhidden).1
      have hdata : entry.1 ≠ "data" := by
        intro hdata
        exact hkey (by rw [hdata]; decide)
      rw [hshown, if_neg hdata, if_neg hkey] at hchild
      exact ih entry hentry hexposed hchild

/-- A document with other values, where something is exposed. -/
def tamperedResource (resource : JsonObject) : JsonObject :=
  resource.mapEntries fun key child => if key ∈ sensitiveKeys then child else tampered child

variable {resource : JsonObject}

theorem outline_tamperedResource (h : isSecret resource = true) :
    isSecret (tamperedResource resource) = true ∧ outline (tamperedResource resource) = outline resource := by
  have hkind : isSecret (tamperedResource resource) = true := by
    rw [isSecret, decide_eq_true_eq] at h ⊢
    rw [tamperedResource, Dict.get?_mapEntries, h]
    rfl
  refine ⟨hkind, ?_⟩
  rw [outline, outline, hkind, h, tamperedResource, Dict.mapEntries_mapEntries]
  apply Dict.mapEntries_congr
  intro entry _
  by_cases hkey : entry.1 ∈ sensitiveKeys
  · simp only [hkey, if_true]
  · simp only [hkey, if_false]
    rw [outlineOf, outlineOf, if_neg hkey, if_neg hkey, withoutValues_tampered]
    split
    · rename_i hmapping
      rcases hmapping.2 with hsame | hsame
      · exact absurd (by rw [hsame]; decide) hkey
      · exact absurd (by rw [hsame]; decide) hkey
    · rfl

theorem get?_sanitizeResource (h : isSecret resource = true) (hkey : key ∉ sensitiveKeys)
    (hredaction : key ≠ "redaction") :
    (sanitizeResource resource).get? key = (resource.get? key).map (walk true) := by
  have hdata : key ≠ "data" := by
    rintro rfl
    exact hkey (by decide)
  have hstring : key ≠ "stringData" := by
    rintro rfl
    exact hkey (by decide)
  have hshown : isHidden true key = false :=
    Bool.eq_false_iff.mpr fun hhidden => hkey (isHidden_iff.mp hhidden).1
  rw [sanitizeResource_secret h, Dict.get?_set_ne _ _ hredaction, Dict.get?_mapEntries, Dict.get?_erase,
    if_neg hstring, Dict.get?_erase, if_neg hdata, hshown]
  rfl

theorem sanitizeResource_tamperedResource (h : Exposed resource) :
    sanitizeResource (tamperedResource resource) ≠ sanitizeResource resource := by
  obtain ⟨hsecret, entry, hentry, hkey, hredaction, hexposed⟩ := h
  intro hsame
  have hvalue : (sanitizeResource (tamperedResource resource)).get? entry.1 =
      (sanitizeResource resource).get? entry.1 := by rw [hsame]
  rw [get?_sanitizeResource hsecret hkey hredaction,
    get?_sanitizeResource (outline_tamperedResource hsecret).1 hkey hredaction, tamperedResource,
    Dict.get?_mapEntries, Dict.get?_eq_some.mpr hentry] at hvalue
  simp only [Option.map_some, hkey, if_false, Option.some.injEq] at hvalue
  exact walk_tampered_ne hexposed hvalue

end Tampering

section Collecting

variable {python : Python} {lower : String → String} {call : CollectorCall} {raw : RawCollection}
variable {resources others : Dict String (List JsonObject)} {bundle : DiscoveryBundle}

/-- The documents of a collection, without the values in them. -/
def outlines (resources : Dict String (List JsonObject)) : Dict String (List JsonObject) :=
  resources.mapValues (List.map outline)

theorem mem_inTypeOrder {resource : JsonObject} :
    resource ∈ inTypeOrder resources ↔ ∃ entry ∈ resources.entries, resource ∈ entry.2 := by
  simp only [inTypeOrder, List.mem_flatMap, List.mem_insertionSort]
  constructor
  · rintro ⟨key, -, hresource⟩
    cases hitems : resources.get? key with
    | none =>
      rw [hitems] at hresource
      cases hresource
    | some items =>
      rw [hitems] at hresource
      exact ⟨(key, items), Dict.get?_eq_some.mp hitems, hresource⟩
  · rintro ⟨entry, hentry, hresource⟩
    refine ⟨entry.1, Dict.mem_keys.mpr ⟨entry.2, hentry⟩, ?_⟩
    rw [Dict.get?_eq_some.mpr hentry]
    exact hresource

theorem inTypeOrder_mapValues (f : JsonObject → JsonObject) :
    inTypeOrder (resources.mapValues (List.map f)) = (inTypeOrder resources).map f := by
  rw [inTypeOrder, inTypeOrder, Dict.keys_mapValues, List.map_flatMap]
  apply List.flatMap_congr
  intro key _
  rw [Dict.get?_mapValues]
  cases resources.get? key <;> rfl

theorem payload_resourceDocument {resource : JsonObject} {source observedAtIso : String}
    {document : ResourceDocument}
    (h : resourceDocument python lower resource source observedAtIso = .ok document) :
    document.payload = resource := by
  obtain ⟨namespaceName, -, h⟩ := except_bind_eq_ok h
  rw [← Except.ok.inj h]

theorem payloads_documentsOf {documents : List ResourceDocument}
    (h : documentsOf python lower call resources = .ok documents) :
    documents.map ResourceDocument.payload = inTypeOrder resources := by
  rw [map_eq_of_mapM h fun _ _ hdocument => payload_resourceDocument hdocument, List.map_id']

theorem payloads_collect (h : DiscoveryCollector.collect python lower call raw = .ok bundle) :
    bundle.resources.map ResourceDocument.payload = inTypeOrder raw.resources := by
  obtain ⟨documents, hdocuments, h⟩ := except_bind_eq_ok h
  obtain ⟨entities, -, h⟩ := except_bind_eq_ok h
  obtain ⟨issues, -, h⟩ := except_bind_eq_ok h
  rw [← Except.ok.inj h]
  exact payloads_documentsOf hdocuments

theorem map_eq_of_map_eq {α β γ : Type} {f : α → β} {g : α → γ} {others items : List α}
    (h : others.map g = items.map g) (hdecides : ∀ item ∈ items, ∀ other, g other = g item → f other = f item) :
    others.map f = items.map f := by
  induction items generalizing others with
  | nil => rw [List.map_eq_nil_iff.mp h]
  | cons item items ih =>
    obtain ⟨other, rest, rfl, hother, hrest⟩ := List.map_eq_cons_iff.mp h
    rw [List.forall_mem_cons] at hdecides
    rw [List.map_cons, List.map_cons, hdecides.1 other hother, ih hrest hdecides.2]

theorem sanitizeAll_of_outlines (h : outlines others = outlines resources)
    (hclear : ∀ resource ∈ inTypeOrder resources, ¬ Exposed resource) :
    sanitizeAll others = sanitizeAll resources := by
  apply Dict.ext_entries
  apply map_eq_of_map_eq (congrArg Dict.entries h)
  intro entry hentry other hother
  obtain ⟨hkey, hitems⟩ := Prod.mk.inj hother
  refine Prod.ext hkey ?_
  apply map_eq_of_map_eq hitems
  intro resource hresource document hdocument
  exact sanitizeResource_of_outline hdocument (hclear resource (mem_inTypeOrder.mpr ⟨entry, hentry, hresource⟩))

/-- Another document with the same outline, which is sanitized to something else where it can be. -/
def counterpart (resource : JsonObject) : JsonObject :=
  if isSecret resource then tamperedResource resource else resource

theorem outline_counterpart (resource : JsonObject) : outline (counterpart resource) = outline resource := by
  unfold counterpart
  split
  · exact (outline_tamperedResource ‹_›).2
  · rfl

theorem sanitizeResource_counterpart {resource : JsonObject} (h : Exposed resource) :
    sanitizeResource (counterpart resource) ≠ sanitizeResource resource := by
  rw [counterpart, if_pos h.1]
  exact sanitizeResource_tamperedResource h

theorem outlines_counterparts : outlines (resources.mapValues (List.map counterpart)) = outlines resources := by
  rw [outlines, outlines, Dict.mapValues_mapValues]
  apply Dict.mapValues_congr
  intro items
  rw [Function.comp_apply, List.map_map]
  exact List.map_congr_left fun resource _ => outline_counterpart resource

theorem sanitized_of_collect {left right : Dict String (List JsonObject)}
    (hleft : DiscoveryCollector.collect python lower call
      { raw with resources := sanitizeAll left } = .ok bundle)
    (hright : DiscoveryCollector.collect python lower call
      { raw with resources := sanitizeAll right } = .ok bundle) :
    (inTypeOrder left).map sanitizeResource = (inTypeOrder right).map sanitizeResource := by
  rw [← inTypeOrder_mapValues, ← inTypeOrder_mapValues]
  exact (payloads_collect hleft).symm.trans (payloads_collect hright)

/-- No value under a sensitive key of a document, or in a mapping of a secret, can be told from
the sanitized document, exactly where the document is no secret with a key `data` below its top
level; and nothing that is made of a bundle tells any such value, exactly where this holds of
all the documents that were read for it. -/
theorem sanitize_noninterfering_iff (python : Python) (lower : String → String) :
    (∀ resource, (∀ other, outline other = outline resource →
      sanitizeResource other = sanitizeResource resource) ↔ ¬ Exposed resource) ∧
    ∀ call (raw : RawCollection) resources bundle,
      DiscoveryCollector.collect python lower call
        { raw with resources := sanitizeAll resources } = .ok bundle →
      ((∀ others, outlines others = outlines resources →
          DiscoveryCollector.collect python lower call
            { raw with resources := sanitizeAll others } = .ok bundle) ↔
        ∀ resource ∈ inTypeOrder resources, ¬ Exposed resource) := by
  constructor
  · intro resource
    constructor
    · intro hsame hexposed
      exact sanitizeResource_counterpart hexposed (hsame _ (outline_counterpart resource))
    · intro hclear other hother
      exact sanitizeResource_of_outline hother hclear
  · intro call raw resources bundle hcollect
    constructor
    · intro hsame resource hresource hexposed
      have hother := sanitized_of_collect (hsame _ outlines_counterparts) hcollect
      rw [inTypeOrder_mapValues, List.map_map, List.map_inj_left] at hother
      exact sanitizeResource_counterpart hexposed (hother resource hresource)
    · intro hclear others hothers
      rw [sanitizeAll_of_outlines hothers hclear]
      exact hcollect

def secretList : Dict String (List JsonObject) := Dict.ofList [("secrets", [Dict.ofList [
  ("kind", .str "Secret"), ("metadata", .dict [("name", .str "database")]),
  ("data", .dict [("password", .str "hunter2")])]])]

def fixtureRun : CollectorCall := ⟨"fixture", "staging", "", "", "bundle", fun _ => ""⟩

def emptyFixture : RawCollection := ⟨"fixture", "fixture:demo", ∅, [], [], ∅⟩

theorem sanitize_noninterfering_secret : ∃ bundle, ∀ others, outlines others = outlines secretList →
    DiscoveryCollector.collect Python.plain id fixtureRun
      { emptyFixture with resources := sanitizeAll others } =
      .ok bundle := by
  refine ⟨_, ((sanitize_noninterfering_iff Python.plain id).2 fixtureRun emptyFixture secretList _ rfl).mpr ?_⟩
  decide

end Collecting

section Leak

/-- A secret with an annotation `data`. -/
def annotatedSecret (value : String) : JsonObject := Dict.ofList [
  ("kind", .str "Secret"),
  ("metadata", .dict [("name", .str "database"), ("annotations", .dict [("data", .str value)])])]

theorem metadata_annotatedSecret (value : String) : (sanitizeResource (annotatedSecret value)).get? "metadata" =
    some (.dict [("name", .str "database"), ("annotations", .dict [("data", .str value)])]) := by
  rw [get?_sanitizeResource rfl (by decide) (by decide)]
  rfl

/-- The value of the annotation is left in the document. -/
theorem sanitize_annotation_kept :
    outline (annotatedSecret "hunter2") = outline (annotatedSecret "") ∧
      sanitizeResource (annotatedSecret "hunter2") ≠ sanitizeResource (annotatedSecret "") := by
  constructor
  · rfl
  · intro h
    have hmetadata := metadata_annotatedSecret "hunter2"
    rw [h, metadata_annotatedSecret ""] at hmetadata
    simp at hmetadata

end Leak

end KubeOps.Discovery
