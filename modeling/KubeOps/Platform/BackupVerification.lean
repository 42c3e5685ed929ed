import KubeOps.Discovery.EntityText
import KubeOps.Foundation.Program
import KubeOps.Platform.Recovery

/-! A backup is verified exactly if what is supplied for it is complete and unchanged, and no
hashed field of its manifest can be changed unnoticed. -/
namespace KubeOps.Platform

open KubeOps.Foundation KubeOps.Models KubeOps.Discovery

section Components

def BackupComponent.metadataJson (component : BackupComponent) : JsonObject :=
  component.metadata.mapValues fun value => value.modelDump true

/-- The component as a manifest holds it, whose metadata has been written and read. -/
def BackupComponent.stored (component : BackupComponent) : BackupComponent :=
  { component with metadata := component.metadataJson.mapValues valueOfJson }

def BackupComponent.document (component : BackupComponent) (metadata : List (String × Json)) :
    List (String × Json) := [
  ("schema_version", .str component.schemaVersion),
  ("component_id", .str component.componentId),
  ("component_type", .str component.componentType),
  ("source", .str component.source),
  ("payload_hash", .str component.payloadHash),
  ("size_bytes", .int component.sizeBytes),
  ("required_for_restore", .bool component.requiredForRestore),
  ("metadata", .dict metadata)]

variable {component other : BackupComponent} {components : List BackupComponent}

theorem canonicalDict_eq (component : BackupComponent) :
    component.canonicalDict = .dict (component.document component.metadataJson.entries) := by
  have hmetadata : component.metadataJson.entries = Value.dumpEntries true component.metadata.entries := by
    rw [Value.dumpEntries_eq]
    rfl
  rw [hmetadata]
  rfl

theorem metadataJson_stored (component : BackupComponent) :
    component.stored.metadataJson = component.metadataJson := by
  apply Dict.ext_entries
  calc component.stored.metadataJson.entries
      = component.metadataJson.entries.map fun entry => (entry.1, (valueOfJson entry.2).modelDump true) :=
        List.map_map ..
    _ = component.metadataJson.entries.map id :=
        List.map_congr_left fun entry _ => Prod.ext rfl (modelDump_valueOfJson entry.2)
    _ = component.metadataJson.entries := List.map_id _

theorem canonicalDict_stored (component : BackupComponent) :
    component.stored.canonicalDict = component.canonicalDict := by
  rw [canonicalDict_eq, canonicalDict_eq, metadataJson_stored]
  rfl

theorem modelDump_stored (component : BackupComponent) :
    component.stored.modelDump = component.canonicalDict := by
  have hmetadata : Value.dumpEntries false component.stored.metadata.entries =
    component.metadataJson.entries := by
    rw [Value.dumpEntries_eq]
    calc component.stored.metadata.entries.map (fun entry => (entry.1, entry.2.modelDump false))
        = component.metadataJson.entries.map fun entry => (entry.1, (valueOfJson entry.2).modelDump false) :=
          List.map_map ..
      _ = component.metadataJson.entries.map id :=
          List.map_congr_left fun entry _ => Prod.ext rfl (modelDump_valueOfJson entry.2)
      _ = component.metadataJson.entries := List.map_id _
  rw [canonicalDict_eq, ← hmetadata]
  rfl

theorem modelValidate_canonicalDict (component : BackupComponent) :
    BackupComponent.modelValidate component.canonicalDict = some component.stored := by
  rw [canonicalDict_eq]
  simp [BackupComponent.modelValidate, BackupComponent.document, given, givenOr, knows, Json.entry?,
    componentFields,
    readText, readNat, readBool, readObject, Dict.ofList_entries]
  rfl

end Components

section Manifests

variable {hashing : Hashing} {backupId createdAtIso : String} {request : BackupRequest}
variable {manifest other : ControlPlaneBackupManifest}

def builtManifest (hashing : Hashing) (backupId createdAtIso : String) (request : BackupRequest) :
    ControlPlaneBackupManifest where
  backupId
  organizationId := request.organizationId
  workspaceId := request.workspaceId
  createdAtIso
  kubeopsVersion := request.kubeopsVersion
  schemaVersion := request.schemaVersion
  components := request.components.map BackupComponent.stored
  packResolutionHash := request.packResolutionHash
  auditHeadHash := request.auditHeadHash
  databaseVendor := request.databaseVendor
  manifestHash := hashing.hash (.dict request.base)

theorem readOptional_optionalText (text : Option String) : readOptional (optionalText text) = some text := by
  cases text with
  | none => rfl
  | some text => rfl

theorem readList_canonicalDicts (components : List BackupComponent) :
    readList BackupComponent.modelValidate (.list (components.map BackupComponent.canonicalDict)) =
      some (components.map BackupComponent.stored) := by
  rw [readList]
  induction components with
  | nil => rfl
  | cons component components ih =>
    rw [List.map_cons, List.mapM_cons, modelValidate_canonicalDict, ih]
    rfl

theorem buildBackupManifest_eq : buildBackupManifest hashing backupId createdAtIso request =
    some (builtManifest hashing backupId createdAtIso request) := by
  have hcomponents := readList_canonicalDicts request.components
  have hpacks := readOptional_optionalText request.packResolutionHash
  have haudit := readOptional_optionalText request.auditHeadHash
  simp [buildBackupManifest, BackupRequest.base, ControlPlaneBackupManifest.modelValidate, given,
    givenOr, knows,
    Json.entry?, manifestFields, readText, readStatus, BackupStatus.text, hcomponents, hpacks, haudit,
      builtManifest]

theorem readStatus_text (status : BackupStatus) : readStatus (.str status.text) = some status := by
  cases status with
  | created | verified | invalid => rfl

theorem reread_builtManifest : (builtManifest hashing backupId createdAtIso request).reread =
    some (builtManifest hashing backupId createdAtIso request) := by
  have hcomponents : readList BackupComponent.modelValidate
      (.list (request.components.map (BackupComponent.modelDump ∘ BackupComponent.stored))) =
        some (request.components.map BackupComponent.stored) := by
    rw [← readList_canonicalDicts]
    congr 2
    exact List.map_congr_left fun component _ => modelDump_stored component
  have hpacks := readOptional_optionalText request.packResolutionHash
  have haudit := readOptional_optionalText request.auditHeadHash
  have hstatus := readStatus_text .created
  simp [ControlPlaneBackupManifest.reread, ControlPlaneBackupManifest.modelDump,
    ControlPlaneBackupManifest.modelValidate, given, givenOr, knows, Json.entry?, manifestFields,
      readText, readObject,
    hcomponents, hpacks, haudit, hstatus, builtManifest]
  rfl

theorem calculateManifestHash_builtManifest : calculateManifestHash hashing
    (builtManifest hashing backupId createdAtIso request) =
      (builtManifest hashing backupId createdAtIso request).manifestHash := by
  have hcomponents : (request.components.map BackupComponent.stored).map BackupComponent.canonicalDict =
      request.components.map BackupComponent.canonicalDict := by
    rw [List.map_map]
    exact List.map_congr_left fun component _ => canonicalDict_stored component
  rw [calculateManifestHash, hashedFields, builtManifest]
  dsimp only
  rw [hcomponents]
  rfl

end Manifests

section Verdicts

variable {hashing : Hashing} {payloads : Dict String Payload} {components : List BackupComponent}
variable {component : BackupComponent} {manifest other result : ControlPlaneBackupManifest}
  {verifiedAtIso : String}

/-- What the loop finds nothing wrong with. -/
structure Supplied (hashing : Hashing) (payloads : Dict String Payload)
    (component : BackupComponent) : Prop where
  required : component.requiredForRestore = true → (payloads.get? component.componentId).isSome = true
  hashed : ∀ payload, payloads.get? component.componentId = some payload →
    payload.digest hashing = .ok component.payloadHash
  external : (payloads.get? component.componentId).isSome = true → component.awaitsExternal = false

def Restorable (hashing : Hashing) (payloads : Dict String Payload)
    (components : List BackupComponent) : Prop :=
  components ≠ [] ∧ ∀ component ∈ components, Supplied hashing payloads component

theorem componentFailures_eq_nil : componentFailures hashing payloads component = .ok [] ↔
    Supplied hashing payloads component := by
  unfold componentFailures
  cases hpayload : payloads.get? component.componentId with
  | none =>
    constructor
    · intro h
      refine ⟨?_, ?_, ?_⟩
      · intro hrequired
        simp [hrequired] at h
      · intro payload hsome
        rw [hpayload] at hsome
        cases hsome
      · intro hsome
        rw [hpayload] at hsome
        cases hsome
    · intro h
      have hoptional : component.requiredForRestore = false := by
        by_contra hrequired
        have hsome := h.required (by simpa using hrequired)
        rw [hpayload] at hsome
        cases hsome
      simp [hoptional]
  | some payload =>
    constructor
    · intro h
      obtain ⟨digest, hdigest, h⟩ := except_bind_eq_ok h
      obtain ⟨hhash, hexternal⟩ := List.append_eq_nil_iff.mp (Except.ok.inj h)
      refine ⟨?_, ?_, ?_⟩
      · intro _
        rw [hpayload]
        rfl
      · intro other hother
        rw [hpayload] at hother
        cases hother
        by_contra hne
        rw [hdigest] at hne
        rw [if_pos (fun hsame => hne (congrArg Except.ok hsame))] at hhash
        cases hhash
      · intro _
        by_contra hawaits
        rw [if_pos (by simpa using hawaits)] at hexternal
        cases hexternal
    · intro h
      have hdigest := h.hashed payload hpayload
      have hexternal := h.external (by rw [hpayload]; rfl)
      simp [hdigest, hexternal, bind, Except.bind, pure, Except.pure]

theorem manifestFailures_eq_nil : manifestFailures hashing manifest = [] ↔
    manifest.components ≠ [] ∧ calculateManifestHash hashing manifest = manifest.manifestHash := by
  rw [manifestFailures, List.append_eq_nil_iff]
  apply and_congr
  · by_cases hnone : manifest.components = []
    · simp [hnone]
    · simp [hnone]
  · by_cases hhash : calculateManifestHash hashing manifest = manifest.manifestHash
    · simp [hhash]
    · simp [hhash]

theorem verifyManifest_eq (hhash : calculateManifestHash hashing manifest = manifest.manifestHash)
    (hrestorable : Restorable hashing payloads manifest.components) :
    verifyManifest hashing verifiedAtIso manifest payloads = .ok { manifest with
      status := .verified
      metadata := (manifest.metadata.set "verification_failures" (Json.strings [])).set "verified_at_iso"
        (.str verifiedAtIso) } := by
  have hfound : manifest.components.mapM (componentFailures hashing payloads) =
      .ok (manifest.components.map fun _ => []) := by
    have hnil : ∀ component ∈ manifest.components, componentFailures hashing payloads component = .ok [] :=
      fun component hcomponent => componentFailures_eq_nil.mpr (hrestorable.2 component hcomponent)
    rw [mapM_eq_ok_iff]
    refine ⟨fun component hcomponent => ⟨[], hnil component hcomponent⟩, ?_⟩
    rw [← List.filterMap_eq_map]
    apply List.filterMap_congr
    intro component hcomponent
    rw [hnil component hcomponent]
    rfl
  have hnone : manifestFailures hashing manifest ++
    (manifest.components.map fun _ => ([] : List String)).flatten = [] := by
    rw [manifestFailures_eq_nil.mpr ⟨hrestorable.1, hhash⟩]
    simp
  rw [verifyManifest, hfound]
  simp only [bind, Except.bind, pure, Except.pure, hnone, if_true]

theorem verified_iff : (∃ result, verifyManifest hashing verifiedAtIso manifest payloads = .ok result ∧
      result.status = .verified) ↔
    calculateManifestHash hashing manifest = manifest.manifestHash ∧
      Restorable hashing payloads manifest.components := by
  constructor
  · rintro ⟨result, hresult, hstatus⟩
    obtain ⟨found, hfound, hresult⟩ := except_bind_eq_ok hresult
    obtain rfl := Except.ok.inj hresult
    have hnone : manifestFailures hashing manifest ++ found.flatten = [] := by
      by_contra hsome
      simp [hsome] at hstatus
    obtain ⟨hmanifest, hcomponents⟩ := List.append_eq_nil_iff.mp hnone
    obtain ⟨hnonempty, hhash⟩ := manifestFailures_eq_nil.mp hmanifest
    refine ⟨hhash, hnonempty, ?_⟩
    intro component hcomponent
    obtain ⟨failures, hmem, hfailures⟩ := exists_mem_of_mapM hfound hcomponent
    rw [← componentFailures_eq_nil, hfailures, List.flatten_eq_nil_iff.mp hcomponents failures hmem]
  · rintro ⟨hhash, hrestorable⟩
    exact ⟨_, verifyManifest_eq hhash hrestorable, rfl⟩

theorem status_verifyManifest (h : verifyManifest hashing verifiedAtIso manifest payloads = .ok result) :
    result.status = .verified ∨ result.status = .invalid := by
  obtain ⟨found, -, hresult⟩ := except_bind_eq_ok h
  obtain rfl := Except.ok.inj hresult
  by_cases hnone : manifestFailures hashing manifest ++ found.flatten = []
  · exact Or.inl (if_pos hnone)
  · exact Or.inr (if_neg hnone)

end Verdicts

section Evidence

variable {hashing : Hashing} {component : BackupComponent} {manifest other : ControlPlaneBackupManifest}
variable {items others : List Json}

/-- Equal but for the order of the keys in the metadata, which canonical JSON sorts. -/
structure SameComponent (component other : BackupComponent) : Prop where
  fields : { component with metadata := other.metadata } = other
  metadata : Json.Same (.dict component.metadataJson.entries) (.dict other.metadataJson.entries)

structure SameHashed (manifest other : ControlPlaneBackupManifest) : Prop where
  organizationId : manifest.organizationId = other.organizationId
  workspaceId : manifest.workspaceId = other.workspaceId
  kubeopsVersion : manifest.kubeopsVersion = other.kubeopsVersion
  schemaVersion : manifest.schemaVersion = other.schemaVersion
  components : List.Forall₂ SameComponent manifest.components other.components
  packResolutionHash : manifest.packResolutionHash = other.packResolutionHash
  auditHeadHash : manifest.auditHeadHash = other.auditHeadHash
  databaseVendor : manifest.databaseVendor = other.databaseVendor

theorem same_bool {one two : Bool} : Json.Same (.bool one) (.bool two) ↔ one = two := by
  simp [Json.Same, Json.canonical]

theorem same_list (h : Json.Same (.list items) (.list others)) : List.Forall₂ Json.Same items others := by
  rw [Json.Same, Json.canonical, Json.canonical, Json.list.injEq, Json.canonicalItems_eq,
    Json.canonicalItems_eq] at h
  have hequal : List.Forall₂ Eq (items.map Json.canonical) (others.map Json.canonical) := by
    rw [h]
    exact List.forall₂_same.mpr fun _ _ => rfl
  rw [List.forall₂_map_left_iff, List.forall₂_map_right_iff] at hequal
  exact hequal

theorem optionalText_inj {one two : Option String} (h : Json.Same (optionalText one) (optionalText two)) :
    one = two := by
  cases one with
  | none =>
    cases two with
    | none => rfl
    | some two => simp [optionalText, Json.Same, Json.canonical] at h
  | some one =>
    cases two with
    | none => simp [optionalText, Json.Same, Json.canonical] at h
    | some two => rw [Json.same_str.mp h]

theorem sameComponent_of_same {other : BackupComponent}
    (h : Json.Same component.canonicalDict other.canonicalDict) :
    SameComponent component other := by
  rw [canonicalDict_eq, canonicalDict_eq] at h
  have hnodup : ((other.document other.metadataJson.entries).map Prod.fst).Nodup := by
    have hnames : (other.document other.metadataJson.entries).map Prod.fst = componentFields := rfl
    rw [hnames]
    decide
  have hvalues := h.values rfl hnodup
  simp only [BackupComponent.document, List.forall₂_cons, Json.same_str, Json.same_int, same_bool,
    Int.natCast_inj,
    List.forall₂_nil_left_iff, and_true] at hvalues
  obtain ⟨hschema, hid, htype, hsource, hhash, hsize, hrequired, hmetadata⟩ := hvalues
  refine ⟨?_, hmetadata⟩
  cases component
  cases other
  simp_all

theorem sameHashed_of_same (h : Json.Same (.dict (hashedFields manifest)) (.dict (hashedFields other))) :
    SameHashed manifest other := by
  have hnodup : ((hashedFields other).map Prod.fst).Nodup := by
    have hnames : (hashedFields other).map Prod.fst = ["organization_id", "workspace_id", "kubeops_version",
      "schema_version", "components", "pack_resolution_hash", "audit_head_hash", "database_vendor"] := rfl
    rw [hnames]
    decide
  have hvalues := h.values rfl hnodup
  simp only [hashedFields, List.forall₂_cons, Json.same_str, List.forall₂_nil_left_iff, and_true] at hvalues
  obtain ⟨horganization, hworkspace, hversion, hschema, hcomponents, hpacks, haudit, hvendor⟩ := hvalues
  refine ⟨horganization, hworkspace, hversion, hschema, ?_, optionalText_inj hpacks,
    optionalText_inj haudit, hvendor⟩
  have hsame := same_list hcomponents
  rw [List.forall₂_map_left_iff, List.forall₂_map_right_iff] at hsame
  exact hsame.imp fun _ _ => sameComponent_of_same

theorem encode_injective : Function.Injective encode := by
  intro one two h
  rw [encode, encode, String.toUTF8_eq_toByteArray, String.toUTF8_eq_toByteArray] at h
  exact String.toByteArray_inj.mp (ByteArray.ext (Array.toList_inj.mp h))

/-- A backup is verified exactly if it can be restored, and no hashed field of a verified manifest
can be changed without its hash. -/
structure VerificationExact (hashing : Hashing) : Prop where
  built : ∀ backupId createdAtIso request, ∃ manifest,
    buildBackupManifest hashing backupId createdAtIso request = some manifest ∧ manifest.reread.isSome = true
  exact : ∀ backupId createdAtIso request manifest,
    buildBackupManifest hashing backupId createdAtIso request = some manifest →
    ∀ read, read = manifest ∨ manifest.reread = some read → ∀ payloads verifiedAtIso,
      ((∃ result, verifyManifest hashing verifiedAtIso read payloads = .ok result ∧ result.status = .verified) ↔
        Restorable hashing payloads (request.components.map BackupComponent.stored))
  tampered : ∀ manifest payloads verifiedAtIso result,
    verifyManifest hashing verifiedAtIso manifest payloads = .ok result → result.status = .verified →
    ∀ other, other.manifestHash = manifest.manifestHash → ¬ SameHashed manifest other →
    ∀ others laterIso later, verifyManifest hashing laterIso other others = .ok later → later.status = .invalid

theorem verification_exact (hashing : Hashing)
    (hdumps : ∀ left right, hashing.dumps left = hashing.dumps right → Json.Same left right)
    (hsha256 : Function.Injective hashing.sha256) : VerificationExact hashing where
  built := by
    intro backupId createdAtIso request
    exact ⟨_, buildBackupManifest_eq, by rw [reread_builtManifest]; rfl⟩
  exact := by
    intro backupId createdAtIso request manifest hbuilt read hread payloads verifiedAtIso
    obtain rfl := Option.some.inj (buildBackupManifest_eq.symm.trans hbuilt)
    have hsame : read = builtManifest hashing backupId createdAtIso request := by
      rcases hread with rfl | hread
      · rfl
      · exact (Option.some.inj (reread_builtManifest.symm.trans hread)).symm
    rw [hsame, verified_iff, and_iff_right calculateManifestHash_builtManifest]
    rfl
  tampered := by
    intro manifest payloads verifiedAtIso result hresult hstatus other hhash hchanged others
      laterIso later hlater
    apply (status_verifyManifest hlater).resolve_left
    intro hverified
    have hmanifest := (verified_iff.mp ⟨result, hresult, hstatus⟩).1
    have hother := (verified_iff.mp ⟨later, hlater, hverified⟩).1
    apply hchanged
    apply sameHashed_of_same
    apply hdumps
    apply encode_injective
    apply hsha256
    exact hmanifest.trans (hhash.symm.trans hother.symm)

end Evidence

section Example

def localRequest : BackupRequest where
  organizationId := "default"
  workspaceId := "default"
  kubeopsVersion := "1.0.0"
  schemaVersion := "0006"
  components := [{
    componentId := "database"
    componentType := "database"
    source := "control-plane.json"
    payloadHash := "4f53cda18c2baa0c0354bb5f9a3ecbe5ed12ab4d8e11ba873c2f11161202b945"
    sizeBytes := 2 }]
  databaseVendor := "django.db.backends.sqlite3"

def localHash : String := "53e87088da9cf1cecc7445270f9c939153af05d03b2b59ab09c490988e91b4e4"

def localSha256 (content : List UInt8) : String :=
  if content = encode (Json.dict localRequest.base).text then localHash
  else String.ofList ('~' :: content.map fun byte => Char.ofNat byte.toNat)

def localHashing : Hashing := ⟨Json.text, localSha256⟩

theorem localHash_ne (signs : List Char) : localHash ≠ String.ofList ('~' :: signs) := by
  intro h
  have hfirst := congrArg (fun text => text.toList.head?) h
  rw [String.toList_ofList, List.head?_cons] at hfirst
  exact absurd hfirst (by decide)

theorem byteSign_injective : Function.Injective fun byte : UInt8 => Char.ofNat byte.toNat := by
  intro one two h
  have hvalue (byte : UInt8) : (Char.ofNat byte.toNat).toNat = byte.toNat := by
    have hbound := byte.toNat_lt
    have hvalid : byte.toNat.isValidChar := Or.inl (by omega)
    rw [Char.ofNat, dif_pos hvalid]
    rfl
  have hsame := congrArg Char.toNat h
  rw [hvalue, hvalue] at hsame
  exact UInt8.toNat_inj.mp hsame

theorem localSha256_injective : Function.Injective localSha256 := by
  intro one two h
  unfold localSha256 at h
  by_cases hone : one = encode (Json.dict localRequest.base).text
  · by_cases htwo : two = encode (Json.dict localRequest.base).text
    · rw [hone, htwo]
    · rw [if_pos hone, if_neg htwo] at h
      exact absurd h (localHash_ne _)
  · by_cases htwo : two = encode (Json.dict localRequest.base).text
    · rw [if_neg hone, if_pos htwo] at h
      exact absurd h.symm (localHash_ne _)
    · rw [if_neg hone, if_neg htwo] at h
      have hsigns := List.cons.inj (String.ofList_injective h)
      exact List.map_injective_iff.mpr byteSign_injective hsigns.2

theorem localBackup_exact : (buildBackupManifest localHashing "platform-backup:1" "2026-07-22T12:00:00Z"
      localRequest).map ControlPlaneBackupManifest.manifestHash = some localHash ∧
        VerificationExact localHashing := by
  refine ⟨?_, verification_exact localHashing (fun left right h => Json.same_of_text h) localSha256_injective⟩
  rw [buildBackupManifest_eq, Option.map_some, builtManifest]
  simp only [Hashing.hash, localHashing, localSha256, if_true]

end Example

end KubeOps.Platform
