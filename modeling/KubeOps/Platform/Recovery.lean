import KubeOps.Discovery.Snapshot
import KubeOps.Packs.Versioning

/-! Backups of the control plane: the manifest of a backup, the hash over it, and how it is
verified before anything is restored from it. -/
namespace KubeOps.Platform

open KubeOps.Foundation KubeOps.Models KubeOps.Discovery

section Models

structure BackupComponent where
  schemaVersion : String := "kubeops.io/v1"
  componentId : String
  componentType : String
  source : String
  payloadHash : String
  sizeBytes : Nat := 0
  requiredForRestore : Bool := true
  metadata : Dict String Value := ∅

inductive BackupStatus where
  | created | verified | invalid
deriving DecidableEq, Repr

def BackupStatus.text : BackupStatus → String
  | .created => "created"
  | .verified => "verified"
  | .invalid => "invalid"

structure ControlPlaneBackupManifest where
  backupId : String
  organizationId : String
  workspaceId : String
  createdAtIso : String
  kubeopsVersion : String
  schemaVersion : String
  components : List BackupComponent
  packResolutionHash : Option String := none
  auditHeadHash : Option String := none
  databaseVendor : String := "unknown"
  status : BackupStatus := .created
  manifestHash : String
  metadata : JsonObject := ∅

end Models

section Documents

def optionalText : Option String → Json
  | none => .null
  | some text => .str text

def BackupComponent.fields (component : BackupComponent) : List (String × Value) := [
  ("schema_version", .str component.schemaVersion),
  ("component_id", .str component.componentId),
  ("component_type", .str component.componentType),
  ("source", .str component.source),
  ("payload_hash", .str component.payloadHash),
  ("size_bytes", .int component.sizeBytes),
  ("required_for_restore", .bool component.requiredForRestore),
  ("metadata", .dict component.metadata.entries)]

def BackupComponent.canonicalDict (component : BackupComponent) : Json :=
  (Value.model component.fields).canonicalDict

/-- `model_dump(mode="json")` -/
def BackupComponent.modelDump (component : BackupComponent) : Json :=
  (Value.model component.fields).modelDump false

def ControlPlaneBackupManifest.modelDump (manifest : ControlPlaneBackupManifest) : Json := .dict [
  ("schema_version", .str manifest.schemaVersion),
  ("backup_id", .str manifest.backupId),
  ("organization_id", .str manifest.organizationId),
  ("workspace_id", .str manifest.workspaceId),
  ("created_at_iso", .str manifest.createdAtIso),
  ("kubeops_version", .str manifest.kubeopsVersion),
  ("components", .list (manifest.components.map BackupComponent.modelDump)),
  ("pack_resolution_hash", optionalText manifest.packResolutionHash),
  ("audit_head_hash", optionalText manifest.auditHeadHash),
  ("database_vendor", .str manifest.databaseVendor),
  ("status", .str manifest.status.text),
  ("manifest_hash", .str manifest.manifestHash),
  ("metadata", .dict manifest.metadata.entries)]

end Documents

section Reading

variable {α : Type}

def readText : Json → Option String
  | .str text => some text
  | _ => none

def readOptional : Json → Option (Option String)
  | .null => some none
  | value => (readText value).map some

def readNat : Json → Option Nat
  | .int value => if 0 ≤ value then some value.toNat else none
  | _ => none

def readBool : Json → Option Bool
  | .bool value => some value
  | _ => none

def readStatus : Json → Option BackupStatus
  | .str "created" => some .created
  | .str "verified" => some .verified
  | .str "invalid" => some .invalid
  | _ => none

def readObject : Json → Option JsonObject
  | .dict entries => some (Dict.ofList entries)
  | _ => none

def readList (read : Json → Option α) : Json → Option (List α)
  | .list items => items.mapM read
  | _ => none

/-- A field that must be given. -/
def given (read : Json → Option α) (name : String) (document : Json) : Option α :=
  (document.entry? name).bind read

/-- A field with a default. -/
def givenOr (read : Json → Option α) (standard : α) (name : String) (document : Json) : Option α :=
  match document.entry? name with
  | some value => read value
  | none => some standard

/-- `extra="forbid"` -/
def knows (names : List String) : Json → Bool
  | .dict entries => entries.all fun entry => names.contains entry.1
  | _ => false

def componentFields : List String :=
  ["schema_version", "component_id", "component_type", "source", "payload_hash",
  "size_bytes", "required_for_restore", "metadata"]

def manifestFields : List String := ["schema_version", "backup_id", "organization_id", "workspace_id",
  "created_at_iso", "kubeops_version", "components", "pack_resolution_hash", "audit_head_hash",
    "database_vendor",
  "status", "manifest_hash", "metadata"]

/-- `BackupComponent.model_validate` of a document whose values have the types of the fields. -/
def BackupComponent.modelValidate (document : Json) : Option BackupComponent := do
  guard (knows componentFields document)
  let schemaVersion ← givenOr readText "kubeops.io/v1" "schema_version" document
  let componentId ← given readText "component_id" document
  let componentType ← given readText "component_type" document
  let source ← given readText "source" document
  let payloadHash ← given readText "payload_hash" document
  let sizeBytes ← givenOr readNat 0 "size_bytes" document
  let requiredForRestore ← givenOr readBool true "required_for_restore" document
  let metadata ← givenOr readObject ∅ "metadata" document
  return { schemaVersion, componentId, componentType, source, payloadHash, sizeBytes, requiredForRestore
           metadata := metadata.mapValues valueOfJson }

/-- `ControlPlaneBackupManifest.model_validate` of such a document. -/
def ControlPlaneBackupManifest.modelValidate (document : Json) : Option ControlPlaneBackupManifest := do
  guard (knows manifestFields document)
  let schemaVersion ← given readText "schema_version" document
  let backupId ← given readText "backup_id" document
  let organizationId ← given readText "organization_id" document
  let workspaceId ← given readText "workspace_id" document
  let createdAtIso ← given readText "created_at_iso" document
  let kubeopsVersion ← given readText "kubeops_version" document
  let components ← given (readList BackupComponent.modelValidate) "components" document
  let packResolutionHash ← givenOr readOptional none "pack_resolution_hash" document
  let auditHeadHash ← givenOr readOptional none "audit_head_hash" document
  let databaseVendor ← givenOr readText "unknown" "database_vendor" document
  let status ← givenOr readStatus .created "status" document
  let manifestHash ← given readText "manifest_hash" document
  let metadata ← givenOr readObject ∅ "metadata" document
  return { backupId, organizationId, workspaceId, createdAtIso, kubeopsVersion, schemaVersion, components
           packResolutionHash, auditHeadHash, databaseVendor, status, manifestHash, metadata }

/-- `model_validate_json(manifest.model_dump_json())` -/
def ControlPlaneBackupManifest.reread (manifest : ControlPlaneBackupManifest) :
    Option ControlPlaneBackupManifest :=
  ControlPlaneBackupManifest.modelValidate manifest.modelDump

end Reading

section Hashing

/-- `json.dumps` with sorted keys, and SHA-256 of bytes in hexadecimal digits. -/
structure Hashing where
  dumps : Json → String
  sha256 : List UInt8 → String

variable (hashing : Hashing)

/-- `text.encode()` -/
def encode (text : String) : List UInt8 := text.toUTF8.data.toList

def Hashing.hash (document : Json) : String := hashing.sha256 (encode (hashing.dumps document))

/-- What a manifest is made of. -/
structure BackupRequest where
  organizationId : String
  workspaceId : String
  kubeopsVersion : String
  schemaVersion : String
  components : List BackupComponent
  packResolutionHash : Option String := none
  auditHeadHash : Option String := none
  databaseVendor : String := "unknown"

/-- The dictionary `base` that is hashed and passed on. -/
def BackupRequest.base (request : BackupRequest) : List (String × Json) := [
  ("organization_id", .str request.organizationId),
  ("workspace_id", .str request.workspaceId),
  ("kubeops_version", .str request.kubeopsVersion),
  ("schema_version", .str request.schemaVersion),
  ("components", .list (request.components.map BackupComponent.canonicalDict)),
  ("pack_resolution_hash", optionalText request.packResolutionHash),
  ("audit_head_hash", optionalText request.auditHeadHash),
  ("database_vendor", .str request.databaseVendor)]

/-- `build_backup_manifest`, given the id and the time. -/
def buildBackupManifest (backupId createdAtIso : String) (request : BackupRequest) :
    Option ControlPlaneBackupManifest :=
  ControlPlaneBackupManifest.modelValidate (.dict ([
    ("backup_id", .str backupId),
    ("created_at_iso", .str createdAtIso),
    ("status", .str BackupStatus.created.text),
    ("manifest_hash", .str (hashing.hash (.dict request.base)))] ++ request.base))

/-- The dictionary `base` of `calculate_manifest_hash`. -/
def hashedFields (manifest : ControlPlaneBackupManifest) : List (String × Json) := [
  ("organization_id", .str manifest.organizationId),
  ("workspace_id", .str manifest.workspaceId),
  ("kubeops_version", .str manifest.kubeopsVersion),
  ("schema_version", .str manifest.schemaVersion),
  ("components", .list (manifest.components.map BackupComponent.canonicalDict)),
  ("pack_resolution_hash", optionalText manifest.packResolutionHash),
  ("audit_head_hash", optionalText manifest.auditHeadHash),
  ("database_vendor", .str manifest.databaseVendor)]

def calculateManifestHash (manifest : ControlPlaneBackupManifest) : String :=
  hashing.hash (.dict (hashedFields manifest))

end Hashing

section Verification

/-- What is supplied for a component. A path is given by what is read from it, if anything. -/
inductive Payload where
  | bytes (content : List UInt8)
  | text (content : String)
  | path (content : Option (List UInt8))

variable (hashing : Hashing)

def Payload.digest : Payload → Except PyError String
  | .bytes content => .ok (hashing.sha256 content)
  | .text content => .ok (hashing.sha256 (encode content))
  | .path (some content) => .ok (hashing.sha256 content)
  | .path none => .error .fileNotFoundError

/-- `bool(value)`; an instance of a model is true. -/
def truthy : Value → Bool
  | .null => false
  | .bool value => value
  | .int value => value ≠ 0
  | .float value => value ≠ 0
  | .str value => value ≠ ""
  | .list items => !items.isEmpty
  | .dict entries => !entries.isEmpty
  | .set items => !items.isEmpty
  | .model _ => true

def BackupComponent.flag (component : BackupComponent) (name : String) : Bool :=
  (component.metadata.get? name).any truthy

def BackupComponent.awaitsExternal (component : BackupComponent) : Bool :=
  component.flag "external_backup_required" && !component.flag "external_backup_verified"

/-- One turn of the loop over the components. -/
def componentFailures (payloads : Dict String Payload) (component : BackupComponent) :
    Except PyError (List String) :=
  match payloads.get? component.componentId with
  | none => .ok (if component.requiredForRestore then
      [s!"required component {component.componentId} is unavailable"] else [])
  | some payload => do
    let digest ← payload.digest hashing
    return (if digest ≠ component.payloadHash then
      [s!"component {component.componentId} hash mismatch"] else []) ++
      if component.awaitsExternal then
        [s!"component {component.componentId} requires external backup verification"]
      else []

def manifestFailures (manifest : ControlPlaneBackupManifest) : List String :=
  (if manifest.components = [] then ["backup manifest contains no restorable components"] else []) ++
    if calculateManifestHash hashing manifest ≠ manifest.manifestHash then ["manifest hash mismatch"] else []

/-- `verify_manifest`, given the time. -/
def verifyManifest (verifiedAtIso : String) (manifest : ControlPlaneBackupManifest)
    (payloads : Dict String Payload) :
    Except PyError ControlPlaneBackupManifest := do
  let found ← manifest.components.mapM (componentFailures hashing payloads)
  let failures := manifestFailures hashing manifest ++ found.flatten
  return { manifest with
    status := if failures = [] then .verified else .invalid
    metadata := (manifest.metadata.set "verification_failures" (Json.strings failures)).set "verified_at_iso"
      (.str verifiedAtIso) }

end Verification

section Plans

variable (python : Python)

structure ControlPlaneRestorePlan where
  backupId : String
  targetKubeopsVersion : String
  compatible : Bool
  blockers : List String

/-- `restore_plan`; its steps are only printed. -/
def restorePlan (manifest : ControlPlaneBackupManifest) (targetVersion : String) :
    Except PyError ControlPlaneRestorePlan := do
  let first := String.ofList (manifest.kubeopsVersion.toList.takeWhile (· ≠ '.'))
  match python.parseInt first with
  | none => throw (.valueError s!"invalid literal for int() with base 10: {python.repr (.str first)}")
  | some major =>
    let compatible ← if manifest.status = .verified then
        Packs.satisfies python targetVersion (some s!">={major}.0.0,<{major + 1}.0.0")
      else pure false
    return {
      backupId := manifest.backupId
      targetKubeopsVersion := targetVersion
      compatible
      blockers := if compatible then [] else
        ["backup is not verified or target version is outside the supported major-version restore range"] }

end Plans

end KubeOps.Platform
