import KubeOps.Packs.Manager
import KubeOps.Tenancy.Isolation

/-! How the API administers the trust of knowledge packs: the views that sign and
verify packs, the rows they write, and the runtimes resolved under these rows and
kept by the worker processes. -/
namespace KubeOps.ControlPlane

open KubeOps.Foundation KubeOps.Models KubeOps.SupplyChain KubeOps.Packs KubeOps.Tenancy

/-- The rows of policies and signatures by their payloads, which agree with the other
columns. The policy written last stands first, and so does the signature made last. -/
structure TrustTables where
  policies : List PackTrustPolicy := []
  signatures : List PackSignature := []
  policyIds : (policies.map PackTrustPolicy.policyId).Nodup

namespace TrustTables

/-- `PackTrustPolicyRecord.objects.update_or_create` under the id of the policy. -/
def updateOrCreate (tables : TrustTables) (policy : PackTrustPolicy) : TrustTables where
  policies := policy :: tables.policies.filter fun row => row.policyId ≠ policy.policyId
  signatures := tables.signatures
  policyIds := by
    rw [List.map_cons, List.nodup_cons]
    refine ⟨fun hmem => ?_, (List.filter_sublist.map _).nodup tables.policyIds⟩
    obtain ⟨row, hrow, hsame⟩ := List.mem_map.mp hmem
    exact absurd hsame (by simpa using (List.mem_filter.mp hrow).2)

def addSignature (tables : TrustTables) (signature : PackSignature) : TrustTables :=
  { tables with signatures := signature :: tables.signatures }

/-- `filter(workspace__workspace_id=workspace_id).order_by("-updated_at").first()` -/
def policyOf (tables : TrustTables) (workspaceId : String) : Option PackTrustPolicy :=
  tables.policies.find? fun row => row.workspaceId = workspaceId

def signatureOf (tables : TrustTables) (packId : String) : Option PackSignature :=
  tables.signatures.find? fun row => row.packId = packId

/-- `signatures.setdefault` over all rows, by pack and then the latest first. -/
def signaturesByPack (tables : TrustTables) : Dict String PackSignature :=
  (tables.signatures.insertionSort fun left right => left.packId ≤ right.packId).foldl
    (fun found row => if found.contains row.packId then found else found.set row.packId row) ∅

end TrustTables

/-- `value.replace("\\n", "\n")` -/
def unescapeNewlines : List Char → List Char
  | '\\' :: 'n' :: rest => '\n' :: unescapeNewlines rest
  | c :: rest => c :: unescapeNewlines rest
  | [] => []

/-- What does not change while the API runs: the installed packs, the settings, and the
variables of the environment that hold the material of the trusted key. -/
structure PackDeployment where
  python : Python
  crypto : Cryptography
  settings : Settings
  manager : PackManager
  enabledPacks : List String := []
  trustKeyId : String
  trustSecret : Option String := none
  trustPublicKey : Option String := none

namespace PackDeployment

variable (deployment : PackDeployment)

/-- A variable that is empty counts as one that is not set. -/
def trustedSecrets : Dict String String :=
  match deployment.trustSecret.filter (· ≠ "") with
  | some secret => Dict.set ∅ deployment.trustKeyId secret
  | none => ∅

def trustedPublicKeys : Dict String String :=
  match deployment.trustPublicKey.filter (· ≠ "") with
  | some key => Dict.set ∅ deployment.trustKeyId (String.ofList (unescapeNewlines key.toList))
  | none => ∅

def trustMaterial (tables : TrustTables) (workspaceId : String) : PackManager.TrustMaterial where
  policy := tables.policyOf workspaceId
  signatures := tables.signaturesByPack
  trustedSecrets := deployment.trustedSecrets
  trustedPublicKeys := deployment.trustedPublicKeys

end PackDeployment

/-- The arguments under which a runtime is cached: those of `pack_runtime_for_workspace`, and
those of `resolve_pack_runtime_for_workspace`. -/
inductive RuntimeKey where
  | workspace (workspaceId : String)
  | requested (workspaceId : String) (packIds : Option (List String))
deriving DecidableEq, Repr

namespace RuntimeKey

def workspaceId : RuntimeKey → String
  | .workspace workspaceId | .requested workspaceId _ => workspaceId

def packIds : RuntimeKey → Option (List String)
  | .workspace _ => none
  | .requested _ packIds => packIds

end RuntimeKey

/-- The exceptions of a runtime: those of the database by the names of their classes. -/
inductive RuntimeFailure where
  | database (className : String)
  | raised (error : PyError)

/-- `_pack_runtime_for_workspace`, where `failure` is what the database raises when the
rows are read. -/
def packRuntimeForWorkspace (deployment : PackDeployment) (tables : TrustTables) (key : RuntimeKey)
    (failure : Option String) (fresh : PackManager.Fresh) : Except RuntimeFailure PackResolution :=
  let requested := match key.packIds with
    | some packIds => some packIds
    | none => if deployment.enabledPacks = [] then none else some deployment.enabledPacks
  let resolved (trust : PackManager.TrustMaterial) :=
    (deployment.manager.resolve deployment.python deployment.crypto requested trust fresh).mapError .raised
  match failure with
  | none => resolved (deployment.trustMaterial tables key.workspaceId)
  | some className =>
    if className ∈ ["OperationalError", "ProgrammingError"] then resolved {}
    else .error (.database className)

/-- The rows that the views read, and what every worker process keeps. -/
structure PackState (ω : Type) where
  database : Tenancy.Database
  organizationIds : List String
  packRecordIds : List String
  tables : TrustTables
  runtimes : ω → Dict RuntimeKey PackResolution

namespace PackState

variable {ω : Type} [DecidableEq ω]

def withRuntimes (state : PackState ω) (worker : ω) (runtimes : Dict RuntimeKey PackResolution) :
    PackState ω :=
  { state with runtimes := Function.update state.runtimes worker runtimes }

/-- `clear_service_caches()`, which reaches the process it runs in. -/
def clearServiceCaches (state : PackState ω) (worker : ω) : PackState ω := state.withRuntimes worker ∅

end PackState

/-- How a request ends that is not answered. -/
inductive PackRefusal where
  | denied (detail : String)
  | missing (model : String)
  | raised (error : PyError)

/-- A request with the identifier and the times of its permission check. -/
structure ApiCall where
  request : Request
  uuid : String
  nowIso : String
  now : Datetime

namespace ApiCall

variable (deployment : PackDeployment) (call : ApiCall)

/-- `KubeOpsRolePermission` stands before every view. -/
def checkPermission (database : Tenancy.Database) (view : View) : Except PackRefusal Unit :=
  match KubeOpsRolePermission.hasPermission deployment.python call.uuid call.nowIso deployment.settings
      database view call.request call.now with
  | .ok true => .ok ()
  | .ok false => .error (.denied "You do not have permission to perform this action.")
  | .error error => .error (.raised error)

/-- `enforce_payload_scope` -/
def enforcePayloadScope (organizationId workspaceId : String) : Except PackRefusal Unit :=
  if call.request.user.superuser then .ok ()
  else if organizationId ≠ KubeOpsRolePermission.requestedOrganization deployment.settings call.request ∨
      workspaceId ≠ KubeOpsRolePermission.requestedWorkspace deployment.settings call.request then
    .error (.denied "payload organization/workspace does not match the authorized request scope")
  else .ok ()

end ApiCall

section Lookups

variable {ω : Type} (deployment : PackDeployment) (state : PackState ω)

/-- `pack_manager().get(pack_id)` -/
def getPack (packId : String) : Except PackRefusal KnowledgePackManifest :=
  (deployment.manager.get deployment.python packId).mapError .raised

/-- `OrganizationRecord.objects.get` and `WorkspaceRecord.objects.get` -/
def getTenant (organizationId workspaceId : String) : Except PackRefusal Unit :=
  if organizationId ∉ state.organizationIds then .error (.missing "OrganizationRecord")
  else if state.database.workspaces.get? workspaceId = none then .error (.missing "WorkspaceRecord")
  else .ok ()

end Lookups

section Verify

/-- A request to verify a pack under the policy in its body. -/
structure VerifyCall extends ApiCall where
  packId : String
  policy : PackTrustPolicy
  verificationId : String
  verifiedAtIso : String
  posted : request.method = .post

namespace PackVerifyView

variable {ω : Type} [DecidableEq ω] (deployment : PackDeployment) (call : VerifyCall) (state : PackState ω)

def view : ApiView where
  requiredRoles _ := [.viewer, .auditor, .admin]
  touched := Touched.verifiedWorkspace
  touched_withGrants := ApiView.maintenanceWindowCreate.touched_withGrants

/-- The checks before the policy is written. -/
def checked : Except PackRefusal KnowledgePackManifest := do
  call.checkPermission deployment state.database view.toView
  let manifest ← getPack deployment call.packId
  call.enforcePayloadScope deployment call.policy.organizationId call.policy.workspaceId
  getTenant state call.policy.organizationId call.policy.workspaceId
  return manifest

def verified (manifest : KnowledgePackManifest) : Except PyError PackVerificationResult :=
  PackSigner.verify deployment.python deployment.crypto manifest (state.tables.signatureOf call.packId)
    call.policy deployment.trustedSecrets deployment.trustedPublicKeys call.verificationId
    call.verifiedAtIso

/-- No transaction takes the policy back when the verification raises, and the caches are
cleared only when it does not. -/
def post (worker : ω) : Except PackRefusal PackVerificationResult × PackState ω :=
  match checked deployment call state with
  | .error refusal => (.error refusal, state)
  | .ok manifest =>
    let stored := { state with tables := state.tables.updateOrCreate call.policy }
    match verified deployment call stored manifest with
    | .ok result => (.ok result, stored.clearServiceCaches worker)
    | .error error => (.error (.raised error), stored)

end PackVerifyView

end Verify

section Sign

/-- A request to sign a pack: the scope of the reference to its secret, what the resolution
of the reference comes to, and the other fields of the body. -/
structure SignCall extends ApiCall where
  packId : String
  organizationId : String
  workspaceId : String
  secret : Except PyError String
  username : String
  keyId : Option String := none
  signer : Option String := none
  scheme : Option String := none
  signatureId : String
  signedAtIso : String
  posted : request.method = .post

namespace PackSignView

variable {ω : Type} [DecidableEq ω] (deployment : PackDeployment) (call : SignCall) (state : PackState ω)

def view : ApiView where
  requiredRoles _ := [.admin]
  touched := Touched.verifiedWorkspace
  touched_withGrants := ApiView.maintenanceWindowCreate.touched_withGrants

/-- The signature, where nothing stops the request before it is stored. -/
def signed : Except PackRefusal PackSignature := do
  call.checkPermission deployment state.database view.toView
  let manifest ← getPack deployment call.packId
  call.enforcePayloadScope deployment call.organizationId call.workspaceId
  getTenant state call.organizationId call.workspaceId
  let secret ← call.secret.mapError .raised
  let signature ← (PackSigner.sign deployment.python deployment.crypto manifest
    (call.keyId.getD deployment.trustKeyId) secret (call.signer.getD call.username)
    (call.scheme.getD "ed25519") call.signatureId call.signedAtIso).mapError .raised
  if call.packId ∉ state.packRecordIds then throw (.missing "KnowledgePackRecord")
  return signature

def post (worker : ω) : Except PackRefusal PackSignature × PackState ω :=
  match signed deployment call state with
  | .error refusal => (.error refusal, state)
  | .ok signature =>
    (.ok signature,
      { state with tables := state.tables.addSignature signature }.clearServiceCaches worker)

end PackSignView

end Sign

section Steps

variable {ω : Type} [DecidableEq ω]

/-- A runtime from the cache of a process, or resolved and then cached. -/
def packRuntime (deployment : PackDeployment) (worker : ω) (key : RuntimeKey) (failure : Option String)
    (fresh : PackManager.Fresh) (state : PackState ω) :
    Except RuntimeFailure PackResolution × PackState ω :=
  match (state.runtimes worker).get? key with
  | some resolution => (.ok resolution, state)
  | none =>
    match packRuntimeForWorkspace deployment state.tables key failure fresh with
    | .ok resolution => (.ok resolution, state.withRuntimes worker ((state.runtimes worker).set key resolution))
    | .error failure => (.error failure, state)

/-- What happens in a worker process: one of the two views answers a request, a runtime is
read, the cache forgets a runtime, or another request leaves other rows behind. No other
request writes policies or signatures. -/
inductive PackStep where
  | verify (call : VerifyCall)
  | sign (call : SignCall)
  | runtime (key : RuntimeKey) (failure : Option String) (fresh : PackManager.Fresh)
  | forget (key : RuntimeKey)
  | other (call : ApiCall) (database : Tenancy.Database) (organizationIds : List String)

/-- The request that is answered, where the step answers one. -/
def PackStep.call : PackStep → Option ApiCall
  | .verify call => some call.toApiCall
  | .sign call => some call.toApiCall
  | .other call _ _ => some call
  | .runtime .. | .forget _ => none

def PackState.next (deployment : PackDeployment) (worker : ω) (state : PackState ω) : PackStep → PackState ω
  | .verify call => (PackVerifyView.post deployment call state worker).2
  | .sign call => (PackSignView.post deployment call state worker).2
  | .runtime key failure fresh => (packRuntime deployment worker key failure fresh state).2
  | .forget key => state.withRuntimes worker ((state.runtimes worker).erase key)
  | .other _ database organizationIds => { state with database, organizationIds }

def packStep (deployment : PackDeployment) (label : ω × PackStep) (state : PackState ω) :
    Option (PackState ω) :=
  some (state.next deployment label.1 label.2)

end Steps

end KubeOps.ControlPlane
