import KubeOps.ControlPlane.PackTrust
import KubeOps.Foundation.Interleaving
import KubeOps.Packs.Consistency
import KubeOps.Packs.Partition

/-! Whether the trust a workspace puts in packs stays as it is while only principals make
requests who are no administrators there. Their requests to verify packs write the
policies in their bodies, and signatures made elsewhere count everywhere. -/
namespace KubeOps.ControlPlane

open KubeOps.Foundation KubeOps.Models KubeOps.SupplyChain KubeOps.Packs KubeOps.Tenancy

variable {ω : Type} [DecidableEq ω]

section Principals

def InWorkspace (database : Tenancy.Database) (workspaceId : String) (scope : Scope) : Prop :=
  database.Under (.workspace, workspaceId) scope ∨ database.Under scope (.workspace, workspaceId)

/-- A grant that stands for the principal of a request when it is made. -/
structure HoldsGrant (python : Python) (database : Tenancy.Database) (call : ApiCall)
    (row : RoleGrantRow) : Prop where
  mem : row ∈ database.grants.rows
  principal : row.principalId = call.request.user.pk ∧ row.payload.principalId = call.request.user.pk
  active : row.active = true ∧ row.payload.active = true
  unexpired : AuthorizationEngine.Unexpired python call.now row.payload

/-- The principal has no other roles in the workspace than these. -/
structure LimitedIn (python : Python) (database : Tenancy.Database) (workspaceId : String)
    (call : ApiCall) : Prop where
  superuser : call.request.user.superuser = false
  roles : ∀ row, HoldsGrant python database call row → InWorkspace database workspaceId row.payload.scope →
    row.payload.role ∈ [.viewer, .operator, .approver, .auditor]

end Principals

section Trust

def Untrusted (deployment : PackDeployment) (trust : PackManager.TrustMaterial) (packId : String) : Prop :=
  ∃ policy fresh result, trust.policy = some policy ∧
    deployment.manager.verifyPack deployment.python deployment.crypto trust fresh policy packId = .ok result ∧
    result.outcome ≠ .trusted

def PackState.Inactive (state : PackState ω) (workspaceId packId : String) : Prop :=
  ∀ worker key resolution, key.workspaceId = workspaceId →
    (state.runtimes worker).get? key = some resolution → packId ∉ resolution.activePackIds

structure SameTrust (workspaceId : String) (tables other : TrustTables) : Prop where
  policy : other.policyOf workspaceId = tables.policyOf workspaceId
  signatures : other.signaturesByPack = tables.signaturesByPack

/-- The policy and the signatures stay as they are, and a pack that is not trusted under them
is active in no runtime read, unless it was in one already kept. -/
structure TrustKept (deployment : PackDeployment) (workspaceId : String) (start : PackState ω)
    (past : List (Transition (PackState ω) (ω × PackStep))) : Prop where
  same : ∀ transition ∈ past, SameTrust workspaceId start.tables transition.after.tables
  inactive : ∀ packId, Untrusted deployment (deployment.trustMaterial start.tables workspaceId) packId →
    start.Inactive workspaceId packId →
    ∀ transition ∈ past, ∀ key failure fresh resolution, transition.label.2 = .runtime key failure fresh →
      key.workspaceId = workspaceId →
      (packRuntime deployment transition.label.1 key failure fresh transition.before).1 = .ok resolution →
      packId ∉ resolution.activePackIds

/-- A policy that is written for the workspace is the one in effect, and one that is written
for another workspace does not take its row. -/
def TrustTables.Spares (tables : TrustTables) (workspaceId : String) (policy : PackTrustPolicy) : Prop :=
  if policy.workspaceId = workspaceId then tables.policyOf workspaceId = some policy
  else ∀ current ∈ tables.policyOf workspaceId, current.policyId ≠ policy.policyId

/-- A step that verifies a pack spares the policy of the workspace, one that signs a pack is
not let through on the grant of an administrator elsewhere, and the rows are not taken for
tables that do not exist yet. -/
def PackStep.Harmless (deployment : PackDeployment) (workspaceId : String) (worker : ω) (state : PackState ω) :
    PackStep → Prop
  | .verify call => (∃ manifest, PackVerifyView.checked deployment call state = .ok manifest) →
    state.tables.Spares workspaceId call.policy
  | .sign call => (∃ signature, PackSignView.signed deployment call state = .ok signature) →
    ∀ row, HoldsGrant deployment.python state.database call.toApiCall row → row.payload.role = .admin →
      row.payload.scope ∈ passingScopes deployment.settings state.database PackSignView.view.toView
        call.request ++ [globalScope] → InWorkspace state.database workspaceId row.payload.scope
  | .runtime key failure _ => key.workspaceId = workspaceId → (state.runtimes worker).get? key = none →
    failure ∉ [some "OperationalError", some "ProgrammingError"]
  | .forget _ | .other .. => True

end Trust

section Tables

variable {tables : TrustTables} {workspaceId : String} {policy : PackTrustPolicy}

private theorem find?_filter_eq_iff {α : Type} {rows : List α} {chosen kept : α → Bool} :
    (rows.filter kept).find? chosen = rows.find? chosen ↔ ∀ row ∈ rows.find? chosen, kept row = true := by
  constructor
  · intro h row hrow
    rw [Option.mem_def, ← h] at hrow
    exact (List.mem_filter.mp (List.mem_of_find?_eq_some hrow)).2
  · intro h
    cases hfound : rows.find? chosen with
    | none =>
      rw [List.find?_eq_none] at hfound ⊢
      exact fun row hrow => hfound row (List.mem_of_mem_filter hrow)
    | some row =>
      obtain ⟨hchosen, before, after, rfl, hbefore⟩ := List.find?_eq_some_iff_append.mp hfound
      rw [List.find?_eq_some_iff_append]
      refine ⟨hchosen, before.filter kept, after.filter kept, ?_, ?_⟩
      · rw [List.filter_append, List.filter_cons_of_pos (h row hfound)]
      · exact fun other hother => hbefore other (List.mem_of_mem_filter hother)

theorem TrustTables.policyOf_updateOrCreate_iff :
    (tables.updateOrCreate policy).policyOf workspaceId = tables.policyOf workspaceId ↔
      tables.Spares workspaceId policy := by
  unfold Spares
  split
  · rename_i hsame
    rw [policyOf, updateOrCreate, List.find?_cons_of_pos (by simpa using hsame), eq_comm]
  · rename_i hother
    rw [policyOf, updateOrCreate, List.find?_cons_of_neg (by simpa using hother), policyOf,
      find?_filter_eq_iff]
    simp only [decide_eq_true_eq]

theorem SameTrust.refl (workspaceId : String) (tables : TrustTables) : SameTrust workspaceId tables tables :=
  ⟨rfl, rfl⟩

theorem SameTrust.trans {between other : TrustTables} (h : SameTrust workspaceId tables between)
    (hother : SameTrust workspaceId between other) : SameTrust workspaceId tables other :=
  ⟨hother.policy.trans h.policy, hother.signatures.trans h.signatures⟩

theorem SameTrust.trustMaterial {other : TrustTables} (h : SameTrust workspaceId tables other)
    (deployment : PackDeployment) :
    deployment.trustMaterial other workspaceId = deployment.trustMaterial tables workspaceId := by
  unfold PackDeployment.trustMaterial
  rw [h.policy, h.signatures]

end Tables

section Views

variable {deployment : PackDeployment} {state : PackState ω} {workspaceId packId : String} {worker : ω}

omit [DecidableEq ω] in
theorem exists_grant_of_checkPermission {call : ApiCall} (view : ApiView)
    (hposted : call.request.method = .post)
    (hpublic : view.publicAccess = false) (hsuperuser : call.request.user.superuser = false)
    (h : call.checkPermission deployment state.database view.toView = .ok ()) :
    ∃ row, HoldsGrant deployment.python state.database call row ∧
      row.payload.scope ∈ passingScopes deployment.settings state.database view.toView call.request ++
        [globalScope] ∧
      (row.payload.role ∈ KubeOpsRolePermission.rolesFor view.toView call.request ∨
        row.payload.role = .admin) := by
  have hpermission : KubeOpsRolePermission.hasPermission deployment.python call.uuid call.nowIso
      deployment.settings state.database view.toView call.request call.now = .ok true := by
    unfold ApiCall.checkPermission at h
    split at h
    · assumption
    · cases h
    · cases h
  have hauthenticated : call.request.user.authenticated = true := by
    by_contra hanonymous
    have hguarded : Guarded deployment.settings view.toView call.request :=
      ⟨hpublic, by simp [hposted, Method.safe]⟩
    rw [hasPermission_of_anonymous hguarded (by simpa using hanonymous)] at hpermission
    cases hpermission
  obtain ⟨row, hrow, hprincipal, hactive, hunexpired, hpassing, hrole⟩ :=
    exists_grant_of_allowed hpublic hsuperuser hauthenticated hpermission
  exact ⟨row, ⟨hrow, hprincipal, hactive, hunexpired⟩, hpassing, hrole⟩

theorem PackVerifyView.post_tables {call : VerifyCall} {manifest : KnowledgePackManifest}
    (h : checked deployment call state = .ok manifest) :
    (post deployment call state worker).2.tables = state.tables.updateOrCreate call.policy := by
  unfold post
  rw [h]
  dsimp only
  split
  · rfl
  · rfl

theorem PackVerifyView.post_refused {call : VerifyCall} {refusal : PackRefusal}
    (h : checked deployment call state = .error refusal) :
    (post deployment call state worker).2 = state := by
  unfold post
  rw [h]

omit [DecidableEq ω] in
theorem PackSignView.exists_admin {call : SignCall} {signature : PackSignature}
    (hsuperuser : call.request.user.superuser = false) (h : signed deployment call state = .ok signature) :
    ∃ row, HoldsGrant deployment.python state.database call.toApiCall row ∧
      row.payload.scope ∈ passingScopes deployment.settings state.database view.toView call.request ++
        [globalScope] ∧ row.payload.role = .admin := by
  obtain ⟨_, hpermission, -⟩ := except_bind_eq_ok h
  obtain ⟨row, hrow, hpassing, hrole⟩ :=
    exists_grant_of_checkPermission view call.posted rfl hsuperuser hpermission
  refine ⟨row, hrow, hpassing, ?_⟩
  rcases hrole with hrequired | hadmin
  · exact List.mem_singleton.mp hrequired
  · exact hadmin

theorem PackSignView.post_refused {call : SignCall} {refusal : PackRefusal}
    (h : signed deployment call state = .error refusal) : (post deployment call state worker).2 = state := by
  unfold post
  rw [h]

theorem verifyPack_outcome {trust : PackManager.TrustMaterial} {fresh other : PackManager.Fresh}
    {policy : PackTrustPolicy} {result found : PackVerificationResult}
    (h : deployment.manager.verifyPack deployment.python deployment.crypto trust fresh policy
      packId = .ok result)
    (hfound : deployment.manager.verifyPack deployment.python deployment.crypto trust other policy packId =
      .ok found) : found.outcome = result.outcome := by
  obtain ⟨manifest, hmanifest, h⟩ := except_bind_eq_ok h
  obtain ⟨same, hsame, hfound⟩ := except_bind_eq_ok hfound
  obtain rfl := Except.ok.inj (hmanifest.symm.trans hsame)
  unfold PackSigner.verify at h hfound
  cases hsignature : trust.signatures.get? packId with
  | none =>
    simp only [hsignature] at h hfound
    split at h
    · rename_i hallowed
      rw [if_pos hallowed] at hfound
      rw [← Except.ok.inj h, ← Except.ok.inj hfound]
    · rename_i hrefused
      rw [if_neg hrefused] at hfound
      rw [← Except.ok.inj h, ← Except.ok.inj hfound]
  | some signature =>
    simp only [hsignature] at h hfound
    obtain ⟨reasons, hreasons, h⟩ := except_bind_eq_ok h
    obtain ⟨again, hagain, hfound⟩ := except_bind_eq_ok hfound
    obtain rfl := Except.ok.inj (hreasons.symm.trans hagain)
    rw [← Except.ok.inj h, ← Except.ok.inj hfound]

theorem Untrusted.inactive {trust : PackManager.TrustMaterial} {fresh : PackManager.Fresh}
    {requestedPackIds : Option (List String)} {resolution : PackResolution}
    (h : Untrusted deployment trust packId)
    (hresolve : deployment.manager.resolve deployment.python deployment.crypto requestedPackIds trust fresh =
      .ok resolution) : packId ∉ resolution.activePackIds := by
  intro hactive
  obtain ⟨policy, other, result, hpolicy, hresult, houtcome⟩ := h
  obtain ⟨found, hfound, htrusted⟩ := PackManager.trusted_of_resolve hpolicy hresolve hactive
  exact houtcome ((verifyPack_outcome hfound hresult).trans htrusted)

theorem mapError_eq_ok {ε ε' α : Type} {result : Except ε α} {f : ε → ε'} {value : α}
    (h : result.mapError f = .ok value) : result = .ok value := by
  cases result with
  | error error => cases h
  | ok found => exact congrArg _ (Except.ok.inj h)

theorem inactive_of_packRuntime {key : RuntimeKey} {failure : Option String} {fresh : PackManager.Fresh}
    {resolution : PackResolution} (hkey : key.workspaceId = workspaceId)
    (hharmless : (PackStep.runtime key failure fresh).Harmless deployment workspaceId worker state)
    (huntrusted : Untrusted deployment (deployment.trustMaterial state.tables workspaceId) packId)
    (hinactive : state.Inactive workspaceId packId)
    (h : (packRuntime deployment worker key failure fresh state).1 = .ok resolution) :
    packId ∉ resolution.activePackIds := by
  unfold packRuntime at h
  split at h
  · rename_i kept hkept
    rw [← Except.ok.inj h]
    exact hinactive worker key kept hkey hkept
  · rename_i hnone
    split at h
    · rename_i found hfound
      rw [← Except.ok.inj h]
      have hreadable := hharmless hkey hnone
      unfold packRuntimeForWorkspace at hfound
      dsimp only at hfound
      split at hfound
      · rw [hkey] at hfound
        exact huntrusted.inactive (mapError_eq_ok hfound)
      · rename_i className
        rw [if_neg (by simpa using hreadable)] at hfound
        cases hfound
    · cases h

end Views

section Steps

variable {deployment : PackDeployment} {state start reached : PackState ω}
  {workspaceId packId : String} {worker : ω}
  {step : PackStep} {past : List (Transition (PackState ω) (ω × PackStep))}

theorem packRuntime_tables (key : RuntimeKey) (failure : Option String) (fresh : PackManager.Fresh) :
    (packRuntime deployment worker key failure fresh state).2.tables = state.tables := by
  unfold packRuntime
  split
  · rfl
  · split
    · rfl
    · rfl

theorem sameTrust_next
    (hlimited : ∀ call ∈ step.call, LimitedIn deployment.python state.database workspaceId call)
    (h : step.Harmless deployment workspaceId worker state) :
    SameTrust workspaceId state.tables (state.next deployment worker step).tables := by
  cases step with
  | verify call =>
    rw [PackState.next]
    cases hchecked : PackVerifyView.checked deployment call state with
    | error refusal =>
      rw [PackVerifyView.post_refused hchecked]
      exact .refl _ _
    | ok manifest =>
      rw [PackVerifyView.post_tables hchecked]
      exact ⟨TrustTables.policyOf_updateOrCreate_iff.mpr (h ⟨manifest, hchecked⟩), rfl⟩
  | sign call =>
    rw [PackState.next]
    cases hsigned : PackSignView.signed deployment call state with
    | error refusal =>
      rw [PackSignView.post_refused hsigned]
      exact .refl _ _
    | ok signature =>
      obtain ⟨hsuperuser, hroles⟩ := hlimited _ rfl
      obtain ⟨row, hrow, hpassing, hadmin⟩ := PackSignView.exists_admin hsuperuser hsigned
      have hrole := hroles row hrow (h ⟨signature, hsigned⟩ row hrow hadmin hpassing)
      rw [hadmin] at hrole
      simp at hrole
  | runtime key failure fresh =>
    rw [PackState.next, packRuntime_tables]
    exact .refl _ _
  | forget key => exact .refl _ _
  | other call database organizationIds => exact .refl _ _

theorem PackState.Inactive.withRuntimes {runtimes : Dict RuntimeKey PackResolution}
    (h : state.Inactive workspaceId packId)
    (hruntimes : ∀ key resolution, key.workspaceId = workspaceId → runtimes.get? key = some resolution →
      packId ∉ resolution.activePackIds) :
        (state.withRuntimes worker runtimes).Inactive workspaceId packId := by
  intro other key resolution hkey hget
  change (Function.update state.runtimes worker runtimes other).get? key = some resolution at hget
  by_cases hworker : other = worker
  · rw [hworker, Function.update_self] at hget
    exact hruntimes key resolution hkey hget
  · rw [Function.update_of_ne hworker] at hget
    exact h other key resolution hkey hget

theorem PackState.Inactive.clearServiceCaches (h : state.Inactive workspaceId packId) :
    (state.clearServiceCaches worker).Inactive workspaceId packId := by
  apply h.withRuntimes
  intro key resolution _ hget
  cases hget

theorem inactive_next (huntrusted : Untrusted deployment
    (deployment.trustMaterial state.tables workspaceId) packId)
    (h : step.Harmless deployment workspaceId worker state) (hinactive : state.Inactive workspaceId packId) :
    (state.next deployment worker step).Inactive workspaceId packId := by
  cases step with
  | verify call =>
    rw [PackState.next, PackVerifyView.post]
    split
    · exact hinactive
    · dsimp only
      split
      · have hupdated : PackState.Inactive
            { state with tables := state.tables.updateOrCreate call.policy } workspaceId packId := hinactive
        exact hupdated.clearServiceCaches
      · exact hinactive
  | sign call =>
    rw [PackState.next, PackSignView.post]
    split
    · exact hinactive
    · rename_i signature _
      have hadded : PackState.Inactive
          { state with tables := state.tables.addSignature signature } workspaceId packId := hinactive
      exact hadded.clearServiceCaches
  | runtime key failure fresh =>
    have hread : ∀ hkey resolution, (packRuntime deployment worker key failure fresh state).1 = .ok resolution →
        packId ∉ resolution.activePackIds := fun hkey resolution =>
      inactive_of_packRuntime hkey h huntrusted hinactive
    rw [PackState.next]
    unfold packRuntime at hread ⊢
    split
    · exact hinactive
    · rename_i hnone
      rw [hnone] at hread
      dsimp only at hread
      split
      · rename_i resolution hresolved
        rw [hresolved] at hread
        apply hinactive.withRuntimes
        intro other found hother hget
        rw [Dict.get?_set] at hget
        split at hget
        · rename_i hsame
          rw [hsame] at hother
          exact hread hother found (congrArg _ (Option.some.inj hget))
        · exact hinactive worker other found hother hget
      · exact hinactive
  | forget key =>
    apply hinactive.withRuntimes
    intro other resolution hother hget
    rw [Dict.get?_erase] at hget
    split at hget
    · cases hget
    · exact hinactive worker other resolution hother hget
  | other call database organizationIds => exact hinactive

/-- In every run of principals that are limited in the workspace, harmless steps keep the
policy and the signatures of the workspace, and activate no pack that is not trusted. -/
theorem trust_kept (deployment : PackDeployment) (workspaceId : String)
    (hrun : Run (packStep deployment) start past reached)
    (hlimited : ∀ transition ∈ past, ∀ call ∈ transition.label.2.call,
      LimitedIn deployment.python transition.before.database workspaceId call)
    (hharmless : ∀ transition ∈ past,
      transition.label.2.Harmless deployment workspaceId transition.label.1 transition.before) :
    TrustKept deployment workspaceId start past := by
  have hnext : ∀ transition ∈ past,
      packStep deployment transition.label transition.before = some transition.after →
      transition.after = transition.before.next deployment transition.label.1 transition.label.2 :=
    fun _ _ hstep => (Option.some.inj hstep).symm
  have hsame : ∀ transition ∈ past, SameTrust workspaceId start.tables transition.before.tables ∧
      SameTrust workspaceId start.tables transition.after.tables := by
    apply hrun.invariant_of_mem (fun state => SameTrust workspaceId start.tables state.tables) (.refl _ _)
    intro transition hmem hstep hbefore
    rw [hnext transition hmem hstep]
    exact hbefore.trans (sameTrust_next (hlimited transition hmem) (hharmless transition hmem))
  refine ⟨fun transition hmem => (hsame transition hmem).2, ?_⟩
  intro packId huntrusted hstart
  have hcurrent : ∀ transition ∈ past,
      Untrusted deployment (deployment.trustMaterial transition.before.tables workspaceId) packId := by
    intro transition hmem
    rw [(hsame transition hmem).1.trustMaterial]
    exact huntrusted
  have hinactive : ∀ transition ∈ past, transition.before.Inactive workspaceId packId ∧
      transition.after.Inactive workspaceId packId := by
    apply hrun.invariant_of_mem (fun state => state.Inactive workspaceId packId) hstart
    intro transition hmem hstep hbefore
    rw [hnext transition hmem hstep]
    exact inactive_next (hcurrent transition hmem) (hharmless transition hmem) hbefore
  intro transition hmem key failure fresh resolution hlabel hkey hread
  have hstep := hharmless transition hmem
  rw [hlabel] at hstep
  exact inactive_of_packRuntime hkey hstep (hcurrent transition hmem) (hinactive transition hmem).1 hread

end Steps

/-! Alice views a workspace whose policy wants packs signed; none is. -/
namespace ViewedWorkspace

def deployment : PackDeployment where
  python := Python.plain
  crypto := .transparent
  settings := localSettings
  manager := Catalog.empty.put (Catalog.independent "redis") "memory"
  trustKeyId := "kubeops-pack-key"

def strict : PackTrustPolicy where
  policyId := "strict"
  organizationId := "o1"
  workspaceId := "w1"

def tolerant : PackTrustPolicy where
  policyId := "tolerant"
  organizationId := "o1"
  workspaceId := "w1"
  requireSignature := false

def database : Tenancy.Database := twoTenants.withGrants (Table.empty.put ⟨"g1", "alice", true,
  { grantId := "g1", principalId := "alice", role := .viewer, scopeType := .workspace, scopeId := "w1" }⟩)

def start : PackState Unit where
  database := database
  organizationIds := ["o1", "o2"]
  packRecordIds := ["redis"]
  tables := { policies := [strict], policyIds := List.nodup_singleton _ }
  runtimes _ := ∅

def verifyCall (policy : PackTrustPolicy) : VerifyCall where
  request := {
    user := ⟨"alice", true, false⟩, method := .post, path := "/api/v1/packs/redis/verify"
    workspaceHeader := some "w1", organizationHeader := some "o1"
    kwargs := Dict.ofList [("pack_id", "redis")] }
  uuid := "u1"
  nowIso := "2026-07-23T00:00:00+00:00"
  now := ⟨1784764800000000, some 0⟩
  packId := "redis"
  policy := policy
  verificationId := "pack-verification:1"
  verifiedAtIso := "2026-07-23T00:00:00+00:00"
  posted := rfl

def read : PackStep := .runtime (.workspace "w1") none Catalog.fresh

def past (policy : PackTrustPolicy) : List (Transition (PackState Unit) (Unit × PackStep)) :=
  let verified := start.next deployment () (.verify (verifyCall policy))
  [⟨start, ((), .verify (verifyCall policy)), verified⟩,
    ⟨verified, ((), read), verified.next deployment () read⟩]

theorem past_run (policy : PackTrustPolicy) :
    ∃ reached, Run (packStep deployment) start (past policy) reached :=
  ⟨_, .step (.step .start rfl) rfl⟩

theorem past_limited (policy : PackTrustPolicy) : ∀ transition ∈ past policy, ∀ call ∈ transition.label.2.call,
    LimitedIn deployment.python transition.before.database "w1" call := by
  intro transition hmem call hcall
  rcases List.mem_cons.mp hmem with rfl | hread
  · obtain rfl := Option.some.inj hcall
    refine ⟨rfl, fun row hrow _ => ?_⟩
    obtain rfl := List.mem_singleton.mp hrow.mem
    decide
  · rw [List.mem_singleton.mp hread] at hcall
    cases hcall

theorem redis_untrusted : Untrusted deployment (deployment.trustMaterial start.tables "w1") "redis" :=
  ⟨strict, Catalog.fresh, _, rfl, rfl, by decide⟩

/-- Verifying under the policy in effect changes nothing. -/
theorem strict_kept : ∃ reached, Run (packStep deployment) start (past strict) reached ∧
    TrustKept deployment "w1" start (past strict) := by
  obtain ⟨reached, hrun⟩ := past_run strict
  refine ⟨reached, hrun, trust_kept deployment "w1" hrun (past_limited strict) ?_⟩
  intro transition hmem
  rcases List.mem_cons.mp hmem with rfl | hread
  · intro _
    exact rfl
  · rw [List.mem_singleton.mp hread]
    intro _ _
    decide

/-- A viewer replaces the policy of the workspace by verifying a pack, and the pack that was
not trusted becomes active. -/
theorem tolerant_not_kept : ∃ reached, Run (packStep deployment) start (past tolerant) reached ∧
    (∀ transition ∈ past tolerant, ∀ call ∈ transition.label.2.call,
      LimitedIn deployment.python transition.before.database "w1" call) ∧
    reached.tables.policyOf "w1" = some tolerant ∧ ¬ TrustKept deployment "w1" start (past tolerant) := by
  refine ⟨_, .step (.step .start rfl) rfl, past_limited tolerant, rfl, fun h => ?_⟩
  have hactive : (packRuntime deployment () (.workspace "w1") none Catalog.fresh
      (start.next deployment () (.verify (verifyCall tolerant)))).1.map PackResolution.activePackIds =
      .ok ["redis"] := rfl
  obtain ⟨resolution, hresolution, hlist⟩ := except_map_eq_ok hactive
  have hinactive := h.inactive "redis" redis_untrusted (fun _ _ _ _ hget => by cases hget)
    ⟨_, ((), read), _⟩ (List.mem_cons_of_mem _ (List.mem_singleton_self _)) _ _ _ resolution rfl rfl hresolution
  rw [hlist] at hinactive
  exact hinactive (List.mem_singleton_self _)

end ViewedWorkspace

end KubeOps.ControlPlane
