import KubeOps.Tenancy.Explainer

/-! Tenant isolation: what an allowed request touches lies under a grant, as the
database records the hierarchy. -/
namespace KubeOps.Tenancy

open KubeOps.Foundation KubeOps.Models AuthorizationEngine KubeOpsRolePermission

def Database.Under (database : Database) (scope ancestor : Scope) : Prop :=
  Relation.ReflTransGen
    (fun child parent => database.parent? child = some parent ∨ parent = globalScope) scope ancestor

/-- The scopes of the workspaces, environments, fleets and operations whose records a
view reads or writes. -/
abbrev Touched := Settings → Database → Request → List Scope

namespace Touched

/-- Lists are filtered by the workspace header. -/
def requestedWorkspace : Touched := fun settings database request =>
  ((database.workspaces.get? (KubeOpsRolePermission.requestedWorkspace settings request)).map
    fun row => ((.workspace, row.workspaceId) : Scope)).toList

/-- `_request_scope_records` stops a request whose headers do not belong together. -/
def verifiedWorkspace : Touched := fun settings database request =>
  (((database.workspaces.get? (KubeOpsRolePermission.requestedWorkspace settings request)).filter
    fun row => row.organizationId = requestedOrganization settings request).map
      fun row => ((.workspace, row.workspaceId) : Scope)).toList

/-- An export whose body names another organization or workspace is refused first. -/
def exportedWorkspace : Touched := fun settings database request =>
  if (∀ id ∈ request.data.get? "organization_id",
        id = KubeOpsRolePermission.requestedOrganization settings request) ∧
      (∀ id ∈ request.data.get? "workspace_id",
        id = KubeOpsRolePermission.requestedWorkspace settings request) then
    requestedWorkspace settings database request
  else []

def requestedOrganization : Touched := fun settings database request =>
  (database.workspaces.rows.filter fun row =>
    row.organizationId = KubeOpsRolePermission.requestedOrganization settings request).map
      fun row => (.workspace, row.workspaceId)

def recordScope : ObjectRecord → Scope
  | .operation row => (.operation, row.operationId)
  | .snapshot row => (.environment, row.environment.environmentId)
  | .incident row => (.environment, row.environment.environmentId)
  | .task row => (.operation, row.operation.operationId)
  | .agent row => (.workspace, row.workspace.workspaceId)
  | .fleet row => (.fleet, row.fleetId)
  | .environment row => (.environment, row.environmentId)

/-- The record under the argument of the route. -/
def addressed : Touched := fun _ database request =>
  ((objectRecord database request.kwargs).map recordScope).toList

def snapshotOfBody : Touched := fun _ database request =>
  (((argument request.data "snapshot_id").bind database.snapshots.get?).map
    fun row => ((.environment, row.environment.environmentId) : Scope)).toList

def everyIncident : Touched := fun _ database _ =>
  database.incidents.rows.map fun row => (.environment, row.environment.environmentId)

end Touched

/-- A view class with what one of its methods touches, whatever grants are stored. -/
structure ApiView extends View where
  touched : Touched
  touched_withGrants : ∀ settings database request grants,
    touched settings (database.withGrants grants) request = touched settings database request

namespace ApiView

def auditEventList : ApiView where
  requiredRoles _ := [.auditor, .admin]
  touched := Touched.requestedWorkspace
  touched_withGrants _ _ _ _ := rfl

/-- The events are read before the headers are verified. -/
def auditExport : ApiView where
  requiredRoles _ := [.auditor, .admin]
  touched := Touched.exportedWorkspace
  touched_withGrants _ _ _ _ := rfl

/-- `MaintenanceWindowListView.post` -/
def maintenanceWindowCreate : ApiView where
  requiredRoles _ := [.admin]
  touched := Touched.verifiedWorkspace
  touched_withGrants _ _ _ _ := rfl

def workspaceList : ApiView where
  authorizationScopeType := some .organization
  requiredRoles _ := [.admin]
  touched := Touched.requestedOrganization
  touched_withGrants _ _ _ _ := rfl

def environmentDetail : ApiView where
  requiredRoles _ := []
  touched := Touched.addressed
  touched_withGrants _ _ _ _ := rfl

def operationDetail : ApiView where
  requiredRoles _ := []
  touched := Touched.addressed
  touched_withGrants _ _ _ _ := rfl

def fleetDetail : ApiView where
  requiredRoles _ := [.viewer, .operator, .admin]
  touched := Touched.addressed
  touched_withGrants _ _ _ _ := rfl

/-- `OperationListCreateView.post` -/
def operationCreate : ApiView where
  requiredRoles _ := []
  touched := Touched.snapshotOfBody
  touched_withGrants _ _ _ _ := rfl

def diagnosisCoverage : ApiView where
  requiredRoles _ := []
  touched := Touched.everyIncident
  touched_withGrants _ _ _ _ := rfl

end ApiView

structure CoveredBy (python : Python) (now : Datetime) (database : Database) (principalId : String)
    (scope : Scope) (row : RoleGrantRow) : Prop where
  principal : row.principalId = principalId ∧ row.payload.principalId = principalId
  active : row.active = true ∧ row.payload.active = true
  unexpired : Unexpired python now row.payload
  above : database.Under scope row.payload.scope

/-- Whatever is granted, an allowed request touches only what a grant of its principal covers. -/
def Isolated (settings : Settings) (database : Database) (view : ApiView) (request : Request) : Prop :=
  ∀ python uuid nowIso now grants,
    hasPermission python uuid nowIso settings (database.withGrants grants) view.toView request now =
      .ok true →
    ∀ scope ∈ view.touched settings (database.withGrants grants) request,
      ∃ row ∈ grants.rows, CoveredBy python now database request.user.pk scope row

def recordChain (ids : String × String) : ObjectRecord → List Scope
  | .operation row =>
    [(.operation, row.operationId), (.environment, row.environment.environmentId),
      (.workspace, ids.1), (.organization, ids.2)]
  | .snapshot row =>
    [(.environment, row.environment.environmentId), (.workspace, ids.1), (.organization, ids.2)]
  | .incident row =>
    [(.environment, row.environment.environmentId), (.workspace, ids.1), (.organization, ids.2)]
  | .task row =>
    [(.operation, row.operation.operationId), (.environment, row.environment.environmentId),
      (.workspace, ids.1), (.organization, ids.2)]
  | .agent _ => [(.workspace, ids.1), (.organization, ids.2)]
  | .fleet row => [(.fleet, row.fleetId), (.workspace, ids.1), (.organization, ids.2)]
  | .environment row => [(.environment, row.environmentId), (.workspace, ids.1), (.organization, ids.2)]

/-- Without a record the environment of the route or the body, or the fleet of the
route, is named, and what is not found hangs under the headers. -/
def fallbackChain (database : Database) (request : Request) (headers : String × String) : List Scope :=
  match (argument request.kwargs "environment_id").or (argument request.data "environment_id") with
  | some environmentId =>
    let ids := workspaceIds ((database.environments.get? environmentId).bind EnvironmentRow.workspace)
      headers
    [(.environment, environmentId), (.workspace, ids.1), (.organization, ids.2)]
  | none =>
    match argument request.kwargs "fleet_id" with
    | some fleetId =>
      let ids := match database.fleets.get? fleetId with
        | some fleet => (fleet.workspace.workspaceId, fleet.organizationId)
        | none => headers
      [(.fleet, fleetId), (.workspace, ids.1), (.organization, ids.2)]
    | none => [(.workspace, headers.1), (.organization, headers.2)]

def passingScopes (settings : Settings) (database : Database) (view : View) (request : Request) :
    List Scope :=
  let headers := (requestedWorkspace settings request, requestedOrganization settings request)
  if view.authorizationScopeType = some .global then []
  else if view.authorizationScopeType = some .organization then [(.organization, headers.2)]
  else
    match objectRecord database request.kwargs with
    | some record => recordChain (workspaceIds (ObjectRecord.workspace record) headers) record
    | none => fallbackChain database request headers

section Passing

variable {settings : Settings} {database : Database} {view : View} {request : Request}
  {ancestor : Scope} {headers : String × String}

theorem recordScope_ancestors (record : ObjectRecord) (ids : String × String) :
    Ancestor (recordScope ids.1 [workspaceBinding ids.1 ids.2] record).bindings
        (recordScope ids.1 [workspaceBinding ids.1 ids.2] record).scope ancestor ↔
      ancestor ∈ recordChain ids record ++ [globalScope] := by
  cases record with
  | operation row =>
    apply ancestor_iff_mem
    · simp [recordScope, Above, workspaceBinding, environmentBinding, operationBinding, ScopeBinding.edge]
    · simp
    · simp [recordScope, workspaceBinding, environmentBinding, operationBinding, ScopeBinding.edge]
  | snapshot row =>
    apply ancestor_iff_mem
    · simp [recordScope, Above, workspaceBinding, environmentBinding, ScopeBinding.edge]
    · simp
    · simp [recordScope, workspaceBinding, environmentBinding, ScopeBinding.edge]
  | incident row =>
    apply ancestor_iff_mem
    · simp [recordScope, Above, workspaceBinding, environmentBinding, ScopeBinding.edge]
    · simp
    · simp [recordScope, workspaceBinding, environmentBinding, ScopeBinding.edge]
  | task row =>
    apply ancestor_iff_mem
    · simp [recordScope, Above, workspaceBinding, environmentBinding, operationBinding, ScopeBinding.edge]
    · simp
    · simp [recordScope, workspaceBinding, environmentBinding, operationBinding, ScopeBinding.edge]
  | agent row =>
    apply ancestor_iff_mem
    · simp [recordScope, Above, workspaceBinding, ScopeBinding.edge]
    · simp
    · simp [recordScope, workspaceBinding, ScopeBinding.edge]
  | fleet row =>
    apply ancestor_iff_mem
    · simp [recordScope, Above, workspaceBinding, fleetBinding, ScopeBinding.edge]
    · simp
    · simp [recordScope, workspaceBinding, fleetBinding, ScopeBinding.edge]
  | environment row =>
    apply ancestor_iff_mem
    · simp [recordScope, Above, workspaceBinding, environmentBinding, ScopeBinding.edge]
    · simp
    · simp [recordScope, workspaceBinding, environmentBinding, ScopeBinding.edge]

theorem fallbackScope_ancestors :
    Ancestor (fallbackScope database request headers).bindings
        (fallbackScope database request headers).scope ancestor ↔
      ancestor ∈ fallbackChain database request headers ++ [globalScope] := by
  cases hnamed : (argument request.kwargs "environment_id").or
      (argument request.data "environment_id") with
  | some environmentId =>
    simp only [fallbackScope, fallbackChain, hnamed]
    apply ancestor_iff_mem
    · simp [Above, workspaceBinding, environmentBinding, ScopeBinding.edge]
    · simp
    · simp [workspaceBinding, environmentBinding, ScopeBinding.edge]
  | none =>
    cases hfleet : argument request.kwargs "fleet_id" with
    | some fleetId =>
      cases hrow : database.fleets.get? fleetId with
      | some row =>
        simp only [fallbackScope, fallbackChain, hnamed, hfleet, hrow]
        apply ancestor_iff_mem
        · simp [Above, workspaceBinding, fleetBinding, ScopeBinding.edge]
        · simp
        · simp [workspaceBinding, fleetBinding, ScopeBinding.edge]
      | none =>
        simp only [fallbackScope, fallbackChain, hnamed, hfleet, hrow]
        apply ancestor_iff_mem
        · simp [Above, workspaceBinding, fleetBinding, ScopeBinding.edge]
        · simp
        · simp [workspaceBinding, fleetBinding, ScopeBinding.edge]
    | none =>
      simp only [fallbackScope, fallbackChain, hnamed, hfleet]
      apply ancestor_iff_mem
      · simp [Above, workspaceBinding, ScopeBinding.edge]
      · simp
      · simp [workspaceBinding, ScopeBinding.edge]

theorem requestScope_ancestors (settings : Settings) (database : Database) (view : View)
    (request : Request) (ancestor : Scope) :
    Ancestor (requestScope settings database view request).bindings
        (requestScope settings database view request).scope ancestor ↔
      ancestor ∈ passingScopes settings database view request ++ [globalScope] := by
  unfold requestScope passingScopes
  by_cases hglobal : view.authorizationScopeType = some .global
  · simp only [hglobal, if_true]
    apply ancestor_iff_mem
    · simp
    · simp
    · simp [workspaceBinding, ScopeBinding.edge, globalScope]
  by_cases horganization : view.authorizationScopeType = some .organization
  · simp only [horganization, if_true]
    apply ancestor_iff_mem
    · simp [Above]
    · simp
    · simp [workspaceBinding, ScopeBinding.edge, globalScope]
  rw [if_neg hglobal, if_neg horganization, if_neg hglobal, if_neg horganization]
  cases objectRecord database request.kwargs with
  | some record => exact recordScope_ancestors _ _
  | none => exact fallbackScope_ancestors

theorem Database.Under.global {scope : Scope} : database.Under scope globalScope :=
  .single (.inr rfl)

end Passing

/-- Nobody is let through without a look at the grants. -/
def Guarded (settings : Settings) (view : View) (request : Request) : Prop :=
  view.publicAccess = false ∧ ¬ (request.method.safe = true ∧ settings.allowAnonymousRead = true ∧
    request.user.authenticated = false)

/-- What is touched lies, as recorded, under every scope on which a grant lets the
request pass. -/
structure Rooted (settings : Settings) (database : Database) (view : ApiView) (request : Request) :
    Prop where
  guarded : view.touched settings database request ≠ [] → Guarded settings view.toView request
  under : request.user.authenticated = true → ∀ scope ∈ view.touched settings database request,
    ∀ passing ∈ passingScopes settings database view.toView request, database.Under scope passing

section Isolation

variable {settings : Settings} {database : Database} {view : ApiView} {request : Request}
  {python : Python} {uuid nowIso : String} {now : Datetime}

theorem hasPermission_of_open (h : ¬ Guarded settings view.toView request) :
    hasPermission python uuid nowIso settings database view.toView request now = .ok true := by
  unfold hasPermission
  by_cases hpublic : view.publicAccess = true
  · rw [if_pos hpublic]
  · rw [if_neg hpublic, if_pos]
    by_contra hclosed
    exact h ⟨by simpa using hpublic, by simpa using hclosed⟩

theorem hasPermission_of_authenticated (hpublic : view.publicAccess = false)
    (hsuperuser : request.user.superuser = false) (hauthenticated : request.user.authenticated = true) :
    hasPermission python uuid nowIso settings database view.toView request now =
      (evaluate python uuid nowIso
        ⟨grantsOf database request.user.pk, (requestScope settings database view.toView request).bindings⟩
        (authorizationRequest uuid view.toView request
          (requestScope settings database view.toView request)) now).map allowed := by
  unfold hasPermission
  simp only [hpublic, hauthenticated, hsuperuser, Bool.false_eq_true, not_true_eq_false, and_false,
    if_false]
  cases evaluate python uuid nowIso
      ⟨grantsOf database request.user.pk, (requestScope settings database view.toView request).bindings⟩
      (authorizationRequest uuid view.toView request
        (requestScope settings database view.toView request)) now with
  | error error => rfl
  | ok decision => rfl

theorem hasPermission_of_anonymous (hguarded : Guarded settings view.toView request)
    (hauthenticated : request.user.authenticated = false) :
    hasPermission python uuid nowIso settings database view.toView request now = .ok false := by
  obtain ⟨hpublic, hclosed⟩ := hguarded
  unfold hasPermission
  rw [if_neg (by simp [hpublic]), if_neg, if_pos (by simp [hauthenticated])]
  intro hopen
  exact hclosed ⟨hopen.1, hopen.2.1, hauthenticated⟩

theorem requestScope_withGrants (grants : Table String RoleGrantRow RoleGrantRow.grantId) :
    requestScope settings (database.withGrants grants) view.toView request =
      requestScope settings database view.toView request := rfl

theorem mem_grantsOf {principalId : String} {grant : RoleGrant} :
    grant ∈ grantsOf database principalId ↔
      ∃ row ∈ database.grants.rows, (row.principalId = principalId ∧ row.active = true) ∧
        row.payload = grant := by
  simp [grantsOf, and_assoc]

/-- An allowed request stands on a grant whose scope lets it pass and whose role is one of
those required, or the one of an administrator. -/
theorem exists_grant_of_allowed (hpublic : view.publicAccess = false)
    (hsuperuser : request.user.superuser = false) (hauthenticated : request.user.authenticated = true)
    (h : hasPermission python uuid nowIso settings database view.toView request now = .ok true) :
    ∃ row ∈ database.grants.rows,
      (row.principalId = request.user.pk ∧ row.payload.principalId = request.user.pk) ∧
      (row.active = true ∧ row.payload.active = true) ∧ Unexpired python now row.payload ∧
      row.payload.scope ∈ passingScopes settings database view.toView request ++ [globalScope] ∧
      (row.payload.role ∈ rolesFor view.toView request ∨ row.payload.role = .admin) := by
  rw [hasPermission_of_authenticated hpublic hsuperuser hauthenticated] at h
  obtain ⟨decision, hdecision, hallowed⟩ := except_map_eq_ok h
  obtain ⟨found, hfound, rfl⟩ := evaluate_eq_ok.mp hdecision
  have hallow := of_decide_eq_true hallowed
  obtain ⟨grant, hmem, hrole⟩ := exists_grant_of_rolesSatisfied rolesFor_ne_nil (judge_eq_allow.mp hallow).1
  obtain ⟨hgrant, hadmits⟩ := admits_of_mem_matching hfound grant hmem
  obtain ⟨row, hrow, ⟨hprincipal, hactive⟩, rfl⟩ := mem_grantsOf.mp hgrant
  have hpasses : row.payload.scope ∈ passingScopes settings database view.toView request ++ [globalScope] :=
    (requestScope_ancestors settings database view.toView request _).mp hadmits.above
  exact ⟨row, hrow, ⟨hprincipal, hadmits.principal⟩, ⟨hactive, hadmits.active⟩, hadmits.unexpired,
    hpasses, hrole⟩

theorem hasPermission_soleGrant {passing : Scope} (hpublic : view.publicAccess = false)
    (hsuperuser : request.user.superuser = false) (hauthenticated : request.user.authenticated = true)
    (hpassing : passing ∈ passingScopes settings database view.toView request) :
    hasPermission python uuid nowIso settings
      (database.withGrants (soleGrant request.user.pk passing)) view.toView request now = .ok true := by
  have hprincipal : (authorizationRequest uuid view.toView request
      (requestScope settings database view.toView request)).principalId = request.user.pk := rfl
  obtain ⟨decision, hdecision, hallow⟩ : ∃ decision, evaluate python uuid nowIso
        ⟨[adminGrant request.user.pk passing],
          (requestScope settings database view.toView request).bindings⟩
        (authorizationRequest uuid view.toView request
          (requestScope settings database view.toView request)) now = .ok decision ∧
      (decision.outcome = .allow ↔ Ancestor (requestScope settings database view.toView request).bindings
        (requestScope settings database view.toView request).scope passing) :=
    evaluate_adminGrant rolesFor_ne_nil
  have habove : Ancestor (requestScope settings database view.toView request).bindings
      (requestScope settings database view.toView request).scope passing :=
    (requestScope_ancestors settings database view.toView request passing).mpr
      (List.mem_append_left _ hpassing)
  rw [hasPermission_of_authenticated hpublic hsuperuser hauthenticated, grantsOf_soleGrant,
    requestScope_withGrants, hdecision, Except.map, allowed, hallow.mpr habove]
  rfl

theorem row_of_mem_soleGrant {principalId : String} {scope : Scope} {row : RoleGrantRow}
    (h : row ∈ (soleGrant principalId scope).rows) : row.payload.scope = scope := by
  have hrow : row = ⟨"grant", principalId, true, adminGrant principalId scope⟩ := by
    simpa [soleGrant, Table.rows, Table.put, Table.empty, Dict.values, Dict.set] using h
  rw [hrow]
  rfl

theorem guarded_of_isolated (h : Isolated settings database view request)
    (htouched : view.touched settings database request ≠ []) :
    Guarded settings view.toView request := by
  by_contra hopen
  obtain ⟨scope, hscope⟩ := List.exists_mem_of_ne_nil _ htouched
  have hungranted := h Python.plain "" "" ⟨0, none⟩ Table.empty (hasPermission_of_open hopen) scope
    (by rwa [view.touched_withGrants])
  simp [Table.rows, Table.empty, Dict.values] at hungranted

/-- A request is isolated, whatever is granted, when the scopes on which a grant lets
it pass lie above everything it touches. -/
theorem isolated_iff (settings : Settings) (database : Database) (view : ApiView) (request : Request)
    (hsuperuser : request.user.superuser = false) :
    Isolated settings database view request ↔ Rooted settings database view request := by
  constructor
  · intro h
    refine ⟨guarded_of_isolated h, fun hauthenticated scope hscope passing hpassing => ?_⟩
    have hguarded := guarded_of_isolated h (List.ne_nil_of_mem hscope)
    obtain ⟨row, hrow, hcovered⟩ := h Python.plain "" "" ⟨0, none⟩ (soleGrant request.user.pk passing)
      (hasPermission_soleGrant hguarded.1 hsuperuser hauthenticated hpassing) scope
      (by rwa [view.touched_withGrants])
    rw [← row_of_mem_soleGrant hrow]
    exact hcovered.above
  · rintro ⟨hguarded, hunder⟩ python uuid nowIso now grants hallowed scope hscope
    rw [view.touched_withGrants] at hscope
    have hguard := hguarded (List.ne_nil_of_mem hscope)
    cases hauthenticated : request.user.authenticated with
    | false => simp [hasPermission_of_anonymous hguard hauthenticated] at hallowed
    | true =>
      obtain ⟨row, hrow, hprincipal, hactive, hunexpired, hpassing, -⟩ :=
        exists_grant_of_allowed hguard.1 hsuperuser hauthenticated hallowed
      refine ⟨row, hrow, hprincipal, hactive, hunexpired, ?_⟩
      rcases List.mem_append.mp hpassing with hpassing | hglobal
      · exact hunder hauthenticated scope hscope _ hpassing
      · rw [List.mem_singleton.mp hglobal]
        exact .global

/-- The detail of an operation whose environment has a workspace. -/
theorem operationDetail_isolated :
    Isolated localSettings singleOperation ApiView.operationDetail (readOf "o1" (.operation recovery)) := by
  refine (isolated_iff _ _ _ _ rfl).mpr ⟨fun _ => ⟨rfl, by simp [localSettings]⟩,
    fun _ scope hscope passing hpassing => ?_⟩
  obtain rfl : scope = (.operation, "op1") := List.mem_singleton.mp hscope
  have hchain : List.IsChain (fun child parent => singleOperation.parent? child = some parent ∨
    parent = globalScope)
      [(.operation, "op1"), (.environment, "e1"), (.workspace, "w1"), (.organization, "o1")] := by
    decide
  exact reached_of_mem_chain hchain hpassing

/-! Two tenants: alice audits the organization of the first workspace. -/

def acme : WorkspaceRow := ⟨"w1", "o1"⟩
def globex : WorkspaceRow := ⟨"w2", "o2"⟩

def twoTenants : Database where
  workspaces := (Table.empty.put acme).put globex
  environments := Table.empty
  fleets := Table.empty
  operations := Table.empty
  snapshots := Table.empty
  incidents := Table.empty
  tasks := Table.empty
  agents := Table.empty
  grants := Table.empty.put ⟨"g1", "alice", true,
    { grantId := "g1", principalId := "alice", role := .auditor, scopeType := .organization, scopeId := "o1" }⟩
  environment_workspace := by decide
  fleet_workspace := by decide
  operation_environment := by decide
  snapshot_environment := by decide
  incident_environment := by decide
  task_workspace := by decide
  task_environment := by decide
  task_operation := by decide
  agent_workspace := by decide

/-- Her own organization beside the workspace of the other one. -/
def mixedHeaders : Request where
  user := ⟨"alice", true, false⟩
  method := .get
  path := "/api/v1/audit/events"
  workspaceHeader := some "w2"
  organizationHeader := some "o1"

theorem under_globex_iff {ancestor : Scope} : twoTenants.Under (.workspace, "w2") ancestor ↔
    ancestor ∈ [(.workspace, "w2"), (.organization, "o2"), globalScope] := by
  apply reached_iff_mem_chain
  · decide
  · rintro source hsource target (hparent | rfl)
    · have hparents : ∀ scope ∈ [(.workspace, "w2"), (.organization, "o2"), globalScope],
          ∀ parent ∈ twoTenants.parent? scope,
            parent ∈ [(.workspace, "w2"), (.organization, "o2"), globalScope] := by decide
      exact hparents source hsource target hparent
    · simp

/-- The audit events of one organization's workspace are read on a grant of another. -/
theorem auditEvents_escape :
    hasPermission Python.plain "u1" "2026-07-22T12:00:00+00:00" localSettings twoTenants
        ApiView.auditEventList.toView mixedHeaders ⟨1784721600000000, some 0⟩ = .ok true ∧
    (.workspace, "w2") ∈ ApiView.auditEventList.touched localSettings twoTenants mixedHeaders ∧
    ∀ row ∈ twoTenants.grants.rows, ¬ CoveredBy Python.plain ⟨1784721600000000, some 0⟩ twoTenants "alice"
      (.workspace, "w2") row := by
  refine ⟨rfl, by decide, fun row hrow hcovered => ?_⟩
  obtain rfl := List.mem_singleton.mp hrow
  have habove := under_globex_iff.mp hcovered.above
  revert habove
  decide

end Isolation

end KubeOps.Tenancy
