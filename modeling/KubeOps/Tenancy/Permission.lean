import KubeOps.Foundation.Table
import KubeOps.Tenancy.Authorization

/-! The permission check of the API: the scope a request is about, what lies above
it, and the decision on the grants of the principal. -/
namespace KubeOps.Tenancy

open KubeOps.Foundation KubeOps.Models

/-! Rows carry the rows their foreign keys lead to. -/

structure WorkspaceRow where
  workspaceId : String
  organizationId : String
deriving DecidableEq, Repr

structure EnvironmentRow where
  environmentId : String
  workspace : Option WorkspaceRow
  environmentClass : String
deriving DecidableEq, Repr

structure FleetRow where
  fleetId : String
  workspace : WorkspaceRow
  organizationId : String
deriving DecidableEq, Repr

structure OperationRow where
  operationId : String
  environment : EnvironmentRow
deriving DecidableEq, Repr

structure SnapshotRow where
  snapshotId : String
  environment : EnvironmentRow
deriving DecidableEq, Repr

structure IncidentRow where
  incidentId : String
  environment : EnvironmentRow
deriving DecidableEq, Repr

structure TaskRow where
  taskId : String
  workspace : WorkspaceRow
  environment : EnvironmentRow
  operation : OperationRow
deriving DecidableEq, Repr

structure AgentRow where
  agentId : String
  workspace : WorkspaceRow
deriving DecidableEq, Repr

/-- `payload` is validated again whenever the row is read. -/
structure RoleGrantRow where
  grantId : String
  principalId : String
  active : Bool
  payload : RoleGrant
deriving DecidableEq, Repr

structure Database where
  workspaces : Table String WorkspaceRow WorkspaceRow.workspaceId
  environments : Table String EnvironmentRow EnvironmentRow.environmentId
  fleets : Table String FleetRow FleetRow.fleetId
  operations : Table String OperationRow OperationRow.operationId
  snapshots : Table String SnapshotRow SnapshotRow.snapshotId
  incidents : Table String IncidentRow IncidentRow.incidentId
  tasks : Table String TaskRow TaskRow.taskId
  agents : Table String AgentRow AgentRow.agentId
  grants : Table String RoleGrantRow RoleGrantRow.grantId
  environment_workspace : ∀ row ∈ environments.rows, ∀ workspace ∈ row.workspace,
    workspaces.get? workspace.workspaceId = some workspace
  fleet_workspace : ∀ row ∈ fleets.rows, workspaces.get? row.workspace.workspaceId = some row.workspace
  operation_environment : ∀ row ∈ operations.rows,
    environments.get? row.environment.environmentId = some row.environment
  snapshot_environment : ∀ row ∈ snapshots.rows,
    environments.get? row.environment.environmentId = some row.environment
  incident_environment : ∀ row ∈ incidents.rows,
    environments.get? row.environment.environmentId = some row.environment
  task_workspace : ∀ row ∈ tasks.rows, workspaces.get? row.workspace.workspaceId = some row.workspace
  task_environment : ∀ row ∈ tasks.rows,
    environments.get? row.environment.environmentId = some row.environment
  task_operation : ∀ row ∈ tasks.rows,
    operations.get? row.operation.operationId = some row.operation
  agent_workspace : ∀ row ∈ agents.rows, workspaces.get? row.workspace.workspaceId = some row.workspace

structure Settings where
  defaultWorkspaceId : String
  defaultOrganizationId : String
  allowAnonymousRead : Bool
deriving DecidableEq, Repr

structure User where
  pk : String
  authenticated : Bool
  superuser : Bool
deriving DecidableEq, Repr

inductive Method where
  | get | head | options | post | put | patch | delete
deriving DecidableEq, Repr

/-- `SAFE_METHODS` -/
def Method.safe : Method → Bool
  | get | head | options => true
  | post | put | patch | delete => false

def Method.text : Method → String
  | get => "GET"
  | head => "HEAD"
  | options => "OPTIONS"
  | post => "POST"
  | put => "PUT"
  | patch => "PATCH"
  | delete => "DELETE"

/-- The headers, the arguments of the route, and the texts in the body. -/
structure Request where
  user : User
  method : Method
  path : String
  workspaceHeader : Option String := none
  organizationHeader : Option String := none
  kwargs : Dict String String := ∅
  data : Dict String String := ∅

structure View where
  publicAccess : Bool := false
  authorizationScopeType : Option ScopeType := none
  requiredRoles : Method → List RoleName
  requiredCapabilities : Method → List String := fun _ => []

inductive ObjectRecord where
  | operation (row : OperationRow)
  | snapshot (row : SnapshotRow)
  | incident (row : IncidentRow)
  | task (row : TaskRow)
  | agent (row : AgentRow)
  | fleet (row : FleetRow)
  | environment (row : EnvironmentRow)

/-- What `_scope` returns. -/
structure RequestScope where
  scope : Scope
  environmentClass : Option String
  bindings : List ScopeBinding

namespace KubeOpsRolePermission

def requestedWorkspace (settings : Settings) (request : Request) : String :=
  request.workspaceHeader.getD settings.defaultWorkspaceId

def requestedOrganization (settings : Settings) (request : Request) : String :=
  request.organizationHeader.getD settings.defaultOrganizationId

def lookups (database : Database) : List (String × (String → Option ObjectRecord)) := [
  ("operation_id", fun value => (database.operations.get? value).map .operation),
  ("snapshot_id", fun value => (database.snapshots.get? value).map .snapshot),
  ("incident_id", fun value => (database.incidents.get? value).map .incident),
  ("task_id", fun value => (database.tasks.get? value).map .task),
  ("agent_id", fun value => (database.agents.get? value).map .agent),
  ("fleet_id", fun value => (database.fleets.get? value).map .fleet),
  ("environment_id", fun value => (database.environments.get? value).map .environment)]

/-- `kwargs.get(name)` where it is true. -/
def argument (kwargs : Dict String String) (name : String) : Option String :=
  (kwargs.get? name).filter (· ≠ "")

/-- The first argument that is given decides, also when nothing is found under it. -/
def objectRecord (database : Database) (kwargs : Dict String String) : Option ObjectRecord :=
  match (lookups database).find? fun lookup => (argument kwargs lookup.1).isSome with
  | some lookup => (argument kwargs lookup.1).bind lookup.2
  | none => none

/-- `record.workspace`, or else `record.environment.workspace`. -/
def ObjectRecord.workspace : ObjectRecord → Option WorkspaceRow
  | .operation row => row.environment.workspace
  | .snapshot row => row.environment.workspace
  | .incident row => row.environment.workspace
  | .task row => some row.workspace
  | .agent row => some row.workspace
  | .fleet row => some row.workspace
  | .environment row => row.workspace

def workspaceBinding (workspaceId organizationId : String) : ScopeBinding :=
  ⟨.workspace, workspaceId, .organization, organizationId, by simp⟩

def environmentBinding (environmentId workspaceId : String) : ScopeBinding :=
  ⟨.environment, environmentId, .workspace, workspaceId, by simp⟩

def fleetBinding (fleetId workspaceId : String) : ScopeBinding :=
  ⟨.fleet, fleetId, .workspace, workspaceId, by simp⟩

def operationBinding (operationId environmentId : String) : ScopeBinding :=
  ⟨.operation, operationId, .environment, environmentId, by simp⟩

def recordScope (workspaceId : String) (bindings : List ScopeBinding) : ObjectRecord → RequestScope
  | .environment row =>
    { scope := (.environment, row.environmentId), environmentClass := some row.environmentClass
      bindings := bindings ++ [environmentBinding row.environmentId workspaceId] }
  | .fleet row =>
    { scope := (.fleet, row.fleetId), environmentClass := none
      bindings := bindings ++ [fleetBinding row.fleetId workspaceId] }
  | .operation row =>
    { scope := (.operation, row.operationId)
      environmentClass := some row.environment.environmentClass
      bindings := bindings ++ [environmentBinding row.environment.environmentId workspaceId,
        operationBinding row.operationId row.environment.environmentId] }
  | .snapshot row =>
    { scope := (.environment, row.environment.environmentId)
      environmentClass := some row.environment.environmentClass
      bindings := bindings ++ [environmentBinding row.environment.environmentId workspaceId] }
  | .incident row =>
    { scope := (.environment, row.environment.environmentId)
      environmentClass := some row.environment.environmentClass
      bindings := bindings ++ [environmentBinding row.environment.environmentId workspaceId] }
  | .task row =>
    { scope := (.operation, row.operation.operationId)
      environmentClass := some row.environment.environmentClass
      bindings := bindings ++ [environmentBinding row.environment.environmentId workspaceId,
        operationBinding row.operation.operationId row.environment.environmentId] }
  | .agent _ =>
    { scope := (.workspace, workspaceId), environmentClass := none, bindings := bindings }

def workspaceIds (row : Option WorkspaceRow) (headers : String × String) : String × String :=
  match row with
  | some workspace => (workspace.workspaceId, workspace.organizationId)
  | none => headers

/-- A request without a record: an environment of the route or of the body, a fleet
of the route, or the workspace of the header. -/
def fallbackScope (database : Database) (request : Request) (headers : String × String) :
    RequestScope :=
  match (argument request.kwargs "environment_id").or (argument request.data "environment_id") with
  | some environmentId =>
    let environment := database.environments.get? environmentId
    let ids := workspaceIds (environment.bind EnvironmentRow.workspace) headers
    { scope := (.environment, environmentId)
      environmentClass := environment.map EnvironmentRow.environmentClass
      bindings := [workspaceBinding ids.1 ids.2, environmentBinding environmentId ids.1] }
  | none =>
    match argument request.kwargs "fleet_id" with
    | some fleetId =>
      let ids := match database.fleets.get? fleetId with
        | some fleet => (fleet.workspace.workspaceId, fleet.organizationId)
        | none => headers
      { scope := (.fleet, fleetId), environmentClass := none
        bindings := [workspaceBinding ids.1 ids.2, fleetBinding fleetId ids.1] }
    | none =>
      { scope := (.workspace, headers.1), environmentClass := none
        bindings := [workspaceBinding headers.1 headers.2] }

/-- `KubeOpsRolePermission._scope` -/
def requestScope (settings : Settings) (database : Database) (view : View) (request : Request) :
    RequestScope :=
  let headers := (requestedWorkspace settings request, requestedOrganization settings request)
  let bindings := [workspaceBinding headers.1 headers.2]
  if view.authorizationScopeType = some .global then ⟨globalScope, none, bindings⟩
  else if view.authorizationScopeType = some .organization then
    ⟨(.organization, headers.2), none, bindings⟩
  else
    match objectRecord database request.kwargs with
    | some record =>
      let ids := workspaceIds (ObjectRecord.workspace record) headers
      recordScope ids.1 [workspaceBinding ids.1 ids.2] record
    | none => fallbackScope database request headers

/-- The roles a view requires, or those its method requires by default. -/
def rolesFor (view : View) (request : Request) : List RoleName :=
  if view.requiredRoles request.method = [] then
    if request.method.safe then [.viewer] else [.operator, .admin]
  else view.requiredRoles request.method

def grantsOf (database : Database) (principalId : String) : List RoleGrant :=
  (database.grants.rows.filter fun row => row.principalId = principalId ∧ row.active).map
    RoleGrantRow.payload

def authorizationRequest (uuid : String) (view : View) (request : Request) (requested : RequestScope) :
    AuthorizationRequest where
  requestId := s!"authz:{uuid}"
  principalId := request.user.pk
  action := s!"{request.method.text}:{request.path}"
  scopeType := requested.scope.1
  scopeId := requested.scope.2
  requiredRoles := rolesFor view request
  requiredCapabilities := view.requiredCapabilities request.method
  environmentClass := requested.environmentClass

/-- `KubeOpsRolePermission.has_permission` -/
def hasPermission (python : Python) (uuid nowIso : String) (settings : Settings)
    (database : Database) (view : View) (request : Request) (now : Datetime) : Except PyError Bool :=
  if view.publicAccess then .ok true
  else if request.method.safe ∧ settings.allowAnonymousRead ∧ ¬ request.user.authenticated then .ok true
  else if ¬ request.user.authenticated then .ok false
  else if request.user.superuser then .ok true
  else do
    let requested := requestScope settings database view request
    let decision ← AuthorizationEngine.evaluate python uuid nowIso
      ⟨grantsOf database request.user.pk, requested.bindings⟩
        (authorizationRequest uuid view request requested) now
    return decision.outcome = .allow

end KubeOpsRolePermission

end KubeOps.Tenancy
