import KubeOps.Tenancy.Ancestors

/-! The explainer of authorization decisions beside the permission check that takes
them. The explainer collects its bindings from the tables of environments, fleets
and workspaces; the check collects them from the record a request addresses. -/
namespace KubeOps.Tenancy

open KubeOps.Foundation KubeOps.Models AuthorizationEngine KubeOpsRolePermission

namespace AuthorizationEvaluateView

def environmentBindings (database : Database) : List ScopeBinding :=
  database.environments.rows.filterMap fun row =>
    row.workspace.map fun workspace => environmentBinding row.environmentId workspace.workspaceId

def fleetBindings (database : Database) : List ScopeBinding :=
  database.fleets.rows.map fun row => fleetBinding row.fleetId row.workspace.workspaceId

def workspaceBindings (database : Database) : List ScopeBinding :=
  database.workspaces.rows.map fun row => workspaceBinding row.workspaceId row.organizationId

def bindings (database : Database) : List ScopeBinding :=
  environmentBindings database ++ fleetBindings database ++ workspaceBindings database

def post (python : Python) (uuid nowIso : String) (database : Database)
    (request : AuthorizationRequest) (now : Datetime) : Except PyError AuthorizationDecision :=
  evaluate python uuid nowIso ⟨grantsOf database request.principalId, bindings database⟩ request now

end AuthorizationEvaluateView

/-- What a request can be about. -/
inductive Resource where
  | organization (organizationId : String)
  | workspace (row : WorkspaceRow)
  | fleet (row : FleetRow)
  | environment (row : EnvironmentRow)
  | operation (row : OperationRow)

namespace Resource

def scope : Resource → Scope
  | organization organizationId => (.organization, organizationId)
  | workspace row => (.workspace, row.workspaceId)
  | fleet row => (.fleet, row.fleetId)
  | environment row => (.environment, row.environmentId)
  | operation row => (.operation, row.operationId)

def environmentClass : Resource → Option String
  | environment row => some row.environmentClass
  | operation row => some row.environment.environmentClass
  | _ => none

/-- Ids that a route takes as an argument are not empty. -/
def Stored (database : Database) : Resource → Prop
  | organization _ => True
  | workspace row => database.workspaces.get? row.workspaceId = some row
  | fleet row => row.fleetId ≠ "" ∧ database.fleets.get? row.fleetId = some row
  | environment row =>
    row.environmentId ≠ "" ∧ database.environments.get? row.environmentId = some row
  | operation row => row.operationId ≠ "" ∧ database.operations.get? row.operationId = some row

/-- The arguments of the route of an object. -/
def kwargs : Resource → Dict String String
  | organization _ => ∅
  | workspace _ => ∅
  | fleet row => Dict.ofList [("fleet_id", row.fleetId)]
  | environment row => Dict.ofList [("environment_id", row.environmentId)]
  | operation row => Dict.ofList [("operation_id", row.operationId)]

/-- The request is sent to a route of this resource, or, for an organization or a
workspace, names it in its headers. -/
def AddressedBy (settings : Settings) (view : View) (request : Request) : Resource → Prop
  | organization organizationId =>
    view.authorizationScopeType = some .organization ∧
      requestedOrganization settings request = organizationId
  | workspace row =>
    view.authorizationScopeType = none ∧ request.kwargs = ∅ ∧ argument request.data "environment_id" = none ∧
      requestedWorkspace settings request = row.workspaceId
  | resource => view.authorizationScopeType = none ∧ request.kwargs = resource.kwargs

/-- The bindings `_scope` collects, given the ids of the headers. -/
def enforcedBindings (headers : String × String) : Resource → List ScopeBinding
  | organization _ => [workspaceBinding headers.1 headers.2]
  | workspace _ => [workspaceBinding headers.1 headers.2]
  | fleet row =>
    [workspaceBinding row.workspace.workspaceId row.workspace.organizationId,
      fleetBinding row.fleetId row.workspace.workspaceId]
  | environment row =>
    let ids := workspaceIds row.workspace headers
    [workspaceBinding ids.1 ids.2, environmentBinding row.environmentId ids.1]
  | operation row =>
    let ids := workspaceIds row.environment.workspace headers
    [workspaceBinding ids.1 ids.2, environmentBinding row.environment.environmentId ids.1,
      operationBinding row.operationId row.environment.environmentId]

end Resource

section Enforcement

variable {settings : Settings} {database : Database} {view : View} {request : Request}
  {resource : Resource}

theorem argument_empty (name : String) : argument ∅ name = none := rfl

theorem argument_ofList {name other value : String} (hvalue : value ≠ "") :
    argument (Dict.ofList [(name, value)]) other = if other = name then some value else none := by
  have hset : Dict.ofList [(name, value)] = (∅ : Dict String String).set name value := rfl
  rw [argument, hset, Dict.get?_set]
  split
  · simp [hvalue]
  · simp

theorem requestScope_of_addressed (hstored : resource.Stored database)
    (haddressed : resource.AddressedBy settings view request) :
    requestScope settings database view request =
      { scope := resource.scope, environmentClass := resource.environmentClass
        bindings := resource.enforcedBindings
          (requestedWorkspace settings request, requestedOrganization settings request) } := by
  cases resource with
  | organization organizationId =>
    obtain ⟨hview, rfl⟩ := haddressed
    simp [requestScope, hview, Resource.scope, Resource.environmentClass, Resource.enforcedBindings]
  | workspace row =>
    obtain ⟨hview, hkwargs, hdata, hheader⟩ := haddressed
    simp [requestScope, hview, hkwargs, hdata, hheader, objectRecord, lookups, argument_empty, fallbackScope,
      Resource.scope, Resource.environmentClass, Resource.enforcedBindings]
  | fleet row =>
    obtain ⟨hview, hkwargs⟩ := haddressed
    obtain ⟨hid, hrow⟩ := hstored
    simp [requestScope, hview, hkwargs, Resource.kwargs, objectRecord, lookups, argument_ofList hid,
      hrow, recordScope,
      ObjectRecord.workspace, workspaceIds, Resource.scope, Resource.environmentClass,
      Resource.enforcedBindings]
  | environment row =>
    obtain ⟨hview, hkwargs⟩ := haddressed
    obtain ⟨hid, hrow⟩ := hstored
    simp [requestScope, hview, hkwargs, Resource.kwargs, objectRecord, lookups, argument_ofList hid,
      hrow, recordScope,
      ObjectRecord.workspace, Resource.scope, Resource.environmentClass, Resource.enforcedBindings]
  | operation row =>
    obtain ⟨hview, hkwargs⟩ := haddressed
    obtain ⟨hid, hrow⟩ := hstored
    simp [requestScope, hview, hkwargs, Resource.kwargs, objectRecord, lookups, argument_ofList hid,
      hrow, recordScope,
      ObjectRecord.workspace, Resource.scope, Resource.environmentClass, Resource.enforcedBindings]

end Enforcement

section Explanation

variable {database : Database} {child parent ancestor : Scope} {resource : Resource}

theorem exists_binding_iff : (∃ binding ∈ AuthorizationEvaluateView.bindings database,
      binding.edge = (child, parent)) ↔
    child.1 ≠ .operation ∧ database.parent? child = some parent := by
  obtain ⟨kind, id⟩ := child
  simp only [AuthorizationEvaluateView.bindings, AuthorizationEvaluateView.environmentBindings,
    AuthorizationEvaluateView.fleetBindings, AuthorizationEvaluateView.workspaceBindings,
    List.mem_append, List.mem_filterMap, List.mem_map, Option.map_eq_some_iff]
  constructor
  · rintro ⟨binding, (⟨row, hrow, workspace, hworkspace, rfl⟩ | ⟨row, hrow, rfl⟩) | ⟨row, hrow, rfl⟩, hedge⟩
    · simp only [ScopeBinding.edge, environmentBinding, Prod.mk.injEq] at hedge
      obtain ⟨⟨rfl, rfl⟩, rfl⟩ := hedge
      simp [Database.parent?, Table.mem_rows.mp hrow, hworkspace]
    · simp only [ScopeBinding.edge, fleetBinding, Prod.mk.injEq] at hedge
      obtain ⟨⟨rfl, rfl⟩, rfl⟩ := hedge
      simp [Database.parent?, Table.mem_rows.mp hrow]
    · simp only [ScopeBinding.edge, workspaceBinding, Prod.mk.injEq] at hedge
      obtain ⟨⟨rfl, rfl⟩, rfl⟩ := hedge
      simp [Database.parent?, Table.mem_rows.mp hrow]
  · rintro ⟨hkind, hparent⟩
    cases kind with
    | operation => contradiction
    | organization => simp [Database.parent?] at hparent
    | global => simp [Database.parent?] at hparent
    | environment =>
      obtain ⟨row, hrow, workspace, hworkspace, rfl⟩ : ∃ row, database.environments.get? id = some row ∧
          ∃ workspace, row.workspace = some workspace ∧ (.workspace, workspace.workspaceId) = parent := by
        simpa [Database.parent?, Option.bind_eq_some_iff] using hparent
      obtain rfl := Table.key_of_get? hrow
      exact ⟨_, .inl (.inl ⟨row, Table.mem_rows_of_get? hrow, workspace, hworkspace, rfl⟩), rfl⟩
    | fleet =>
      obtain ⟨row, hrow, rfl⟩ : ∃ row, database.fleets.get? id = some row ∧
          (.workspace, row.workspace.workspaceId) = parent := by
        simpa [Database.parent?] using hparent
      obtain rfl := Table.key_of_get? hrow
      exact ⟨_, .inl (.inr ⟨row, Table.mem_rows_of_get? hrow, rfl⟩), rfl⟩
    | workspace =>
      obtain ⟨row, hrow, rfl⟩ : ∃ row, database.workspaces.get? id = some row ∧
          (.organization, row.organizationId) = parent := by
        simpa [Database.parent?] using hparent
      obtain rfl := Table.key_of_get? hrow
      exact ⟨_, .inr ⟨row, Table.mem_rows_of_get? hrow, rfl⟩, rfl⟩

theorem above_explained_iff : Above (AuthorizationEvaluateView.bindings database) child parent ↔
    (child.1 ≠ .operation ∧ database.parent? child = some parent) ∨ parent = globalScope := by
  rw [Above, exists_binding_iff]

theorem explained_of_chain {start : Scope} {chain : List Scope}
    (hchain : List.IsChain (Above (AuthorizationEvaluateView.bindings database)) (start :: chain))
    (hglobal : globalScope ∈ start :: chain)
    (hclosed : ∀ source ∈ start :: chain, source.1 ≠ .operation → ∀ target,
      database.parent? source = some target → target ∈ start :: chain) :
    Ancestor (AuthorizationEvaluateView.bindings database) start ancestor ↔
      ancestor ∈ start :: chain := by
  apply reached_iff_mem_chain hchain
  intro source hsource target habove
  rcases above_explained_iff.mp habove with ⟨hkind, hparent⟩ | rfl
  · exact hclosed source hsource hkind target hparent
  · exact hglobal

theorem parent?_workspace {row : WorkspaceRow}
    (h : database.workspaces.get? row.workspaceId = some row) :
    database.parent? (.workspace, row.workspaceId) = some (.organization, row.organizationId) := by
  rw [Database.parent?, h]
  rfl

namespace Resource

def explainedChain : Resource → List Scope
  | organization _ => [globalScope]
  | workspace row => [(.organization, row.organizationId), globalScope]
  | fleet row =>
    [(.workspace, row.workspace.workspaceId), (.organization, row.workspace.organizationId), globalScope]
  | environment row =>
    match row.workspace with
    | some found =>
      [(.workspace, found.workspaceId), (.organization, found.organizationId), globalScope]
    | none => [globalScope]
  | operation _ => [globalScope]

/-- Those the check finds, with the ids of the headers. -/
def enforcedChain (headers : String × String) : Resource → List Scope
  | organization _ => [globalScope]
  | workspace _ => [(.organization, headers.2), globalScope]
  | fleet row =>
    [(.workspace, row.workspace.workspaceId), (.organization, row.workspace.organizationId), globalScope]
  | environment row =>
    let ids := workspaceIds row.workspace headers
    [(.workspace, ids.1), (.organization, ids.2), globalScope]
  | operation row =>
    let ids := workspaceIds row.environment.workspace headers
    [(.environment, row.environment.environmentId), (.workspace, ids.1), (.organization, ids.2), globalScope]

theorem enforced_iff (headers : String × String)
    (hheader : ∀ row, resource = workspace row → headers.1 = row.workspaceId) :
    Ancestor (resource.enforcedBindings headers) resource.scope ancestor ↔
      ancestor ∈ resource.scope :: resource.enforcedChain headers := by
  cases resource with
  | organization organizationId =>
    apply ancestor_iff_mem
    · simp [enforcedChain, Above]
    · simp [enforcedChain]
    · simp [enforcedBindings, enforcedChain, workspaceBinding, ScopeBinding.edge, scope, globalScope]
  | workspace row =>
    have hid := hheader row rfl
    apply ancestor_iff_mem
    · simp [enforcedChain, Above, enforcedBindings, workspaceBinding, ScopeBinding.edge, scope, hid]
    · simp [enforcedChain]
    · simp [enforcedBindings, enforcedChain, workspaceBinding, ScopeBinding.edge, scope]
  | fleet row =>
    apply ancestor_iff_mem
    · simp [enforcedChain, Above, enforcedBindings, workspaceBinding, fleetBinding, ScopeBinding.edge, scope]
    · simp [enforcedChain]
    · simp [enforcedBindings, enforcedChain, workspaceBinding, fleetBinding, ScopeBinding.edge, scope]
  | environment row =>
    apply ancestor_iff_mem
    · simp [enforcedChain, Above, enforcedBindings, workspaceBinding, environmentBinding,
        ScopeBinding.edge, scope]
    · simp [enforcedChain]
    · simp [enforcedBindings, enforcedChain, workspaceBinding, environmentBinding, ScopeBinding.edge, scope]
  | operation row =>
    apply ancestor_iff_mem
    · simp [enforcedChain, Above, enforcedBindings, workspaceBinding, environmentBinding,
        operationBinding, ScopeBinding.edge, scope]
    · simp [enforcedChain]
    · simp [enforcedBindings, enforcedChain, workspaceBinding, environmentBinding, operationBinding,
        ScopeBinding.edge, scope]

theorem explained_iff (hstored : resource.Stored database) :
    Ancestor (AuthorizationEvaluateView.bindings database) resource.scope ancestor ↔
      ancestor ∈ resource.scope :: resource.explainedChain := by
  have hglobal : database.parent? globalScope = none := rfl
  have horganization : ∀ id, database.parent? (.organization, id) = none := fun _ => rfl
  cases resource with
  | organization organizationId =>
    apply explained_of_chain
    · simp [explainedChain, above_explained_iff]
    · simp [explainedChain]
    · simp [explainedChain, scope, hglobal, horganization]
  | workspace row =>
    have hrow := parent?_workspace hstored
    apply explained_of_chain
    · simp [explainedChain, above_explained_iff, scope, hrow]
    · simp [explainedChain]
    · simp [explainedChain, scope, hrow, hglobal, horganization]
  | fleet row =>
    have hfleet : database.parent? (.fleet, row.fleetId) = some (.workspace, row.workspace.workspaceId) := by
      rw [Database.parent?, show database.fleets.get? row.fleetId = some row from hstored.2]
      rfl
    have hrow := parent?_workspace (database.fleet_workspace row (Table.mem_rows_of_get? hstored.2))
    apply explained_of_chain
    · simp [explainedChain, above_explained_iff, scope, hrow, hfleet]
    · simp [explainedChain]
    · simp [explainedChain, scope, hrow, hfleet, hglobal, horganization]
  | environment row =>
    have henvironment : database.parent? (.environment, row.environmentId) =
        row.workspace.map fun found => (.workspace, found.workspaceId) := by
      rw [Database.parent?, show database.environments.get? row.environmentId = some row from hstored.2]
      rfl
    cases hworkspace : row.workspace with
    | none =>
      rw [hworkspace] at henvironment
      apply explained_of_chain
      · simp [explainedChain, above_explained_iff, hworkspace]
      · simp [explainedChain, hworkspace]
      · simp [explainedChain, scope, hworkspace, henvironment, hglobal]
    | some found =>
      rw [hworkspace] at henvironment
      have hrow := parent?_workspace
        (database.environment_workspace row (Table.mem_rows_of_get? hstored.2) found hworkspace)
      apply explained_of_chain
      · simp [explainedChain, above_explained_iff, scope, hworkspace, henvironment, hrow]
      · simp [explainedChain, hworkspace]
      · simp [explainedChain, scope, hworkspace, henvironment, hrow, hglobal, horganization]
  | operation row =>
    apply explained_of_chain
    · simp [explainedChain, above_explained_iff]
    · simp [explainedChain]
    · simp [explainedChain, scope, hglobal]

/-- The resources for which explainer and check find the same scopes: those whose
workspace and organization the check takes from the tables as well. -/
def Explained (organizationId : String) : Resource → Prop
  | organization _ => True
  | workspace row => row.organizationId = organizationId
  | fleet _ => True
  | environment row => row.workspace.isSome
  | operation _ => False

theorem chains_eq_iff (headers : String × String) :
    (∀ ancestor, ancestor ∈ resource.scope :: resource.enforcedChain headers ↔
      ancestor ∈ resource.scope :: resource.explainedChain) ↔ resource.Explained headers.2 := by
  cases resource with
  | organization organizationId => simp [enforcedChain, explainedChain, Explained]
  | workspace row =>
    constructor
    · intro h
      have horganization := h (.organization, row.organizationId)
      simp [enforcedChain, explainedChain, scope, globalScope] at horganization
      exact horganization
    · intro h
      have horganization : row.organizationId = headers.2 := h
      simp [enforcedChain, explainedChain, horganization]
  | fleet row => simp [enforcedChain, explainedChain, Explained]
  | environment row =>
    cases hworkspace : row.workspace with
    | some found => simp [enforcedChain, explainedChain, Explained, workspaceIds, hworkspace]
    | none =>
      simp only [Explained, hworkspace, Option.isSome_none, Bool.false_eq_true, iff_false]
      intro h
      have hheader := h (.workspace, headers.1)
      simp [enforcedChain, explainedChain, scope, globalScope, workspaceIds, hworkspace] at hheader
  | operation row =>
    simp only [Explained, iff_false]
    intro h
    have henvironment := h (.environment, row.environment.environmentId)
    simp [enforcedChain, explainedChain, scope, globalScope] at henvironment

end Resource

end Explanation

section Agreement

def Database.withGrants (database : Database)
    (grants : Table String RoleGrantRow RoleGrantRow.grantId) : Database :=
  { database with grants := grants }

def explanation (uuid : String) (view : View) (request : Request) (resource : Resource) :
    AuthorizationRequest :=
  authorizationRequest uuid view request ⟨resource.scope, resource.environmentClass, []⟩

theorem authorizationRequest_eq (uuid : String) (view : View) (request : Request)
    (resource : Resource) (bindings : List ScopeBinding) :
    authorizationRequest uuid view request ⟨resource.scope, resource.environmentClass, bindings⟩ =
      explanation uuid view request resource := rfl

def allowed (decision : AuthorizationDecision) : Bool := decision.outcome = .allow

/-- The check goes by the grants of the principal. -/
structure Ordinary (view : View) (request : Request) : Prop where
  restricted : view.publicAccess = false
  authenticated : request.user.authenticated = true
  unprivileged : request.user.superuser = false

def Agrees (python : Python) (uuid nowIso : String) (settings : Settings) (database : Database)
    (view : View) (request : Request) (resource : Resource) (now : Datetime) : Prop :=
  hasPermission python uuid nowIso settings database view request now =
    (AuthorizationEvaluateView.post python uuid nowIso database
      (explanation uuid view request resource) now).map allowed

variable {python : Python} {uuid nowIso : String} {settings : Settings} {database : Database}
  {view : View} {request : Request} {resource : Resource} {now : Datetime}

theorem rolesFor_ne_nil : rolesFor view request ≠ [] := by
  unfold rolesFor
  split
  · split
    · simp
    · simp
  · assumption

theorem hasPermission_of_addressed (hordinary : Ordinary view request)
    (hstored : resource.Stored database)
    (haddressed : resource.AddressedBy settings view request) :
    hasPermission python uuid nowIso settings database view request now =
      (evaluate python uuid nowIso ⟨grantsOf database request.user.pk, resource.enforcedBindings
        (requestedWorkspace settings request, requestedOrganization settings request)⟩
        (explanation uuid view request resource) now).map allowed := by
  unfold hasPermission
  rw [requestScope_of_addressed hstored haddressed]
  simp only [hordinary.restricted, hordinary.authenticated, hordinary.unprivileged,
    Bool.false_eq_true, not_true_eq_false, and_false, if_false]
  rw [authorizationRequest_eq]
  cases evaluate python uuid nowIso ⟨grantsOf database request.user.pk, resource.enforcedBindings
      (requestedWorkspace settings request, requestedOrganization settings request)⟩
      (explanation uuid view request resource) now with
  | error error => rfl
  | ok decision => rfl

theorem enforced_iff_of_addressed (haddressed : resource.AddressedBy settings view request)
    (ancestor : Scope) :
    Ancestor (resource.enforcedBindings
        (requestedWorkspace settings request, requestedOrganization settings request))
        resource.scope ancestor ↔
      ancestor ∈ resource.scope :: resource.enforcedChain
        (requestedWorkspace settings request, requestedOrganization settings request) := by
  apply Resource.enforced_iff
  rintro row rfl
  exact haddressed.2.2.2

theorem agrees_of_explained (hordinary : Ordinary view request) (hstored : resource.Stored database)
    (haddressed : resource.AddressedBy settings view request)
    (hexplained : resource.Explained (requestedOrganization settings request)) :
    Agrees python uuid nowIso settings database view request resource now := by
  rw [Agrees, hasPermission_of_addressed hordinary hstored haddressed, AuthorizationEvaluateView.post]
  congr 1
  apply evaluate_congr
  intro ancestor
  have hchains := (Resource.chains_eq_iff
    (requestedWorkspace settings request, requestedOrganization settings request)).mpr hexplained
  exact (enforced_iff_of_addressed haddressed ancestor).trans
    ((hchains ancestor).trans (Resource.explained_iff hstored).symm)

def soleGrant (principalId : String) (scope : Scope) :
    Table String RoleGrantRow RoleGrantRow.grantId :=
  Table.empty.put ⟨"grant", principalId, true, adminGrant principalId scope⟩

theorem grantsOf_soleGrant {principalId : String} {scope : Scope} :
    grantsOf (database.withGrants (soleGrant principalId scope)) principalId =
      [adminGrant principalId scope] := by
  simp [grantsOf, Database.withGrants, soleGrant, Table.rows, Table.put, Table.empty, Dict.values,
    Dict.set]

theorem Resource.Stored.withGrants {grants : Table String RoleGrantRow RoleGrantRow.grantId}
    (h : resource.Stored database) : resource.Stored (database.withGrants grants) := by
  cases resource with
  | organization _ => trivial
  | workspace row => exact h
  | fleet row => exact h
  | environment row => exact h
  | operation row => exact h

theorem chain_iff_of_agrees (hordinary : Ordinary view request) (hstored : resource.Stored database)
    (haddressed : resource.AddressedBy settings view request) (ancestor : Scope)
    (h : Agrees python uuid nowIso settings
      (database.withGrants (soleGrant request.user.pk ancestor)) view request resource now) :
    ancestor ∈ resource.scope :: resource.enforcedChain
        (requestedWorkspace settings request, requestedOrganization settings request) ↔
      ancestor ∈ resource.scope :: resource.explainedChain := by
  have hprincipal : (explanation uuid view request resource).principalId = request.user.pk := rfl
  have hrequired : (explanation uuid view request resource).requiredRoles ≠ [] := rolesFor_ne_nil
  rw [Agrees, hasPermission_of_addressed hordinary hstored.withGrants haddressed,
    AuthorizationEvaluateView.post, hprincipal, grantsOf_soleGrant, ← hprincipal] at h
  obtain ⟨enforced, henforced, henforcedAllow⟩ := evaluate_adminGrant hrequired
  obtain ⟨explained, hexplained, hexplainedAllow⟩ := evaluate_adminGrant hrequired
  rw [henforced, hexplained, Except.map, Except.map, Except.ok.injEq, allowed, allowed,
    decide_eq_decide, henforcedAllow, hexplainedAllow] at h
  exact ((enforced_iff_of_addressed haddressed ancestor).symm.trans h).trans
    (Resource.explained_iff hstored.withGrants)

def readView : View := { requiredRoles := fun _ => [.viewer] }

def readOf (organizationId : String) (resource : Resource) : Request where
  user := ⟨"alice", true, false⟩
  method := .get
  path := "/api"
  workspaceHeader :=
    match resource with
    | .workspace row => some row.workspaceId
    | _ => none
  organizationHeader := some organizationId
  kwargs := resource.kwargs

theorem readOf_ordinary {organizationId : String} : Ordinary readView (readOf organizationId resource) :=
  ⟨rfl, rfl, rfl⟩

theorem readOf_addressed {organizationId : String} (h : ¬ resource.Explained organizationId) :
    resource.AddressedBy settings readView (readOf organizationId resource) := by
  cases resource with
  | organization _ => exact absurd trivial h
  | workspace row => exact ⟨rfl, rfl, rfl, rfl⟩
  | fleet row => exact ⟨rfl, rfl⟩
  | environment row => exact ⟨rfl, rfl⟩
  | operation row => exact ⟨rfl, rfl⟩

/-- The resources on which explainer and check agree whatever the grants, the
principal and the requirements are, for requests that name this organization. -/
theorem explainer_agrees_iff (python : Python) (uuid nowIso : String) (settings : Settings)
    (now : Datetime) (database : Database) (organizationId : String) (resource : Resource)
    (hstored : resource.Stored database) :
    (∀ grants view request, resource.AddressedBy settings view request →
      requestedOrganization settings request = organizationId → Ordinary view request →
      Agrees python uuid nowIso settings (database.withGrants grants) view request resource now) ↔
    resource.Explained organizationId := by
  constructor
  · intro h
    by_contra hunexplained
    apply hunexplained
    have haddressed : resource.AddressedBy settings readView (readOf organizationId resource) :=
      readOf_addressed hunexplained
    refine (Resource.chains_eq_iff (requestedWorkspace settings (readOf organizationId resource),
      requestedOrganization settings (readOf organizationId resource))).mp fun ancestor => ?_
    exact chain_iff_of_agrees readOf_ordinary hstored haddressed ancestor
      (h _ readView _ haddressed rfl readOf_ordinary)
  · rintro hexplained grants view request haddressed rfl hordinary
    exact agrees_of_explained hordinary hstored.withGrants haddressed hexplained

/-! A workspace with one environment, one operation in it and one fleet. -/

def production : WorkspaceRow := ⟨"w1", "o1"⟩
def cluster : EnvironmentRow := ⟨"e1", some production, "production"⟩
def recovery : OperationRow := ⟨"op1", cluster⟩
def region : FleetRow := ⟨"f1", production, "o1"⟩

def singleOperation : Database where
  workspaces := Table.empty.put production
  environments := Table.empty.put cluster
  fleets := Table.empty.put region
  operations := Table.empty.put recovery
  snapshots := Table.empty
  incidents := Table.empty
  tasks := Table.empty
  agents := Table.empty
  grants := Table.empty.put ⟨"g1", "alice", true,
    { grantId := "g1", principalId := "alice", role := .operator, scopeType := .workspace, scopeId := "w1" }⟩
  environment_workspace := by decide
  fleet_workspace := by decide
  operation_environment := by decide
  snapshot_environment := by decide
  incident_environment := by decide
  task_workspace := by decide
  task_environment := by decide
  task_operation := by decide
  agent_workspace := by decide

def localSettings : Settings := ⟨"w0", "o0", false⟩

theorem fleet_agrees : (Resource.fleet region).Stored singleOperation ∧
    ∀ grants view request, (Resource.fleet region).AddressedBy localSettings view request →
      requestedOrganization localSettings request = "o1" → Ordinary view request →
      Agrees Python.plain "u1" "2026-07-22T12:00:00+00:00" localSettings
        (singleOperation.withGrants grants) view request (.fleet region) ⟨1784721600000000, some 0⟩ := by
  have hstored : (Resource.fleet region).Stored singleOperation := ⟨by decide, by decide⟩
  exact ⟨hstored, (explainer_agrees_iff _ _ _ _ _ _ _ _ hstored).mpr trivial⟩

def operateView : View := { requiredRoles := fun _ => [.operator, .admin] }

/-- An operator of the workspace is let through to its operation, and the explainer
says that no grant covers it. -/
theorem operation_disagrees :
    hasPermission Python.plain "u1" "2026-07-22T12:00:00+00:00" localSettings singleOperation operateView
        (readOf "o1" (.operation recovery)) ⟨1784721600000000, some 0⟩ = .ok true ∧
    (AuthorizationEvaluateView.post Python.plain "u1" "2026-07-22T12:00:00+00:00" singleOperation
        (explanation "u1" operateView (readOf "o1" (.operation recovery)) (.operation recovery))
        ⟨1784721600000000, some 0⟩).map allowed = .ok false :=
  ⟨rfl, rfl⟩

end Agreement

end KubeOps.Tenancy
