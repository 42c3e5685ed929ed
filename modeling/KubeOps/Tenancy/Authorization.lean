import KubeOps.Foundation.Closure
import KubeOps.Foundation.Program
import KubeOps.Models.Python

/-! Hierarchical role grants and the decisions taken on them. -/
namespace KubeOps.Tenancy

open KubeOps.Foundation KubeOps.Models

inductive RoleName where
  | viewer | operator | approver | auditor | admin
deriving DecidableEq, Repr

def RoleName.text : RoleName → String
  | viewer => "viewer"
  | operator => "operator"
  | approver => "approver"
  | auditor => "auditor"
  | admin => "admin"

inductive ScopeType where
  | organization | workspace | fleet | environment | operation | global
deriving DecidableEq, Repr

abbrev Scope := ScopeType × String

/-- `reject_self_binding` keeps the two ends apart. -/
structure ScopeBinding where
  childType : ScopeType
  childId : String
  parentType : ScopeType
  parentId : String
  distinct : (childType, childId) ≠ (parentType, parentId)
deriving DecidableEq, Repr

namespace ScopeBinding

def make (child parent : Scope) : Except PyError ScopeBinding :=
  if h : child = parent then .error (.valueError "scope binding cannot reference itself")
  else .ok ⟨child.1, child.2, parent.1, parent.2, h⟩

def edge (binding : ScopeBinding) : Scope × Scope :=
  ((binding.childType, binding.childId), (binding.parentType, binding.parentId))

end ScopeBinding

structure RoleGrant where
  grantId : String
  principalId : String
  role : RoleName
  scopeType : ScopeType
  scopeId : String
  capabilities : List String := []
  environmentClasses : List String := []
  expiresAtIso : Option String := none
  active : Bool := true
deriving DecidableEq, Repr

def RoleGrant.scope (grant : RoleGrant) : Scope := (grant.scopeType, grant.scopeId)

/-- The text of the expiry where it is true; an empty one is as good as none. -/
def RoleGrant.expiry? (grant : RoleGrant) : Option String := grant.expiresAtIso.filter (· ≠ "")

structure AuthorizationRequest where
  requestId : String
  principalId : String
  action : String
  scopeType : ScopeType
  scopeId : String
  requiredRoles : List RoleName := []
  requiredCapabilities : List String := []
  environmentClass : Option String := none
deriving DecidableEq, Repr

def AuthorizationRequest.scope (request : AuthorizationRequest) : Scope :=
  (request.scopeType, request.scopeId)

inductive AuthorizationOutcome where
  | allow | deny | challenge
deriving DecidableEq, Repr

structure AuthorizationDecision where
  decisionId : String
  requestId : String
  principalId : String
  outcome : AuthorizationOutcome
  matchedGrantIds : List String
  effectiveRoles : List RoleName
  effectiveCapabilities : List String
  reasons : List String
  evaluatedAtIso : String
deriving DecidableEq, Repr

/-- `ROLE_CAPABILITIES` -/
def roleCapabilities : RoleName → List String
  | .viewer =>
    ["environment.read", "incident.read", "operation.read", "fleet.read", "pack.read"]
  | .operator =>
    ["environment.read", "incident.read", "operation.read", "operation.create",
      "operation.execute", "fleet.read", "fleet.operate", "pack.read", "executor.read"]
  | .approver => ["operation.read", "operation.approve", "audit.read", "fleet.read"]
  | .auditor =>
    ["environment.read", "incident.read", "operation.read", "audit.read", "audit.export",
      "fleet.read", "pack.read"]
  | .admin => ["*"]

/-- `left <= right`, which Python refuses between a naive and an aware time. -/
def pyLe (left right : Datetime) : Except PyError Bool :=
  if left.utcOffset.isSome = right.utcOffset.isSome then .ok (left.instant ≤ right.instant)
  else .error (.typeError "can't compare offset-naive and offset-aware datetimes")

/-- What lies above every scope. -/
def globalScope : Scope := (.global, "*")

structure AuthorizationEngine where
  grants : List RoleGrant
  bindings : List ScopeBinding

namespace AuthorizationEngine

/-- `AuthorizationEngine._active` -/
def isActive (python : Python) (grant : RoleGrant) (now : Datetime) : Except PyError Bool :=
  if ¬ grant.active then .ok false
  else
    match grant.expiry? with
    | none => .ok true
    | some text =>
      let text := Text.replaceChar text 'Z' "+00:00"
      match python.fromIsoFormat text with
      | none => .error (.valueError s!"Invalid isoformat string: {python.repr (.str text)}")
      | some expires => do
        let expired ← pyLe expires now
        return ¬ expired

/-- `AuthorizationEngine._ancestor_scopes` -/
def ancestorScopes (engine : AuthorizationEngine) (scope : Scope) : List Scope :=
  closure (engine.bindings.map ScopeBinding.edge) [scope, globalScope]

def covers (scopes : List Scope) (request : AuthorizationRequest) (grant : RoleGrant) : Bool :=
  grant.scope ∈ scopes ∧ (grant.environmentClasses = [] ∨
    ∃ environmentClass ∈ request.environmentClass, environmentClass ∈ grant.environmentClasses)

/-- The comprehension over the grants: one that cannot be judged stops it. -/
def matching (python : Python) (scopes : List Scope) (request : AuthorizationRequest)
    (now : Datetime) : List RoleGrant → Except PyError (List RoleGrant)
  | [] => .ok []
  | grant :: grants => do
    if grant.principalId ≠ request.principalId then
      matching python scopes request now grants
    else
      let active ← isActive python grant now
      let rest ← matching python scopes request now grants
      return if active ∧ covers scopes request grant then grant :: rest else rest

def effectiveCapabilities (grants : List RoleGrant) : List String :=
  (grants.flatMap fun grant => roleCapabilities grant.role ++ grant.capabilities).dedup

def rolesSatisfied (request : AuthorizationRequest) (grants : List RoleGrant) : Bool :=
  let roles := grants.map RoleGrant.role
  request.requiredRoles = [] ∨ (∃ role ∈ roles, role ∈ request.requiredRoles) ∨ .admin ∈ roles

def capabilitiesSatisfied (request : AuthorizationRequest) (grants : List RoleGrant) : Bool :=
  let capabilities := effectiveCapabilities grants
  "*" ∈ capabilities ∨ ∀ capability ∈ request.requiredCapabilities, capability ∈ capabilities

def judge (python : Python) (request : AuthorizationRequest) (grants : List RoleGrant) :
    AuthorizationOutcome × List String :=
  if rolesSatisfied request grants ∧ capabilitiesSatisfied request grants then
    (.allow, ["matching active role grant satisfied required role and capability constraints"])
  else if grants = [] then (.deny, ["no active role grant covers the requested scope"])
  else
    (.deny,
      (if rolesSatisfied request grants then []
        else [s!"required roles not satisfied: {python.repr (Json.strings (sortedSet (request.requiredRoles.map RoleName.text)))}"]) ++
      (if capabilitiesSatisfied request grants then []
        else [s!"required capabilities not satisfied: {python.repr (Json.strings (sortedSet request.requiredCapabilities))}"]))

/-- `uuid4()` and `utc_now_iso()` are given. -/
def evaluate (python : Python) (uuid nowIso : String) (engine : AuthorizationEngine)
    (request : AuthorizationRequest) (now : Datetime) : Except PyError AuthorizationDecision := do
  let scopes := engine.ancestorScopes request.scope
  let grants ← matching python scopes request now engine.grants
  let (outcome, reasons) := judge python request grants
  return {
    decisionId := s!"authz:{uuid}"
    requestId := request.requestId
    principalId := request.principalId
    outcome
    matchedGrantIds := grants.map RoleGrant.grantId
    effectiveRoles := (grants.map RoleGrant.role).dedup
    effectiveCapabilities := effectiveCapabilities grants
    reasons
    evaluatedAtIso := nowIso }

def Above (bindings : List ScopeBinding) (child parent : Scope) : Prop :=
  (∃ binding ∈ bindings, binding.edge = (child, parent)) ∨ parent = globalScope

/-- The expiry can be read, and read as a time that compares with `now`. -/
def Readable (python : Python) (now : Datetime) (grant : RoleGrant) : Prop :=
  ∀ text ∈ grant.expiry?,
    ∃ expires, python.fromIsoFormat (Text.replaceChar text 'Z' "+00:00") = some expires ∧
      expires.utcOffset.isSome = now.utcOffset.isSome

def Unexpired (python : Python) (now : Datetime) (grant : RoleGrant) : Prop :=
  ∀ text ∈ grant.expiry?,
    ∃ expires, python.fromIsoFormat (Text.replaceChar text 'Z' "+00:00") = some expires ∧
      now.instant < expires.instant

structure Admits (python : Python) (engine : AuthorizationEngine) (request : AuthorizationRequest)
    (now : Datetime) (grant : RoleGrant) : Prop where
  principal : grant.principalId = request.principalId
  active : grant.active = true
  unexpired : Unexpired python now grant
  above : Relation.ReflTransGen (Above engine.bindings) request.scope grant.scope
  environment : grant.environmentClasses = [] ∨
    ∃ environmentClass ∈ request.environmentClass, environmentClass ∈ grant.environmentClasses

variable {python : Python} {engine : AuthorizationEngine} {request : AuthorizationRequest}
  {now : Datetime} {grant : RoleGrant} {grants found : List RoleGrant} {scope ancestor : Scope}

theorem mem_ancestorScopes : ancestor ∈ engine.ancestorScopes scope ↔
    Relation.ReflTransGen (Above engine.bindings) scope ancestor := by
  have hlinked : ∀ child parent, Linked (engine.bindings.map ScopeBinding.edge) child parent ↔
      ∃ binding ∈ engine.bindings, binding.edge = (child, parent) := fun child parent => List.mem_map
  rw [ancestorScopes, mem_closure]
  constructor
  · rintro ⟨seed, hseed, hpath⟩
    have habove : Relation.ReflTransGen (Above engine.bindings) seed ancestor :=
      Relation.ReflTransGen.mono (fun child parent h => .inl ((hlinked child parent).mp h)) _ _ hpath
    rcases List.mem_cons.mp hseed with rfl | hglobal
    · exact habove
    · exact habove.head (.inr (List.mem_singleton.mp hglobal))
  · intro hpath
    induction hpath with
    | refl => exact ⟨scope, List.mem_cons_self .., .refl⟩
    | tail _ habove ih =>
      rcases habove with hbinding | rfl
      · obtain ⟨seed, hseed, hreach⟩ := ih
        exact ⟨seed, hseed, hreach.tail ((hlinked _ _).mpr hbinding)⟩
      · exact ⟨globalScope, by simp, .refl⟩

theorem pyLe_eq_ok {left right : Datetime} {answer : Bool} : pyLe left right = .ok answer ↔
    left.utcOffset.isSome = right.utcOffset.isSome ∧ decide (left.instant ≤ right.instant) = answer := by
  unfold pyLe
  split
  · simp [*]
  · simp [*]

theorem isActive_of_inactive (h : grant.active = false) :
    isActive python grant now = .ok false := by
  simp [isActive, h]

theorem isActive_of_lasting (h : grant.active = true) (hexpiry : grant.expiry? = none) :
    isActive python grant now = .ok true := by
  simp [isActive, h, hexpiry]

theorem isActive_of_expiry {text : String} (h : grant.active = true)
    (hexpiry : grant.expiry? = some text) {active : Bool} : isActive python grant now = .ok active ↔
      ∃ expires, python.fromIsoFormat (Text.replaceChar text 'Z' "+00:00") = some expires ∧
        expires.utcOffset.isSome = now.utcOffset.isSome ∧
        decide (now.instant < expires.instant) = active := by
  rw [isActive, if_neg (by simp [h]), hexpiry]
  dsimp only
  cases python.fromIsoFormat (Text.replaceChar text 'Z' "+00:00") with
  | none => simp
  | some expires =>
    cases hle : pyLe expires now with
    | error error =>
      have hmixed : ¬ expires.utcOffset.isSome = now.utcOffset.isSome := by
        intro hsame
        simp [pyLe, hsame] at hle
      simp [hle, bind, Except.bind, hmixed]
    | ok expired =>
      obtain ⟨hsame, rfl⟩ := pyLe_eq_ok.mp hle
      simp [hle, bind, Except.bind, pure, Except.pure, hsame]

theorem isActive_total : (∃ active, isActive python grant now = .ok active) ↔
    (grant.active = true → Readable python now grant) := by
  cases hactive : grant.active with
  | false => simp [isActive_of_inactive hactive]
  | true =>
    cases hexpiry : grant.expiry? with
    | none => simp [isActive_of_lasting hactive hexpiry, Readable, hexpiry]
    | some text =>
      constructor
      · rintro ⟨active, h⟩ _ other hother
        obtain ⟨expires, hparsed, hsame, -⟩ := (isActive_of_expiry hactive hother).mp h
        exact ⟨expires, hparsed, hsame⟩
      · intro h
        obtain ⟨expires, hparsed, hsame⟩ := h rfl text hexpiry
        exact ⟨_, (isActive_of_expiry hactive hexpiry).mpr ⟨expires, hparsed, hsame, rfl⟩⟩

theorem unexpired_of_isActive (h : isActive python grant now = .ok true) :
    grant.active = true ∧ Unexpired python now grant := by
  cases hactive : grant.active with
  | false => simp [isActive_of_inactive hactive] at h
  | true =>
    refine ⟨rfl, fun text htext => ?_⟩
    rw [isActive_of_expiry hactive htext] at h
    obtain ⟨expires, hparsed, -, hlater⟩ := h
    exact ⟨expires, hparsed, by simpa using hlater⟩

theorem admits_of_matching (h : isActive python grant now = .ok true)
    (hprincipal : grant.principalId = request.principalId)
    (hcovers : covers (engine.ancestorScopes request.scope) request grant = true) :
    Admits python engine request now grant := by
  obtain ⟨hactive, hunexpired⟩ := unexpired_of_isActive h
  simp only [covers, decide_eq_true_eq] at hcovers
  exact ⟨hprincipal, hactive, hunexpired, mem_ancestorScopes.mp hcovers.1, hcovers.2⟩

theorem matching_total (scopes : List Scope) :
    (∃ found, matching python scopes request now grants = .ok found) ↔
    ∀ grant ∈ grants, grant.principalId = request.principalId → grant.active = true →
      Readable python now grant := by
  induction grants with
  | nil => simp [matching]
  | cons grant grants ih =>
    rw [matching, List.forall_mem_cons, ← ih]
    by_cases hprincipal : grant.principalId = request.principalId
    · rw [if_neg (by simp [hprincipal])]
      simp only [hprincipal, forall_const, ← isActive_total]
      cases hactive : isActive python grant now with
      | error error => simp [bind, Except.bind]
      | ok active =>
        cases hrest : matching python scopes request now grants with
        | error error => simp [bind, Except.bind]
        | ok rest => simp [bind, Except.bind, pure, Except.pure]
    · rw [if_pos hprincipal]
      simp [hprincipal]

theorem admits_of_mem_matching (h : matching python (engine.ancestorScopes request.scope) request now
    grants = .ok found) : ∀ grant ∈ found, grant ∈ grants ∧ Admits python engine request now grant := by
  induction grants generalizing found with
  | nil =>
    rw [matching, Except.ok.injEq] at h
    simp [← h]
  | cons grant grants ih =>
    rw [matching] at h
    by_cases hprincipal : grant.principalId = request.principalId
    · rw [if_neg (by simp [hprincipal])] at h
      obtain ⟨active, hactive, h⟩ := except_bind_eq_ok h
      obtain ⟨rest, hrest, h⟩ := except_bind_eq_ok h
      have hmem : ∀ other ∈ rest, other ∈ grant :: grants ∧ Admits python engine request now other :=
        fun other hother => (ih hrest other hother).imp_left (List.mem_cons_of_mem _)
      obtain rfl := Except.ok.inj h
      split
      · rename_i hmatches
        intro other hother
        rcases List.mem_cons.mp hother with rfl | hother
        · refine ⟨List.mem_cons_self .., admits_of_matching ?_ hprincipal hmatches.2⟩
          rw [hactive, hmatches.1]
        · exact hmem other hother
      · exact hmem
    · rw [if_pos hprincipal] at h
      exact fun other hother => (ih h other hother).imp_left (List.mem_cons_of_mem _)

theorem judge_eq_allow : (judge python request grants).1 = .allow ↔
    rolesSatisfied request grants = true ∧ capabilitiesSatisfied request grants = true := by
  unfold judge
  split
  · rename_i hsatisfied
    exact iff_of_true rfl hsatisfied
  · rename_i hrefused
    refine iff_of_false ?_ hrefused
    split
    · simp
    · simp

theorem exists_grant_of_rolesSatisfied (hrequired : request.requiredRoles ≠ [])
    (h : rolesSatisfied request grants = true) :
    ∃ grant ∈ grants, grant.role ∈ request.requiredRoles ∨ grant.role = .admin := by
  rcases of_decide_eq_true h with hnone | ⟨role, hmem, hrole⟩ | hadmin
  · exact absurd hnone hrequired
  · obtain ⟨grant, hgrant, rfl⟩ := List.mem_map.mp hmem
    exact ⟨grant, hgrant, .inl hrole⟩
  · obtain ⟨grant, hgrant, hrole⟩ := List.mem_map.mp hadmin
    exact ⟨grant, hgrant, .inr hrole⟩

theorem judge_nil : (judge python request []).1 = .allow ↔
    request.requiredRoles = [] ∧ request.requiredCapabilities = [] := by
  rw [judge_eq_allow]
  simp [rolesSatisfied, capabilitiesSatisfied, effectiveCapabilities, List.eq_nil_iff_forall_not_mem]

theorem judge_of_nothing_required (hroles : request.requiredRoles = [])
    (hcapabilities : request.requiredCapabilities = []) :
    (judge python request grants).1 = .allow := by
  simp [judge_eq_allow, rolesSatisfied, capabilitiesSatisfied, hroles, hcapabilities]

/-- A decision is taken, and it allows a request only on behalf of a grant. -/
def Sound (python : Python) (uuid nowIso : String) (engine : AuthorizationEngine)
    (request : AuthorizationRequest) (now : Datetime) : Prop :=
  ∃ decision, evaluate python uuid nowIso engine request now = .ok decision ∧
    (decision.outcome = .allow → ∃ grant ∈ engine.grants, Admits python engine request now grant)

theorem evaluate_eq_ok {uuid nowIso : String} {decision : AuthorizationDecision} :
    evaluate python uuid nowIso engine request now = .ok decision ↔
      ∃ found, matching python (engine.ancestorScopes request.scope) request now engine.grants =
          .ok found ∧
        { decisionId := s!"authz:{uuid}"
          requestId := request.requestId
          principalId := request.principalId
          outcome := (judge python request found).1
          matchedGrantIds := found.map RoleGrant.grantId
          effectiveRoles := (found.map RoleGrant.role).dedup
          effectiveCapabilities := effectiveCapabilities found
          reasons := (judge python request found).2
          evaluatedAtIso := nowIso : AuthorizationDecision } = decision := by
  rw [evaluate]
  cases matching python (engine.ancestorScopes request.scope) request now engine.grants with
  | error error => simp [bind, Except.bind]
  | ok found => simp [bind, Except.bind, pure, Except.pure]

/-- A decision is taken and sound when the expiries of the principal's active grants
can be compared with the time, and the request requires something or is covered anyway. -/
theorem sound_iff (python : Python) (uuid nowIso : String) (engine : AuthorizationEngine)
    (request : AuthorizationRequest) (now : Datetime) :
    Sound python uuid nowIso engine request now ↔
      (∀ grant ∈ engine.grants, grant.principalId = request.principalId → grant.active = true →
        Readable python now grant) ∧
      (request.requiredRoles ≠ [] ∨ request.requiredCapabilities ≠ [] ∨
        ∃ grant ∈ engine.grants, Admits python engine request now grant) := by
  rw [← matching_total (engine.ancestorScopes request.scope)]
  constructor
  · rintro ⟨decision, hdecision, hallow⟩
    obtain ⟨found, hfound, rfl⟩ := evaluate_eq_ok.mp hdecision
    refine ⟨⟨found, hfound⟩, ?_⟩
    by_cases hroles : request.requiredRoles = []
    · by_cases hcapabilities : request.requiredCapabilities = []
      · exact .inr (.inr (hallow (judge_of_nothing_required hroles hcapabilities)))
      · exact .inr (.inl hcapabilities)
    · exact .inl hroles
  · rintro ⟨⟨found, hfound⟩, hrequired⟩
    refine ⟨_, evaluate_eq_ok.mpr ⟨found, hfound, rfl⟩, fun hallow => ?_⟩
    dsimp only at hallow
    cases found with
    | nil =>
      obtain ⟨hroles, hcapabilities⟩ := judge_nil.mp hallow
      rcases hrequired with hrole | hcapability | hgrant
      · exact absurd hroles hrole
      · exact absurd hcapabilities hcapability
      · exact hgrant
    | cons grant found =>
      exact ⟨grant, admits_of_mem_matching hfound grant (List.mem_cons_self ..)⟩

/-- The library on the one text that is read below, a time without an offset. -/
def naivePython : Python :=
  { Python.plain with
    fromIsoFormat := fun text =>
      if text = "2099-01-01T00:00:00" then some ⟨4070908800000000, none⟩ else none }

def lastingGrant : RoleGrant where
  grantId := "g1"
  principalId := "alice"
  role := .viewer
  scopeType := .workspace
  scopeId := "w1"
  expiresAtIso := some "2099-01-01T00:00:00"

def readRequest (requiredRoles : List RoleName) : AuthorizationRequest where
  requestId := "r1"
  principalId := "alice"
  action := "GET:/api/environments"
  scopeType := .workspace
  scopeId := "w1"
  requiredRoles := requiredRoles

/-- A naive expiry stops the decision, and a request that requires nothing is
allowed to a principal without any grant. -/
theorem naive_expiry_raises :
    evaluate naivePython "u1" "2026-07-22T12:00:00+00:00" ⟨[lastingGrant], []⟩ (readRequest [.viewer])
        ⟨1784721600000000, some 0⟩ =
      .error (.typeError "can't compare offset-naive and offset-aware datetimes") ∧
    (∃ decision, evaluate naivePython "u1" "2026-07-22T12:00:00+00:00" ⟨[], []⟩ (readRequest [])
        ⟨1784721600000000, some 0⟩ = .ok decision ∧ decision.outcome = .allow) :=
  ⟨rfl, _, rfl, rfl⟩

end AuthorizationEngine

end KubeOps.Tenancy
