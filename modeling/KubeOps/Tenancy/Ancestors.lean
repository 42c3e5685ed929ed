import KubeOps.Tenancy.Permission

/-! The scopes above a scope, and that a decision depends on bindings only through them. -/
namespace KubeOps.Tenancy

open KubeOps.Foundation KubeOps.Models AuthorizationEngine

def Ancestor (bindings : List ScopeBinding) (scope ancestor : Scope) : Prop :=
  Relation.ReflTransGen (Above bindings) scope ancestor

def Database.parent? (database : Database) : Scope → Option Scope
  | (.operation, id) =>
    (database.operations.get? id).map fun row => (.environment, row.environment.environmentId)
  | (.environment, id) =>
    (database.environments.get? id).bind fun row =>
      row.workspace.map fun workspace => (.workspace, workspace.workspaceId)
  | (.fleet, id) => (database.fleets.get? id).map fun row => (.workspace, row.workspace.workspaceId)
  | (.workspace, id) =>
    (database.workspaces.get? id).map fun row => (.organization, row.organizationId)
  | (.organization, _) => none
  | (.global, _) => none

section Chains

variable {α : Type} {r : α → α → Prop} {start item : α} {chain : List α}

theorem reached_of_mem_chain (hchain : List.IsChain r (start :: chain)) (h : item ∈ start :: chain) :
    Relation.ReflTransGen r start item := by
  induction chain generalizing start with
  | nil =>
    rw [List.mem_singleton.mp h]
  | cons next chain ih =>
    rw [List.isChain_cons_cons] at hchain
    rcases List.mem_cons.mp h with rfl | hrest
    · exact .refl
    · exact (ih hchain.2 hrest).head hchain.1

theorem reached_iff_mem_chain (hchain : List.IsChain r (start :: chain))
    (hclosed : ∀ source ∈ start :: chain, ∀ target, r source target → target ∈ start :: chain) :
    Relation.ReflTransGen r start item ↔ item ∈ start :: chain := by
  constructor
  · intro h
    induction h with
    | refl => exact List.mem_cons_self ..
    | tail _ hstep ih => exact hclosed _ ih _ hstep
  · exact reached_of_mem_chain hchain

end Chains

variable {bindings left right : List ScopeBinding} {scope ancestor : Scope} {chain : List Scope}
  {python : Python} {uuid nowIso : String} {grants : List RoleGrant}
  {request : AuthorizationRequest} {now : Datetime}

theorem ancestor_iff_mem (hchain : List.IsChain (Above bindings) (scope :: chain))
    (hglobal : globalScope ∈ scope :: chain)
    (hclosed : ∀ binding ∈ bindings, binding.edge.1 ∈ scope :: chain →
      binding.edge.2 ∈ scope :: chain) :
    Ancestor bindings scope ancestor ↔ ancestor ∈ scope :: chain := by
  apply reached_iff_mem_chain hchain
  rintro source hsource target (⟨binding, hmem, hedge⟩ | rfl)
  · have hends := hclosed binding hmem
    rw [hedge] at hends
    exact hends hsource
  · exact hglobal

theorem evaluate_congr (h : ∀ ancestor, Ancestor left request.scope ancestor ↔
      Ancestor right request.scope ancestor) :
    evaluate python uuid nowIso ⟨grants, left⟩ request now =
      evaluate python uuid nowIso ⟨grants, right⟩ request now := by
  have hcovers : ∀ grant, covers (ancestorScopes ⟨grants, left⟩ request.scope) request grant =
      covers (ancestorScopes ⟨grants, right⟩ request.scope) request grant := by
    intro grant
    have hscope : grant.scope ∈ ancestorScopes ⟨grants, left⟩ request.scope ↔
        grant.scope ∈ ancestorScopes ⟨grants, right⟩ request.scope := by
      rw [mem_ancestorScopes, mem_ancestorScopes]
      exact h grant.scope
    simp only [covers, hscope]
  have hmatching : ∀ candidates,
      matching python (ancestorScopes ⟨grants, left⟩ request.scope) request now candidates =
        matching python (ancestorScopes ⟨grants, right⟩ request.scope) request now candidates := by
    intro candidates
    induction candidates with
    | nil => rfl
    | cons grant candidates ih => rw [matching, matching, ih, hcovers]
  rw [evaluate, evaluate]
  dsimp only
  rw [hmatching]

def adminGrant (principalId : String) (scope : Scope) : RoleGrant where
  grantId := "grant"
  principalId := principalId
  role := .admin
  scopeType := scope.1
  scopeId := scope.2

theorem matching_adminGrant {scopes : List Scope} :
    matching python scopes request now [adminGrant request.principalId scope] =
      .ok (if scope ∈ scopes then [adminGrant request.principalId scope] else []) := by
  rw [matching, if_neg (by simp [adminGrant]), isActive_of_lasting rfl rfl, matching]
  simp [bind, Except.bind, pure, Except.pure, covers, adminGrant, RoleGrant.scope]

theorem evaluate_adminGrant (hrequired : request.requiredRoles ≠ []) :
    ∃ decision, evaluate python uuid nowIso ⟨[adminGrant request.principalId scope], bindings⟩ request now =
        .ok decision ∧
      (decision.outcome = .allow ↔ Ancestor bindings request.scope scope) := by
  refine ⟨_, evaluate_eq_ok.mpr ⟨_, matching_adminGrant, rfl⟩, ?_⟩
  dsimp only
  have hmem : scope ∈ ancestorScopes ⟨[adminGrant request.principalId scope], bindings⟩ request.scope ↔
      Ancestor bindings request.scope scope := mem_ancestorScopes
  by_cases habove : Ancestor bindings request.scope scope
  · rw [if_pos (hmem.mpr habove), judge_eq_allow]
    simp [habove, rolesSatisfied, capabilitiesSatisfied, effectiveCapabilities, adminGrant,
      roleCapabilities]
  · rw [if_neg (mt hmem.mp habove), judge_nil]
    simp [habove, hrequired]

def Bound (bindings : List ScopeBinding) (child parent : Scope) : Prop :=
  ∃ binding ∈ bindings, binding.edge = (child, parent)

theorem ancestorScopes_iff {engine : AuthorizationEngine} : ancestor ∈ engine.ancestorScopes scope ↔
    Relation.ReflTransGen (Bound engine.bindings) scope ancestor ∨
      Relation.ReflTransGen (Bound engine.bindings) globalScope ancestor := by
  have hlinked : Linked (engine.bindings.map ScopeBinding.edge) = Bound engine.bindings := by
    funext child parent
    exact propext List.mem_map
  rw [ancestorScopes, mem_closure, ReachedFrom, hlinked]
  simp

def AwareExpiry (python : Python) (grant : RoleGrant) : Prop :=
  ∀ text ∈ grant.expiry?,
    ∃ expires, python.fromIsoFormat (Text.replaceChar text 'Z' "+00:00") = some expires ∧
      expires.utcOffset.isSome

theorem AwareExpiry.readable {grant : RoleGrant} (h : AwareExpiry python grant)
    (hnow : now.utcOffset.isSome) : Readable python now grant := by
  intro text htext
  obtain ⟨expires, hparsed, haware⟩ := h text htext
  exact ⟨expires, hparsed, haware.trans hnow.symm⟩

theorem isActive_of_unexpired {grant : RoleGrant} {active : Bool} (hactive : grant.active = true)
    (hunexpired : Unexpired python now grant) (h : isActive python grant now = .ok active) :
    active = true := by
  cases hexpiry : grant.expiry? with
  | none =>
    rw [isActive_of_lasting hactive hexpiry] at h
    exact (Except.ok.inj h).symm
  | some text =>
    obtain ⟨expires, hparsed, -, hlater⟩ := (isActive_of_expiry hactive hexpiry).mp h
    obtain ⟨other, hother, hunder⟩ := hunexpired text hexpiry
    obtain rfl := Option.some.inj (hparsed.symm.trans hother)
    rw [← hlater]
    exact decide_eq_true hunder

theorem mem_matching_of_admits {engine : AuthorizationEngine} {found : List RoleGrant} {grant : RoleGrant}
    (h : matching python (engine.ancestorScopes request.scope) request now grants = .ok found)
    (hgrant : grant ∈ grants) (hadmits : Admits python engine request now grant) : grant ∈ found := by
  induction grants generalizing found with
  | nil => exact absurd hgrant List.not_mem_nil
  | cons first grants ih =>
    rw [matching] at h
    by_cases hprincipal : first.principalId = request.principalId
    · rw [if_neg (by simp [hprincipal])] at h
      obtain ⟨active, hactive, h⟩ := except_bind_eq_ok h
      obtain ⟨rest, hrest, h⟩ := except_bind_eq_ok h
      obtain rfl := Except.ok.inj h
      rcases List.mem_cons.mp hgrant with rfl | hlater
      · have hcovers : covers (engine.ancestorScopes request.scope) request grant = true :=
          decide_eq_true ⟨mem_ancestorScopes.mpr hadmits.above, hadmits.environment⟩
        rw [if_pos ⟨isActive_of_unexpired hadmits.active hadmits.unexpired hactive, hcovers⟩]
        exact List.mem_cons_self ..
      · have hmem := ih hrest hlater
        split
        · exact List.mem_cons_of_mem _ hmem
        · exact hmem
    · rw [if_pos hprincipal] at h
      rcases List.mem_cons.mp hgrant with rfl | hlater
      · exact absurd hadmits.principal hprincipal
      · exact ih h hlater

theorem Above.mono {child parent : Scope} (hbindings : left ⊆ right) (h : Above left child parent) :
    Above right child parent := by
  rcases h with ⟨binding, hmem, hedge⟩ | hglobal
  · exact .inl ⟨binding, hbindings hmem, hedge⟩
  · exact .inr hglobal

theorem Admits.mono {engine larger : AuthorizationEngine} {grant : RoleGrant}
    (hbindings : engine.bindings ⊆ larger.bindings) (h : Admits python engine request now grant) :
    Admits python larger request now grant :=
  { h with above := Relation.ReflTransGen.mono (fun _ _ hstep => Above.mono hbindings hstep) _ _ h.above }

theorem rolesSatisfied_mono {found more : List RoleGrant} (hsub : found ⊆ more)
    (h : rolesSatisfied request found = true) : rolesSatisfied request more = true := by
  simp only [rolesSatisfied, decide_eq_true_eq] at h ⊢
  rcases h with hnone | ⟨role, hrole, hrequired⟩ | hadmin
  · exact .inl hnone
  · exact .inr (.inl ⟨role, List.map_subset _ hsub hrole, hrequired⟩)
  · exact .inr (.inr (List.map_subset _ hsub hadmin))

theorem capabilitiesSatisfied_mono {found more : List RoleGrant} (hsub : found ⊆ more)
    (h : capabilitiesSatisfied request found = true) : capabilitiesSatisfied request more = true := by
  have hcapabilities : effectiveCapabilities found ⊆ effectiveCapabilities more := by
    intro capability hcapability
    rw [effectiveCapabilities, List.mem_dedup, List.mem_flatMap] at hcapability ⊢
    obtain ⟨grant, hgrant, hmem⟩ := hcapability
    exact ⟨grant, hsub hgrant, hmem⟩
  simp only [capabilitiesSatisfied, decide_eq_true_eq] at h ⊢
  rcases h with hall | hlisted
  · exact .inl (hcapabilities hall)
  · exact .inr fun capability hrequired => hcapabilities (hlisted capability hrequired)

theorem allow_mono {engine larger : AuthorizationEngine} {decision later : AuthorizationDecision}
    {otherUuid otherIso : String} (hgrants : engine.grants ⊆ larger.grants)
    (hbindings : engine.bindings ⊆ larger.bindings)
    (hdecision : evaluate python uuid nowIso engine request now = .ok decision)
    (hallow : decision.outcome = .allow)
    (hlater : evaluate python otherUuid otherIso larger request now = .ok later) :
    later.outcome = .allow := by
  obtain ⟨found, hfound, rfl⟩ := evaluate_eq_ok.mp hdecision
  obtain ⟨more, hmore, rfl⟩ := evaluate_eq_ok.mp hlater
  have hsub : found ⊆ more := by
    intro grant hgrant
    obtain ⟨hmem, hadmits⟩ := admits_of_mem_matching hfound grant hgrant
    exact mem_matching_of_admits hmore (hgrants hmem) (Admits.mono hbindings hadmits)
  dsimp only at hallow ⊢
  rw [judge_eq_allow] at hallow ⊢
  exact ⟨rolesSatisfied_mono hsub hallow.1, capabilitiesSatisfied_mono hsub hallow.2⟩

/-- The loop over the bindings ends with what is above the scope or above the global one,
in whatever order they are listed, and more grants and bindings allow no less. -/
theorem scopes_closed (python : Python) (uuid nowIso otherUuid otherIso : String)
    (engine : AuthorizationEngine) (scope : Scope) (request : AuthorizationRequest) (now : Datetime) :
    (∀ rounds, engine.bindings.length < rounds →
      saturate (engine.bindings.map ScopeBinding.edge) rounds [scope, globalScope] =
        engine.ancestorScopes scope) ∧
    pass (engine.bindings.map ScopeBinding.edge) (engine.ancestorScopes scope) =
      engine.ancestorScopes scope ∧
    (∀ ancestor, ancestor ∈ engine.ancestorScopes scope ↔
      Relation.ReflTransGen (Bound engine.bindings) scope ancestor ∨
        Relation.ReflTransGen (Bound engine.bindings) globalScope ancestor) ∧
    (∀ other : AuthorizationEngine, other.bindings.Perm engine.bindings →
      ∀ ancestor, ancestor ∈ other.ancestorScopes scope ↔ ancestor ∈ engine.ancestorScopes scope) ∧
    ∀ (larger : AuthorizationEngine) (decision : AuthorizationDecision),
      engine.grants ⊆ larger.grants → engine.bindings ⊆ larger.bindings →
      (∀ grant ∈ larger.grants, AwareExpiry python grant) →
      evaluate python uuid nowIso engine request now = .ok decision → decision.outcome = .allow →
      (∀ later, evaluate python otherUuid otherIso larger request now = .ok later →
        later.outcome = .allow) ∧
      (now.utcOffset.isSome → ∃ later,
        evaluate python otherUuid otherIso larger request now = .ok later ∧ later.outcome = .allow) := by
  refine ⟨fun rounds hrounds => ?_, pass_closure _ _, fun _ => ancestorScopes_iff, fun other hperm _ => ?_, ?_⟩
  · apply saturate_eq
    · exact Nat.lt_succ_of_le (List.length_filter_le ..)
    · rw [List.length_map]
      exact hrounds
  · have hbound : Bound other.bindings = Bound engine.bindings := by
      funext child parent
      simp only [Bound, hperm.mem_iff]
    rw [ancestorScopes_iff, ancestorScopes_iff, hbound]
  · intro larger decision hgrants hbindings haware hdecision hallow
    have hlater : ∀ later, evaluate python otherUuid otherIso larger request now = .ok later →
        later.outcome = .allow := fun later => allow_mono hgrants hbindings hdecision hallow
    refine ⟨hlater, fun hnow => ?_⟩
    obtain ⟨found, hfound⟩ := (matching_total (larger.ancestorScopes request.scope)).mpr
      fun grant hgrant _ _ => (haware grant hgrant).readable hnow
    have hdecided : ∃ later, evaluate python otherUuid otherIso larger request now = .ok later :=
      ⟨_, evaluate_eq_ok.mpr ⟨found, hfound, rfl⟩⟩
    exact hdecided.imp fun later h => ⟨h, hlater later h⟩

def globalBinding : ScopeBinding where
  childType := .global
  childId := "*"
  parentType := .workspace
  parentId := "w1"
  distinct := by decide

/-- No binding leads from the workspace `w2` anywhere, and still `w1` counts as above it. -/
theorem globalBinding_above_all :
    (ScopeType.workspace, "w1") ∈ ancestorScopes ⟨[], [globalBinding]⟩ (.workspace, "w2") ∧
    ¬ (Relation.ReflTransGen (Bound [globalBinding]) (.workspace, "w2") (.workspace, "w1") ∨
      (ScopeType.workspace, "w1") = (ScopeType.workspace, "w2") ∨
      (ScopeType.workspace, "w1") = globalScope) := by
  refine ⟨by decide, ?_⟩
  rintro (hpath | hself | hglobal)
  · rcases hpath.cases_head with hself | ⟨next, ⟨binding, hmem, hedge⟩, -⟩
    · exact absurd hself (by decide)
    · rw [List.mem_singleton.mp hmem] at hedge
      simp [globalBinding, ScopeBinding.edge] at hedge
  · exact absurd hself (by decide)
  · exact absurd hglobal (by decide)

/-- A grant of an organization, a workspace of it, and a grant that has run out. -/
def smallEngine : AuthorizationEngine :=
  ⟨[adminGrant "alice" (.organization, "o1")], [⟨.workspace, "w1", .organization, "o1", by decide⟩]⟩

def workspaceRequest : AuthorizationRequest where
  requestId := "r1"
  principalId := "alice"
  action := "GET:/api/environments"
  scopeType := .workspace
  scopeId := "w1"
  requiredRoles := [.viewer]

def midnightPython : Python :=
  { Python.plain with
    fromIsoFormat := fun text =>
      if text = "2026-07-22T00:00:00+00:00" then some ⟨1784678400000000, some 0⟩ else none }

def expiredGrant : RoleGrant :=
  { adminGrant "alice" (.workspace, "w2") with expiresAtIso := some "2026-07-22T00:00:00Z" }

theorem smallEngine_allows_more : ∃ later, evaluate midnightPython "u2" "2026-07-22T12:00:01+00:00"
      ⟨expiredGrant :: smallEngine.grants, smallEngine.bindings ++ [globalBinding]⟩ workspaceRequest
      ⟨1784721600000000, some 0⟩ = .ok later ∧ later.outcome = .allow := by
  have haware : ∀ grant ∈ expiredGrant :: smallEngine.grants, AwareExpiry midnightPython grant := by
    intro grant hgrant text htext
    rcases List.mem_cons.mp hgrant with rfl | hold
    · obtain rfl := Option.some.inj htext
      exact ⟨_, rfl, rfl⟩
    · rw [List.mem_singleton.mp hold] at htext
      cases htext
  exact ((scopes_closed midnightPython "u1" "2026-07-22T12:00:00+00:00" "u2" "2026-07-22T12:00:01+00:00"
    smallEngine workspaceRequest.scope workspaceRequest ⟨1784721600000000, some 0⟩).2.2.2.2
      ⟨expiredGrant :: smallEngine.grants, smallEngine.bindings ++ [globalBinding]⟩ _
      (List.subset_cons_self ..) (List.subset_append_left ..) haware rfl rfl).2 rfl

end KubeOps.Tenancy
