import KubeOps.Policy.Engine
import Mathlib.Data.Finset.Card

/-! What the policy engine decides. The outcome depends on the approvals only
through the set of records given, so neither their order nor repetitions of
one record matter. -/
namespace KubeOps.Policy

open KubeOps.Foundation KubeOps.Models

section Specification

variable (python : Python) (now : Int) (action : ActionInstance) (definition : ActionTypeDefinition)
  (policy : ExecutionPolicy) (context : PolicyContext) (approvals : List ApprovalRecord)

/-- A record for this action (or for all actions) that names an operation. -/
def Applicable (approval : ApprovalRecord) : Prop :=
  approval.operationId ≠ "" ∧ (approval.actionId = none ∨ approval.actionId = some action.actionId)

instance (approval : ApprovalRecord) : Decidable (Applicable action approval) := by
  unfold Applicable
  infer_instance

/-- The reasons for which an action is refused. -/
inductive FailedGate : Prop where
  | environmentClass (covers : policy.environmentClasses ≠ [])
      (missing : context.environmentClass ∉ policy.environmentClasses)
  | deniedAction (listed : action.actionTypeId ∈ policy.deniedActionTypeIds)
  | unlistedAction (allowlist : policy.allowedActionTypeIds ≠ [])
      (missing : action.actionTypeId ∉ policy.allowedActionTypeIds)
  | riskClass (missing : action.risk.riskClass ∉ policy.allowedRiskClasses)
  | capabilityGap (capability : String) (required : capability ∈ definition.requiredCapabilities)
      (absent : capability ∉ context.capabilities) (ungranted : capability ∉ policy.capabilityGrants)
  | executionMode (mutating : context.executionMode ≠ "dry_run")
      (unsupported : ∀ mode ∈ definition.supportedModes, context.executionMode ≠ mode.text)
  | fingerprint (required : policy.requireTargetFingerprint = true) (expected : String)
      (nonempty : expected ≠ "") (known : context.expectedFingerprint = some expected)
      (mismatch : context.environmentFingerprint ≠ some expected)
  | budget (limit : Nat) (bounded : policy.mutationBudget = some limit)
      (exhausted : (limit : Int) ≤ context.mutationCount)
  | target (restricts : policy.allowedTargetPatterns ≠ []) (targetId : String)
      (targeted : targetId ∈ action.targetIds)
      (outside : ∀ pattern ∈ policy.allowedTargetPatterns, python.fnmatch targetId pattern = false)
  | rejection (approval : ApprovalRecord) (given : approval ∈ approvals)
      (applies : Applicable action approval) (active : validity python now approval = .active)
      (rejects : approval.decision = .reject)
  | malformedExpiry (approval : ApprovalRecord) (given : approval ∈ approvals)
      (applies : Applicable action approval) (malformed : validity python now approval = .malformed)
  | breakGlass (requested : context.breakGlass = true) (forbidden : policy.breakGlassAllowed = false)

def distinctApprovers : Finset String :=
  ((approvals.filter fun approval => Applicable action approval ∧
    validity python now approval = .active ∧ approval.decision = .approve).map
      ApprovalRecord.approverId).toFinset

end Specification

section Verdicts

variable {verdict : Verdict} {condition : Bool} {reason : String} {missing : Int}

@[simp] theorem denyWhen_eq_deny : (verdict.denyWhen condition reason).outcome = .deny ↔
    condition = true ∨ verdict.outcome = .deny := by
  cases condition <;> simp [Verdict.denyWhen]

@[simp] theorem denyWhen_eq_approvalRequired :
    (verdict.denyWhen condition reason).outcome = .approvalRequired ↔
      condition = false ∧ verdict.outcome = .approvalRequired := by
  cases condition <;> simp [Verdict.denyWhen]

@[simp] theorem awaitWhen_eq_deny :
    (verdict.awaitWhen missing).outcome = .deny ↔ verdict.outcome = .deny := by
  unfold Verdict.awaitWhen
  split
  · rename_i h
    simp [h.1]
  · rfl

@[simp] theorem awaitWhen_eq_approvalRequired (h : verdict.outcome ≠ .approvalRequired) :
    (verdict.awaitWhen missing).outcome = .approvalRequired ↔
      verdict.outcome ≠ .deny ∧ 0 < missing := by
  unfold Verdict.awaitWhen
  split
  · rename_i hwait
    simp [hwait]
  · rename_i hwait
    simp [h, hwait]

end Verdicts

section Approvals

variable {python : Python} {now : Int}

theorem foldl_readApproval_active (approvals : List ApprovalRecord)
    (state : Verdict × List ApprovalRecord) :
    (approvals.foldl (readApproval python now) state).2 =
      state.2 ++ approvals.filter fun approval => validity python now approval = .active := by
  induction approvals generalizing state with
  | nil => simp
  | cons approval approvals ih =>
    rw [List.foldl_cons, ih]
    cases h : validity python now approval <;> simp [readApproval, h]

theorem foldl_readApproval_deny (approvals : List ApprovalRecord)
    (state : Verdict × List ApprovalRecord) :
    (approvals.foldl (readApproval python now) state).1.outcome = .deny ↔
      state.1.outcome = .deny ∨
        ∃ approval ∈ approvals, validity python now approval = .malformed := by
  induction approvals generalizing state with
  | nil => simp
  | cons approval approvals ih =>
    rw [List.foldl_cons, ih]
    cases h : validity python now approval <;> simp [readApproval, h]

theorem foldl_readApproval_pending (approvals : List ApprovalRecord)
    (state : Verdict × List ApprovalRecord) (hstate : state.1.outcome ≠ .approvalRequired) :
    (approvals.foldl (readApproval python now) state).1.outcome ≠ .approvalRequired := by
  induction approvals generalizing state with
  | nil => exact hstate
  | cons approval approvals ih =>
    apply ih
    cases h : validity python now approval <;> simp [readApproval, h, hstate]

end Approvals

section Judgement

variable {python : Python} {now : Int} {action : ActionInstance} {definition : ActionTypeDefinition}
  {policy : ExecutionPolicy} {context : PolicyContext} {approvals : List ApprovalRecord}

theorem capabilityGaps_ne_nil : capabilityGaps definition policy context ≠ [] ↔
    ∃ capability ∈ definition.requiredCapabilities,
      capability ∉ context.capabilities ∧ capability ∉ policy.capabilityGrants := by
  rw [capabilityGaps, ne_eq, sortedSet_eq_nil, List.filter_eq_nil_iff]
  simp

theorem invalidTargets_ne_nil : invalidTargets python action policy ≠ [] ↔
    policy.allowedTargetPatterns ≠ [] ∧ ∃ targetId ∈ action.targetIds,
      ∀ pattern ∈ policy.allowedTargetPatterns, python.fnmatch targetId pattern = false := by
  unfold invalidTargets
  split
  · rename_i h
    simp [List.filter_eq_nil_iff, h.1]
  · rename_i h
    rw [not_and, ne_eq, not_not] at h
    constructor
    · intro hnil
      exact absurd rfl hnil
    · rintro ⟨hpatterns, targetId, hmem, _⟩
      simp [h hpatterns] at hmem

theorem fingerprintMismatch_iff : fingerprintMismatch policy context = true ↔
    policy.requireTargetFingerprint = true ∧ ∃ expected, expected ≠ "" ∧
      context.expectedFingerprint = some expected ∧
      context.environmentFingerprint ≠ some expected := by
  cases h : context.expectedFingerprint <;> simp [fingerprintMismatch, Text.truthy, h]

theorem budgetExhausted_iff : budgetExhausted policy context = true ↔
    ∃ limit, policy.mutationBudget = some limit ∧ (limit : Int) ≤ context.mutationCount := by
  cases h : policy.mutationBudget <;> simp [budgetExhausted, h]

theorem gates_pending :
    (gates python action definition policy context).outcome ≠ .approvalRequired := by
  simp [gates]

theorem gates_deny_iff : (gates python action definition policy context).outcome = .deny ↔
    (policy.environmentClasses ≠ [] ∧ context.environmentClass ∉ policy.environmentClasses) ∨
    action.actionTypeId ∈ policy.deniedActionTypeIds ∨
    (policy.allowedActionTypeIds ≠ [] ∧ action.actionTypeId ∉ policy.allowedActionTypeIds) ∨
    action.risk.riskClass ∉ policy.allowedRiskClasses ∨
    capabilityGaps definition policy context ≠ [] ∨
    modeUnsupported definition context = true ∨
    fingerprintMismatch policy context = true ∨
    budgetExhausted policy context = true ∨
    invalidTargets python action policy ≠ [] := by
  simp only [gates, denyWhen_eq_deny, reduceCtorEq, or_false, decide_eq_true_eq,
    environmentUncovered, actionDenied, actionUnlisted, riskDisallowed]
  tauto

theorem rejectingApprovers_ne_nil (active : List ApprovalRecord) :
    rejectingApprovers active ≠ [] ↔ ∃ approval ∈ active, approval.decision = .reject := by
  rw [rejectingApprovers, ne_eq, sortedSet_eq_nil, List.map_eq_nil_iff, List.filter_eq_nil_iff]
  simp

def activeApprovals (python : Python) (now : Int) (action : ActionInstance)
    (approvals : List ApprovalRecord) : List ApprovalRecord :=
  (approvals.filter (applicable action)).filter fun approval => validity python now approval = .active

theorem mem_activeApprovals {approval : ApprovalRecord} :
    approval ∈ activeApprovals python now action approvals ↔
      approval ∈ approvals ∧ Applicable action approval ∧ validity python now approval = .active := by
  simp only [activeApprovals, applicable, Applicable, List.mem_filter, decide_eq_true_eq]
  tauto

theorem length_approvingApprovers :
    (approvingApprovers (activeApprovals python now action approvals)).length =
      (distinctApprovers python now action approvals).card := by
  rw [approvingApprovers, distinctApprovers, List.card_toFinset]
  congr 3
  rw [activeApprovals, List.filter_filter, List.filter_filter]
  apply List.filter_congr
  intro approval _
  rw [Bool.eq_iff_iff]
  simp only [applicable, Bool.and_eq_true, decide_eq_true_eq]
  unfold Applicable
  tauto

variable (python now action definition policy context approvals) in
theorem judge_deny_iff :
    (judge python now action definition policy context approvals).outcome = .deny ↔
      FailedGate python now action definition policy context approvals := by
  simp only [judge, denyWhen_eq_deny, awaitWhen_eq_deny, foldl_readApproval_deny,
    foldl_readApproval_active, List.nil_append, decide_eq_true_eq]
  rw [show ((approvals.filter (applicable action)).filter fun approval =>
    decide (validity python now approval = .active)) =
      activeApprovals python now action approvals from rfl]
  rw [rejectingApprovers_ne_nil, gates_deny_iff]
  constructor
  · rintro (hbreak | hreject | hgates | hmalformed)
    · simp only [breakGlassDisallowed, decide_eq_true_eq, Bool.not_eq_true] at hbreak
      exact .breakGlass hbreak.1 hbreak.2
    · obtain ⟨approval, hactive, hdecision⟩ := hreject
      obtain ⟨hgiven, happlies, hvalid⟩ := mem_activeApprovals.mp hactive
      exact .rejection approval hgiven happlies hvalid hdecision
    · rcases hgates with h | h | h | h | h | h | h | h | h
      · exact .environmentClass h.1 h.2
      · exact .deniedAction h
      · exact .unlistedAction h.1 h.2
      · exact .riskClass h
      · obtain ⟨capability, hrequired, habsent, hungranted⟩ := capabilityGaps_ne_nil.mp h
        exact .capabilityGap capability hrequired habsent hungranted
      · simp only [modeUnsupported, decide_eq_true_eq, List.mem_map, not_exists, not_and] at h
        exact .executionMode h.1 fun mode hmode => Ne.symm (h.2 mode hmode)
      · obtain ⟨hrequired, expected, hnonempty, hknown, hmismatch⟩ := fingerprintMismatch_iff.mp h
        exact .fingerprint hrequired expected hnonempty hknown hmismatch
      · obtain ⟨limit, hbounded, hexhausted⟩ := budgetExhausted_iff.mp h
        exact .budget limit hbounded hexhausted
      · obtain ⟨hrestricts, targetId, htargeted, houtside⟩ := invalidTargets_ne_nil.mp h
        exact .target hrestricts targetId htargeted houtside
    · obtain ⟨approval, hmem, hvalid⟩ := hmalformed
      simp only [List.mem_filter, applicable, decide_eq_true_eq] at hmem
      exact .malformedExpiry approval hmem.1 hmem.2 hvalid
  · intro h
    cases h with
    | breakGlass hrequested hforbidden =>
      exact Or.inl (by simp [breakGlassDisallowed, hrequested, hforbidden])
    | rejection approval hgiven happlies hvalid hdecision =>
      exact Or.inr (Or.inl ⟨approval, mem_activeApprovals.mpr ⟨hgiven, happlies, hvalid⟩, hdecision⟩)
    | malformedExpiry approval hgiven happlies hvalid =>
      refine Or.inr (Or.inr (Or.inr ⟨approval, ?_, hvalid⟩))
      simp only [List.mem_filter, applicable, decide_eq_true_eq]
      exact ⟨hgiven, happlies⟩
    | executionMode hmutating hunsupported =>
      refine Or.inr (Or.inr (Or.inl ?_))
      simp only [modeUnsupported, decide_eq_true_eq, List.mem_map, not_exists, not_and]
      exact Or.inr (Or.inr (Or.inr (Or.inr (Or.inr (Or.inl ⟨hmutating, fun mode hmode =>
        Ne.symm (hunsupported mode hmode)⟩)))))
    | environmentClass hcovers hmissing => exact Or.inr (Or.inr (Or.inl (Or.inl ⟨hcovers, hmissing⟩)))
    | deniedAction hlisted => tauto
    | unlistedAction hallowlist hmissing => tauto
    | riskClass hmissing => tauto
    | capabilityGap capability hrequired habsent hungranted =>
      have hgap := capabilityGaps_ne_nil.mpr ⟨capability, hrequired, habsent, hungranted⟩
      tauto
    | fingerprint hrequired expected hnonempty hknown hmismatch =>
      have hmismatched := fingerprintMismatch_iff.mpr
        ⟨hrequired, expected, hnonempty, hknown, hmismatch⟩
      tauto
    | budget limit hbounded hexhausted =>
      have hlimit := budgetExhausted_iff.mpr ⟨limit, hbounded, hexhausted⟩
      tauto
    | target hrestricts targetId htargeted houtside =>
      have htarget := invalidTargets_ne_nil.mpr ⟨hrestricts, targetId, htargeted, houtside⟩
      tauto

variable (python now action definition policy context approvals) in
theorem judge_pending_iff :
    (judge python now action definition policy context approvals).outcome = .approvalRequired ↔
      ¬ FailedGate python now action definition policy context approvals ∧
        ((distinctApprovers python now action approvals).card : Int) <
          requiredApprovals action policy := by
  rw [← judge_deny_iff, ← length_approvingApprovers]
  simp only [judge, denyWhen_eq_approvalRequired, denyWhen_eq_deny, awaitWhen_eq_deny]
  rw [awaitWhen_eq_approvalRequired]
  · simp only [denyWhen_eq_deny, ne_eq, foldl_readApproval_active, List.nil_append, Int.sub_pos,
      activeApprovals]
    rw [← Bool.not_eq_true]
    tauto
  · rw [ne_eq, denyWhen_eq_approvalRequired, not_and]
    intro _
    exact foldl_readApproval_pending _ _ gates_pending

theorem judge_allow_iff :
    (judge python now action definition policy context approvals).outcome = .allow ↔
      ¬ FailedGate python now action definition policy context approvals ∧
        requiredApprovals action policy ≤ (distinctApprovers python now action approvals).card := by
  rw [← not_lt]
  have hdeny := judge_deny_iff python now action definition policy context approvals
  have hpending := judge_pending_iff python now action definition policy context approvals
  cases houtcome : (judge python now action definition policy context approvals).outcome <;>
    rw [houtcome] at hdeny hpending <;> simp only [reduceCtorEq] at hdeny hpending ⊢ <;> tauto

section Invariance

variable {others : List ApprovalRecord} (hsame : ∀ approval, approval ∈ others ↔ approval ∈ approvals)

include hsame

variable (python now action) in
theorem distinctApprovers_congr :
    distinctApprovers python now action others = distinctApprovers python now action approvals := by
  ext approver
  simp only [distinctApprovers, List.mem_toFinset, List.mem_map, List.mem_filter, hsame]

variable (python now action definition policy context) in
theorem failedGate_congr :
    FailedGate python now action definition policy context others ↔
      FailedGate python now action definition policy context approvals := by
  rw [← judge_deny_iff, ← judge_deny_iff]
  simp only [judge, denyWhen_eq_deny, awaitWhen_eq_deny, foldl_readApproval_deny,
    foldl_readApproval_active, List.nil_append, decide_eq_true_eq, rejectingApprovers_ne_nil,
    List.mem_filter, hsame]

theorem judge_congr :
    (judge python now action definition policy context others).outcome =
      (judge python now action definition policy context approvals).outcome := by
  have hgate := failedGate_congr python now action definition policy context hsame
  have hcard := congrArg Finset.card (distinctApprovers_congr python now action hsame)
  cases houtcome : (judge python now action definition policy context approvals).outcome with
  | deny => rw [judge_deny_iff, hgate, ← judge_deny_iff, houtcome]
  | approvalRequired =>
    rw [judge_pending_iff, hgate, hcard, ← judge_pending_iff, houtcome]
  | allow => rw [judge_allow_iff, hgate, hcard, ← judge_allow_iff, houtcome]

end Invariance

end Judgement

section Evaluation

variable (python : Python) (now : Int) (action : ActionInstance) (definition : ActionTypeDefinition)
  (policy : ExecutionPolicy) (context : PolicyContext) (approvals : List ApprovalRecord)
  (evaluatedAtIso : String)

theorem eq_issue_of_evaluate {decision : PolicyDecision}
    (h : evaluate python now action definition policy context approvals evaluatedAtIso =
      .ok decision) :
    decision = issue python now action definition policy context approvals evaluatedAtIso := by
  unfold evaluate at h
  split at h
  · cases h
  · exact (Except.ok.inj h).symm

/-- The three-way outcome in terms of the gates and of the distinct approvers. A
negative approval count is refused by the decision model, whatever else holds. -/
theorem evaluate_characterisation :
    (requiredApprovals action policy < 0 ∧
      ∃ message, evaluate python now action definition policy context approvals evaluatedAtIso =
        .error (.validationError message)) ∨
    (0 ≤ requiredApprovals action policy ∧
      ∃ decision, evaluate python now action definition policy context approvals evaluatedAtIso =
          .ok decision ∧
        (decision.outcome = .deny ↔
          FailedGate python now action definition policy context approvals) ∧
        (decision.outcome = .approvalRequired ↔
          ¬ FailedGate python now action definition policy context approvals ∧
            ((distinctApprovers python now action approvals).card : Int) <
              requiredApprovals action policy) ∧
        (decision.outcome = .allow ↔
          ¬ FailedGate python now action definition policy context approvals ∧
            requiredApprovals action policy ≤
              ((distinctApprovers python now action approvals).card : Int)) ∧
        ∀ others : List ApprovalRecord, (∀ approval, approval ∈ others ↔ approval ∈ approvals) →
          ∃ other, evaluate python now action definition policy context others evaluatedAtIso =
            .ok other ∧ other.outcome = decision.outcome) := by
  by_cases hnegative : requiredApprovals action policy < 0
  · exact Or.inl ⟨hnegative, _, if_pos hnegative⟩
  · refine Or.inr ⟨not_lt.mp hnegative, _, if_neg hnegative, ?_⟩
    refine ⟨judge_deny_iff _ _ _ _ _ _ _, judge_pending_iff _ _ _ _ _ _ _, judge_allow_iff,
      fun others hsame => ?_⟩
    exact ⟨_, if_neg hnegative, judge_congr hsame⟩

end Evaluation

/-- A policy that asks for fewer than no approvals gets no decision, not even on
an action it denies. -/
theorem evaluate_negative_requirement : ∃ (action : ActionInstance)
    (definition : ActionTypeDefinition) (policy : ExecutionPolicy) (context : PolicyContext),
    FailedGate Python.plain 0 action definition policy context [] ∧
      ∀ decision, evaluate Python.plain 0 action definition policy context [] "" ≠ .ok decision := by
  refine ⟨{ actionId := "action", actionTypeId := "type" }, { actionTypeId := "type" },
    { policyId := "policy", deniedActionTypeIds := ["type"],
      requiredApprovalsByRisk := Dict.ofList [(.r0, -1)] },
    { environmentClass := "development" }, .deniedAction (List.mem_singleton_self _), ?_⟩
  intro decision h
  rw [evaluate, if_pos (by decide)] at h
  cases h

end KubeOps.Policy
