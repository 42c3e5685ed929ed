import KubeOps.Actions
import KubeOps.Models.Operation

/-! The policy engine. Gates are evaluated in order and each may overwrite the
outcome; a gate that fails adds its reason and turns the outcome to `deny`. -/
namespace KubeOps.Policy

open KubeOps.Foundation KubeOps.Models

def riskOrder : RiskClass → Int
  | .r0 => 0
  | .r1 => 1
  | .r2 => 2
  | .r3 => 3
  | .r4 => 4
  | .r5 => 5

structure PolicyContext where
  environmentClass : String
  environmentFingerprint : Option String := none
  expectedFingerprint : Option String := none
  capabilities : List String := []
  mutationCount : Int := 0
  breakGlass : Bool := false
  executionMode : String := "simulation"

/-- The locals `outcome` and `reasons`. -/
structure Verdict where
  outcome : PolicyOutcome := .allow
  reasons : List String := []

def Verdict.denyWhen (verdict : Verdict) (condition : Bool) (reason : String) : Verdict :=
  if condition then { outcome := .deny, reasons := verdict.reasons ++ [reason] } else verdict

section Gates

variable (python : Python) (action : ActionInstance) (definition : ActionTypeDefinition)
  (policy : ExecutionPolicy) (context : PolicyContext)

def capabilityGaps : List String :=
  sortedSet (definition.requiredCapabilities.filter fun capability =>
    capability ∉ context.capabilities ∧ capability ∉ policy.capabilityGrants)

def requiredApprovals : Int :=
  (policy.requiredApprovalsByRisk.get? action.risk.riskClass).getD 0

def environmentUncovered : Bool :=
  policy.environmentClasses ≠ [] ∧ context.environmentClass ∉ policy.environmentClasses

def actionDenied : Bool := action.actionTypeId ∈ policy.deniedActionTypeIds

def actionUnlisted : Bool :=
  policy.allowedActionTypeIds ≠ [] ∧ action.actionTypeId ∉ policy.allowedActionTypeIds

def riskDisallowed : Bool := action.risk.riskClass ∉ policy.allowedRiskClasses

def modeUnsupported : Bool :=
  context.executionMode ≠ "dry_run" ∧
    context.executionMode ∉ definition.supportedModes.map SupportedMode.text

def fingerprintMismatch : Bool :=
  policy.requireTargetFingerprint ∧ Text.truthy context.expectedFingerprint ∧
    context.environmentFingerprint ≠ context.expectedFingerprint

def budgetExhausted : Bool :=
  policy.mutationBudget.any fun budget => (budget : Int) ≤ context.mutationCount

def invalidTargets : List String :=
  if policy.allowedTargetPatterns ≠ [] ∧ action.targetIds ≠ [] then
    action.targetIds.filter fun target =>
      ¬ policy.allowedTargetPatterns.any fun pattern => python.fnmatch target pattern
  else []

def breakGlassDisallowed : Bool := context.breakGlass ∧ ¬ policy.breakGlassAllowed

def gates : Verdict :=
  let gaps := capabilityGaps definition policy context
  let invalid := invalidTargets python action policy
  ({} : Verdict)
    |>.denyWhen (environmentUncovered policy context)
      s!"environment class {python.repr (Json.str context.environmentClass)} is not covered by policy"
    |>.denyWhen (actionDenied action policy) "action type is explicitly denied"
    |>.denyWhen (actionUnlisted action policy) "action type is not in the policy allowlist"
    |>.denyWhen (riskDisallowed action policy) s!"risk class {action.risk.riskClass.text} is not allowed"
    |>.denyWhen (gaps ≠ []) s!"missing capabilities: {Text.joinComma gaps}"
    |>.denyWhen (modeUnsupported definition context)
      s!"action type does not support execution mode {python.repr (Json.str context.executionMode)}"
    |>.denyWhen (fingerprintMismatch policy context)
      "target fingerprint does not match the registered environment"
    |>.denyWhen (budgetExhausted policy context) "mutation budget exhausted"
    |>.denyWhen (invalid ≠ []) s!"targets outside policy scope: {Text.joinComma invalid}"

end Gates

section Approvals

variable (python : Python) (now : Int)

/-- `item.operation_id and item.action_id in {None, action.action_id}` -/
def applicable (action : ActionInstance) (approval : ApprovalRecord) : Bool :=
  approval.operationId ≠ "" ∧ (approval.actionId = none ∨ approval.actionId = some action.actionId)

inductive Validity where
  | active | expired | malformed
deriving DecidableEq, Repr

def validity (approval : ApprovalRecord) : Validity :=
  match approval.expiresAtIso with
  | none => .active
  | some text =>
    if text = "" then .active
    else match python.fromIsoFormat (Text.replaceChar text 'Z' "+00:00") with
      | none => .malformed
      | some expires => if expires.instant ≤ now then .expired else .active

/-- One round of the loop over the applicable approvals. -/
def readApproval (state : Verdict × List ApprovalRecord) (approval : ApprovalRecord) :
    Verdict × List ApprovalRecord :=
  match validity python now approval with
  | .malformed =>
    (state.1.denyWhen true s!"approval {approval.approvalId} has an invalid expiration timestamp",
      state.2)
  | .expired => state
  | .active => (state.1, state.2 ++ [approval])

def rejectingApprovers (active : List ApprovalRecord) : List String :=
  sortedSet ((active.filter fun approval => approval.decision = .reject).map ApprovalRecord.approverId)

def approvingApprovers (active : List ApprovalRecord) : List String :=
  ((active.filter fun approval => approval.decision = .approve).map ApprovalRecord.approverId).dedup

/-- `approval_required` never replaces a `deny`. -/
def Verdict.awaitWhen (verdict : Verdict) (missing : Int) : Verdict :=
  if verdict.outcome ≠ .deny ∧ 0 < missing then
    { outcome := .approvalRequired
      reasons := verdict.reasons ++ [s!"{missing} additional distinct approval(s) required"] }
  else verdict

end Approvals

section Evaluate

variable (python : Python) (now : Int) (action : ActionInstance) (definition : ActionTypeDefinition)
  (policy : ExecutionPolicy) (context : PolicyContext) (approvals : List ApprovalRecord)

def judge : Verdict :=
  let (verdict, active) := (approvals.filter (applicable action)).foldl (readApproval python now)
    (gates python action definition policy context, [])
  let rejecting := rejectingApprovers active
  let missing := requiredApprovals action policy - (approvingApprovers active).length
  ((verdict.denyWhen (rejecting ≠ []) s!"execution rejected by: {Text.joinComma rejecting}").awaitWhen
    missing).denyWhen (breakGlassDisallowed policy context)
      "break-glass execution is not allowed by policy"

/-- The record built from the verdict. -/
def issue (evaluatedAtIso : String) : PolicyDecision :=
  let verdict := judge python now action definition policy context approvals
  { decisionId := s!"decision:{action.actionId}:{policy.policyId}"
    policyId := policy.policyId
    actionId := action.actionId
    outcome := verdict.outcome
    reasons := if verdict.reasons = [] then
      ["action satisfies policy scope, risk, capability, and approval requirements"]
      else verdict.reasons
    requiredApprovalCount := (requiredApprovals action policy).toNat
    evaluatedAtIso := some evaluatedAtIso
    capabilityGaps := capabilityGaps definition policy context
    requiresCheckpoint := action.risk.riskClass ∈ policy.requireCheckpointForRisk ∨
      action.checkpointBefore
    metadata := Dict.ofList [("risk_rank", .int (riskOrder action.risk.riskClass))] }

/-- `PolicyDecision` requires `required_approval_count >= 0`, the policy's table does not. -/
def evaluate (evaluatedAtIso : String) : Except PyError PolicyDecision :=
  if requiredApprovals action policy < 0 then
    .error (.validationError "required_approval_count: Input should be greater than or equal to 0")
  else .ok (issue python now action definition policy context approvals evaluatedAtIso)

end Evaluate

end KubeOps.Policy
