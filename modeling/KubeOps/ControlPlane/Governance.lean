import KubeOps.Foundation.Table
import KubeOps.Governance.Limits
import Mathlib.Data.List.Sort

/-! Governance rules and usage in the database, and the decision made from them.
A decision is one step: it holds the lock of its workspace. -/
namespace KubeOps.ControlPlane

open KubeOps.Foundation KubeOps.Models KubeOps.Governance

/-- The columns `rule_id`, `operation` and `enabled` are written from the document. -/
structure RateLimitRuleRecord where
  workspaceId : String
  payload : RateLimitRule
deriving DecidableEq, Repr

structure ConcurrencyRuleRecord where
  workspaceId : String
  payload : ConcurrencyRule
deriving DecidableEq, Repr

def RateLimitRuleRecord.ruleId (row : RateLimitRuleRecord) : String := row.payload.ruleId
def ConcurrencyRuleRecord.ruleId (row : ConcurrencyRuleRecord) : String := row.payload.ruleId

structure GovernanceUsageRecord where
  usageId : String
  workspaceId : String
  operation : String
  targetId : Option String
  decisionId : String
  occurredAt : Int
  terminal : Bool := false
  payload : GovernanceDecision

/-- Rows of usage stand in the order of their creation; no lookup goes by their ids. -/
structure GovernanceTables where
  rateRules : Table String RateLimitRuleRecord RateLimitRuleRecord.ruleId
  concurrencyRules : Table String ConcurrencyRuleRecord ConcurrencyRuleRecord.ruleId
  usage : List GovernanceUsageRecord := []

namespace GovernanceTables

variable (tables : GovernanceTables) (workspaceId : String)

/-- `filter(workspace=..., enabled=True)` in the order of the table's `Meta` -/
def enabledRateRules : List RateLimitRule :=
  ((tables.rateRules.rows.filter fun row => row.workspaceId = workspaceId ∧ row.payload.enabled).map
    RateLimitRuleRecord.payload).insertionSort fun left right =>
      left.operation < right.operation ∨ left.operation = right.operation ∧ left.ruleId ≤ right.ruleId

def enabledConcurrencyRules : List ConcurrencyRule :=
  ((tables.concurrencyRules.rows.filter fun row => row.workspaceId = workspaceId ∧ row.payload.enabled).map
    ConcurrencyRuleRecord.payload).insertionSort fun left right =>
      left.operationType < right.operationType ∨
        left.operationType = right.operationType ∧ left.ruleId ≤ right.ruleId

/-- `filter(workspace=..., operation=...)`, by `occurred_at` -/
def usageOf (operation : String) : List Int :=
  (tables.usage.filter fun row => row.workspaceId = workspaceId ∧ row.operation = operation).map
    GovernanceUsageRecord.occurredAt

def Holds (operation target : String) (row : GovernanceUsageRecord) : Prop :=
  row.workspaceId = workspaceId ∧ row.operation = operation ∧ row.targetId = some target ∧
    row.terminal = false

instance (operation target : String) : DecidablePred (Holds workspaceId operation target) := by
  intro row
  unfold Holds
  infer_instance

end GovernanceTables

/-- The arguments of `evaluate_governance`, with the clock and the generated ids. -/
structure GovernanceCall where
  workspaceId : String
  operation : String
  activeCount : Int
  targetId : Option String := none
  recordUsage : Bool := true
  now : Int
  decisionUuid : String := ""
  usageUuid : String := ""
deriving DecidableEq, Repr

/-- What the loops of `evaluate_governance` have found. -/
structure Findings where
  reasons : List String := []
  matched : List String := []
  retryAfter : Option Nat := none

namespace GovernanceCall

variable (call : GovernanceCall) (tables : GovernanceTables)

def counted (rule : RateLimitRule) : List Int :=
  since (call.now - rule.width) (tables.usageOf call.workspaceId call.operation)

def rate (findings : Findings) (rule : RateLimitRule) : Findings :=
  if Names rule.operation call.operation then
    let usage := call.counted tables rule
    let matched := findings.matched ++ [rule.ruleId]
    if usage.length < rule.budget then { findings with matched }
    else {
      matched
      retryAfter := match usage.min? with
        | some oldest =>
          some (max (findings.retryAfter.getD 0) (wholeSeconds (oldest + rule.width - call.now)))
        | none => findings.retryAfter
      reasons := findings.reasons ++ [s!"rate limit {rule.ruleId} exceeded"] }
  else findings

/-- The target is set, and a request for it that is not over is on record. -/
def Serialized : Prop :=
  ∃ target ∈ call.targetId, target ≠ "" ∧
    ∃ row ∈ tables.usage, GovernanceTables.Holds call.workspaceId call.operation target row

instance : Decidable (call.Serialized tables) := by
  unfold Serialized
  infer_instance

def concurrency (findings : Findings) (rule : ConcurrencyRule) : Findings :=
  if Names rule.operationType call.operation then
    let limited := if call.activeCount < rule.maximumActive then []
      else [s!"concurrency limit {rule.ruleId} reached"]
    let serialized := if rule.serializeByTarget ∧ call.Serialized tables
      then [s!"target serialization required by {rule.ruleId}"] else []
    { findings with
      matched := findings.matched ++ [rule.ruleId]
      reasons := findings.reasons ++ limited ++ serialized }
  else findings

def findings : Findings :=
  (tables.enabledConcurrencyRules call.workspaceId).foldl (call.concurrency tables)
    ((tables.enabledRateRules call.workspaceId).foldl (call.rate tables) {})

def metadata : List (String × Json) := [
  ("operation", .str call.operation),
  ("active_count", .int call.activeCount),
  ("target_id", match call.targetId with
    | some target => .str target
    | none => .null)]

def decision : GovernanceDecision where
  decisionId := s!"governance:{call.decisionUuid}"
  outcome := if (call.findings tables).reasons = [] then .allow else .delay
  reasons := (call.findings tables).reasons
  retryAfterSeconds := (call.findings tables).retryAfter
  matchedRuleIds := ((call.findings tables).matched.dedup).insertionSort (· ≤ ·)
  evaluatedAt := call.now
  metadata := call.metadata

def usageRow : GovernanceUsageRecord where
  usageId := s!"usage:{call.usageUuid}"
  workspaceId := call.workspaceId
  operation := call.operation
  targetId := call.targetId
  decisionId := (call.decision tables).decisionId
  occurredAt := call.now
  payload := call.decision tables

/-- The decision leaves a row of usage. -/
def Recorded : Prop :=
  (call.decision tables).outcome = .allow ∧ call.recordUsage ∧ (call.findings tables).matched ≠ []

instance : Decidable (call.Recorded tables) := inferInstanceAs (Decidable (_ ∧ _))

/-- `evaluate_governance` -/
def evaluate : GovernanceDecision × GovernanceTables :=
  if call.Recorded tables then
    (call.decision tables, { tables with usage := tables.usage ++ [call.usageRow tables] })
  else (call.decision tables, tables)

end GovernanceCall

section Specification

variable {call : GovernanceCall} {tables : GovernanceTables} {workspaceId : String}

theorem mem_enabledRateRules {rule : RateLimitRule} : rule ∈ tables.enabledRateRules workspaceId ↔
    ∃ row ∈ tables.rateRules.rows, row.workspaceId = workspaceId ∧ row.payload.enabled ∧
      row.payload = rule := by
  rw [GovernanceTables.enabledRateRules, List.mem_insertionSort]
  simp [List.mem_filter, and_assoc]

theorem mem_enabledConcurrencyRules {rule : ConcurrencyRule} :
    rule ∈ tables.enabledConcurrencyRules workspaceId ↔
      ∃ row ∈ tables.concurrencyRules.rows, row.workspaceId = workspaceId ∧ row.payload.enabled ∧
        row.payload = rule := by
  rw [GovernanceTables.enabledConcurrencyRules, List.mem_insertionSort]
  simp [List.mem_filter, and_assoc]

/-- The rows of the request's own operation leave room in the window of the rule. -/
def GovernanceCall.Spare (call : GovernanceCall) (tables : GovernanceTables) (rule : RateLimitRule) : Prop :=
  Names rule.operation call.operation → (call.counted tables rule).length < rule.budget

def GovernanceCall.Free (call : GovernanceCall) (tables : GovernanceTables) (rule : ConcurrencyRule) :
    Prop :=
  Names rule.operationType call.operation →
    call.activeCount < rule.maximumActive ∧ ¬ (rule.serializeByTarget ∧ call.Serialized tables)

theorem rate_reasons (call : GovernanceCall) (tables : GovernanceTables) (findings : Findings)
    (rule : RateLimitRule) : (call.rate tables findings rule).reasons = [] ↔
      findings.reasons = [] ∧ call.Spare tables rule := by
  unfold GovernanceCall.rate GovernanceCall.Spare
  split
  · rename_i hnames
    dsimp only
    split
    · rename_i hroom
      simp [hroom]
    · rename_i hfull
      simp [hnames, hfull]
  · rename_i hother
    simp [hother]

theorem concurrency_reasons (call : GovernanceCall) (tables : GovernanceTables) (findings : Findings)
    (rule : ConcurrencyRule) : (call.concurrency tables findings rule).reasons = [] ↔
      findings.reasons = [] ∧ call.Free tables rule := by
  unfold GovernanceCall.concurrency GovernanceCall.Free
  split
  · rename_i hnames
    simp only [List.append_eq_nil_iff, ite_eq_left_iff, ite_eq_right_iff, List.cons_ne_nil, imp_false,
      not_not, hnames, true_implies, and_assoc]
  · rename_i hother
    simp [hother]

theorem decision_allow : (call.decision tables).outcome = .allow ↔
    (∀ rule ∈ tables.enabledRateRules call.workspaceId, call.Spare tables rule) ∧
      ∀ rule ∈ tables.enabledConcurrencyRules call.workspaceId, call.Free tables rule := by
  have hreasons : (call.decision tables).outcome = .allow ↔ (call.findings tables).reasons = [] := by
    simp [GovernanceCall.decision]
  rw [hreasons, GovernanceCall.findings, foldl_eq_nil (concurrency_reasons call tables),
    foldl_eq_nil (rate_reasons call tables)]
  simp

def Ruled (tables : GovernanceTables) (workspaceId operation : String) : Prop :=
  (∃ rule ∈ tables.enabledRateRules workspaceId, Names rule.operation operation) ∨
    ∃ rule ∈ tables.enabledConcurrencyRules workspaceId, Names rule.operationType operation

theorem rate_matched (call : GovernanceCall) (tables : GovernanceTables) (findings : Findings)
    (rule : RateLimitRule) : (call.rate tables findings rule).matched = [] ↔
      findings.matched = [] ∧ ¬ Names rule.operation call.operation := by
  unfold GovernanceCall.rate
  split
  · rename_i hnames
    dsimp only
    split <;> simp [hnames]
  · rename_i hother
    simp [hother]

theorem concurrency_matched (call : GovernanceCall) (tables : GovernanceTables) (findings : Findings)
    (rule : ConcurrencyRule) : (call.concurrency tables findings rule).matched = [] ↔
      findings.matched = [] ∧ ¬ Names rule.operationType call.operation := by
  unfold GovernanceCall.concurrency
  split
  · rename_i hnames
    simp [hnames]
  · rename_i hother
    simp [hother]

theorem matched_ne_nil : (call.findings tables).matched ≠ [] ↔
    Ruled tables call.workspaceId call.operation := by
  rw [GovernanceCall.findings, ne_eq, foldl_eq_nil (concurrency_matched call tables),
    foldl_eq_nil (rate_matched call tables), Ruled]
  grind

end Specification

/-- `mark_governance_usage_terminal` -/
def markGovernanceUsageTerminal (workspaceId operation target : String) (tables : GovernanceTables) :
    GovernanceTables :=
  { tables with
    usage := tables.usage.map fun row =>
      if GovernanceTables.Holds workspaceId operation target row then { row with terminal := true }
      else row }

end KubeOps.ControlPlane
