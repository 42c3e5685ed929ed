import KubeOps.ControlPlane.Governance

/-! The durable decisions beside those of the core limiter on the same rules and
requests. A wildcard rate rule counts all operations in the one and only the
requested operation in the other. -/
namespace KubeOps.ControlPlane

open KubeOps.Foundation KubeOps.Models KubeOps.Governance

/-- A request for governance with the clock and the generated ids. -/
structure GovernanceInput where
  operation : String
  activeCount : Int := 0
  targetId : Option String := none
  now : Int
  decisionUuid : String := ""
  usageUuid : String := ""
deriving DecidableEq, Repr

namespace GovernanceInput

variable (workspaceId : String) (input : GovernanceInput)

def call : GovernanceCall where
  workspaceId := workspaceId
  operation := input.operation
  activeCount := input.activeCount
  targetId := input.targetId
  now := input.now
  decisionUuid := input.decisionUuid
  usageUuid := input.usageUuid

def request : GovernanceRequest where
  scopeType := "workspace"
  scopeId := workspaceId
  operation := input.operation
  activeCount := input.activeCount
  now := input.now
  uuid := input.decisionUuid

end GovernanceInput

def durableOutcomes (workspaceId : String) (tables : GovernanceTables) :
    List GovernanceInput → List GovernanceOutcome
  | [] => []
  | input :: later =>
    ((input.call workspaceId).decision tables).outcome ::
      durableOutcomes workspaceId ((input.call workspaceId).evaluate tables).2 later

def coreOutcomes (workspaceId : String) (limiter : GovernanceLimiter) :
    List GovernanceInput → List GovernanceOutcome
  | [] => []
  | input :: later =>
    (limiter.decision (input.request workspaceId)).outcome ::
      coreOutcomes workspaceId (limiter.evaluate (input.request workspaceId)).2 later

namespace GovernanceTables

variable (workspaceId : String) (tables : GovernanceTables)

def usageUnder (rule : RateLimitRule) : List Int :=
  (tables.usage.filter fun row => row.workspaceId = workspaceId ∧ Names rule.operation row.operation).map
    GovernanceUsageRecord.occurredAt

/-- Where the usage of all operations exhausts a wildcard rule, the usage of the requested
operation exhausts a rule that names it, or too much is active. -/
def Settled (input : GovernanceInput) : Prop :=
  ∀ rule ∈ tables.enabledRateRules workspaceId, rule.operation = "*" →
    rule.budget ≤ (since (input.now - rule.width) (tables.usageUnder workspaceId rule)).length →
      (∃ other ∈ tables.enabledRateRules workspaceId, Names other.operation input.operation ∧
        other.budget ≤ ((input.call workspaceId).counted tables other).length) ∨
      ∃ other ∈ tables.enabledConcurrencyRules workspaceId, Names other.operationType input.operation ∧
        other.maximumActive ≤ input.activeCount

instance (input : GovernanceInput) : Decidable (tables.Settled workspaceId input) := by
  unfold Settled
  infer_instance

/-- Every request of a sequence finds the usage settled. -/
def AllSettled (tables : GovernanceTables) : List GovernanceInput → Prop
  | [] => True
  | input :: later =>
    tables.Settled workspaceId input ∧ ((input.call workspaceId).evaluate tables).2.AllSettled later

end GovernanceTables

section Agreement

variable {workspaceId : String} {tables : GovernanceTables} {limiter : GovernanceLimiter}
  {input : GovernanceInput} {now : Int}

/-- The enabled rules of the workspace are scoped to it and do not serialize by target, and
no concurrency rule has the id of a rate rule. -/
structure Comparable (workspaceId : String) (tables : GovernanceTables) : Prop where
  rates : ∀ rule ∈ tables.enabledRateRules workspaceId,
    rule.scopeType = "workspace" ∧ rule.scopeId = workspaceId
  concurrencies : ∀ rule ∈ tables.enabledConcurrencyRules workspaceId,
    rule.scopeType = "workspace" ∧ rule.scopeId = workspaceId ∧ rule.serializeByTarget = false
  ids : ∀ rule ∈ tables.enabledRateRules workspaceId, ∀ other ∈ tables.enabledConcurrencyRules workspaceId,
    rule.ruleId ≠ other.ruleId

/-- The limiter has the rules, and in each bucket what the table holds for the rule. -/
structure UsageAligned (workspaceId : String) (tables : GovernanceTables) (limiter : GovernanceLimiter)
    (now : Int) : Prop where
  rates : limiter.rateRules.Perm (tables.enabledRateRules workspaceId)
  concurrencies : limiter.concurrencyRules.Perm (tables.enabledConcurrencyRules workspaceId)
  covers : ∀ rule ∈ limiter.rateRules, Covers rule.width now (tables.usageUnder workspaceId rule)
    ((limiter.usage.get? rule.ruleId).getD [])
  covered : ∀ rule ∈ limiter.rateRules, Covers rule.width now
    ((limiter.usage.get? rule.ruleId).getD []) (tables.usageUnder workspaceId rule)

theorem enabledRateRules_nodup (tables : GovernanceTables) (workspaceId : String) :
    ((tables.enabledRateRules workspaceId).map RateLimitRule.ruleId).Nodup := by
  have hsorted := (List.perm_insertionSort (fun left right : RateLimitRule =>
      left.operation < right.operation ∨ left.operation = right.operation ∧ left.ruleId ≤ right.ruleId)
    ((tables.rateRules.rows.filter fun row => row.workspaceId = workspaceId ∧ row.payload.enabled).map
      RateLimitRuleRecord.payload)).map RateLimitRule.ruleId
  rw [GovernanceTables.enabledRateRules, hsorted.nodup_iff, List.map_map]
  exact tables.rateRules.nodup_rows.sublist (List.filter_sublist.map _)

theorem mem_scoped {rule : RateLimitRule} (hcomparable : Comparable workspaceId tables)
    (hrule : rule ∈ tables.enabledRateRules workspaceId) :
    rule.Matches (input.request workspaceId) ↔ Names rule.operation input.operation := by
  obtain ⟨row, -, -, henabled, rfl⟩ := mem_enabledRateRules.mp hrule
  obtain ⟨htype, hid⟩ := hcomparable.rates _ hrule
  simp [RateLimitRule.Matches, GovernanceInput.request, henabled, htype, hid]

theorem mem_scoped_concurrency {rule : ConcurrencyRule} (hcomparable : Comparable workspaceId tables)
    (hrule : rule ∈ tables.enabledConcurrencyRules workspaceId) :
    rule.Matches (input.request workspaceId) ↔ Names rule.operationType input.operation := by
  obtain ⟨row, -, -, henabled, rfl⟩ := mem_enabledConcurrencyRules.mp hrule
  obtain ⟨htype, hid, -⟩ := hcomparable.concurrencies _ hrule
  simp [ConcurrencyRule.Matches, GovernanceInput.request, henabled, htype, hid]

/-- No matching concurrency rule is at its maximum. -/
def Below (workspaceId : String) (tables : GovernanceTables) (input : GovernanceInput) : Prop :=
  ∀ rule ∈ tables.enabledConcurrencyRules workspaceId, Names rule.operationType input.operation →
    input.activeCount < rule.maximumActive

theorem durable_allow (hcomparable : Comparable workspaceId tables) :
    ((input.call workspaceId).decision tables).outcome = .allow ↔
      (∀ rule ∈ tables.enabledRateRules workspaceId, (input.call workspaceId).Spare tables rule) ∧
        Below workspaceId tables input := by
  rw [decision_allow]
  apply and_congr_right
  intro _
  apply forall₂_congr
  intro rule hrule
  have hserial := (hcomparable.concurrencies rule hrule).2.2
  simp [GovernanceCall.Free, GovernanceInput.call, hserial]

namespace UsageAligned

theorem nodup (h : UsageAligned workspaceId tables limiter now) :
    (limiter.rateRules.map RateLimitRule.ruleId).Nodup := by
  rw [(h.rates.map RateLimitRule.ruleId).nodup_iff]
  exact enabledRateRules_nodup tables workspaceId

theorem length_bucket (h : UsageAligned workspaceId tables limiter now) {rule : RateLimitRule}
    (hrule : rule ∈ limiter.rateRules) (hle : now ≤ input.now) :
    (rule.bucket limiter.usage input.now).length =
      (since (input.now - rule.width) (tables.usageUnder workspaceId rule)).length :=
  le_antisymm ((h.covered rule hrule).mono hle).length_le ((h.covers rule hrule).mono hle).length_le

theorem core_allow (h : UsageAligned workspaceId tables limiter now)
    (hcomparable : Comparable workspaceId tables)
    (hle : now ≤ input.now) :
    (limiter.decision (input.request workspaceId)).outcome = .allow ↔
      (∀ rule ∈ tables.enabledRateRules workspaceId, Names rule.operation input.operation →
        (since (input.now - rule.width) (tables.usageUnder workspaceId rule)).length < rule.budget) ∧
        Below workspaceId tables input := by
  rw [GovernanceLimiter.outcome_eq_allow h.nodup]
  apply and_congr
  · constructor
    · intro hspare rule hrule hnames
      have hmem := h.rates.mem_iff.mpr hrule
      rw [← h.length_bucket hmem hle]
      exact hspare rule hmem ((mem_scoped hcomparable hrule).mpr hnames)
    · intro hroom rule hmem hmatches
      have hrule := h.rates.mem_iff.mp hmem
      have hlength := h.length_bucket hmem hle
      exact hlength.trans_lt (hroom rule hrule ((mem_scoped hcomparable hrule).mp hmatches))
  · constructor
    · intro hbelow rule hrule hnames
      have hmatches := (mem_scoped_concurrency hcomparable hrule).mpr hnames
      exact hbelow rule (h.concurrencies.mem_iff.mpr hrule) hmatches
    · intro hbelow rule hmem hmatches
      have hrule := h.concurrencies.mem_iff.mp hmem
      exact hbelow rule hrule ((mem_scoped_concurrency hcomparable hrule).mp hmatches)

end UsageAligned

theorem counted_sublist {rule : RateLimitRule} (hnames : Names rule.operation input.operation) :
    List.Sublist ((input.call workspaceId).counted tables rule)
      (since (input.now - rule.width) (tables.usageUnder workspaceId rule)) := by
  apply List.Sublist.filter
  apply List.Sublist.map
  apply List.monotone_filter_right
  intro row hrow
  obtain ⟨hworkspace, hoperation⟩ := of_decide_eq_true hrow
  have hrule : Names rule.operation row.operation := hoperation ▸ hnames
  exact decide_eq_true ⟨hworkspace, hrule⟩

theorem counted_eq {rule : RateLimitRule} (hnames : Names rule.operation input.operation)
    (hexact : rule.operation ≠ "*") : (input.call workspaceId).counted tables rule =
      since (input.now - rule.width) (tables.usageUnder workspaceId rule) := by
  have hoperation : rule.operation = input.operation := hnames.resolve_right hexact
  rw [GovernanceCall.counted, GovernanceTables.usageOf, GovernanceTables.usageUnder]
  congr 2
  apply List.filter_congr
  intro row _
  simp [GovernanceInput.call, Names, hexact, ← hoperation, eq_comm]

theorem UsageAligned.allow_iff_settled (h : UsageAligned workspaceId tables limiter now)
    (hcomparable : Comparable workspaceId tables) (hle : now ≤ input.now) :
    (((input.call workspaceId).decision tables).outcome = .allow ↔
      (limiter.decision (input.request workspaceId)).outcome = .allow) ↔
        tables.Settled workspaceId input := by
  rw [durable_allow hcomparable, h.core_allow hcomparable hle]
  constructor
  · intro hiff rule hrule hany hfull
    by_contra hnone
    rw [not_or] at hnone
    have hdurable : (∀ rule ∈ tables.enabledRateRules workspaceId,
        (input.call workspaceId).Spare tables rule) ∧ Below workspaceId tables input := by
      constructor
      · intro other hother hnames
        by_contra hexhausted
        exact hnone.1 ⟨other, hother, hnames, Nat.le_of_not_lt hexhausted⟩
      · intro other hother hnames
        by_contra hmany
        exact hnone.2 ⟨other, hother, hnames, Int.not_lt.mp hmany⟩
    exact absurd ((hiff.mp hdurable).1 rule hrule (.inr hany)) (Nat.not_lt.mpr hfull)
  · intro hsettled
    constructor
    · intro hdurable
      obtain ⟨hspare, hbelow⟩ := hdurable
      refine ⟨fun rule hrule hnames => ?_, hbelow⟩
      by_cases hany : rule.operation = "*"
      · -- the wildcard rule is exhausted only where something refuses the request
        by_contra hexhausted
        rcases hsettled rule hrule hany (Nat.le_of_not_lt hexhausted) with
          ⟨other, hother, hother', hfull⟩ | ⟨other, hother, hother', hmany⟩
        · exact absurd (hspare other hother hother') (Nat.not_lt.mpr hfull)
        · exact absurd (hbelow other hother hother') (Int.not_lt.mpr hmany)
      · rw [← counted_eq hnames hany]
        exact hspare rule hrule hnames
    · intro hcore
      exact ⟨fun rule hrule hnames =>
        (counted_sublist hnames).length_le.trans_lt (hcore.1 rule hrule hnames), hcore.2⟩

theorem decision_eq_delay (call : GovernanceCall) (tables : GovernanceTables)
    (h : (call.decision tables).outcome ≠ .allow) : (call.decision tables).outcome = .delay := by
  simp only [GovernanceCall.decision] at h ⊢
  split
  · rename_i hnone
    exact absurd (if_pos hnone) h
  · rfl

theorem core_eq_delay (limiter : GovernanceLimiter) (request : GovernanceRequest)
    (h : (limiter.decision request).outcome ≠ .allow) : (limiter.decision request).outcome = .delay := by
  simp only [GovernanceLimiter.decision, Review.outcome] at h ⊢
  split
  · rename_i hnone
    exact absurd (if_pos hnone) h
  · rfl

theorem outcomes_eq_iff (call : GovernanceCall) (request : GovernanceRequest) :
    (call.decision tables).outcome = (limiter.decision request).outcome ↔
      ((call.decision tables).outcome = .allow ↔ (limiter.decision request).outcome = .allow) := by
  constructor
  · intro heq
    rw [heq]
  · intro hiff
    by_cases hallow : (call.decision tables).outcome = .allow
    · rw [hallow, hiff.mp hallow]
    · rw [decision_eq_delay call tables hallow,
        core_eq_delay limiter request fun hcore => hallow (hiff.mpr hcore)]

theorem evaluate_rules (call : GovernanceCall) (tables : GovernanceTables) :
    (call.evaluate tables).2.rateRules = tables.rateRules ∧
      (call.evaluate tables).2.concurrencyRules = tables.concurrencyRules := by
  unfold GovernanceCall.evaluate
  split <;> exact ⟨rfl, rfl⟩

theorem usageUnder_evaluate {rule : RateLimitRule} (hrule : rule ∈ tables.enabledRateRules workspaceId) :
    ((input.call workspaceId).evaluate tables).2.usageUnder workspaceId rule =
      tables.usageUnder workspaceId rule ++
        if ((input.call workspaceId).decision tables).outcome = .allow ∧
          Names rule.operation input.operation then [input.now] else [] := by
  have hruled (hnames : Names rule.operation input.operation) :
      ((input.call workspaceId).findings tables).matched ≠ [] :=
    matched_ne_nil.mpr (.inl ⟨rule, hrule, hnames⟩)
  unfold GovernanceCall.evaluate
  split
  · rename_i hrecorded
    rw [GovernanceTables.usageUnder, List.filter_append, List.map_append, GovernanceTables.usageUnder]
    congr 1
    by_cases hnames : Names rule.operation input.operation
    · rw [if_pos ⟨hrecorded.1, hnames⟩]
      simp [hnames, GovernanceCall.usageRow, GovernanceInput.call]
    · rw [if_neg fun hallowed => hnames hallowed.2]
      simp [hnames, GovernanceCall.usageRow, GovernanceInput.call]
  · rename_i hskipped
    rw [if_neg, List.append_nil]
    rintro ⟨hallow, hnames⟩
    exact hskipped ⟨hallow, rfl, hruled hnames⟩

theorem evaluate_enabled (call : GovernanceCall) (tables : GovernanceTables) (workspaceId : String) :
    (call.evaluate tables).2.enabledRateRules workspaceId = tables.enabledRateRules workspaceId ∧
      (call.evaluate tables).2.enabledConcurrencyRules workspaceId =
        tables.enabledConcurrencyRules workspaceId := by
  obtain ⟨hrates, hconcurrencies⟩ := evaluate_rules call tables
  rw [GovernanceTables.enabledRateRules, hrates, GovernanceTables.enabledConcurrencyRules, hconcurrencies]
  exact ⟨rfl, rfl⟩

theorem Comparable.evaluate (h : Comparable workspaceId tables) (call : GovernanceCall) :
    Comparable workspaceId (call.evaluate tables).2 := by
  obtain ⟨hrates, hconcurrencies⟩ := evaluate_enabled call tables workspaceId
  constructor
  · rw [hrates]
    exact h.rates
  · rw [hconcurrencies]
    exact h.concurrencies
  · rw [hrates, hconcurrencies]
    exact h.ids

theorem UsageAligned.evaluate (h : UsageAligned workspaceId tables limiter now)
    (hcomparable : Comparable workspaceId tables) (hle : now ≤ input.now)
    (hagree : ((input.call workspaceId).decision tables).outcome = .allow ↔
      (limiter.decision (input.request workspaceId)).outcome = .allow) :
    UsageAligned workspaceId ((input.call workspaceId).evaluate tables).2
      (limiter.evaluate (input.request workspaceId)).2 input.now := by
  obtain ⟨hrates, hconcurrencies⟩ := evaluate_enabled (input.call workspaceId) tables workspaceId
  have hlater : now ≤ (input.request workspaceId).now := hle
  have hrecorded : ∀ rule ∈ limiter.rateRules,
      ((input.call workspaceId).evaluate tables).2.usageUnder workspaceId rule =
        tables.usageUnder workspaceId rule ++
          if (limiter.decision (input.request workspaceId)).outcome = .allow ∧
            rule.Matches (input.request workspaceId) then [(input.request workspaceId).now] else [] := by
    intro rule hmem
    have hrule := h.rates.mem_iff.mp hmem
    rw [usageUnder_evaluate hrule]
    simp only [hagree, mem_scoped hcomparable hrule]
    rfl
  constructor
  · rw [hrates]
    exact h.rates
  · rw [hconcurrencies]
    exact h.concurrencies
  · intro rule hmem
    rw [hrecorded rule hmem]
    exact GovernanceLimiter.evaluate_covers h.nodup hmem (h.covers rule hmem) hlater
  · intro rule hmem
    have hown : rule.ruleId ∉ limiter.concurrencyRules.map ConcurrencyRule.ruleId := by
      rw [List.mem_map]
      rintro ⟨other, hother, hid⟩
      exact hcomparable.ids rule (h.rates.mem_iff.mp hmem) other (h.concurrencies.mem_iff.mp hother) hid.symm
    rw [hrecorded rule hmem]
    exact GovernanceLimiter.evaluate_covered h.nodup hmem hown (h.covered rule hmem) hlater

theorem UsageAligned.outcomes_iff {inputs : List GovernanceInput}
    (h : UsageAligned workspaceId tables limiter now)
    (hcomparable : Comparable workspaceId tables)
    (hordered : (inputs.map GovernanceInput.now).Pairwise (· ≤ ·)) (hnow : ∀ input ∈ inputs, now ≤ input.now) :
    durableOutcomes workspaceId tables inputs = coreOutcomes workspaceId limiter inputs ↔
      tables.AllSettled workspaceId inputs := by
  induction inputs generalizing tables limiter now with
  | nil => simp [durableOutcomes, coreOutcomes, GovernanceTables.AllSettled]
  | cons input inputs ih =>
    rw [List.map_cons, List.pairwise_cons, List.forall_mem_map] at hordered
    rw [List.forall_mem_cons] at hnow
    rw [durableOutcomes, coreOutcomes, List.cons.injEq, outcomes_eq_iff, GovernanceTables.AllSettled]
    rw [← h.allow_iff_settled hcomparable hnow.1]
    apply and_congr_right
    intro hagree
    exact ih (h.evaluate hcomparable hnow.1 hagree) (hcomparable.evaluate _) hordered.2 hordered.1

/-- From unused rules, the durable limiter and the core limiter decide a sequence of
requests alike exactly when every request finds the usage settled. -/
theorem outcomes_eq_iff_settled {rateRules : List RateLimitRule} {concurrencyRules : List ConcurrencyRule}
    {inputs : List GovernanceInput} (hrates : rateRules.Perm (tables.enabledRateRules workspaceId))
    (hconcurrencies : concurrencyRules.Perm (tables.enabledConcurrencyRules workspaceId))
    (hcomparable : Comparable workspaceId tables)
    (hunused : ∀ row ∈ tables.usage, row.workspaceId ≠ workspaceId)
    (hordered : (inputs.map GovernanceInput.now).Pairwise (· ≤ ·)) :
    durableOutcomes workspaceId tables inputs =
        coreOutcomes workspaceId ⟨rateRules, concurrencyRules, ∅⟩ inputs ↔
      tables.AllSettled workspaceId inputs := by
  obtain ⟨first, hfirst⟩ : ∃ first : Int, ∀ input ∈ inputs, first ≤ input.now := by
    cases inputs with
    | nil => exact ⟨0, nofun⟩
    | cons input later =>
      rw [List.map_cons, List.pairwise_cons, List.forall_mem_map] at hordered
      exact ⟨input.now, List.forall_mem_cons.mpr ⟨le_rfl, hordered.1⟩⟩
  have hnone (rule : RateLimitRule) : tables.usageUnder workspaceId rule = [] := by
    rw [GovernanceTables.usageUnder, List.map_eq_nil_iff, List.filter_eq_nil_iff]
    intro row hrow hnames
    exact hunused row hrow (of_decide_eq_true hnames).1
  have haligned : UsageAligned workspaceId tables ⟨rateRules, concurrencyRules, ∅⟩ first := by
    refine ⟨hrates, hconcurrencies, fun rule _ => ?_, fun rule _ => Covers.nil⟩
    rw [hnone]
    exact Covers.nil
  exact haligned.outcomes_iff hcomparable hordered hfirst

end Agreement

/-! Workspace `w1` permits one operation of any kind a minute. -/
namespace WildcardFleet

def anyRule : RateLimitRule :=
  { ruleId := "any", scopeType := "workspace", scopeId := "w1", operation := "*", limit := 1,
    windowSeconds := 60, valid_limit := CreateLimits.valid_one, valid_window := CreateLimits.valid_minute }

def tables : GovernanceTables where
  rateRules := Table.empty.put ⟨"w1", anyRule⟩
  concurrencyRules := Table.empty

/-- Two creations of which a rule permits one, and a dispatch when the minute is over. -/
def inTurn : List GovernanceInput := [
  { operation := "operation.create", now := 0 }, { operation := "operation.create", now := 1000000 },
  { operation := "operation.dispatch", now := 60000000 }]

theorem inTurn_agree : durableOutcomes "w1" tables inTurn = coreOutcomes "w1" ⟨[anyRule], [], ∅⟩ inTurn ↔
    tables.AllSettled "w1" inTurn :=
  outcomes_eq_iff_settled (by decide) (by decide) ⟨by decide, by decide, by decide⟩ (by decide) (by decide)

/-- A creation and a dispatch in one minute. -/
def mixed : List GovernanceInput := [
  { operation := "operation.create", now := 0 }, { operation := "operation.dispatch", now := 1000000 }]

theorem mixed_differ : Comparable "w1" tables ∧
    durableOutcomes "w1" tables mixed = [.allow, .allow] ∧
    coreOutcomes "w1" ⟨[anyRule], [], ∅⟩ mixed = [.allow, .delay] :=
  ⟨⟨by decide, by decide, by decide⟩, by decide, by decide⟩

theorem valid_two : 1 ≤ 2 := Nat.le_succ 1

/-- A concurrency rule with the id of a rate rule has each allowed request counted twice. -/
def sharedRules : GovernanceTables where
  rateRules := Table.empty.put ⟨"w1", { anyRule with
    operation := "operation.create", limit := 2, valid_limit := valid_two }⟩
  concurrencyRules := Table.empty.put ⟨"w1",
    { ruleId := "any", scopeType := "workspace", scopeId := "w1", maximumActive := 2,
      serializeByTarget := false, valid_maximum := valid_two }⟩

def twice : List GovernanceInput := [
  { operation := "operation.create", now := 0 }, { operation := "operation.create", now := 1000000 }]

example : durableOutcomes "w1" sharedRules twice = [.allow, .allow] ∧
    coreOutcomes "w1" ⟨sharedRules.enabledRateRules "w1", sharedRules.enabledConcurrencyRules "w1", ∅⟩ twice =
      [.allow, .delay] := by decide

end WildcardFleet

end KubeOps.ControlPlane
