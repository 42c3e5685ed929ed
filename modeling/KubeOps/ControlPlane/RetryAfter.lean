import KubeOps.ControlPlane.LimiterAgreement
import KubeOps.Governance.Retry

/-! The seconds that a delayed request is told to wait, by the durable decision and by the
core limiter. -/
namespace KubeOps.ControlPlane

open KubeOps.Foundation KubeOps.Models KubeOps.Governance

namespace GovernanceCall

variable {call : GovernanceCall} {tables : GovernanceTables} {rule : RateLimitRule} {rules : List RateLimitRule}
  {findings : Findings} {oldest : Int} {seconds : Nat} {decisionUuid usageUuid : String} {now : Int}

def later (call : GovernanceCall) (now : Int) (decisionUuid usageUuid : String) : GovernanceCall :=
  { call with now, decisionUuid, usageUuid }

/-- No concurrency rule speaks against the request. -/
def Unobstructed (call : GovernanceCall) (tables : GovernanceTables) : Prop :=
  ∀ rule ∈ tables.enabledConcurrencyRules call.workspaceId, call.Free tables rule

/-- A request that only rate rules delay is let through when it waits as long as it is told. -/
def RetrySuffices (call : GovernanceCall) (tables : GovernanceTables) : Prop :=
  (call.decision tables).outcome = .delay → call.Unobstructed tables →
    ∀ seconds decisionUuid usageUuid, (call.decision tables).retryAfterSeconds = some seconds →
      ((call.later (call.now + timedelta seconds) decisionUuid usageUuid).decision
        (call.evaluate tables).2).outcome = .allow

structure Full (call : GovernanceCall) (tables : GovernanceTables) (rule : RateLimitRule) : Prop where
  applies : Names rule.operation call.operation
  full : rule.budget ≤ (call.counted tables rule).length

def usageAt (call : GovernanceCall) (tables : GovernanceTables) (rule : RateLimitRule) (now : Int) : List Int :=
  since (now - rule.width) (tables.usageOf call.workspaceId call.operation)

/-- The oldest request of the rule leaves its window a whole number of seconds from now,
and by then every rule has room. -/
def ReleasesOnTime (call : GovernanceCall) (tables : GovernanceTables) (rule : RateLimitRule) : Prop :=
  ∃ oldest, (call.counted tables rule).min? = some oldest ∧
    (∃ seconds : Nat, oldest + rule.width = call.now + timedelta seconds) ∧
    ∀ other ∈ tables.enabledRateRules call.workspaceId, Names other.operation call.operation →
      (call.usageAt tables other (oldest + rule.width)).length < other.budget

theorem not_full_iff : ¬ call.Full tables rule ↔ call.Spare tables rule := by
  constructor
  · intro h hnames
    by_contra hfull
    exact h ⟨hnames, not_lt.mp hfull⟩
  · intro h hfull
    exact absurd hfull.full (not_le.mpr (h hfull.applies))

theorem rate_retryAfter_of_full (h : call.Full tables rule)
    (holdest : (call.counted tables rule).min? = some oldest) :
    (call.rate tables findings rule).retryAfter =
      some (max (findings.retryAfter.getD 0) (wholeSeconds (oldest + rule.width - call.now))) := by
  rw [rate, if_pos h.applies]
  dsimp only
  rw [if_neg (not_lt.mpr h.full), holdest]

theorem rate_retryAfter_of_spare (h : call.Spare tables rule) :
    (call.rate tables findings rule).retryAfter = findings.retryAfter := by
  unfold rate
  by_cases hnames : Names rule.operation call.operation
  · rw [if_pos hnames]
    dsimp only
    rw [if_pos (h hnames)]
  · rw [if_neg hnames]

theorem le_rates_retryAfter (findings : Findings) (hrule : rule ∈ rules) (h : call.Full tables rule)
    (holdest : (call.counted tables rule).min? = some oldest) :
    ∃ seconds, (rules.foldl (call.rate tables) findings).retryAfter = some seconds ∧
      wholeSeconds (oldest + rule.width - call.now) ≤ seconds := by
  induction rules using List.reverseRecOn with
  | nil => exact absurd hrule List.not_mem_nil
  | append_singleton rules last ih =>
    rw [List.foldl_concat]
    by_cases hlast : call.Full tables last
    · obtain ⟨stamp, hstamp⟩ := exists_oldest _ hlast.full
      refine ⟨_, rate_retryAfter_of_full hlast hstamp, ?_⟩
      rcases List.mem_append.mp hrule with hearlier | hself
      · obtain ⟨seconds, hseconds, hle⟩ := ih hearlier
        rw [hseconds]
        exact hle.trans (le_max_left ..)
      · rw [List.mem_singleton] at hself
        subst hself
        rw [holdest, Option.some_inj] at hstamp
        rw [hstamp]
        exact le_max_right ..
    · rw [rate_retryAfter_of_spare (not_full_iff.mp hlast)]
      rcases List.mem_append.mp hrule with hearlier | hself
      · exact ih hearlier
      · rw [List.mem_singleton.mp hself] at h
        exact absurd h hlast

theorem rates_retryAfter_attained (h : (rules.foldl (call.rate tables) {}).retryAfter = some seconds) :
    ∃ rule ∈ rules, call.Full tables rule ∧ ∃ oldest, (call.counted tables rule).min? = some oldest ∧
      wholeSeconds (oldest + rule.width - call.now) = seconds := by
  induction rules using List.reverseRecOn generalizing seconds with
  | nil => cases h
  | append_singleton rules last ih =>
    rw [List.foldl_concat] at h
    by_cases hlast : call.Full tables last
    · obtain ⟨oldest, holdest⟩ := exists_oldest _ hlast.full
      rw [rate_retryAfter_of_full hlast holdest, Option.some_inj] at h
      cases hbefore : (rules.foldl (call.rate tables) {}).retryAfter with
      | none =>
        rw [hbefore, Option.getD_none, Nat.zero_max] at h
        exact ⟨last, by simp, hlast, oldest, holdest, h⟩
      | some before =>
        rw [hbefore, Option.getD_some] at h
        rcases max_choice before (wholeSeconds (oldest + last.width - call.now)) with hmax | hmax
        · obtain ⟨rule, hrule, hfound⟩ := ih (hbefore.trans (congrArg some (hmax.symm.trans h)))
          exact ⟨rule, List.mem_append_left _ hrule, hfound⟩
        · exact ⟨last, by simp, hlast, oldest, holdest, hmax.symm.trans h⟩
    · rw [rate_retryAfter_of_spare (not_full_iff.mp hlast)] at h
      obtain ⟨rule, hrule, hfound⟩ := ih h
      exact ⟨rule, List.mem_append_left _ hrule, hfound⟩

theorem concurrency_retryAfter (call : GovernanceCall) (tables : GovernanceTables) (findings : Findings)
    (rule : ConcurrencyRule) : (call.concurrency tables findings rule).retryAfter = findings.retryAfter := by
  unfold concurrency
  split <;> rfl

theorem retryAfterSeconds_eq : (call.decision tables).retryAfterSeconds =
    ((tables.enabledRateRules call.workspaceId).foldl (call.rate tables) {}).retryAfter :=
  foldl_keeps (fun acc rule => concurrency_retryAfter call tables acc rule) _ _

theorem delay_iff (hfree : call.Unobstructed tables) : (call.decision tables).outcome = .delay ↔
    ∃ rule ∈ tables.enabledRateRules call.workspaceId, call.Full tables rule := by
  have hallow : (call.decision tables).outcome = .allow ↔
      ∀ rule ∈ tables.enabledRateRules call.workspaceId, ¬ call.Full tables rule := by
    rw [decision_allow]
    exact (and_iff_left hfree).trans (forall₂_congr fun rule _ => not_full_iff.symm)
  have hdelay : (call.decision tables).outcome = .delay ↔ ¬ (call.decision tables).outcome = .allow := by
    simp only [decision]
    split <;> simp
  rw [hdelay, hallow]
  push Not
  rfl

theorem evaluate_delayed (h : (call.decision tables).outcome = .delay) : (call.evaluate tables).2 = tables := by
  have hunrecorded : ¬ call.Recorded tables := by
    intro hrecorded
    rw [Recorded, h] at hrecorded
    exact absurd hrecorded.1 (by decide)
  rw [evaluate, if_neg hunrecorded]

theorem allow_later (hfree : call.Unobstructed tables) :
    ((call.later now decisionUuid usageUuid).decision tables).outcome = .allow ↔
      ∀ rule ∈ tables.enabledRateRules call.workspaceId, Names rule.operation call.operation →
        (call.usageAt tables rule now).length < rule.budget := by
  rw [decision_allow]
  exact and_iff_left hfree

theorem retrySuffices_iff (call : GovernanceCall) (tables : GovernanceTables) :
    call.RetrySuffices tables ↔ ((∃ rule ∈ tables.enabledRateRules call.workspaceId, call.Full tables rule) →
      call.Unobstructed tables →
        ∃ rule ∈ tables.enabledRateRules call.workspaceId, call.Full tables rule ∧
          call.ReleasesOnTime tables rule) := by
  constructor
  · intro h hsome hfree
    have hdelay := (delay_iff hfree).mpr hsome
    obtain ⟨rule, hrule, hfull⟩ := hsome
    obtain ⟨oldest, holdest⟩ := exists_oldest _ hfull.full
    obtain ⟨seconds, hseconds, -⟩ := le_rates_retryAfter {} hrule hfull holdest
    have hallow := h hdelay hfree seconds "" "" (retryAfterSeconds_eq.trans hseconds)
    rw [evaluate_delayed hdelay, allow_later hfree] at hallow
    obtain ⟨slowest, hslowest, hfullSlowest, stamp, hstamp, rfl⟩ := rates_retryAfter_attained hseconds
    refine ⟨slowest, hslowest, hfullSlowest, stamp, hstamp, ?_⟩
    have hself := hallow slowest hslowest hfullSlowest.applies
    have hin : call.now - slowest.width < stamp := lt_of_min_since hstamp
    have hle : timedelta (wholeSeconds (stamp + slowest.width - call.now)) ≤
        stamp + slowest.width - call.now := timedelta_wholeSeconds_le (by omega)
    have hnow : call.now ≤ call.now + timedelta (wholeSeconds (stamp + slowest.width - call.now)) := by
      rw [timedelta]
      omega
    have hexact : call.now + timedelta (wholeSeconds (stamp + slowest.width - call.now)) =
        stamp + slowest.width := by
      by_contra hne
      have hsame := since_before_oldest hstamp hnow (by omega)
      rw [usageAt, hsame] at hself
      exact absurd hfullSlowest.full (not_le.mpr hself)
    rw [hexact] at hallow
    exact ⟨⟨_, hexact.symm⟩, hallow⟩
  · intro h hdelay hfree seconds decisionUuid usageUuid hseconds
    rw [evaluate_delayed hdelay, allow_later hfree]
    obtain ⟨rule, hrule, hfull, oldest, holdest, ⟨exact, hexact⟩, hroom⟩ :=
      h ((delay_iff hfree).mp hdelay) hfree
    obtain ⟨longest, hlongest, hle⟩ := le_rates_retryAfter {} hrule hfull holdest
    obtain rfl := Option.some.inj (hlongest.symm.trans (retryAfterSeconds_eq.symm.trans hseconds))
    have hduration : oldest + rule.width - call.now = timedelta exact := by omega
    rw [hduration, wholeSeconds_timedelta] at hle
    intro other hother hnames
    refine lt_of_le_of_lt ?_ (hroom other hother hnames)
    have hcutoff : oldest + rule.width - other.width ≤ call.now + timedelta longest - other.width := by
      rw [hexact, timedelta, timedelta]
      omega
    rw [usageAt, usageAt, ← since_since hcutoff]
    exact List.length_filter_le _ _

end GovernanceCall

/-- When the seconds that a delayed request is told to wait are enough: in the core limiter for
every list of rules, there with an id for each rule, and in the durable decision. -/
theorem retry_suffices_iff (limiter : GovernanceLimiter) (request : GovernanceRequest)
    (call : GovernanceCall) (tables : GovernanceTables) :
    (limiter.RetrySuffices request ↔
      (limiter.Unobstructed request → ∀ index rule oldest,
        LastFull limiter.usage limiter.rateRules request index rule →
        (Governance.counted limiter.usage limiter.rateRules request index rule).min? = some oldest →
          limiter.RoomAt request
            (request.now + timedelta (wholeSeconds (oldest + rule.width - request.now))))) ∧
    ((limiter.rateRules.map RateLimitRule.ruleId).Nodup → (limiter.RetrySuffices request ↔
      (limiter.Unobstructed request → ∀ index rule,
        LastFull limiter.usage limiter.rateRules request index rule →
          limiter.ReleasesOnTime request rule))) ∧
    (call.RetrySuffices tables ↔
      ((∃ rule ∈ tables.enabledRateRules call.workspaceId, call.Full tables rule) →
        call.Unobstructed tables →
          ∃ rule ∈ tables.enabledRateRules call.workspaceId, call.Full tables rule ∧
            call.ReleasesOnTime tables rule)) :=
  ⟨limiter.retrySuffices_iff request, GovernanceLimiter.retrySuffices_distinct, call.retrySuffices_iff tables⟩

/-! Workspace `w1` permits one creation in ten seconds. -/
namespace RetryFleet

theorem valid_ten : 1 ≤ 10 := Nat.le_add_left 1 9

def slowRule : RateLimitRule :=
  { ruleId := "slow", scopeType := "workspace", scopeId := "w1", operation := "operation.create", limit := 1,
    windowSeconds := 10, valid_limit := CreateLimits.valid_one, valid_window := valid_ten }

def limiter (past : Int) : GovernanceLimiter := ⟨[slowRule], [], Dict.ofList [("slow", [past])]⟩

def tables (past : Int) : GovernanceTables where
  rateRules := Table.empty.put ⟨"w1", slowRule⟩
  concurrencyRules := Table.empty
  usage := [{
    usageId := "usage:1", workspaceId := "w1", operation := "operation.create", targetId := none
    decisionId := "governance:1", occurredAt := past
    payload := { decisionId := "governance:1", outcome := .allow, evaluatedAt := past } }]

def input (now : Int) : GovernanceInput := { operation := "operation.create", now }

/-- One second after a creation, the nine seconds are exact. -/
theorem limiter_releases : (limiter 0).RetrySuffices ((input 1000000).request "w1") := by
  apply ((retry_suffices_iff (limiter 0) _ ((input 1000000).call "w1") (tables 0)).2.1 (by decide)).mpr
  intro _ index rule hlast
  obtain rfl : slowRule = rule := by
    have hmem := List.mem_of_getElem? hlast.place
    exact (List.mem_singleton.mp hmem).symm
  refine ⟨0, by decide, ⟨9, by decide⟩, ?_⟩
  intro other hother _
  rw [List.mem_singleton.mp hother]
  decide

/-- Half a second after a creation, nine of the nine and a half seconds are waited for, and the
request is delayed again. -/
theorem half_second_lost :
    ((limiter 500000).decision ((input 1000000).request "w1")).reasons = ["rate limit slow exceeded"] ∧
    ((limiter 500000).decision ((input 1000000).request "w1")).retryAfterSeconds = some 9 ∧
    (((limiter 500000).evaluate ((input 1000000).request "w1")).2.decision
      ((input 10000000).request "w1")).outcome = .delay ∧
    (((input 1000000).call "w1").decision (tables 500000)).reasons = ["rate limit slow exceeded"] ∧
    (((input 1000000).call "w1").decision (tables 500000)).retryAfterSeconds = some 9 ∧
    (((input 10000000).call "w1").decision
      (((input 1000000).call "w1").evaluate (tables 500000)).2).outcome = .delay := by
  decide

end RetryFleet

end KubeOps.ControlPlane
