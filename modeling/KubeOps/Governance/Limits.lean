import KubeOps.Foundation.Dict
import KubeOps.Foundation.Listing
import KubeOps.Foundation.SlidingWindow
import KubeOps.Models.Python
import Mathlib.Algebra.Order.Group.Int
import Mathlib.Data.List.Count

/-! Rate and concurrency rules and the limiter that keeps a bucket of instants for
each rate rule. Instants are microseconds from 1970-01-01T00:00 UTC. -/
namespace KubeOps.Governance

open KubeOps.Foundation KubeOps.Models

structure RateLimitRule where
  ruleId : String
  scopeType : String
  scopeId : String
  operation : String
  limit : Nat
  windowSeconds : Nat
  burst : Nat := 0
  enabled : Bool := true
  valid_limit : 1 ≤ limit
  valid_window : 1 ≤ windowSeconds
deriving DecidableEq, Repr

structure ConcurrencyRule where
  ruleId : String
  scopeType : String
  scopeId : String
  operationType : String := "*"
  maximumActive : Nat
  serializeByTarget : Bool := true
  enabled : Bool := true
  valid_maximum : 1 ≤ maximumActive
deriving DecidableEq, Repr

inductive GovernanceOutcome where
  | allow | deny | delay
deriving DecidableEq, Repr

/-- `evaluated_at_iso` is kept as the instant it is written from. -/
structure GovernanceDecision where
  decisionId : String
  outcome : GovernanceOutcome
  reasons : List String := []
  retryAfterSeconds : Option Nat := none
  matchedRuleIds : List String := []
  evaluatedAt : Int
  metadata : List (String × Json) := []

/-- `rule.operation in {operation, "*"}` -/
def Names (named operation : String) : Prop := named = operation ∨ named = "*"

instance (named operation : String) : Decidable (Names named operation) :=
  inferInstanceAs (Decidable (_ ∨ _))

/-- `timedelta(seconds=...)` -/
def timedelta (seconds : Nat) : Int := seconds * 1000000

/-- `max(0, int(duration.total_seconds()))` -/
def wholeSeconds (duration : Int) : Nat := (duration.tdiv 1000000).toNat

/-- The arguments of `evaluate`, with the instant `at` or the clock gives and the
generated part of the decision's id. -/
structure GovernanceRequest where
  scopeType : String
  scopeId : String
  operation : String
  activeCount : Int := 0
  now : Int
  uuid : String := ""
deriving DecidableEq, Repr

structure GovernanceLimiter where
  rateRules : List RateLimitRule := []
  concurrencyRules : List ConcurrencyRule := []
  usage : Dict String (List Int) := ∅

namespace RateLimitRule

variable (rule : RateLimitRule) (request : GovernanceRequest)

def Matches : Prop :=
  rule.enabled ∧ (rule.scopeType, rule.scopeId) = (request.scopeType, request.scopeId) ∧
    Names rule.operation request.operation

instance : Decidable (rule.Matches request) := inferInstanceAs (Decidable (_ ∧ _))

def width : Int := timedelta rule.windowSeconds

/-- `rule.limit + rule.burst` -/
def budget : Nat := rule.limit + rule.burst

/-- The bucket of the rule without the instants that have left its window. -/
def bucket (usage : Dict String (List Int)) (now : Int) : List Int :=
  since (now - rule.width) ((usage.get? rule.ruleId).getD [])

end RateLimitRule

namespace ConcurrencyRule

variable (rule : ConcurrencyRule) (request : GovernanceRequest)

def Matches : Prop :=
  rule.enabled ∧ (rule.scopeType, rule.scopeId) = (request.scopeType, request.scopeId) ∧
    Names rule.operationType request.operation

instance : Decidable (rule.Matches request) := inferInstanceAs (Decidable (_ ∧ _))

end ConcurrencyRule

/-- What `evaluate` has found while it goes through the rules. -/
structure Review where
  usage : Dict String (List Int)
  reasons : List String := []
  matched : List String := []
  retryAfter : Option Nat := none

namespace Review

variable (request : GovernanceRequest)

def rate (review : Review) (rule : RateLimitRule) : Review :=
  if rule.Matches request then
    let bucket := rule.bucket review.usage request.now
    let matched := review.matched ++ [rule.ruleId]
    let usage := review.usage.set rule.ruleId bucket
    if bucket.length < rule.budget then { review with usage, matched }
    else { review with
      usage, matched
      retryAfter := bucket.min?.map fun oldest => wholeSeconds (oldest + rule.width - request.now)
      reasons := review.reasons ++ [s!"rate limit {rule.ruleId} exceeded"] }
  else review

def concurrency (review : Review) (rule : ConcurrencyRule) : Review :=
  if rule.Matches request then
    let matched := review.matched ++ [rule.ruleId]
    if request.activeCount < rule.maximumActive then { review with matched }
    else { review with
      matched, reasons := review.reasons ++ [s!"concurrency limit {rule.ruleId} reached"] }
  else review

def outcome (review : Review) : GovernanceOutcome := if review.reasons = [] then .allow else .delay

end Review

/-- `if rule_id in self.usage: self.usage[rule_id].append(now)` -/
def record (now : Int) (usage : Dict String (List Int)) (ruleId : String) : Dict String (List Int) :=
  match usage.get? ruleId with
  | some bucket => usage.set ruleId (bucket ++ [now])
  | none => usage

namespace GovernanceLimiter

variable (limiter : GovernanceLimiter) (request : GovernanceRequest)

def review : Review :=
  limiter.concurrencyRules.foldl (Review.concurrency request)
    (limiter.rateRules.foldl (Review.rate request) { usage := limiter.usage })

def decision : GovernanceDecision where
  decisionId := s!"governance:{request.uuid}"
  outcome := (limiter.review request).outcome
  reasons := (limiter.review request).reasons
  retryAfterSeconds := (limiter.review request).retryAfter
  matchedRuleIds := (limiter.review request).matched
  evaluatedAt := request.now

/-- `GovernanceLimiter.evaluate` -/
def evaluate : GovernanceDecision × GovernanceLimiter :=
  let review := limiter.review request
  let usage :=
    if review.reasons = [] then review.matched.foldl (record request.now) review.usage
    else review.usage
  (limiter.decision request, { limiter with usage })

end GovernanceLimiter

section Rules

variable {request : GovernanceRequest} {review : Review} {rule : RateLimitRule}
  {rules : List RateLimitRule} {concurrencyRules : List ConcurrencyRule}

def RateLimitRule.Spare (rule : RateLimitRule) (usage : Dict String (List Int))
    (request : GovernanceRequest) : Prop :=
  rule.Matches request → (rule.bucket usage request.now).length < rule.budget

theorem rate_usage (review : Review) (request : GovernanceRequest) (rule : RateLimitRule)
    (ruleId : String) :
    (review.rate request rule).usage.get? ruleId =
      if rule.Matches request ∧ ruleId = rule.ruleId then some (rule.bucket review.usage request.now)
      else review.usage.get? ruleId := by
  unfold Review.rate
  split
  · rename_i hmatches
    have hset : (review.usage.set rule.ruleId (rule.bucket review.usage request.now)).get? ruleId =
        if rule.Matches request ∧ ruleId = rule.ruleId then some (rule.bucket review.usage request.now)
        else review.usage.get? ruleId := by
      simp [Dict.get?_set, hmatches]
    dsimp only
    split <;> exact hset
  · rename_i hother
    rw [if_neg fun h => hother h.1]

theorem rate_matched (review : Review) (request : GovernanceRequest) (rule : RateLimitRule) :
    (review.rate request rule).matched =
      review.matched ++ if rule.Matches request then [rule.ruleId] else [] := by
  unfold Review.rate
  split
  · dsimp only
    split <;> rfl
  · rw [List.append_nil]

theorem rate_reasons : (review.rate request rule).reasons = [] ↔
    review.reasons = [] ∧ rule.Spare review.usage request := by
  unfold Review.rate RateLimitRule.Spare
  split
  · rename_i hmatches
    dsimp only
    split
    · rename_i hroom
      simp [hroom]
    · rename_i hfull
      simp [hmatches, hfull]
  · rename_i hother
    simp [hother]

theorem rate_bucket {other : RateLimitRule} (h : other.ruleId ≠ rule.ruleId) (now : Int) :
    other.bucket (review.rate request rule).usage now = other.bucket review.usage now := by
  rw [RateLimitRule.bucket, rate_usage, if_neg fun heq => h heq.2, RateLimitRule.bucket]

theorem rates_matched (review : Review) (request : GovernanceRequest) (rules : List RateLimitRule) :
    (rules.foldl (Review.rate request) review).matched =
      review.matched ++ (rules.filter fun rule => rule.Matches request).map RateLimitRule.ruleId := by
  rw [foldl_append fun acc rule => rate_matched acc request rule, flatMap_ite]

theorem rates_reasons (hids : (rules.map RateLimitRule.ruleId).Nodup) :
    (rules.foldl (Review.rate request) review).reasons = [] ↔
      review.reasons = [] ∧ ∀ rule ∈ rules, rule.Spare review.usage request := by
  induction rules generalizing review with
  | nil => simp
  | cons first rules ih =>
    rw [List.map_cons, List.nodup_cons] at hids
    rw [List.foldl_cons, ih hids.2, rate_reasons, List.forall_mem_cons, and_assoc]
    have hothers : (∀ rule ∈ rules, rule.Spare (review.rate request first).usage request) ↔
        ∀ rule ∈ rules, rule.Spare review.usage request := by
      apply forall₂_congr
      intro rule hrule
      have hother : rule.ruleId ≠ first.ruleId := by
        intro heq
        exact hids.1 (heq ▸ List.mem_map_of_mem hrule)
      rw [RateLimitRule.Spare, RateLimitRule.Spare, rate_bucket hother]
    rw [hothers]

theorem rates_usage_other {ruleId : String} (h : ruleId ∉ rules.map RateLimitRule.ruleId) :
    (rules.foldl (Review.rate request) review).usage.get? ruleId = review.usage.get? ruleId := by
  induction rules generalizing review with
  | nil => rfl
  | cons first rules ih =>
    rw [List.map_cons, List.mem_cons, not_or] at h
    rw [List.foldl_cons, ih h.2, rate_usage, if_neg fun heq => h.1 heq.2]

theorem rates_usage (hids : (rules.map RateLimitRule.ruleId).Nodup) (hrule : rule ∈ rules) :
    (rules.foldl (Review.rate request) review).usage.get? rule.ruleId =
      if rule.Matches request then some (rule.bucket review.usage request.now)
      else review.usage.get? rule.ruleId := by
  induction rules generalizing review with
  | nil => cases hrule
  | cons first rules ih =>
    rw [List.map_cons, List.nodup_cons] at hids
    rw [List.foldl_cons]
    rcases List.mem_cons.mp hrule with rfl | hlater
    · rw [rates_usage_other hids.1, rate_usage]
      simp
    · have hother : rule.ruleId ≠ first.ruleId := by
        intro heq
        exact hids.1 (heq ▸ List.mem_map_of_mem hlater)
      have hfirst : (review.rate request first).usage.get? rule.ruleId = review.usage.get? rule.ruleId := by
        rw [rate_usage, if_neg fun heq => hother heq.2]
      rw [ih hids.2 hlater, rate_bucket hother, hfirst]

theorem concurrency_reasons (review : Review) (request : GovernanceRequest) (rule : ConcurrencyRule) :
    (review.concurrency request rule).reasons = [] ↔
      review.reasons = [] ∧ (rule.Matches request → request.activeCount < rule.maximumActive) := by
  unfold Review.concurrency
  split
  · rename_i hmatches
    dsimp only
    split
    · rename_i hroom
      simp [hroom]
    · rename_i hfull
      simp [hmatches, hfull]
  · rename_i hother
    simp [hother]

theorem concurrencies_reasons :
    (concurrencyRules.foldl (Review.concurrency request) review).reasons = [] ↔
      review.reasons = [] ∧
        ∀ rule ∈ concurrencyRules, rule.Matches request → request.activeCount < rule.maximumActive := by
  rw [foldl_eq_nil fun acc rule => concurrency_reasons acc request rule]

theorem concurrency_matched (review : Review) (request : GovernanceRequest) (rule : ConcurrencyRule) :
    (review.concurrency request rule).matched =
      review.matched ++ if rule.Matches request then [rule.ruleId] else [] := by
  unfold Review.concurrency
  split
  · dsimp only
    split <;> rfl
  · rw [List.append_nil]

theorem concurrencies_matched (review : Review) (request : GovernanceRequest)
    (rules : List ConcurrencyRule) :
    (rules.foldl (Review.concurrency request) review).matched =
      review.matched ++ (rules.filter fun rule => rule.Matches request).map ConcurrencyRule.ruleId := by
  rw [foldl_append fun acc rule => concurrency_matched acc request rule, flatMap_ite]

theorem concurrency_usage (review : Review) (request : GovernanceRequest) (rule : ConcurrencyRule) :
    (review.concurrency request rule).usage = review.usage := by
  unfold Review.concurrency
  split
  · dsimp only
    split <;> rfl
  · rfl

theorem concurrencies_usage :
    (concurrencyRules.foldl (Review.concurrency request) review).usage = review.usage :=
  foldl_keeps (fun acc rule => concurrency_usage acc request rule) _ _

theorem get?_records (now : Int) (usage : Dict String (List Int)) (matched : List String)
    (ruleId : String) :
    (matched.foldl (record now) usage).get? ruleId =
      (usage.get? ruleId).map (· ++ List.replicate (matched.count ruleId) now) := by
  induction matched generalizing usage with
  | nil => simp
  | cons first matched ih =>
    have hstep : (record now usage first).get? ruleId =
        (usage.get? ruleId).map (· ++ if ruleId = first then [now] else []) := by
      unfold record
      cases hfirst : usage.get? first with
      | none =>
        by_cases heq : ruleId = first
        · simp [heq, hfirst]
        · simp [heq]
      | some bucket =>
        by_cases heq : ruleId = first
        · simp [heq, hfirst]
        · simp [Dict.get?_set, heq]
    rw [List.foldl_cons, ih, hstep, Option.map_map]
    congr 1
    funext bucket
    by_cases heq : ruleId = first
    · simp [heq, List.replicate_succ]
    · simp [heq, List.count_cons_of_ne (Ne.symm heq)]

end Rules

namespace GovernanceLimiter

def allowed (limiter : GovernanceLimiter) : List GovernanceRequest → List GovernanceRequest
  | [] => []
  | request :: later =>
    (if (limiter.decision request).outcome = .allow then [request] else []) ++
      (limiter.evaluate request).2.allowed later

def after (limiter : GovernanceLimiter) (requests : List GovernanceRequest) : GovernanceLimiter :=
  requests.foldl (fun limiter request => (limiter.evaluate request).2) limiter

variable {limiter : GovernanceLimiter} {request : GovernanceRequest} {rule : RateLimitRule}

theorem review_matched (limiter : GovernanceLimiter) (request : GovernanceRequest) :
    (limiter.review request).matched =
      (limiter.rateRules.filter fun rule => rule.Matches request).map RateLimitRule.ruleId ++
        (limiter.concurrencyRules.filter fun rule => rule.Matches request).map ConcurrencyRule.ruleId := by
  rw [review, concurrencies_matched, rates_matched, List.nil_append]

theorem review_usage (hids : (limiter.rateRules.map RateLimitRule.ruleId).Nodup)
    (hrule : rule ∈ limiter.rateRules) :
    (limiter.review request).usage.get? rule.ruleId =
      if rule.Matches request then some (rule.bucket limiter.usage request.now)
      else limiter.usage.get? rule.ruleId := by
  rw [review, concurrencies_usage, rates_usage hids hrule]

theorem outcome_eq_allow (hids : (limiter.rateRules.map RateLimitRule.ruleId).Nodup) :
    (limiter.decision request).outcome = .allow ↔
      (∀ rule ∈ limiter.rateRules, rule.Spare limiter.usage request) ∧
        ∀ rule ∈ limiter.concurrencyRules, rule.Matches request → request.activeCount < rule.maximumActive := by
  have hreasons : (limiter.decision request).outcome = .allow ↔ (limiter.review request).reasons = [] := by
    simp [decision, Review.outcome]
  rw [hreasons, review, concurrencies_reasons, rates_reasons hids]
  simp

theorem evaluate_usage (limiter : GovernanceLimiter) (request : GovernanceRequest) (ruleId : String) :
    (limiter.evaluate request).2.usage.get? ruleId =
      ((limiter.review request).usage.get? ruleId).map (· ++
        if (limiter.decision request).outcome = .allow then
          List.replicate ((limiter.review request).matched.count ruleId) request.now
        else []) := by
  simp only [evaluate, decision, Review.outcome]
  split
  · rw [get?_records]
    rfl
  · simp

theorem mem_matched (hrule : rule ∈ limiter.rateRules) (hmatches : rule.Matches request) :
    rule.ruleId ∈ (limiter.review request).matched := by
  rw [review_matched]
  apply List.mem_append_left
  exact List.mem_map_of_mem (List.mem_filter.mpr ⟨hrule, decide_eq_true hmatches⟩)

theorem count_matched (request : GovernanceRequest)
    (hids : (limiter.rateRules.map RateLimitRule.ruleId).Nodup) (hrule : rule ∈ limiter.rateRules)
    (hown : rule.ruleId ∉ limiter.concurrencyRules.map ConcurrencyRule.ruleId) :
    (limiter.review request).matched.count rule.ruleId ≤ if rule.Matches request then 1 else 0 := by
  have hothers : rule.ruleId ∉
      (limiter.concurrencyRules.filter fun rule => rule.Matches request).map ConcurrencyRule.ruleId :=
    fun hmem => hown (List.map_subset _ (List.filter_subset_self _) hmem)
  have hsublist : List.Sublist
      ((limiter.rateRules.filter fun rule => rule.Matches request).map RateLimitRule.ruleId)
      (limiter.rateRules.map RateLimitRule.ruleId) := List.filter_sublist.map _
  rw [review_matched, List.count_append, List.count_eq_zero.mpr hothers, Nat.add_zero]
  split
  · exact List.nodup_iff_count_le_one.mp (hids.sublist hsublist) _
  · rename_i hother
    rw [Nat.le_zero, List.count_eq_zero, List.mem_map]
    intro hmem
    obtain ⟨found, hfound, hid⟩ := hmem
    obtain ⟨hmem, hmatches⟩ := List.mem_filter.mp hfound
    obtain rfl : found = rule := List.inj_on_of_nodup_map hids hmem hrule hid
    exact hother (of_decide_eq_true hmatches)

/-- The bucket of a rule after an evaluation. The instant is appended for an allowed match,
and otherwise only where a concurrency rule has the same id. -/
theorem evaluate_held (request : GovernanceRequest)
    (hids : (limiter.rateRules.map RateLimitRule.ruleId).Nodup) (hrule : rule ∈ limiter.rateRules) :
    ∃ n, ((limiter.evaluate request).2.usage.get? rule.ruleId).getD [] =
        (if rule.Matches request then rule.bucket limiter.usage request.now
          else (limiter.usage.get? rule.ruleId).getD []) ++ List.replicate n request.now ∧
      ((limiter.decision request).outcome = .allow ∧ rule.Matches request → 1 ≤ n) ∧
      (rule.ruleId ∉ limiter.concurrencyRules.map ConcurrencyRule.ruleId →
        n ≤ if (limiter.decision request).outcome = .allow ∧ rule.Matches request then 1 else 0) := by
  rw [evaluate_usage, review_usage hids hrule]
  by_cases hallow : (limiter.decision request).outcome = .allow
  · have hcount := count_matched request hids hrule
    by_cases hmatches : rule.Matches request
    · refine ⟨(limiter.review request).matched.count rule.ruleId, ?_, ?_, ?_⟩
      · simp [hmatches, hallow]
      · exact fun _ => List.count_pos_iff.mpr (mem_matched hrule hmatches)
      · simpa [hmatches, hallow] using hcount
    · cases hbucket : limiter.usage.get? rule.ruleId with
      | none => exact ⟨0, by simp [hmatches]⟩
      | some bucket =>
        refine ⟨(limiter.review request).matched.count rule.ruleId, ?_, ?_, ?_⟩
        · simp [hmatches, hallow]
        · exact fun h => absurd h.2 hmatches
        · simpa [hmatches] using hcount
  · refine ⟨0, ?_, ?_, ?_⟩
    · simp only [hallow, if_false, List.append_nil, Option.map_id', List.replicate_zero]
      split <;> rfl
    · exact fun h => absurd h.1 hallow
    · exact fun _ => Nat.zero_le _

theorem evaluate_covers {now : Int} {stamps : List Int}
    (hids : (limiter.rateRules.map RateLimitRule.ruleId).Nodup) (hrule : rule ∈ limiter.rateRules)
    (h : Covers rule.width now stamps ((limiter.usage.get? rule.ruleId).getD []))
    (hle : now ≤ request.now) :
    Covers rule.width request.now
      (stamps ++ if (limiter.decision request).outcome = .allow ∧ rule.Matches request then [request.now]
        else [])
      (((limiter.evaluate request).2.usage.get? rule.ruleId).getD []) := by
  obtain ⟨n, hheld, hsome, -⟩ := evaluate_held request hids hrule
  rw [hheld]
  apply Covers.append
  · split
    · exact (h.mono hle).prune
    · exact h.mono hle
  · split
    · rename_i hallowed
      rw [List.singleton_sublist, List.mem_replicate]
      exact ⟨Nat.one_le_iff_ne_zero.mp (hsome hallowed), rfl⟩
    · exact List.nil_sublist _

theorem evaluate_covered {now : Int} {stamps : List Int}
    (hids : (limiter.rateRules.map RateLimitRule.ruleId).Nodup) (hrule : rule ∈ limiter.rateRules)
    (hown : rule.ruleId ∉ limiter.concurrencyRules.map ConcurrencyRule.ruleId)
    (h : Covers rule.width now ((limiter.usage.get? rule.ruleId).getD []) stamps)
    (hle : now ≤ request.now) :
    Covers rule.width request.now
      (((limiter.evaluate request).2.usage.get? rule.ruleId).getD [])
      (stamps ++ if (limiter.decision request).outcome = .allow ∧ rule.Matches request then [request.now]
        else []) := by
  obtain ⟨n, hheld, -, hfew⟩ := evaluate_held request hids hrule
  have hn := hfew hown
  rw [hheld]
  apply Covers.append
  · split
    · exact (h.mono hle).pruned
    · exact h.mono hle
  · by_cases hallowed : (limiter.decision request).outcome = .allow ∧ rule.Matches request
    · rw [if_pos hallowed] at hn
      rw [if_pos hallowed, ← List.replicate_one, List.replicate_sublist_replicate]
      exact hn
    · rw [if_neg hallowed, Nat.le_zero] at hn
      rw [if_neg hallowed, hn, List.replicate_zero]

theorem room_of_allow {now : Int} {stamps : List Int}
    (hids : (limiter.rateRules.map RateLimitRule.ruleId).Nodup) (hrule : rule ∈ limiter.rateRules)
    (h : Covers rule.width now stamps ((limiter.usage.get? rule.ruleId).getD []))
    (hle : now ≤ request.now) (hallow : (limiter.decision request).outcome = .allow)
    (hmatches : rule.Matches request) :
    (since (request.now - rule.width) stamps).length < rule.budget :=
  (h.mono hle).length_le.trans_lt (((outcome_eq_allow hids).mp hallow).1 rule hrule hmatches)

theorem allowed_bounded {past requests : List GovernanceRequest} {now : Int}
    (hids : (limiter.rateRules.map RateLimitRule.ruleId).Nodup) (hrule : rule ∈ limiter.rateRules)
    (hordered : (requests.map GovernanceRequest.now).Pairwise (· ≤ ·))
    (hnow : ∀ request ∈ requests, now ≤ request.now) (hpast : ∀ request ∈ past, request.now ≤ now)
    (hcovers : Covers rule.width now (past.map GovernanceRequest.now)
      ((limiter.usage.get? rule.ruleId).getD []))
    (hbounded : WindowBounded rule.width rule.budget (past.map GovernanceRequest.now)) :
    WindowBounded rule.width rule.budget
      ((past ++ (limiter.allowed requests).filter fun request => rule.Matches request).map
        GovernanceRequest.now) := by
  induction requests generalizing limiter past now with
  | nil => simpa [allowed] using hbounded
  | cons request requests ih =>
    rw [List.map_cons, List.pairwise_cons, List.forall_mem_map] at hordered
    rw [List.forall_mem_cons] at hnow
    have hstep := evaluate_covers hids hrule hcovers hnow.1
    have hpast' : ∀ other ∈ past, other.now ≤ request.now := fun other hother =>
      (hpast other hother).trans hnow.1
    have hrules : (limiter.evaluate request).2.rateRules = limiter.rateRules := rfl
    rw [allowed, List.filter_append, ← List.append_assoc]
    by_cases hallow : (limiter.decision request).outcome = .allow ∧ rule.Matches request
    · have hroom := room_of_allow hids hrule hcovers hnow.1 hallow.1 hallow.2
      rw [if_pos hallow] at hstep
      have hkept : ([request].filter fun request => rule.Matches request) = [request] := by
        simp [hallow.2]
      rw [if_pos hallow.1, hkept]
      apply ih (hrules ▸ hids) (hrules ▸ hrule) hordered.2 hordered.1
      · simpa [or_imp, forall_and] using hpast'
      · rwa [List.map_append]
      · rw [List.map_append]
        exact hbounded.concat (by simpa using hpast') hroom
    · rw [if_neg hallow, List.append_nil] at hstep
      have hskip : ((if (limiter.decision request).outcome = .allow then [request] else []).filter
          fun request => rule.Matches request) = [] := by
        split
        · rename_i hallowed
          simpa using fun hmatches => hallow ⟨hallowed, hmatches⟩
        · rfl
      rw [hskip, List.append_nil]
      exact ih (hrules ▸ hids) (hrules ▸ hrule) hordered.2 hordered.1 hpast' hstep hbounded

theorem bucket_of_refused {now : Int} (hids : (limiter.rateRules.map RateLimitRule.ruleId).Nodup)
    (hrule : rule ∈ limiter.rateRules) (hrefused : (limiter.decision request).outcome ≠ .allow)
    (hle : request.now ≤ now) :
    rule.bucket (limiter.evaluate request).2.usage now = rule.bucket limiter.usage now := by
  rw [RateLimitRule.bucket, evaluate_usage, review_usage hids hrule, if_neg hrefused]
  simp only [List.append_nil, Option.map_id']
  split
  · rw [Option.getD_some, RateLimitRule.bucket, since_since (sub_le_sub_right hle _)]
    rfl
  · rfl

theorem after_rateRules (limiter : GovernanceLimiter) (requests : List GovernanceRequest) :
    (limiter.after requests).rateRules = limiter.rateRules := by
  induction requests generalizing limiter with
  | nil => rfl
  | cons request requests ih => exact ih (limiter.evaluate request).2

/-- No window of a rule holds more allowed requests than the rule permits, and no delayed
request takes anything from any rule. -/
theorem rateWindows_bounded (rateRules : List RateLimitRule) (concurrencyRules : List ConcurrencyRule)
    (requests : List GovernanceRequest) (hids : (rateRules.map RateLimitRule.ruleId).Nodup)
    (hordered : (requests.map GovernanceRequest.now).Pairwise (· ≤ ·)) :
    (∀ rule ∈ rateRules, ∀ last,
      (inWindow rule.width last
        ((((GovernanceLimiter.mk rateRules concurrencyRules ∅).allowed requests).filter fun request =>
          rule.Matches request).map GovernanceRequest.now)).length ≤ rule.limit + rule.burst) ∧
    ∀ passed later request, requests = passed ++ request :: later →
      let limiter := (GovernanceLimiter.mk rateRules concurrencyRules ∅).after passed
      (limiter.decision request).outcome = .delay →
        ∀ rule ∈ rateRules, ∀ now ≥ request.now,
          rule.bucket (limiter.evaluate request).2.usage now = rule.bucket limiter.usage now := by
  constructor
  · intro rule hrule
    obtain ⟨first, hfirst⟩ : ∃ first : Int, ∀ request ∈ requests, first ≤ request.now := by
      cases requests with
      | nil => exact ⟨0, nofun⟩
      | cons request later =>
        rw [List.map_cons, List.pairwise_cons, List.forall_mem_map] at hordered
        exact ⟨request.now, List.forall_mem_cons.mpr ⟨le_rfl, hordered.1⟩⟩
    have hnone : ∀ request ∈ ([] : List GovernanceRequest), request.now ≤ first := nofun
    exact allowed_bounded hids hrule hordered hfirst hnone Covers.nil WindowBounded.nil
  · intro passed later request _ limiter hdelay rule hrule now hle
    have hrules : limiter.rateRules = rateRules := after_rateRules _ passed
    apply bucket_of_refused (hrules ▸ hids) (hrules ▸ hrule) _ hle
    rw [hdelay]
    nofun

end GovernanceLimiter

/-! One operation a minute may be created in workspace `w1`, and two a minute of any kind. -/
namespace CreateLimits

theorem valid_one : 1 ≤ 1 := Nat.le_refl 1

theorem valid_minute : 1 ≤ 60 := Nat.succ_le_succ (Nat.zero_le 59)

def rules : List RateLimitRule := [
  { ruleId := "create", scopeType := "workspace", scopeId := "w1", operation := "operation.create",
    limit := 1, windowSeconds := 60, valid_limit := valid_one, valid_window := valid_minute },
  { ruleId := "any", scopeType := "workspace", scopeId := "w1", operation := "*", limit := 1, burst := 1,
    windowSeconds := 60, valid_limit := valid_one, valid_window := valid_minute }]

def request (operation : String) (second : Int) : GovernanceRequest :=
  { scopeType := "workspace", scopeId := "w1", operation, now := second * 1000000 }

def requests : List GovernanceRequest := [request "operation.create" 0, request "operation.create" 30,
  request "operation.dispatch" 40, request "operation.dispatch" 50, request "operation.create" 60]

example : (GovernanceLimiter.mk rules [] ∅).allowed requests =
    [request "operation.create" 0, request "operation.dispatch" 40, request "operation.create" 60] := by
  decide

theorem requests_bounded :
    (∀ rule ∈ rules, ∀ last,
      (inWindow rule.width last
        ((((GovernanceLimiter.mk rules [] ∅).allowed requests).filter fun request =>
          rule.Matches request).map GovernanceRequest.now)).length ≤ rule.limit + rule.burst) ∧
    ∀ passed later request, requests = passed ++ request :: later →
      let limiter := (GovernanceLimiter.mk rules [] ∅).after passed
      (limiter.decision request).outcome = .delay →
        ∀ rule ∈ rules, ∀ now ≥ request.now,
          rule.bucket (limiter.evaluate request).2.usage now = rule.bucket limiter.usage now :=
  GovernanceLimiter.rateWindows_bounded rules [] requests (by decide) (by decide)

end CreateLimits

end KubeOps.Governance
