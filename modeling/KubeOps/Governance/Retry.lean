import KubeOps.Governance.Limits

/-! When a delayed request may come again: what is answered in `retry_after_seconds`,
and whether a request that has waited so long is let through. -/
namespace KubeOps.Governance

open KubeOps.Foundation KubeOps.Models

section Seconds

theorem timedelta_wholeSeconds_le {duration : Int} (h : 0 ≤ duration) :
    timedelta (wholeSeconds duration) ≤ duration := by
  have hnonneg : 0 ≤ duration.tdiv 1000000 := Int.tdiv_nonneg h (by decide)
  rw [timedelta, wholeSeconds, Int.toNat_of_nonneg hnonneg, Int.tdiv_eq_ediv_of_nonneg h]
  omega

theorem wholeSeconds_timedelta (seconds : Nat) : wholeSeconds (timedelta seconds) = seconds := by
  rw [wholeSeconds, timedelta, Int.mul_tdiv_cancel _ (by decide), Int.toNat_natCast]

theorem since_before_oldest {stamps : List Int} {width now later oldest : Int}
    (h : (since (now - width) stamps).min? = some oldest) (hnow : now ≤ later)
    (hlater : later < oldest + width) :
    since (later - width) stamps = since (now - width) stamps := by
  have hcutoff : now - width ≤ later - width := by omega
  rw [← since_since hcutoff]
  apply List.filter_eq_self.mpr
  intro stamp hstamp
  have hle := (List.min?_eq_some_iff.mp h).2 stamp hstamp
  exact decide_eq_true (by omega)

theorem lt_of_min_since {stamps : List Int} {cutoff oldest : Int}
    (h : (since cutoff stamps).min? = some oldest) :
    cutoff < oldest := by
  have hmem : oldest ∈ since cutoff stamps := List.min?_mem h
  exact of_decide_eq_true (List.mem_filter.mp hmem).2

end Seconds

section Places

def Within (rules : List RateLimitRule) (request : GovernanceRequest) (ruleId : String)
    (now stamp : Int) : Prop :=
  ∀ rule ∈ rules, rule.Matches request → rule.ruleId = ruleId → now - rule.width < stamp

instance (rules : List RateLimitRule) (request : GovernanceRequest) (ruleId : String) (now : Int) :
    DecidablePred (Within rules request ruleId now) := fun _ =>
  inferInstanceAs (Decidable (∀ rule ∈ rules, _))

def held (usage : Dict String (List Int)) (ruleId : String) : List Int := (usage.get? ruleId).getD []

/-- What the rule at this place of the list counts. Rules with its id before it have cleared
the bucket they share. -/
def counted (usage : Dict String (List Int)) (rules : List RateLimitRule) (request : GovernanceRequest)
    (index : Nat) (rule : RateLimitRule) : List Int :=
  (held usage rule.ruleId).filter (Within (rules.take (index + 1)) request rule.ruleId request.now)

structure Full (usage : Dict String (List Int)) (rules : List RateLimitRule) (request : GovernanceRequest)
    (index : Nat) (rule : RateLimitRule) : Prop where
  place : rules[index]? = some rule
  applies : rule.Matches request
  full : rule.budget ≤ (counted usage rules request index rule).length

variable {usage : Dict String (List Int)} {rules : List RateLimitRule} {request : GovernanceRequest}
  {review : Review} {rule last : RateLimitRule} {index : Nat} {ruleId : String} {now : Int}

theorem within_append {more : List RateLimitRule} {stamp : Int} :
    Within (rules ++ more) request ruleId now stamp ↔
      Within rules request ruleId now stamp ∧ Within more request ruleId now stamp := by
  simp only [Within, List.mem_append, or_imp, forall_and]

theorem held_rate (review : Review) (request : GovernanceRequest) (rule : RateLimitRule) (ruleId : String) :
    held (review.rate request rule).usage ruleId =
      (held review.usage ruleId).filter (Within [rule] request ruleId request.now) := by
  rw [held, rate_usage]
  by_cases h : rule.Matches request ∧ ruleId = rule.ruleId
  · rw [if_pos h, Option.getD_some, RateLimitRule.bucket, since, h.2]
    apply List.filter_congr
    intro stamp _
    simp [Within, h.1]
  · rw [if_neg h]
    symm
    apply List.filter_eq_self.mpr
    intro stamp _
    apply decide_eq_true
    intro other hother hmatches hid
    rw [List.mem_singleton.mp hother] at hmatches hid
    exact absurd ⟨hmatches, hid.symm⟩ h

theorem held_rates (review : Review) (request : GovernanceRequest) (rules : List RateLimitRule)
    (ruleId : String) : held (rules.foldl (Review.rate request) review).usage ruleId =
      (held review.usage ruleId).filter (Within rules request ruleId request.now) := by
  induction rules using List.reverseRecOn with
  | nil => simp [Within]
  | append_singleton rules rule ih =>
    rw [List.foldl_concat, held_rate, ih, List.filter_filter]
    apply List.filter_congr
    intro stamp _
    rw [Bool.eq_iff_iff, Bool.and_eq_true, decide_eq_true_eq, decide_eq_true_eq, decide_eq_true_eq,
      within_append, and_comm]

theorem counted_last (hmatches : last.Matches request) :
    counted review.usage (rules ++ [last]) request rules.length last =
      last.bucket (rules.foldl (Review.rate request) review).usage request.now := by
  have hheld := held_rate (rules.foldl (Review.rate request) review) request last last.ruleId
  rw [held, rate_usage, if_pos ⟨hmatches, rfl⟩, Option.getD_some, held_rates, List.filter_filter] at hheld
  rw [hheld, counted, List.take_of_length_le (by simp)]
  apply List.filter_congr
  intro stamp _
  rw [Bool.eq_iff_iff, Bool.and_eq_true, decide_eq_true_eq, decide_eq_true_eq, decide_eq_true_eq,
    within_append, and_comm]

theorem counted_concat (hindex : index < rules.length) :
    counted usage (rules ++ [last]) request index rule = counted usage rules request index rule := by
  rw [counted, List.take_append_of_le_length hindex, counted]

theorem full_concat : Full usage (rules ++ [last]) request index rule ↔
    Full usage rules request index rule ∨
      (index = rules.length ∧ rule = last) ∧ Full usage (rules ++ [last]) request rules.length last := by
  by_cases hindex : index < rules.length
  · constructor
    · intro h
      refine .inl ⟨?_, h.applies, ?_⟩
      · rw [← h.place, List.getElem?_append_left hindex]
      · rw [← counted_concat hindex]
        exact h.full
    · rintro (h | ⟨h, -⟩)
      · refine ⟨?_, h.applies, ?_⟩
        · rw [List.getElem?_append_left hindex]
          exact h.place
        · rw [counted_concat hindex]
          exact h.full
      · omega
  · constructor
    · intro h
      have hplace := h.place
      obtain ⟨hlt, hget⟩ := List.getElem?_eq_some_iff.mp hplace
      rw [List.length_append, List.length_singleton] at hlt
      obtain rfl : index = rules.length := by omega
      rw [List.getElem?_concat_length] at hplace
      obtain rfl := Option.some.inj hplace
      exact .inr ⟨⟨rfl, rfl⟩, h⟩
    · rintro (h | ⟨⟨rfl, rfl⟩, h⟩)
      · exact absurd (List.getElem?_eq_some_iff.mp h.place).1 hindex
      · exact h

theorem spare_iff : last.Spare (rules.foldl (Review.rate request) review).usage request ↔
    ¬ Full review.usage (rules ++ [last]) request rules.length last := by
  constructor
  · intro h hfull
    have hroom := h hfull.applies
    rw [← counted_last hfull.applies] at hroom
    exact absurd hfull.full (not_le.mpr hroom)
  · intro h hmatches
    rw [← counted_last hmatches]
    by_contra hfull
    exact h ⟨List.getElem?_concat_length .., hmatches, not_lt.mp hfull⟩

theorem rates_reasons_iff : (rules.foldl (Review.rate request) review).reasons = [] ↔
    review.reasons = [] ∧ ∀ index rule, ¬ Full review.usage rules request index rule := by
  induction rules using List.reverseRecOn with
  | nil =>
    refine ⟨fun h => ⟨h, fun index rule hfull => ?_⟩, And.left⟩
    exact absurd hfull.place (by simp)
  | append_singleton rules last ih =>
    rw [List.foldl_concat, rate_reasons, ih, spare_iff, and_assoc]
    apply and_congr_right
    intro _
    constructor
    · intro h index rule hfull
      rcases full_concat.mp hfull with hold | hlast
      · exact h.1 index rule hold
      · exact h.2 hlast.2
    · intro h
      exact ⟨fun index rule hfull => h index rule (full_concat.mpr (.inl hfull)), h _ _⟩

structure LastFull (usage : Dict String (List Int)) (rules : List RateLimitRule) (request : GovernanceRequest)
    (index : Nat) (rule : RateLimitRule) : Prop extends Full usage rules request index rule where
  last : ∀ later other, Full usage rules request later other → later ≤ index

theorem exists_lastFull (h : Full usage rules request index rule) :
    ∃ index rule, LastFull usage rules request index rule := by
  induction rules using List.reverseRecOn generalizing index rule with
  | nil => exact absurd h.place (by simp)
  | append_singleton rules last ih =>
    by_cases hlast : Full usage (rules ++ [last]) request rules.length last
    · refine ⟨rules.length, last, hlast, fun later other hother => ?_⟩
      have hlt := (List.getElem?_eq_some_iff.mp hother.place).1
      rw [List.length_append, List.length_singleton] at hlt
      omega
    · have hearlier : ∀ {index rule}, Full usage (rules ++ [last]) request index rule →
          Full usage rules request index rule := fun hfull =>
        (full_concat.mp hfull).resolve_right fun hnew => hlast hnew.2
      obtain ⟨found, other, hfound, hnone⟩ := ih (hearlier h)
      exact ⟨found, other, full_concat.mpr (.inl hfound), fun later third hthird =>
        hnone later third (hearlier hthird)⟩

theorem rate_retryAfter (review : Review) (request : GovernanceRequest) (rule : RateLimitRule) :
    (review.rate request rule).retryAfter =
      if rule.Matches request ∧ rule.budget ≤ (rule.bucket review.usage request.now).length then
        (rule.bucket review.usage request.now).min?.map fun oldest =>
          wholeSeconds (oldest + rule.width - request.now)
      else review.retryAfter := by
  unfold Review.rate
  by_cases hmatches : rule.Matches request
  · rw [if_pos hmatches]
    dsimp only
    by_cases hroom : (rule.bucket review.usage request.now).length < rule.budget
    · rw [if_pos hroom, if_neg fun h => absurd h.2 (not_le.mpr hroom)]
    · rw [if_neg hroom, if_pos ⟨hmatches, not_lt.mp hroom⟩]
  · rw [if_neg hmatches, if_neg fun h => hmatches h.1]

theorem rates_retryAfter (h : LastFull review.usage rules request index rule) :
    (rules.foldl (Review.rate request) review).retryAfter =
      (counted review.usage rules request index rule).min?.map fun oldest =>
        wholeSeconds (oldest + rule.width - request.now) := by
  induction rules using List.reverseRecOn with
  | nil => exact absurd h.place (by simp)
  | append_singleton rules last ih =>
    rw [List.foldl_concat, rate_retryAfter]
    by_cases hlast : Full review.usage (rules ++ [last]) request rules.length last
    · have hle := h.last _ _ hlast
      rcases full_concat.mp h.toFull with hold | ⟨⟨rfl, rfl⟩, -⟩
      · have hlt := (List.getElem?_eq_some_iff.mp hold.place).1
        omega
      · rw [← counted_last hlast.applies, if_pos ⟨hlast.applies, hlast.full⟩]
    · have hspare := spare_iff.mpr hlast
      rw [if_neg fun hfull => absurd hfull.2 (not_le.mpr (hspare hfull.1))]
      have hold := (full_concat.mp h.toFull).resolve_right fun hnew => hlast hnew.2
      rw [ih ⟨hold, fun later other hother => h.last later other (full_concat.mpr (.inl hother))⟩,
        counted_concat (List.getElem?_eq_some_iff.mp hold.place).1]

theorem exists_oldest (rule : RateLimitRule) {times : List Int} (hfull : rule.budget ≤ times.length) :
    ∃ oldest, times.min? = some oldest := by
  have hbudget := rule.valid_limit
  apply Option.isSome_iff_exists.mp
  apply List.isSome_min?_of_ne_nil
  apply List.ne_nil_of_length_pos
  unfold RateLimitRule.budget at hfull
  omega

end Places

namespace GovernanceRequest

def later (request : GovernanceRequest) (now : Int) (uuid : String) : GovernanceRequest :=
  { request with now, uuid }

end GovernanceRequest

namespace GovernanceLimiter

variable {limiter : GovernanceLimiter} {request : GovernanceRequest} {rule : RateLimitRule}
  {index seconds : Nat}
  {uuid : String} {now : Int}

/-- No concurrency rule speaks against the request. -/
def Unobstructed (limiter : GovernanceLimiter) (request : GovernanceRequest) : Prop :=
  ∀ rule ∈ limiter.concurrencyRules, rule.Matches request → request.activeCount < rule.maximumActive

/-- A request that only rate rules delay is let through when it waits as long as it is told. -/
def RetrySuffices (limiter : GovernanceLimiter) (request : GovernanceRequest) : Prop :=
  (limiter.decision request).outcome = .delay → limiter.Unobstructed request →
    ∀ seconds uuid, (limiter.decision request).retryAfterSeconds = some seconds →
      ((limiter.evaluate request).2.decision
        (request.later (request.now + timedelta seconds) uuid)).outcome = .allow

def countedLater (limiter : GovernanceLimiter) (request : GovernanceRequest) (later : Int) (index : Nat)
    (rule : RateLimitRule) : List Int :=
  ((held limiter.usage rule.ruleId).filter
      (Within limiter.rateRules request rule.ruleId request.now)).filter
    (Within (limiter.rateRules.take (index + 1)) request rule.ruleId later)

def RoomAt (limiter : GovernanceLimiter) (request : GovernanceRequest) (later : Int) : Prop :=
  ∀ index rule, limiter.rateRules[index]? = some rule → rule.Matches request →
    (limiter.countedLater request later index rule).length < rule.budget

theorem allow_iff (hfree : limiter.Unobstructed request) : (limiter.decision request).outcome = .allow ↔
    ∀ index rule, ¬ Full limiter.usage limiter.rateRules request index rule := by
  have hreasons : (limiter.decision request).outcome = .allow ↔ (limiter.review request).reasons = [] := by
    simp [decision, Review.outcome]
  rw [hreasons, review, concurrencies_reasons, rates_reasons_iff]
  constructor
  · intro h
    exact h.1.2
  · intro h
    exact ⟨⟨rfl, h⟩, hfree⟩

theorem delay_iff : (limiter.decision request).outcome = .delay ↔
    (limiter.decision request).outcome ≠ .allow := by
  simp only [decision, Review.outcome]
  split
  · simp
  · simp

theorem concurrency_retryAfter (review : Review) (request : GovernanceRequest) (rule : ConcurrencyRule) :
    (review.concurrency request rule).retryAfter = review.retryAfter := by
  unfold Review.concurrency
  split
  · dsimp only
    split <;> rfl
  · rfl

theorem retryAfterSeconds_eq (h : LastFull limiter.usage limiter.rateRules request index rule) :
    (limiter.decision request).retryAfterSeconds =
      (counted limiter.usage limiter.rateRules request index rule).min?.map fun oldest =>
        wholeSeconds (oldest + rule.width - request.now) := by
  have hkept := foldl_keeps (fun acc rule => concurrency_retryAfter acc request rule) limiter.concurrencyRules
    (limiter.rateRules.foldl (Review.rate request) { usage := limiter.usage })
  exact hkept.trans (rates_retryAfter h)

theorem held_evaluate (h : (limiter.decision request).outcome ≠ .allow) (ruleId : String) :
    held (limiter.evaluate request).2.usage ruleId =
      (held limiter.usage ruleId).filter (Within limiter.rateRules request ruleId request.now) := by
  have hkept : held (limiter.evaluate request).2.usage ruleId = held (limiter.review request).usage ruleId := by
    rw [held, evaluate_usage, if_neg h]
    simp [held]
  rw [hkept, review, concurrencies_usage, held_rates]

theorem full_later (h : (limiter.decision request).outcome ≠ .allow) :
    Full (limiter.evaluate request).2.usage limiter.rateRules (request.later now uuid) index rule ↔
      limiter.rateRules[index]? = some rule ∧ rule.Matches request ∧
        rule.budget ≤ (limiter.countedLater request now index rule).length := by
  have hcounted : counted (limiter.evaluate request).2.usage limiter.rateRules
    (request.later now uuid) index rule =
      limiter.countedLater request now index rule := by
    rw [counted, held_evaluate h]
    rfl
  constructor
  · intro hfull
    exact ⟨hfull.place, hfull.applies, hcounted ▸ hfull.full⟩
  · intro hfull
    exact ⟨hfull.1, hfull.2.1, hcounted.symm ▸ hfull.2.2⟩

theorem allow_later (h : (limiter.decision request).outcome ≠ .allow) (hfree : limiter.Unobstructed request) :
    ((limiter.evaluate request).2.decision (request.later now uuid)).outcome = .allow ↔
      limiter.RoomAt request now := by
  have hlater : (limiter.evaluate request).2.Unobstructed (request.later now uuid) := hfree
  rw [allow_iff hlater, RoomAt]
  apply forall₂_congr
  intro index rule
  have hrules : (limiter.evaluate request).2.rateRules = limiter.rateRules := rfl
  rw [hrules, full_later h]
  simp only [not_and, not_le]

theorem retrySuffices_iff (limiter : GovernanceLimiter) (request : GovernanceRequest) :
    limiter.RetrySuffices request ↔ (limiter.Unobstructed request → ∀ index rule oldest,
      LastFull limiter.usage limiter.rateRules request index rule →
      (counted limiter.usage limiter.rateRules request index rule).min? = some oldest →
        limiter.RoomAt request
          (request.now + timedelta (wholeSeconds (oldest + rule.width - request.now)))) := by
  constructor
  · intro h hfree index rule oldest hlast holdest
    have hdelayed : (limiter.decision request).outcome ≠ .allow := fun hallow =>
      (allow_iff hfree).mp hallow index rule hlast.toFull
    have hretry := retryAfterSeconds_eq hlast
    rw [holdest] at hretry
    exact (allow_later hdelayed hfree).mp (h (delay_iff.mpr hdelayed) hfree _ "" hretry)
  · intro h hdelay hfree seconds uuid hseconds
    have hdelayed := delay_iff.mp hdelay
    rw [allow_later hdelayed hfree]
    rw [ne_eq, allow_iff hfree] at hdelayed
    simp only [not_forall, not_not] at hdelayed
    obtain ⟨_, _, hfull⟩ := hdelayed
    obtain ⟨index, rule, hlast⟩ := exists_lastFull hfull
    obtain ⟨oldest, holdest⟩ := exists_oldest _ hlast.full
    rw [retryAfterSeconds_eq hlast, holdest, Option.map_some, Option.some_inj] at hseconds
    rw [← hseconds]
    exact h hfree index rule oldest hlast holdest

section Distinct

theorem within_iff (hids : (limiter.rateRules.map RateLimitRule.ruleId).Nodup)
    {rules : List RateLimitRule} (hrules : rules ⊆ limiter.rateRules) (hrule : rule ∈ rules)
    (hmatches : rule.Matches request) {stamp : Int} :
    Within rules request rule.ruleId now stamp ↔ now - rule.width < stamp := by
  constructor
  · intro h
    exact h rule hrule hmatches rfl
  · intro h other hother _ hid
    obtain rfl : other = rule := List.inj_on_of_nodup_map hids (hrules hother) (hrules hrule) hid
    exact h

theorem mem_take (hplace : limiter.rateRules[index]? = some rule) :
    rule ∈ limiter.rateRules.take (index + 1) := by
  apply List.mem_of_getElem? (i := index)
  rw [List.getElem?_take_of_lt (Nat.lt_succ_self index), hplace]

theorem counted_eq (hids : (limiter.rateRules.map RateLimitRule.ruleId).Nodup)
    (hplace : limiter.rateRules[index]? = some rule) (hmatches : rule.Matches request) :
    counted limiter.usage limiter.rateRules request index rule = rule.bucket limiter.usage request.now := by
  apply List.filter_congr
  intro stamp _
  rw [decide_eq_decide]
  exact within_iff hids (List.take_subset _ _) (mem_take hplace) hmatches

theorem countedLater_eq (hids : (limiter.rateRules.map RateLimitRule.ruleId).Nodup)
    (hplace : limiter.rateRules[index]? = some rule) (hmatches : rule.Matches request)
    (hlater : request.now ≤ now) :
    limiter.countedLater request now index rule = rule.bucket limiter.usage now := by
  have hcutoff : request.now - rule.width ≤ now - rule.width := by omega
  rw [RateLimitRule.bucket, ← since_since hcutoff, since, since, List.filter_filter, countedLater,
    List.filter_filter]
  apply List.filter_congr
  intro stamp _
  rw [Bool.eq_iff_iff, Bool.and_eq_true, Bool.and_eq_true, decide_eq_true_eq, decide_eq_true_eq,
    decide_eq_true_eq, decide_eq_true_eq,
    within_iff hids (List.take_subset _ _) (mem_take hplace) hmatches,
    within_iff hids (List.Subset.refl _) (List.mem_of_getElem? hplace) hmatches]

/-- The oldest request of the rule leaves its window a whole number of seconds from now,
and by then every rule has room. -/
def ReleasesOnTime (limiter : GovernanceLimiter) (request : GovernanceRequest) (rule : RateLimitRule) : Prop :=
  ∃ oldest, (rule.bucket limiter.usage request.now).min? = some oldest ∧
    (∃ seconds : Nat, oldest + rule.width = request.now + timedelta seconds) ∧
    ∀ other ∈ limiter.rateRules, other.Matches request →
      (other.bucket limiter.usage (oldest + rule.width)).length < other.budget

theorem roomAt_iff (hids : (limiter.rateRules.map RateLimitRule.ruleId).Nodup) (hlater : request.now ≤ now) :
    limiter.RoomAt request now ↔ ∀ rule ∈ limiter.rateRules, rule.Matches request →
      (rule.bucket limiter.usage now).length < rule.budget := by
  constructor
  · intro h rule hrule hmatches
    obtain ⟨index, hplace⟩ := List.mem_iff_getElem?.mp hrule
    rw [← countedLater_eq hids hplace hmatches hlater]
    exact h index rule hplace hmatches
  · intro h index rule hplace hmatches
    rw [countedLater_eq hids hplace hmatches hlater]
    exact h rule (List.mem_of_getElem? hplace) hmatches

theorem retrySuffices_distinct (hids : (limiter.rateRules.map RateLimitRule.ruleId).Nodup) :
    limiter.RetrySuffices request ↔ (limiter.Unobstructed request → ∀ index rule,
      LastFull limiter.usage limiter.rateRules request index rule → limiter.ReleasesOnTime request rule) := by
  rw [retrySuffices_iff]
  apply forall_congr'
  intro _
  apply forall₂_congr
  intro index rule
  constructor
  · intro h hlast
    obtain ⟨oldest, holdest⟩ := exists_oldest _ hlast.full
    have hroom := h oldest hlast holdest
    have hfull := hlast.full
    rw [counted_eq hids hlast.place hlast.applies] at holdest hfull
    have hin := lt_of_min_since holdest
    have hle : timedelta (wholeSeconds (oldest + rule.width - request.now)) ≤
        oldest + rule.width - request.now := timedelta_wholeSeconds_le (by omega)
    have hnow : request.now ≤ request.now + timedelta (wholeSeconds (oldest + rule.width - request.now)) := by
      rw [timedelta]
      omega
    rw [roomAt_iff hids hnow] at hroom
    have hself := hroom rule (List.mem_of_getElem? hlast.place) hlast.applies
    have hexact : request.now + timedelta (wholeSeconds (oldest + rule.width - request.now)) =
        oldest + rule.width := by
      by_contra hne
      have hsame := since_before_oldest holdest hnow (by omega)
      rw [RateLimitRule.bucket, hsame] at hself
      exact absurd hfull (not_le.mpr hself)
    rw [hexact] at hroom
    exact ⟨oldest, holdest, ⟨_, hexact.symm⟩, hroom⟩
  · intro h oldest hlast holdest
    obtain ⟨other, hother, ⟨seconds, hseconds⟩, hroom⟩ := h hlast
    rw [counted_eq hids hlast.place hlast.applies, hother] at holdest
    obtain rfl := Option.some.inj holdest
    have hduration : other + rule.width - request.now = timedelta seconds := by omega
    rw [hduration, wholeSeconds_timedelta, ← hseconds]
    apply (roomAt_iff hids _).mpr hroom
    rw [hseconds, timedelta]
    omega

end Distinct

end GovernanceLimiter

end KubeOps.Governance
