import KubeOps.Diagnosis.OneSided
import Mathlib.Algebra.BigOperators.Group.List.Basic
import Mathlib.Tactic.Linarith
import Mathlib.Tactic.Ring

/-! What one more fact does to a hypothesis: a fact for it never lowers its confidence or status, and
a fact against it may raise them where it was predicted. -/
namespace KubeOps.Diagnosis

open KubeOps.Foundation KubeOps.Models KubeOps.Invariants

section Thousandths

/-- The confidences are fractions of a thousand, which rounding leaves alone. -/
def IsThousandth (value : Rat) : Prop := ∃ count : Int, value = count / 1000

variable {one two : Rat}

theorem IsThousandth.add (hone : IsThousandth one) (htwo : IsThousandth two) : IsThousandth (one + two) := by
  obtain ⟨m, rfl⟩ := hone
  obtain ⟨n, rfl⟩ := htwo
  exact ⟨m + n, by push_cast; ring⟩

theorem IsThousandth.sub (hone : IsThousandth one) (htwo : IsThousandth two) : IsThousandth (one - two) := by
  obtain ⟨m, rfl⟩ := hone
  obtain ⟨n, rfl⟩ := htwo
  exact ⟨m - n, by push_cast; ring⟩

theorem IsThousandth.min (hone : IsThousandth one) (htwo : IsThousandth two) : IsThousandth (min one two) := by
  rcases min_choice one two with h | h
  · rw [h]
    exact hone
  · rw [h]
    exact htwo

theorem IsThousandth.max (hone : IsThousandth one) (htwo : IsThousandth two) : IsThousandth (max one two) := by
  rcases max_choice one two with h | h
  · rw [h]
    exact hone
  · rw [h]
    exact htwo

theorem roundHalfEven_intCast (count : Int) : roundHalfEven count = count := by
  unfold roundHalfEven
  have hfloor : (count : Rat).floor = count := Rat.floor_intCast count
  rw [hfloor]
  norm_num

theorem round4_of_isThousandth (h : IsThousandth one) : round4 one = one := by
  obtain ⟨count, rfl⟩ := h
  have hscaled : (count : Rat) / 1000 * 10000 = ((count * 10 : Int) : Rat) := by
    push_cast
    ring
  rw [round4, hscaled, roundHalfEven_intCast]
  push_cast
  ring

end Thousandths

section Authority

variable {facts others : List EvidenceFact} {fact : EvidenceFact}

theorem authorityConfidence_twentieth (authority : String) :
    ∃ count : Int, 0 < count ∧ authorityConfidence authority = count / 20 := by
  unfold authorityConfidence
  split_ifs
  · exact ⟨20, by decide, by norm_num⟩
  · exact ⟨17, by decide, by norm_num⟩
  · exact ⟨13, by decide, by norm_num⟩
  · exact ⟨8, by decide, by norm_num⟩
  · exact ⟨4, by decide, by norm_num⟩
  · exact ⟨10, by decide, by norm_num⟩

theorem authorityConfidence_pos (authority : String) : 0 < authorityConfidence authority := by
  obtain ⟨count, hpos, heq⟩ := authorityConfidence_twentieth authority
  rw [heq]
  have : (0 : Rat) < count := by exact_mod_cast hpos
  linarith

theorem authoritySum_cons : authoritySum (fact :: facts) =
    authorityConfidence fact.authority + authoritySum facts := by
  rw [authoritySum, List.map_cons, List.sum_cons]
  rfl

theorem authoritySum_twentieth (facts : List EvidenceFact) : ∃ count :
    Int, authoritySum facts = count / 20 := by
  induction facts with
  | nil => exact ⟨0, by simp [authoritySum]⟩
  | cons fact facts ih =>
    obtain ⟨count, -, hfact⟩ := authorityConfidence_twentieth fact.authority
    obtain ⟨rest, hrest⟩ := ih
    refine ⟨count + rest, ?_⟩
    rw [authoritySum_cons, hfact, hrest]
    push_cast
    ring

theorem authoritySum_nonneg (facts : List EvidenceFact) : 0 ≤ authoritySum facts := by
  induction facts with
  | nil => exact le_refl 0
  | cons fact facts ih =>
    rw [authoritySum_cons]
    have := authorityConfidence_pos fact.authority
    linarith

theorem authoritySum_pos_iff : 0 < authoritySum facts ↔ facts ≠ [] := by
  cases facts with
  | nil => simp [authoritySum]
  | cons fact facts =>
    rw [authoritySum_cons]
    have := authorityConfidence_pos fact.authority
    have := authoritySum_nonneg facts
    exact iff_of_true (by linarith) (List.cons_ne_nil _ _)

theorem authoritySum_perm (h : facts.Perm others) : authoritySum facts = authoritySum others := (h.map _).sum_eq

end Authority

section Scoring

def penalty (missing : Nat) : Rat := min ((missing : Rat) * (2 / 25)) (8 / 25)

/-- What is for a hypothesis against what is not, before it is kept within bounds. -/
def balance (template : CausalTemplate) (support contradiction : Rat) (missing : Nat) : Rat :=
  (if template.generic then 11 / 50 else 3 / 20) + support * (8 / 25) +
    min ((template.specificity : Rat) * (1 / 25)) (1 / 5) - contradiction * (21 / 50) - penalty missing

def bounded (value : Rat) : Rat := max (1 / 100) (min (99 / 100) value)

def statusOf (support contradiction : Rat) (complete : Prop) [Decidable complete] : HypothesisStatus :=
  if contradiction ≥ support ∧ contradiction > 0 then
    if support = 0 then .ruledOut else .contradicted
  else if 0 < support ∧ complete ∧ support ≥ 4 / 5 then .proven
  else if 0 < support then .supported
  else .candidate

variable {template : CausalTemplate} {supporting contradicting : List EvidenceFact} {missing : List String}

theorem isThousandth_authoritySum_mul (facts : List EvidenceFact) (numerator : Int) :
    IsThousandth (authoritySum facts * (numerator / 50)) := by
  obtain ⟨count, hcount⟩ := authoritySum_twentieth facts
  refine ⟨count * numerator, ?_⟩
  rw [hcount]
  push_cast
  ring

theorem isThousandth_balance (template : CausalTemplate) (supporting contradicting : List EvidenceFact)
    (missing : Nat) :
    IsThousandth (balance template (authoritySum supporting) (authoritySum contradicting) missing) := by
  have hbase : IsThousandth (if template.generic then 11 / 50 else 3 / 20) := by
    split
    · exact ⟨220, by norm_num⟩
    · exact ⟨150, by norm_num⟩
  have hsupport : IsThousandth (authoritySum supporting * (8 / 25)) := by
    have h := isThousandth_authoritySum_mul supporting 16
    norm_num at h
    exact h
  have hspecificity : IsThousandth (min ((template.specificity : Rat) * (1 / 25)) (1 / 5)) := by
    apply IsThousandth.min
    · exact ⟨template.specificity * 40, by push_cast; ring⟩
    · exact ⟨200, by norm_num⟩
  have hcontradiction : IsThousandth (authoritySum contradicting * (21 / 50)) := by
    have h := isThousandth_authoritySum_mul contradicting 21
    norm_num at h
    exact h
  have hpenalty : IsThousandth (penalty missing) := by
    apply IsThousandth.min
    · exact ⟨missing * 80, by push_cast; ring⟩
    · exact ⟨320, by norm_num⟩
  exact (((hbase.add hsupport).add hspecificity).sub hcontradiction).sub hpenalty

theorem confidence_scoreOf :
    (scoreOf template.generic template.specificity supporting contradicting missing).confidence =
    bounded (balance template (authoritySum supporting) (authoritySum contradicting) missing.length) := by
  apply round4_of_isThousandth
  apply IsThousandth.max ⟨10, by norm_num⟩
  exact IsThousandth.min ⟨990, by norm_num⟩
    (isThousandth_balance template supporting contradicting missing.length)

theorem status_scoreOf (template : CausalTemplate) :
    (scoreOf template.generic template.specificity supporting contradicting missing).status =
    statusOf (authoritySum supporting) (authoritySum contradicting) (missing = []) := by
  simp only [scoreOf, statusOf, authoritySum_pos_iff]

end Scoring

section Order

/-- The order of the statuses from the worst for a hypothesis to the best; no score gives
`unresolved`. -/
def HypothesisStatus.rank : HypothesisStatus → Nat
  | .ruledOut => 0
  | .contradicted => 1
  | .candidate | .unresolved => 2
  | .supported => 3
  | .proven => 4

variable {support contradiction weight : Rat} {complete complete' : Prop} [Decidable complete]
  [Decidable complete']

theorem rank_le_of_support (hweight : 0 < weight) (hsupport : 0 ≤ support) (hcomplete : complete → complete') :
    (statusOf support contradiction complete).rank ≤
      (statusOf (support + weight) contradiction complete').rank := by
  unfold statusOf
  split_ifs
  all_goals simp only [HypothesisStatus.rank]
  all_goals grind

theorem rank_le_of_contradiction_iff (hweight : 0 < weight) (hsupport : 0 ≤ support)
    (hcomplete : complete → complete') :
    (statusOf support (contradiction + weight) complete').rank ≤
      (statusOf support contradiction complete).rank ↔
      ¬ (¬ complete ∧ complete' ∧ 4 / 5 ≤ support ∧ contradiction + weight < support) := by
  unfold statusOf
  split_ifs
  all_goals simp only [HypothesisStatus.rank]
  all_goals grind

theorem bounded_mono {one two : Rat} (h : one ≤ two) : bounded one ≤ bounded two :=
  max_le_max (le_refl _) (min_le_min (le_refl _) h)

theorem bounded_le_iff {one two : Rat} : bounded one ≤ bounded two ↔
    ¬ (two < one ∧ two < 99 / 100 ∧ 1 / 100 < one) := by
  unfold bounded
  grind

end Order

section Facts

variable {python : Python} {formatClaim : String → String → String → String} {template : CausalTemplate}
variable {symptom : Symptom} {parent : Option String} {evidence other later : List EvidenceFact}
  {fact : EvidenceFact}

theorem status_hypothesisOf : (hypothesisOf python formatClaim evidence symptom parent template).status =
    statusOf (authoritySum (supportingFacts template evidence symptom))
      (authoritySum (contradictingFacts template evidence symptom))
      (missingPredictions template evidence symptom = []) := status_scoreOf template

theorem confidence_hypothesisOf :
    (hypothesisOf python formatClaim evidence symptom parent template).confidence =
    bounded (balance template (authoritySum (supportingFacts template evidence symptom))
      (authoritySum (contradictingFacts template evidence symptom))
      (missingPredictions template evidence symptom).length) := confidence_scoreOf

theorem supportingFacts_perm (h : other.Perm evidence) :
    authoritySum (supportingFacts template other symptom) = authoritySum
      (supportingFacts template evidence symptom) :=
  authoritySum_perm ((h.filter _).filter _)

theorem contradictingFacts_perm (h : other.Perm evidence) :
    authoritySum (contradictingFacts template other symptom) =
      authoritySum (contradictingFacts template evidence symptom) :=
  authoritySum_perm ((h.filter _).filter _)

theorem missingPredictions_perm (h : other.Perm evidence) :
    missingPredictions template other symptom = missingPredictions template evidence symptom := by
  apply List.filter_congr
  intro prediction _
  exact congrArg (! ·) (h.filter _).any_eq

def IsRelated (symptom : Symptom) (fact : EvidenceFact) : Prop :=
  subjectsOverlap fact.subjectIds symptom.subjectIds = true

theorem relatedEvidence_cons (hrelated : IsRelated symptom fact) :
    relatedEvidence (fact :: evidence) symptom = fact :: relatedEvidence evidence symptom :=
  List.filter_cons_of_pos hrelated

theorem supportingFacts_cons (hrelated : IsRelated symptom fact) :
    supportingFacts template (fact :: evidence) symptom =
      if matchesAny template.supportingFactTypes fact.factType then fact :: supportingFacts template
        evidence symptom
      else supportingFacts template evidence symptom := by
  rw [supportingFacts, relatedEvidence_cons hrelated, List.filter_cons]
  rfl

theorem contradictingFacts_cons (hrelated : IsRelated symptom fact) :
    contradictingFacts template (fact :: evidence) symptom =
      if matchesAny template.contradictingFactTypes fact.factType then
        fact :: contradictingFacts template evidence symptom
      else contradictingFacts template evidence symptom := by
  rw [contradictingFacts, relatedEvidence_cons hrelated, List.filter_cons]
  rfl

theorem missingPredictions_cons (hrelated : IsRelated symptom fact) :
    missingPredictions template (fact :: evidence) symptom =
      (missingPredictions template evidence symptom).filter fun prediction =>
        !factTypeMatches prediction fact.factType := by
  rw [missingPredictions, missingPredictions, List.filter_filter, relatedEvidence_cons hrelated]
  apply List.filter_congr
  intro prediction _
  rw [List.any_cons, Bool.not_or]

end Facts

section Weighing

variable (python : Python) (formatClaim : String → String → String → String) (symptom : Symptom)
  (parent : Option String)
variable (template : CausalTemplate) (evidence : List EvidenceFact) (fact : EvidenceFact)

/-- The fact is for the hypothesis only. -/
def SupportsOnly : Prop :=
  matchesAny template.supportingFactTypes fact.factType = true ∧
    matchesAny template.contradictingFactTypes fact.factType = false

/-- The fact is against the hypothesis only. -/
def ContradictsOnly : Prop :=
  matchesAny template.contradictingFactTypes fact.factType = true ∧
    matchesAny template.supportingFactTypes fact.factType = false

/-- Wherever the fact is added, it moves confidence and status in its direction only, and the order
of the evidence does not matter. -/
structure PullsRightWay : Prop where
  supports : SupportsOnly template fact → ∀ later : List EvidenceFact, later.Perm (fact :: evidence) →
    (hypothesisOf python formatClaim evidence symptom parent template).confidence ≤
        (hypothesisOf python formatClaim later symptom parent template).confidence ∧
      (hypothesisOf python formatClaim evidence symptom parent template).status.rank ≤
        (hypothesisOf python formatClaim later symptom parent template).status.rank
  contradicts : ContradictsOnly template fact → ∀ later : List EvidenceFact, later.Perm (fact :: evidence) →
    (hypothesisOf python formatClaim later symptom parent template).confidence ≤
        (hypothesisOf python formatClaim evidence symptom parent template).confidence ∧
      (hypothesisOf python formatClaim later symptom parent template).status.rank ≤
        (hypothesisOf python formatClaim evidence symptom parent template).status.rank
  ordered : ∀ other : List EvidenceFact, other.Perm evidence →
    (hypothesisOf python formatClaim other symptom parent template).confidence =
        (hypothesisOf python formatClaim evidence symptom parent template).confidence ∧
      (hypothesisOf python formatClaim other symptom parent template).status =
        (hypothesisOf python formatClaim evidence symptom parent template).status

def supportOf : Rat := authoritySum (supportingFacts template evidence symptom)

def contradictionOf : Rat := authoritySum (contradictingFacts template evidence symptom)

def stillMissing : List String :=
  (missingPredictions template evidence symptom).filter fun prediction =>
    !factTypeMatches prediction fact.factType

/-- The fact answers all that was missing, and the support is strong enough and outweighs the
contradiction even with the fact. -/
structure CompletesProof : Prop where
  missing : missingPredictions template evidence symptom ≠ []
  answered : stillMissing symptom template evidence fact = []
  strong : 4 / 5 ≤ supportOf symptom template evidence
  outweighs : contradictionOf symptom template evidence + authorityConfidence fact.authority <
    supportOf symptom template evidence

/-- The answered predictions had cost the hypothesis more than the fact does, and the bounds of the
confidence do not hide it. -/
structure LiftsPenalty : Prop where
  lifts : authorityConfidence fact.authority * (21 / 50) <
    penalty (missingPredictions template evidence symptom).length -
      penalty (stillMissing symptom template evidence fact).length
  below : balance template (supportOf symptom template evidence) (contradictionOf symptom template evidence)
    (missingPredictions template evidence symptom).length < 99 / 100
  above : 1 / 100 < balance template (supportOf symptom template evidence)
    (contradictionOf symptom template evidence + authorityConfidence fact.authority)
    (stillMissing symptom template evidence fact).length

end Weighing

section Law

variable {python : Python} {formatClaim : String → String → String → String} {template : CausalTemplate}
variable {symptom : Symptom} {parent : Option String} {evidence other later : List EvidenceFact}
  {fact : EvidenceFact}

theorem ordered_of_perm (h : other.Perm evidence) :
    (hypothesisOf python formatClaim other symptom parent template).confidence =
        (hypothesisOf python formatClaim evidence symptom parent template).confidence ∧
      (hypothesisOf python formatClaim other symptom parent template).status =
        (hypothesisOf python formatClaim evidence symptom parent template).status := by
  rw [confidence_hypothesisOf, confidence_hypothesisOf, status_hypothesisOf, status_hypothesisOf]
  simp only [supportingFacts_perm h, contradictingFacts_perm h, missingPredictions_perm h, and_self]

theorem penalty_mono {one two : Nat} (h : one ≤ two) : penalty one ≤ penalty two := by
  apply min_le_min _ (le_refl _)
  have : (one : Rat) ≤ two := by exact_mod_cast h
  linarith

theorem length_stillMissing_le :
    (stillMissing symptom template evidence fact).length ≤
      (missingPredictions template evidence symptom).length :=
  List.length_filter_le _ _

theorem supports_of_supportsOnly (hrelated : IsRelated symptom fact) (honly : SupportsOnly template fact) :
    (hypothesisOf python formatClaim evidence symptom parent template).confidence ≤
        (hypothesisOf python formatClaim (fact :: evidence) symptom parent template).confidence ∧
      (hypothesisOf python formatClaim evidence symptom parent template).status.rank ≤
        (hypothesisOf python formatClaim (fact :: evidence) symptom parent template).status.rank := by
  have hpos := authorityConfidence_pos fact.authority
  rw [confidence_hypothesisOf, confidence_hypothesisOf, status_hypothesisOf, status_hypothesisOf]
  simp only [supportingFacts_cons hrelated, contradictingFacts_cons hrelated, missingPredictions_cons hrelated,
    if_pos honly.1, if_neg (Bool.eq_false_iff.mp honly.2), authoritySum_cons]
  constructor
  · apply bounded_mono
    have hpenalty : penalty (stillMissing symptom template evidence fact).length ≤ _ :=
      penalty_mono length_stillMissing_le
    unfold balance
    unfold stillMissing at hpenalty
    linarith
  · rw [add_comm]
    apply rank_le_of_support hpos (authoritySum_nonneg _)
    intro hnone
    rw [hnone]
    rfl

theorem contradicts_iff (hrelated : IsRelated symptom fact) (honly : ContradictsOnly template fact) :
    ((hypothesisOf python formatClaim (fact :: evidence) symptom parent template).confidence ≤
        (hypothesisOf python formatClaim evidence symptom parent template).confidence ∧
      (hypothesisOf python formatClaim (fact :: evidence) symptom parent template).status.rank ≤
        (hypothesisOf python formatClaim evidence symptom parent template).status.rank) ↔
      ¬ CompletesProof symptom template evidence fact ∧ ¬ LiftsPenalty symptom template evidence fact := by
  have hpos := authorityConfidence_pos fact.authority
  rw [confidence_hypothesisOf, confidence_hypothesisOf, status_hypothesisOf, status_hypothesisOf]
  simp only [supportingFacts_cons hrelated, contradictingFacts_cons hrelated, missingPredictions_cons hrelated,
    if_pos honly.1, if_neg (Bool.eq_false_iff.mp honly.2), authoritySum_cons]
  rw [add_comm (authorityConfidence _), bounded_le_iff, and_comm]
  apply and_congr
  · rw [rank_le_of_contradiction_iff hpos (authoritySum_nonneg _)]
    · apply not_congr
      constructor
      · rintro ⟨hmissing, hanswered, hstrong, hless⟩
        exact ⟨hmissing, hanswered, hstrong, hless⟩
      · rintro ⟨hmissing, hanswered, hstrong, hless⟩
        exact ⟨hmissing, hanswered, hstrong, hless⟩
    · intro hnone
      rw [hnone]
      rfl
  · apply not_congr
    constructor
    · rintro ⟨hless, hbelow, habove⟩
      refine ⟨?_, hbelow, habove⟩
      unfold balance at hless
      unfold stillMissing
      linarith
    · rintro ⟨hlifts, hbelow, habove⟩
      refine ⟨?_, hbelow, habove⟩
      unfold stillMissing at hlifts
      unfold balance
      linarith

/-- One more fact pulls a hypothesis the right way unless it is against it and answers so many
missing predictions that this counts for more. -/
theorem pullsRightWay_iff (hrelated : IsRelated symptom fact) :
    PullsRightWay python formatClaim symptom parent template evidence fact ↔
      (ContradictsOnly template fact → ¬ CompletesProof symptom template evidence fact ∧
        ¬ LiftsPenalty symptom template evidence fact) := by
  constructor
  · intro h honly
    exact (contradicts_iff hrelated honly).mp (h.contradicts honly _ (List.Perm.refl _))
  · intro h
    refine ⟨?_, ?_, fun other hother => ordered_of_perm hother⟩
    · intro honly later hlater
      obtain ⟨hconfidence, hstatus⟩ := @ordered_of_perm python formatClaim template symptom parent _ _ hlater
      rw [hconfidence, hstatus]
      exact supports_of_supportsOnly hrelated honly
    · intro honly later hlater
      obtain ⟨hconfidence, hstatus⟩ := @ordered_of_perm python formatClaim template symptom parent _ _ hlater
      rw [hconfidence, hstatus]
      exact (contradicts_iff hrelated honly).mpr (h honly)

end Law

section Example

def databaseFact (evidenceId factType authority : String) : EvidenceFact where
  evidenceId
  factType
  statement := ""
  subjectIds := ["database"]
  collectorId := "snapshot.entity_state.v1"
  observedAtIso := ""
  authority

theorem absent_pulls_right_way : PullsRightWay Python.plain plainClaim databaseAbsent none requiredAbsent
    [databaseFact "ev-1" "entity.exists.true" "low"] (databaseFact "ev-2" "entity.absent" "authoritative") := by
  apply (pullsRightWay_iff (by unfold IsRelated; decide)).mpr
  intro honly
  have hnot : matchesAny requiredAbsent.contradictingFactTypes "entity.absent" = false := by decide
  exact absurd honly.1 (Bool.eq_false_iff.mp hnot)

/-- A doubtful word that the database is there proves that it is absent. -/
theorem exists_pulls_wrong_way :
    (hypothesisOf Python.plain plainClaim [databaseFact "ev-1" "entity.absent" "authoritative"]
      databaseAbsent none
      requiredAbsent).status = .supported ∧
    (hypothesisOf Python.plain plainClaim [databaseFact "ev-2" "entity.exists.true" "low",
      databaseFact "ev-1" "entity.absent" "authoritative"] databaseAbsent none
        requiredAbsent).status = .proven ∧
    ContradictsOnly requiredAbsent (databaseFact "ev-2" "entity.exists.true" "low") ∧
    ¬ PullsRightWay Python.plain plainClaim databaseAbsent none requiredAbsent
      [databaseFact "ev-1" "entity.absent" "authoritative"]
        (databaseFact "ev-2" "entity.exists.true" "low") := by
  have hbefore : (hypothesisOf Python.plain plainClaim [databaseFact "ev-1" "entity.absent" "authoritative"]
      databaseAbsent none requiredAbsent).status = .supported := by decide +kernel
  have hafter : (hypothesisOf Python.plain plainClaim [databaseFact "ev-2" "entity.exists.true" "low",
      databaseFact "ev-1" "entity.absent" "authoritative"] databaseAbsent none
        requiredAbsent).status = .proven := by
    decide +kernel
  have honly : ContradictsOnly requiredAbsent (databaseFact "ev-2" "entity.exists.true" "low") := by
    constructor <;> decide
  refine ⟨hbefore, hafter, honly, ?_⟩
  intro hpulls
  have hrank := (hpulls.contradicts honly _ (List.Perm.refl _)).2
  rw [hbefore, hafter] at hrank
  revert hrank
  decide

end Example

end KubeOps.Diagnosis
