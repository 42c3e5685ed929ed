import KubeOps.Invariants.Engine
import KubeOps.Invariants.Monotone

/-! Verdicts over time: what the engine reports of an invariant that is to be stable, or to be met by
a deadline, as its history of observations grows. -/
namespace KubeOps.Invariants

open KubeOps.Foundation KubeOps.Models KubeOps.Discovery

section Reports

variable (texts : ValueTexts)

/-- The observations that the engine looks at, which are the current one where none are given. -/
def observationsAt (world : World) (atSeconds : Int) : Option History → History
  | some (first :: rest) => first :: rest
  | _ => [(atSeconds, world)]

def reported (invariant : InvariantDefinition) (world : World) (atSeconds : Nat) (observed : Option History)
    (relationships : Option (List Relationship)) : Option HealthStatus :=
  ((evaluateAll texts [invariant] world atSeconds observed relationships).toOption.bind List.head?).map
    InvariantEvaluation.status

variable {texts} {invariant : InvariantDefinition} {world : World} {atSeconds : Nat} {observed : Option History}
variable {relationships : Option (List Relationship)}

theorem evaluateAll_eq {invariants : List InvariantDefinition} :
    evaluateAll texts invariants world atSeconds observed relationships =
      .ok (invariants.map (evaluation texts world atSeconds (observationsAt world atSeconds observed)
        (relationships.getD []))) := by
  have hhistory : observationsAt world atSeconds observed ≠ [] := by
    unfold observationsAt
    split <;> exact List.cons_ne_nil _ _
  have hsame : evaluateAll texts invariants world atSeconds observed relationships =
      evaluateAll texts invariants world atSeconds (some (observationsAt world atSeconds observed))
        relationships := by
    cases observed with
    | none => rfl
    | some history =>
      cases history with
      | nil => rfl
      | cons first rest => rfl
  rw [hsame, evaluateAll_ok hhistory (Int.natCast_nonneg atSeconds)]

theorem reported_eq : reported texts invariant world atSeconds observed relationships =
    some (evaluation texts world atSeconds (observationsAt world atSeconds observed) (relationships.getD [])
      invariant).status := by
  rw [reported, evaluateAll_eq]
  rfl

end Reports

section Stability

def lasting (invariant : InvariantDefinition) (seconds : Nat) : InvariantDefinition :=
  { invariant with
    temporal := { invariant.temporal with operator := .stableFor, stableForSeconds := some seconds } }

def IsBaseline (windowStart : Int) (history : History) (baseline : Int × World) : Prop :=
  ∃ front later, history = front ++ baseline :: later ∧ baseline.1 ≤ windowStart ∧
    ∀ item ∈ later, windowStart < item.1

variable {windowStart : Int} {history : History} {baseline : Int × World}

theorem baselineOf_eq_some : baselineOf windowStart history = some baseline ↔
    IsBaseline windowStart history baseline := by
  constructor
  · intro h
    obtain ⟨front, hfront⟩ := List.getLast?_eq_some_iff.mp h
    obtain ⟨before, after, rfl, hbefore, hafter⟩ := List.filter_eq_append_iff.mp hfront
    obtain ⟨skipped, later, rfl, -, hbaseline, hlater⟩ := List.filter_eq_cons_iff.mp hafter
    refine ⟨before ++ skipped, later, by simp, by simpa using hbaseline, ?_⟩
    intro item hitem
    have hnot := List.filter_eq_nil_iff.mp hlater item hitem
    simpa using hnot
  · rintro ⟨front, later, rfl, hbaseline, hlater⟩
    have hnone : later.filter (fun item => item.1 ≤ windowStart) = [] := by
      apply List.filter_eq_nil_iff.mpr
      intro item hitem
      simpa using hlater item hitem
    rw [baselineOf, List.filter_append, List.filter_cons, if_pos (decide_eq_true hbaseline), hnone,
      List.getLast?_concat]

/-- The predicate holds now, at the beginning of the window and at each observation in it. -/
structure StableSince (met : World → Prop) (world : World) (history : History)
    (windowStart atSeconds : Int) : Prop where
  current : met world
  beginning : ∃ baseline, IsBaseline windowStart history baseline ∧ met baseline.2
  window : ∀ item ∈ history, windowStart < item.1 → item.1 ≤ atSeconds → met item.2

theorem StableSince.later {met : World → Prop} {world : World} {laterStart atSeconds : Int}
    (h : StableSince met world history windowStart atSeconds) (hstart : windowStart ≤ laterStart)
    (hend : laterStart ≤ atSeconds) : StableSince met world history laterStart atSeconds := by
  constructor
  · exact h.current
  · obtain ⟨baseline, hbaseline, hmet⟩ := h.beginning
    have hlate : baselineOf laterStart history ≠ none := by
      intro hnone
      rw [baselineOf, List.getLast?_eq_none_iff, List.filter_eq_nil_iff] at hnone
      obtain ⟨front, later, rfl, htime, -⟩ := hbaseline
      exact hnone baseline (List.mem_append_right _ List.mem_cons_self) (decide_eq_true (htime.trans hstart))
    obtain ⟨found, hfound⟩ := Option.ne_none_iff_exists'.mp hlate
    have hlast := baselineOf_eq_some.mp hfound
    refine ⟨found, hlast, ?_⟩
    by_cases hin : windowStart < found.1
    · have hmem : found ∈ history := by
        obtain ⟨front, later, rfl, -, -⟩ := hlast
        exact List.mem_append_right _ List.mem_cons_self
      obtain ⟨front, later, -, htime, -⟩ := hlast
      exact h.window found hmem hin (htime.trans hend)
    · -- nothing between the two windows, and so the baseline is the same
      have hsame : IsBaseline windowStart history found := by
        obtain ⟨front, later, hsplit, -, hlater⟩ := hlast
        exact ⟨front, later, hsplit, not_lt.mp hin, fun item hitem => lt_of_le_of_lt hstart (hlater item hitem)⟩
      have hone := (baselineOf_eq_some.mpr hsame).symm.trans (baselineOf_eq_some.mpr hbaseline)
      rw [Option.some.inj hone]
      exact hmet
  · exact fun item hitem htime => h.window item hitem (lt_of_le_of_lt hstart htime)

variable {texts : ValueTexts} {invariant : InvariantDefinition} {world : World}
  {relationships : List Relationship}

/-- An unknown observation comes before a false one, and only where there is neither is the verdict healthy. -/
theorem healthy_window_iff {items : History} {unknown waiting stable : String} :
    (if (items.map fun item => (evaluate texts item.2 relationships invariant.predicate).satisfied).any
          fun satisfied => satisfied = none then (HealthStatus.unknown, unknown)
        else if (items.map fun item => (evaluate texts item.2 relationships invariant.predicate).satisfied).any
          fun satisfied => satisfied = some false then (.pending, waiting)
        else (.healthy, stable)).1 = .healthy ↔
      ∀ item ∈ items, truth texts item.2 relationships invariant.predicate = some true := by
  split
  · rename_i hunknown
    refine iff_of_false (by simp) fun hall => ?_
    simp only [List.any_map, List.any_eq_true, Function.comp_apply, decide_eq_true_eq] at hunknown
    obtain ⟨item, hitem, hnone⟩ := hunknown
    exact absurd ((hall item hitem).symm.trans hnone) (by simp)
  · rename_i hknown
    split
    · rename_i hfalse
      refine iff_of_false (by simp) fun hall => ?_
      simp only [List.any_map, List.any_eq_true, Function.comp_apply, decide_eq_true_eq] at hfalse
      obtain ⟨item, hitem, hunmet⟩ := hfalse
      exact absurd ((hall item hitem).symm.trans hunmet) (by simp)
    · rename_i hnever
      refine iff_of_true rfl fun item hitem => ?_
      simp only [List.any_map, List.any_eq_true, Function.comp_apply, decide_eq_true_eq, not_exists, not_and]
        at hknown hnever
      show (evaluate texts item.2 relationships invariant.predicate).satisfied = some true
      cases hsatisfied : (evaluate texts item.2 relationships invariant.predicate).satisfied with
      | none => exact absurd hsatisfied (hknown item hitem)
      | some satisfied =>
        cases satisfied with
        | false => exact absurd hsatisfied (hnever item hitem)
        | true => rfl

theorem healthy_applyStable_iff {atSeconds : Int} :
    (applyStable texts invariant (truth texts world relationships invariant.predicate) atSeconds history
        relationships).1 = .healthy ↔
      StableSince (fun world => truth texts world relationships invariant.predicate = some true) world history
        (atSeconds - invariant.temporal.stableForSeconds.getD 0) atSeconds := by
  unfold applyStable
  cases hcurrent : truth texts world relationships invariant.predicate with
  | none =>
    refine iff_of_false (by simp) fun h => ?_
    have hmet : truth texts world relationships invariant.predicate = some true := h.current
    rw [hcurrent] at hmet
    cases hmet
  | some satisfied =>
    cases satisfied with
    | false =>
      refine iff_of_false (by simp) fun h => ?_
      have hmet : truth texts world relationships invariant.predicate = some true := h.current
      rw [hcurrent] at hmet
      cases hmet
    | true =>
      dsimp only
      cases hbaseline : baselineOf (atSeconds - invariant.temporal.stableForSeconds.getD 0) history with
      | none =>
        refine iff_of_false (by simp) fun h => ?_
        obtain ⟨baseline, hfound, -⟩ := h.beginning
        rw [baselineOf_eq_some.mpr hfound] at hbaseline
        cases hbaseline
      | some baseline =>
        dsimp only
        rw [healthy_window_iff]
        constructor
        · intro hall
          rw [List.forall_mem_cons] at hall
          refine ⟨hcurrent, ⟨baseline, baselineOf_eq_some.mp hbaseline, hall.1⟩, ?_⟩
          intro item hitem hafter hbefore
          exact hall.2 item (List.mem_filter.mpr ⟨hitem, decide_eq_true ⟨hafter, hbefore⟩⟩)
        · intro h
          rw [List.forall_mem_cons]
          constructor
          · obtain ⟨found, hfound, hmet⟩ := h.beginning
            rw [baselineOf_eq_some.mpr hfound] at hbaseline
            rwa [← Option.some.inj hbaseline]
          · intro item hitem
            obtain ⟨hmem, htime⟩ := List.mem_filter.mp hitem
            have hwindow := of_decide_eq_true htime
            exact h.window item hmem hwindow.1 hwindow.2

/-- What it is to be reported healthy for a time, and that it is so for every shorter time. -/
theorem stable_reported (invariant : InvariantDefinition) (world : World) (atSeconds : Nat)
    (observed : Option History)
    (relationships : Option (List Relationship)) (seconds : Nat) :
    (reported texts (lasting invariant seconds) world atSeconds observed relationships = some .healthy ↔
      StableSince (fun world => truth texts world (relationships.getD []) invariant.predicate = some true) world
        (observationsAt world atSeconds observed) (atSeconds - seconds) atSeconds) ∧
    ∀ shorter ≤ seconds, reported texts (lasting invariant seconds) world atSeconds observed relationships =
      some .healthy →
      reported texts (lasting invariant shorter) world atSeconds observed relationships = some .healthy := by
  have hstable : ∀ seconds : Nat,
      reported texts (lasting invariant seconds) world atSeconds observed relationships = some .healthy ↔
        StableSince (fun world => truth texts world (relationships.getD []) invariant.predicate =
          some true) world
          (observationsAt world atSeconds observed) (atSeconds - seconds) atSeconds := by
    intro seconds
    rw [reported_eq, Option.some_inj]
    exact healthy_applyStable_iff
  refine ⟨hstable seconds, ?_⟩
  intro shorter hshorter hhealthy
  apply (hstable shorter).mpr
  exact ((hstable seconds).mp hhealthy).later (by omega) (by omega)

end Stability

section Eventuality

def bounded (invariant : InvariantDefinition) (deadline : Nat) : InvariantDefinition :=
  { invariant with
    temporal := { invariant.temporal with operator := .eventually, withinSeconds := some deadline } }

/-- What is reported when these are the observations, of which the last is the current one. -/
def reportedAfter (texts : ValueTexts) (invariant : InvariantDefinition) (history : History) (atSeconds : Nat)
    (relationships : Option (List Relationship)) : Option HealthStatus :=
  history.getLast?.bind fun last => reported texts invariant last.2 atSeconds (some history) relationships

def EndsBy (history : History) (atSeconds : Nat) : Prop := ∀ item ∈ history, item.1 ≤ atSeconds

/-- Along the history, the invariant is healthy exactly where it was met by the deadline, so that it stays
healthy and, once the deadline has passed, unhealthy. -/
structure DecidedByHistory (texts : ValueTexts) (invariant : InvariantDefinition) (deadline : Nat)
    (history : History)
    (relationships : Option (List Relationship)) : Prop where
  healthy_iff : ∀ seen, seen <+: history → seen ≠ [] → ∀ atSeconds : Nat, EndsBy seen atSeconds →
    (reportedAfter texts (bounded invariant deadline) seen atSeconds relationships = some .healthy ↔
      ∃ item ∈ seen, item.1 ≤ min (atSeconds : Int) deadline ∧
        truth texts item.2 (relationships.getD []) invariant.predicate = some true)
  staysHealthy : ∀ seen more, seen ++ more <+: history → seen ≠ [] → ∀ atSeconds later : Nat,
    atSeconds ≤ later →
    EndsBy seen atSeconds → EndsBy (seen ++ more) later →
    reportedAfter texts (bounded invariant deadline) seen atSeconds relationships = some .healthy →
    reportedAfter texts (bounded invariant deadline) (seen ++ more) later relationships = some .healthy
  staysUnhealthy : ∀ seen more, seen ++ more <+: history → seen ≠ [] → ∀ atSeconds later : Nat,
    deadline ≤ atSeconds →
    atSeconds ≤ later → EndsBy seen atSeconds → (∀ item ∈ more, (atSeconds : Int) < item.1) →
      EndsBy (seen ++ more) later →
    reportedAfter texts (bounded invariant deadline) seen atSeconds relationships = some .unhealthy →
    reportedAfter texts (bounded invariant deadline) (seen ++ more) later relationships ≠ some .healthy

/-- What is met by the deadline is not lost again, and nothing is met for the first time after it. -/
structure MetForGood (met : World → Prop) (deadline : Nat) (history : History) : Prop where
  kept : ∀ (front : History) (item : Int × World) (later : History), history = front ++ item :: later →
    item.1 ≤ deadline → met item.2 →
    ∀ other ∈ later, met other.2
  inTime : ∀ (front : History) (item : Int × World) (later : History), history = front ++ item :: later →
    (deadline : Int) < item.1 → met item.2 →
    ∃ other ∈ front, other.1 ≤ deadline ∧ met other.2

variable {texts : ValueTexts} {invariant : InvariantDefinition} {deadline : Nat} {history : History}
variable {relationships : Option (List Relationship)}

theorem reportedAfter_concat (front : History) (last : Int × World) (atSeconds : Nat) :
    reportedAfter texts (bounded invariant deadline) (front ++ [last]) atSeconds relationships = some .healthy ↔
      truth texts last.2 (relationships.getD []) invariant.predicate = some true := by
  rw [reportedAfter, List.getLast?_concat, Option.bind_some, reported_eq, Option.some_inj]
  show (applyEventually (bounded invariant deadline).temporal
    (truth texts last.2 (relationships.getD []) invariant.predicate) atSeconds).1 = .healthy ↔ _
  unfold applyEventually
  by_cases hmet : truth texts last.2 (relationships.getD []) invariant.predicate = some true
  · rw [if_pos hmet]
    exact iff_of_true rfl hmet
  · rw [if_neg hmet]
    refine iff_of_false ?_ hmet
    show ¬ (if (atSeconds : Int) < deadline then _ else _ : HealthStatus × String).1 = .healthy
    split
    · simp
    · split <;> simp

/-- A history decides a bounded eventuality exactly where what it meets by the deadline is met for good. -/
theorem decidedByHistory_iff (hsorted : history.Pairwise fun one two => one.1 ≤ two.1) :
    DecidedByHistory texts invariant deadline history relationships ↔
      MetForGood (fun world => truth texts world (relationships.getD []) invariant.predicate =
        some true) deadline
        history := by
  have hends : ∀ {front : History} {last : Int × World}, front ++ [last] <+: history →
      EndsBy (front ++ [last]) last.1.toNat := by
    intro front last hprefix item hitem
    have hle : item.1 ≤ last.1 := by
      rcases List.mem_append.mp hitem with hfront | hlast
      · have hpairs := hsorted.sublist hprefix.sublist
        exact (List.pairwise_append.mp hpairs).2.2 item hfront last List.mem_cons_self
      · rw [List.mem_singleton.mp hlast]
    omega
  constructor
  · intro h
    constructor
    · intro front item later hsplit htime hmet other hother
      obtain ⟨between, rest, rfl⟩ := List.append_of_mem hother
      have hprefix : (front ++ item :: between) ++ [other] <+: history := ⟨rest, by rw [hsplit]; simp⟩
      apply (reportedAfter_concat (front ++ item :: between) other other.1.toNat).mp
      apply (h.healthy_iff _ hprefix (by simp) _ (hends hprefix)).mpr
      have hitem : item ∈ (front ++ item :: between) ++ [other] := by simp
      exact ⟨item, hitem, le_min (hends hprefix item hitem) htime, hmet⟩
    · intro front item later hsplit htime hmet
      have hprefix : front ++ [item] <+: history := ⟨later, by rw [hsplit]; simp⟩
      have hhealthy : reportedAfter texts (bounded invariant deadline)
        (front ++ [item]) item.1.toNat relationships =
          some .healthy := (reportedAfter_concat front item item.1.toNat).mpr hmet
      obtain ⟨other, hother, hbound, hfound⟩ :=
        (h.healthy_iff _ hprefix (by simp) _ (hends hprefix)).mp hhealthy
      have hdeadline : other.1 ≤ deadline := hbound.trans (min_le_right _ _)
      rcases List.mem_append.mp hother with hfront | hlast
      · exact ⟨other, hfront, hdeadline, hfound⟩
      · rw [List.mem_singleton.mp hlast] at hdeadline
        omega
  · intro h
    have hhealthy : ∀ seen, seen <+: history → seen ≠ [] → ∀ atSeconds : Nat, EndsBy seen atSeconds →
        (reportedAfter texts (bounded invariant deadline) seen atSeconds relationships = some .healthy ↔
          ∃ item ∈ seen, item.1 ≤ min (atSeconds : Int) deadline ∧
            truth texts item.2 (relationships.getD []) invariant.predicate = some true) := by
      intro seen hprefix hne atSeconds hend
      obtain ⟨front, last, rfl⟩ := List.eq_nil_or_concat' seen |>.resolve_left hne
      obtain ⟨rest, hrest⟩ := hprefix
      rw [reportedAfter_concat]
      constructor
      · intro hmet
        by_cases htime : last.1 ≤ deadline
        · exact ⟨last, by simp, le_min (hend last (by simp)) htime, hmet⟩
        · obtain ⟨other, hother, hdeadline, hfound⟩ :=
            h.inTime front last rest (by rw [← hrest]; simp) (not_le.mp htime) hmet
          have hmem : other ∈ front ++ [last] := List.mem_append_left _ hother
          exact ⟨other, hmem, le_min (hend other hmem) hdeadline, hfound⟩
      · rintro ⟨item, hitem, hbound, hmet⟩
        rcases List.mem_append.mp hitem with hfront | hlast
        · obtain ⟨before, after, rfl⟩ := List.append_of_mem hfront
          exact h.kept before item (after ++ last :: rest) (by rw [← hrest]; simp)
            (hbound.trans (min_le_right _ _)) hmet
            last (by simp)
        · rwa [← List.mem_singleton.mp hlast]
    constructor
    · exact hhealthy
    · intro seen more hprefix hne atSeconds later hle hend hends' hreported
      have hseen := (List.prefix_append seen more).trans hprefix
      obtain ⟨item, hitem, hbound, hmet⟩ := (hhealthy seen hseen hne atSeconds hend).mp hreported
      apply (hhealthy (seen ++ more) hprefix (List.append_ne_nil_of_left_ne_nil hne _) later hends').mpr
      exact ⟨item, List.mem_append_left _ hitem, by omega, hmet⟩
    · intro seen more hprefix hne atSeconds later hdeadline hle hend hmore hends' hreported hhealthier
      have hseen := (List.prefix_append seen more).trans hprefix
      obtain ⟨item, hitem, hbound, hmet⟩ :=
        (hhealthy (seen ++ more) hprefix (List.append_ne_nil_of_left_ne_nil hne _) later hends').mp hhealthier
      rcases List.mem_append.mp hitem with hold | hnew
      · have hbefore := (hhealthy seen hseen hne atSeconds hend).mpr ⟨item, hold, by omega, hmet⟩
        rw [hreported] at hbefore
        cases hbefore
      · have hafter := hmore item hnew
        omega

def podObserved (ready : Bool) : World :=
  Dict.ofList [("pod", .dict [("observed_state", .dict [("ready", .bool ready)])])]

def podReady : InvariantDefinition where
  invariantId := "pod-ready"
  title := "The pod is ready"
  family := .readiness
  subjectId := "pod"
  predicate := .fieldEquals "pod" "observed_state.ready" (.bool true)

/-- The pod becomes ready in time. -/
theorem podReady_decided :
    DecidedByHistory plainTexts podReady 5 [(0, podObserved false), (3, podObserved true)] none := by
  apply (decidedByHistory_iff (by decide)).mpr
  have hunready : ¬ truth plainTexts (podObserved false)
    ((none : Option (List Relationship)).getD []) podReady.predicate =
      some true := by decide
  constructor
  · intro front item later hsplit _ hmet other hother
    cases front with
    | nil =>
      obtain ⟨rfl, -⟩ := List.cons.inj hsplit
      exact absurd hmet hunready
    | cons first front =>
      have hlength := congrArg List.length hsplit
      have hlater := List.length_pos_of_mem hother
      simp at hlength
      omega
  · intro front item later hsplit htime _
    have hitem : item ∈ [((0 : Int), podObserved false), (3, podObserved true)] := by rw [hsplit]; simp
    rcases List.mem_cons.mp hitem with rfl | hlast
    · exact absurd htime (by decide)
    · obtain rfl := List.mem_singleton.mp hlast
      exact absurd htime (by decide)

/-- The pod was ready in time and is not any more, or it becomes ready too late. -/
theorem podReady_not_decided :
    ¬ DecidedByHistory plainTexts podReady 5 [(0, podObserved true), (2, podObserved false)] none ∧
      ¬ DecidedByHistory plainTexts podReady 5 [(0, podObserved false), (7, podObserved true)] none := by
  constructor
  · intro h
    have hiff := h.healthy_iff _ (List.prefix_refl _) (List.cons_ne_nil _ _) 5 (by simp [EndsBy])
    have hreported : reportedAfter plainTexts (bounded podReady 5)
      [(0, podObserved true), (2, podObserved false)] 5 none =
        some .unhealthy := by decide
    have hmet : truth plainTexts (podObserved true)
      ((none : Option (List Relationship)).getD []) podReady.predicate =
        some true := by decide
    rw [hreported] at hiff
    exact absurd (hiff.mpr ⟨(0, podObserved true), List.mem_cons_self, by decide, hmet⟩) (by decide)
  · intro h
    have hiff := h.healthy_iff _ (List.prefix_refl _) (List.cons_ne_nil _ _) 7 (by simp [EndsBy])
    have hreported : reportedAfter plainTexts (bounded podReady 5)
      [(0, podObserved false), (7, podObserved true)] 7 none =
        some .healthy := by decide
    have hunmet : ¬ truth plainTexts (podObserved false) ((none : Option (List Relationship)).getD [])
        podReady.predicate = some true := by decide
    obtain ⟨item, hitem, hbound, hmet⟩ := hiff.mp hreported
    rcases List.mem_cons.mp hitem with rfl | hlast
    · exact hunmet hmet
    · obtain rfl := List.mem_singleton.mp hlast
      exact absurd hbound (by decide)

end Eventuality

end KubeOps.Invariants
