import KubeOps.Simulator.Agreement
import Mathlib.Algebra.Order.BigOperators.Group.List
import Mathlib.Algebra.Order.Ring.Nat

/-! When the simulation comes to an end: as soon as no rule that may fire again and again does so
without a delay. -/
namespace KubeOps.Simulator

open KubeOps.Foundation KubeOps.Models KubeOps.Discovery KubeOps.Invariants

section Sums

variable {α : Type} {items : List α} {f g : α → Nat} {item : α} {difference : Nat}

theorem sum_map_add_le (hle : ∀ item ∈ items, f item ≤ g item) (hitem : item ∈ items)
    (h : f item + difference ≤ g item) : (items.map f).sum + difference ≤ (items.map g).sum := by
  induction items with
  | nil => cases hitem
  | cons first rest ih =>
    rw [List.forall_mem_cons] at hle
    have hrest : (rest.map f).sum ≤ (rest.map g).sum := List.sum_le_sum fun item hitem => hle.2 item hitem
    have hfirst := hle.1
    simp only [List.map_cons, List.sum_cons]
    rcases List.mem_cons.mp hitem with rfl | hlater
    · omega
    · have := ih hle.2 hlater
      omega

end Sums

section Measure

variable (scenario : ScenarioInstance)

def effectCount : Nat := (scenario.transitionRules.map fun rule => rule.effects.length).sum

/-- What an event at this time can still bring about. -/
def weight (atSeconds : Nat) : Nat := (effectCount scenario + 1) ^ (scenario.maxTimeSeconds + 1 - atSeconds)

def weightOf (items : List QueueItem) : Nat := (items.map fun item => weight scenario item.atSeconds).sum

def unfired (firedRules : List String) : Nat :=
  (scenario.transitionRules.map fun rule =>
    if rule.fireOnce = true ∧ rule.ruleId ∉ firedRules then rule.effects.length * weight scenario 0 else 0).sum

def remaining (state : RunState) : Nat := weightOf scenario state.queue + unfired scenario state.firedRules

variable {scenario} {atSeconds later : Nat} {items others : List QueueItem} {item : QueueItem}

theorem weight_pos : 0 < weight scenario atSeconds := Nat.pow_pos (Nat.succ_pos _)

theorem weight_le (h : atSeconds ≤ later) : weight scenario later ≤ weight scenario atSeconds :=
  Nat.pow_le_pow_right (Nat.succ_pos _) (by omega)

theorem weight_succ (h : atSeconds ≤ scenario.maxTimeSeconds) :
    weight scenario atSeconds = (effectCount scenario + 1) * weight scenario (atSeconds + 1) := by
  have hexponent : scenario.maxTimeSeconds + 1 - atSeconds = scenario.maxTimeSeconds + 1 -
    (atSeconds + 1) + 1 := by
    omega
  rw [weight, weight, hexponent, Nat.pow_succ, Nat.mul_comm]

theorem weightOf_append : weightOf scenario (items ++ others) =
    weightOf scenario items + weightOf scenario others := by
  rw [weightOf, List.map_append, List.sum_append]
  rfl

theorem weightOf_push : weightOf scenario (push items item) =
    weight scenario item.atSeconds + weightOf scenario items := by
  have hperm := (List.perm_orderedInsert QueueItem.le item items).map fun item => weight scenario item.atSeconds
  rw [weightOf, push, hperm.sum_nat, List.map_cons, List.sum_cons]
  rfl

theorem weightOf_foldl_push :
    weightOf scenario (others.foldl push items) = weightOf scenario others + weightOf scenario items := by
  induction others generalizing items with
  | nil => simp [weightOf]
  | cons other others ih =>
    rw [List.foldl_cons, ih, weightOf_push, ← List.singleton_append, weightOf_append]
    simp only [weightOf, List.map_cons, List.map_nil, List.sum_cons, List.sum_nil]
    omega

theorem unfired_cons {rule : TransitionRule} {firedRules : List String}
    (hrule : rule ∈ scenario.transitionRules)
    (honce : rule.fireOnce = true) (hfresh : rule.ruleId ∉ firedRules) :
    unfired scenario (rule.ruleId :: firedRules) + rule.effects.length * weight scenario 0 ≤
      unfired scenario firedRules := by
  apply sum_map_add_le _ hrule
  · rw [if_neg (by simp), if_pos ⟨honce, hfresh⟩, Nat.zero_add]
  · intro other _
    split_ifs with hnew hold
    · exact Nat.le_refl _
    · exact absurd ⟨hnew.1, fun hmem => hnew.2 (List.mem_cons_of_mem _ hmem)⟩ hold
    · exact Nat.zero_le _
    · exact Nat.le_refl _

end Measure

section Turns

variable {texts : ValueTexts} {failures : FailureTexts} {scenario : ScenarioInstance} {state next : RunState}
variable {world : World} {atSeconds : Nat}

theorem weightOf_effectItems (rule : TransitionRule) (index order : Nat) (effects : List StateMutation) :
    weightOf scenario (effectItems rule atSeconds index order effects) =
      effects.length * weight scenario (atSeconds + rule.delaySeconds) := by
  induction effects generalizing index order with
  | nil => simp [effectItems, weightOf]
  | cons effect effects ih =>
    rw [effectItems, ← List.singleton_append, weightOf_append, ih, List.length_cons, Nat.succ_mul, Nat.add_comm]
    simp [weightOf]

/-- A rule that may fire again fires now, and what it does happens now. -/
def FiresAtOnce (texts : ValueTexts) (scenario : ScenarioInstance) (world : World) : Prop :=
  ∃ rule ∈ scenario.transitionRules, rule.fireOnce = false ∧ rule.delaySeconds = 0 ∧ rule.effects ≠ [] ∧
    holds texts world [] rule = true

theorem weightOf_scheduleRule (atSeconds : Nat) (scheduling : Scheduling) {rule : TransitionRule}
    (hrule : rule ∈ scenario.transitionRules) (hnone : ¬ FiresAtOnce texts scenario world) :
    weightOf scenario (scheduleRule texts world atSeconds scheduling rule).generated +
        unfired scenario (scheduleRule texts world atSeconds scheduling rule).firedRules ≤
      weightOf scenario scheduling.generated + unfired scenario scheduling.firedRules +
        rule.effects.length * weight scenario (atSeconds + 1) := by
  unfold scheduleRule
  split
  · rename_i hfires
    rw [fires, Bool.and_eq_true, Bool.not_eq_true', Bool.and_eq_false_iff] at hfires
    dsimp only
    rw [weightOf_append, weightOf_effectItems]
    cases honce : rule.fireOnce with
    | true =>
      have hfresh : rule.ruleId ∉ scheduling.firedRules := by simpa [honce] using hfires.1
      have hunfired := unfired_cons hrule honce hfresh
      have hweight : rule.effects.length * weight scenario (atSeconds + rule.delaySeconds) ≤
          rule.effects.length * weight scenario 0 := Nat.mul_le_mul_left _ (weight_le (Nat.zero_le _))
      simp only [if_true]
      omega
    | false =>
      have hweight : rule.effects.length * weight scenario (atSeconds + rule.delaySeconds) ≤
          rule.effects.length * weight scenario (atSeconds + 1) := by
        by_cases heffects : rule.effects = []
        · simp [heffects]
        · apply Nat.mul_le_mul_left
          apply weight_le
          have hdelay : rule.delaySeconds ≠ 0 :=
            fun hzero => hnone ⟨rule, hrule, honce, hzero, heffects, hfires.2⟩
          omega
      simp only [Bool.false_eq_true, if_false]
      omega
  · omega

theorem weightOf_foldl_scheduleRule {rules : List TransitionRule} (scheduling : Scheduling)
    (hrules : rules ⊆ scenario.transitionRules) (hnone : ¬ FiresAtOnce texts scenario world) :
    weightOf scenario (rules.foldl (scheduleRule texts world atSeconds) scheduling).generated +
        unfired scenario (rules.foldl (scheduleRule texts world atSeconds) scheduling).firedRules ≤
      weightOf scenario scheduling.generated + unfired scenario scheduling.firedRules +
        (rules.map fun rule => rule.effects.length).sum * weight scenario (atSeconds + 1) := by
  induction rules generalizing scheduling with
  | nil => simp
  | cons rule rules ih =>
    rw [List.cons_subset] at hrules
    rw [List.foldl_cons, List.map_cons, List.sum_cons, Nat.add_mul]
    have hfirst := weightOf_scheduleRule atSeconds scheduling hrules.1 hnone
    have hrest := ih (scheduleRule texts world atSeconds scheduling rule) hrules.2
    omega

theorem remaining_lt (hstep : step texts failures scenario state = .inl next)
    (hnone : ∀ item world, Happens scenario state item world → ¬ FiresAtOnce texts scenario world) :
    remaining scenario next < remaining scenario state := by
  obtain ⟨item, rest, world, hqueue, htime, happlied, rfl⟩ := step_eq_inl hstep
  have hworld := hnone item world ⟨by rw [hqueue]; rfl, htime, happlied⟩
  have hrules : weightOf scenario
    (scheduleRules texts scenario.transitionRules world item.atSeconds state.firedRules
        state.queueOrder).generated + unfired scenario (scheduleRules texts scenario.transitionRules world
        item.atSeconds state.firedRules state.queueOrder).firedRules ≤
      0 + unfired scenario state.firedRules + effectCount scenario * weight scenario (item.atSeconds + 1) :=
    weightOf_foldl_scheduleRule _ (List.Subset.refl scenario.transitionRules) hworld
  have hweight := weight_succ htime
  have hpos : 0 < weight scenario (item.atSeconds + 1) := weight_pos
  have hqueueWeight : weightOf scenario state.queue =
    weight scenario item.atSeconds + weightOf scenario rest := by
    rw [hqueue, weightOf, List.map_cons, List.sum_cons]
    rfl
  have hnext : remaining scenario (afterEvent texts scenario state item rest world) =
      weightOf scenario (scheduleRules texts scenario.transitionRules world item.atSeconds state.firedRules
        state.queueOrder).generated + weightOf scenario rest + unfired scenario (scheduleRules texts
        scenario.transitionRules world item.atSeconds state.firedRules state.queueOrder).firedRules := by
    rw [remaining, afterEvent]
    exact congrArg (· + _) weightOf_foldl_push
  rw [hnext, remaining, hqueueWeight, hweight, Nat.add_mul, Nat.one_mul]
  omega

end Turns

section Halting

variable {texts : ValueTexts} {failures : FailureTexts} {scenario : ScenarioInstance} {state next : RunState}

def Follows (texts : ValueTexts) (failures : FailureTexts) (scenario : ScenarioInstance) :
    RunState → RunState → Prop :=
  Relation.ReflTransGen fun state next => step texts failures scenario state = .inl next

/-- In the next turn no rule fires at once. -/
def Settles (texts : ValueTexts) (scenario : ScenarioInstance) (state : RunState) : Prop :=
  ∀ item world, Happens scenario state item world → ¬ FiresAtOnce texts scenario world

theorem loop_isSome_of_settles (h : ∀ next, Follows texts failures scenario state next →
    Settles texts scenario next) :
    (loop texts failures scenario (remaining scenario state + 1) state).isSome = true := by
  suffices hfuel : ∀ fuel, remaining scenario state < fuel →
    (loop texts failures scenario fuel state).isSome = true from
    hfuel _ (Nat.lt_succ_self _)
  intro fuel hfuel
  induction fuel generalizing state with
  | zero => omega
  | succ fuel ih =>
    rw [loop]
    cases hstep : step texts failures scenario state with
    | inr result => rfl
    | inl next =>
      have hless := remaining_lt hstep (h state .refl)
      apply ih
      · intro later hlater
        exact h later (.head hstep hlater)
      · omega

theorem loop_isSome_of_follows {fuel : Nat} (h : Follows texts failures scenario state next)
    (hnext : (loop texts failures scenario fuel next).isSome = true) :
    ∃ fuel, (loop texts failures scenario fuel state).isSome = true := by
  induction h using Relation.ReflTransGen.head_induction_on with
  | refl => exact ⟨fuel, hnext⟩
  | head hstep _ ih =>
    obtain ⟨fuel, hfuel⟩ := ih
    refine ⟨fuel + 1, ?_⟩
    rw [loop, hstep]
    exact hfuel

theorem exists_last_of_loop {fuel : Nat} (h : (loop texts failures scenario fuel state).isSome = true) :
    ∃ last result, Follows texts failures scenario state last ∧
      step texts failures scenario last = .inr result := by
  induction fuel generalizing state with
  | zero => cases h
  | succ fuel ih =>
    rw [loop] at h
    cases hstep : step texts failures scenario state with
    | inr result => exact ⟨state, result, .refl, hstep⟩
    | inl next =>
      rw [hstep] at h
      obtain ⟨last, result, hlast, hresult⟩ := ih h
      exact ⟨last, result, .head hstep hlast, hresult⟩

theorem not_happens_of_step {result : RunStatus × RunState}
    (h : step texts failures scenario state = .inr result)
    {item : QueueItem} {world : World} : ¬ Happens scenario state item world := by
  rintro ⟨hhead, htime, happlied⟩
  unfold step at h
  cases hqueue : state.queue with
  | nil =>
    rw [hqueue] at hhead
    cases hhead
  | cons first rest =>
    rw [hqueue] at h hhead
    cases hhead
    dsimp only at h
    rw [if_neg (not_lt.mpr htime), happlied] at h
    cases h

/-- A run comes to its end if and only if from some turn on no rule fires at once. -/
theorem halts_iff : (∃ fuel, (run texts failures scenario fuel).isSome = true) ↔
    ∃ state, Follows texts failures scenario (initialState texts scenario) state ∧
      ∀ next, Follows texts failures scenario state next → Settles texts scenario next := by
  simp only [run, Option.isSome_map]
  constructor
  · rintro ⟨fuel, hfuel⟩
    obtain ⟨last, result, hlast, hresult⟩ := exists_last_of_loop hfuel
    refine ⟨last, hlast, ?_⟩
    intro next hnext item world hhappens
    rcases Relation.ReflTransGen.cases_head hnext with rfl | ⟨middle, hstep, -⟩
    · exact absurd hhappens (not_happens_of_step hresult)
    · rw [hresult] at hstep
      cases hstep
  · rintro ⟨state, hstate, hsettles⟩
    exact loop_isSome_of_follows hstate (loop_isSome_of_settles hsettles)

end Halting

section Example

def restless : ScenarioInstance :=
  { podScenario with
    transitionRules := [{ ruleId := "restless", title := "again", effects := [setReady "pod" true] }] }

/-- The pod is there, and all that waits makes it ready. -/
structure StaysRestless (state : RunState) : Prop where
  pod : (state.world.get? "pod").isSome = true
  waiting : state.queue ≠ []
  ready : ∀ item ∈ state.queue, item.atSeconds ≤ 1 ∧ item.scheduled.mutation = setReady "pod" true

variable {state : RunState}

theorem applyMutation_setReady (h : (state.world.get? "pod").isSome = true) :
    ∃ world, applyMutation state.world (setReady "pod" true) = .ok world ∧
      (world.get? "pod").isSome = true := by
  obtain ⟨pod, hpod⟩ := Option.isSome_iff_exists.mp h
  have hpath : (some "observed_state.ready").filter (fun path => decide (path ≠ "")) =
    some "observed_state.ready" := by
    decide
  refine ⟨state.world.set "pod" (setIn pod "observed_state.ready" (.bool true)), ?_, ?_⟩
  · rw [applyMutation, setReady]
    dsimp only
    rw [hpath, hpod]
    rfl
  · rw [Dict.get?_set_self]
    rfl

theorem StaysRestless.step (h : StaysRestless state) :
    ∃ next, step plainTexts plainFailures restless state = .inl next ∧ StaysRestless next := by
  obtain ⟨item, rest, hqueue⟩ := List.exists_cons_of_ne_nil h.waiting
  have hitem := h.ready item (by rw [hqueue]; exact List.mem_cons_self)
  obtain ⟨world, happlied, hpod⟩ := applyMutation_setReady h.pod
  refine ⟨afterEvent plainTexts restless state item rest world, ?_, hpod, ?_, ?_⟩
  · have htime : ¬ restless.maxTimeSeconds < item.atSeconds := by
      have hmax : restless.maxTimeSeconds = 20 := rfl
      omega
    rw [Simulator.step, hqueue]
    dsimp only
    rw [if_neg htime, hitem.2, happlied]
  · apply List.ne_nil_of_mem
    exact (List.perm_orderedInsert QueueItem.le _ _).mem_iff.mpr List.mem_cons_self
  · intro other hother
    rcases List.mem_cons.mp ((List.perm_orderedInsert QueueItem.le _ _).mem_iff.mp hother) with rfl | hrest
    · exact ⟨hitem.1, rfl⟩
    · exact h.ready other (by rw [hqueue]; exact List.mem_cons_of_mem _ hrest)

theorem StaysRestless.loop_eq_none (h : StaysRestless state) (fuel : Nat) :
    loop plainTexts plainFailures restless fuel state = none := by
  induction fuel generalizing state with
  | zero => rfl
  | succ fuel ih =>
    obtain ⟨next, hstep, hnext⟩ := h.step
    rw [loop, hstep]
    exact ih hnext

/-- The scenario is accepted, and no number of turns brings its run to an end. -/
theorem restless_never_halts : restless.validateReferences = .ok () ∧
    ¬ ∃ fuel, (run plainTexts plainFailures restless fuel).isSome = true := by
  refine ⟨by decide, ?_⟩
  have hstart : StaysRestless (initialState plainTexts restless) := by
    refine ⟨by decide, List.cons_ne_nil _ _, ?_⟩
    intro item hitem
    rw [List.mem_singleton.mp hitem]
    exact ⟨Nat.le_refl _, rfl⟩
  rintro ⟨fuel, hfuel⟩
  rw [run, hstart.loop_eq_none] at hfuel
  cases hfuel

end Example

end KubeOps.Simulator
