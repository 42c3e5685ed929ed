import KubeOps.Simulator.Lag

/-! What waits in the queue of a run: it is numbered in the order in which it came, and takes its place behind
what is due no later. What happens later changes nothing of what was true before. -/
namespace KubeOps.Simulator

open KubeOps.Foundation KubeOps.Models KubeOps.Discovery KubeOps.Invariants

section Queue

variable {queue items : List QueueItem} {item : QueueItem} {chosen : QueueItem → Bool}
  {due : QueueItem → Nat × StateMutation}

theorem push_eq_insertAfter (h : ∀ other ∈ queue, other.order < item.order) :
    push queue item = insertAfter QueueItem.atSeconds queue item := by
  apply orderedInsert_congr
  intro other hother
  have horder := h other hother
  unfold QueueItem.le
  omega

theorem map_filter_foldl_push (chosen : QueueItem → Bool)
    (hdue : ∀ one two, (due one).1 < (due two).1 ↔ one.atSeconds < two.atSeconds)
    (hqueue : InTime queue) (hitems : items.Pairwise fun one two => one.order < two.order)
    (h : ∀ other ∈ queue, ∀ item ∈ items, other.order < item.order) :
    ((items.foldl push queue).filter chosen).map due =
      ((items.filter chosen).map due).foldl (insertAfter Prod.fst) ((queue.filter chosen).map due) := by
  induction items generalizing queue with
  | nil => rfl
  | cons first items ih =>
    rw [List.pairwise_cons] at hitems
    have hfirst : ∀ other ∈ queue, other.order < first.order :=
      fun other hother => h other hother first List.mem_cons_self
    have hnext : ∀ other ∈ push queue first, ∀ item ∈ items, other.order < item.order := by
      intro other hother item hitem
      cases mem_push.mp hother with
      | inl hsame => exact hsame ▸ hitems.1 item hitem
      | inr hold => exact h other hold item (List.mem_cons_of_mem _ hitem)
    rw [List.foldl_cons, ih (hqueue.push first) hitems.2 hnext, push_eq_insertAfter hfirst,
      filter_insertAfter hqueue, List.filter_cons]
    split
    · rw [map_insertAfter hdue, List.map_cons, List.foldl_cons]
    · rfl

def QueueItem.Before (one two : QueueItem) : Prop :=
  one.atSeconds < two.atSeconds ∨ one.atSeconds = two.atSeconds ∧ one.order < two.order

theorem before_push (hqueue : queue.Pairwise QueueItem.Before) (hnew : ∀ other ∈ queue, other.order < item.order) :
    (push queue item).Pairwise QueueItem.Before := by
  induction queue with
  | nil => exact List.pairwise_singleton _ _
  | cons head queue ih =>
    have hhead := hnew head List.mem_cons_self
    rw [List.pairwise_cons] at hqueue
    unfold push
    rw [List.orderedInsert_cons]
    split
    · rename_i hle
      rw [List.pairwise_cons, List.forall_mem_cons, List.pairwise_cons]
      unfold QueueItem.le at hle
      refine ⟨⟨.inl (by omega), fun other hother => .inl ?_⟩, hqueue⟩
      cases hqueue.1 other hother with
      | inl hlater => omega
      | inr hsame => omega
    · rename_i hle
      rw [List.pairwise_cons]
      refine ⟨?_, ih hqueue.2 fun other hother => hnew other (List.mem_cons_of_mem _ hother)⟩
      intro other hother
      cases mem_push.mp hother with
      | inl hsame =>
        unfold QueueItem.le at hle
        unfold QueueItem.Before
        rw [hsame]
        omega
      | inr hold => exact hqueue.1 other hold

theorem before_foldl_push (hqueue : queue.Pairwise QueueItem.Before)
    (hitems : items.Pairwise fun one two => one.order < two.order)
    (h : ∀ other ∈ queue, ∀ item ∈ items, other.order < item.order) :
    (items.foldl push queue).Pairwise QueueItem.Before := by
  induction items generalizing queue with
  | nil => exact hqueue
  | cons first items ih =>
    rw [List.pairwise_cons] at hitems
    apply ih (before_push hqueue fun other hother => h other hother first List.mem_cons_self) hitems.2
    intro other hother item hitem
    cases mem_push.mp hother with
    | inl hsame => exact hsame ▸ hitems.1 item hitem
    | inr hold => exact h other hold item (List.mem_cons_of_mem _ hitem)

end Queue

section Numbers

variable {texts : ValueTexts} {failures : FailureTexts} {scenario : ScenarioInstance} {state next : RunState}
  {world : World} {start atSeconds : Nat} {scheduling : Scheduling}

structure NumberedIn (start stop : Nat) (items : List QueueItem) : Prop where
  rising : items.Pairwise fun one two => one.order < two.order
  within : ∀ item ∈ items, start ≤ item.order ∧ item.order < stop
  le : start ≤ stop

theorem NumberedIn.nil (start : Nat) : NumberedIn start start [] :=
  ⟨List.Pairwise.nil, fun _ hnone => absurd hnone List.not_mem_nil, Nat.le_refl start⟩

theorem NumberedIn.cons {stop : Nat} {items : List QueueItem} {item : QueueItem}
    (h : NumberedIn (start + 1) stop items) (hitem : item.order = start) :
      NumberedIn start stop (item :: items) where
  rising := by
    rw [List.pairwise_cons]
    refine ⟨?_, h.rising⟩
    intro other hother
    have hwithin := h.within other hother
    omega
  within := by
    have hle := h.le
    rw [List.forall_mem_cons]
    refine ⟨by omega, ?_⟩
    intro other hother
    have hwithin := h.within other hother
    omega
  le := (Nat.le_succ start).trans h.le

theorem NumberedIn.append {middle stop : Nat} {front back : List QueueItem}
    (hfront : NumberedIn start middle front)
    (hback : NumberedIn middle stop back) : NumberedIn start stop (front ++ back) where
  rising := by
    rw [List.pairwise_append]
    refine ⟨hfront.rising, hback.rising, ?_⟩
    intro one hone two htwo
    exact (hfront.within one hone).2.trans_le (hback.within two htwo).1
  within := by
    intro item hitem
    cases List.mem_append.mp hitem with
    | inl hfirst =>
      have hwithin := hfront.within item hfirst
      exact ⟨hwithin.1, hwithin.2.trans_le hback.le⟩
    | inr hlater =>
      have hwithin := hback.within item hlater
      exact ⟨hfront.le.trans hwithin.1, hwithin.2⟩
  le := hfront.le.trans hback.le

theorem numberedIn_effectItems (rule : TransitionRule) (atSeconds index start : Nat)
    (effects : List StateMutation) :
    NumberedIn start (start + effects.length) (effectItems rule atSeconds index start effects) := by
  induction effects generalizing index start with
  | nil => exact .nil start
  | cons effect effects ih =>
    rw [List.length_cons, Nat.add_comm effects.length, ← Nat.add_assoc]
    exact (ih (index + 1) (start + 1)).cons rfl

theorem numberedIn_disturbanceItems (start : Nat) (mutations : List ScheduledMutation) :
    NumberedIn start (start + mutations.length) (disturbanceItems start mutations) := by
  induction mutations generalizing start with
  | nil => exact .nil start
  | cons mutation mutations ih =>
    rw [List.length_cons, Nat.add_comm mutations.length, ← Nat.add_assoc]
    exact (ih (start + 1)).cons rfl

theorem numberedIn_scheduleRule (rule : TransitionRule)
    (h : NumberedIn start scheduling.queueOrder scheduling.generated) :
    NumberedIn start (scheduleRule texts world atSeconds scheduling rule).queueOrder
      (scheduleRule texts world atSeconds scheduling rule).generated := by
  unfold scheduleRule
  split
  · exact h.append (numberedIn_effectItems rule atSeconds 0 scheduling.queueOrder rule.effects)
  · exact h

theorem numberedIn_foldl (rules : List TransitionRule)
    (h : NumberedIn start scheduling.queueOrder scheduling.generated) :
    NumberedIn start (rules.foldl (scheduleRule texts world atSeconds) scheduling).queueOrder
      (rules.foldl (scheduleRule texts world atSeconds) scheduling).generated := by
  induction rules generalizing scheduling with
  | nil => exact h
  | cons rule rules ih => exact ih (numberedIn_scheduleRule rule h)

theorem numberedIn_scheduleRules (texts : ValueTexts) (rules : List TransitionRule) (world : World) (atSeconds : Nat)
    (firedRules : List String) (start : Nat) :
    NumberedIn start (scheduleRules texts rules world atSeconds firedRules start).queueOrder
      (scheduleRules texts rules world atSeconds firedRules start).generated :=
  numberedIn_foldl rules (.nil start)

def NumbersBelow (state : RunState) : Prop := ∀ item ∈ state.queue, item.order < state.queueOrder

theorem numbersBelow_of_reached (h : Reached texts failures scenario state) : NumbersBelow state := by
  induction h with
  | start =>
    intro item hitem
    have hwithin := (numberedIn_disturbanceItems 0 scenario.disturbance.mutations).within item
      ((mem_foldl_push.mp hitem).resolve_right List.not_mem_nil)
    rw [Nat.zero_add] at hwithin
    exact hwithin.2
  | next h hstep ih =>
    rename_i state next
    obtain ⟨item, rest, world, hqueue, -, -, rfl⟩ := step_eq_inl hstep
    have hnumbered := numberedIn_scheduleRules texts scenario.transitionRules world item.atSeconds
      state.firedRules state.queueOrder
    intro other hother
    cases mem_foldl_push.mp hother with
    | inl hnew => exact (hnumbered.within other hnew).2
    | inr hold =>
      have hbelow := ih other (hqueue ▸ List.mem_cons_of_mem _ hold)
      exact hbelow.trans_le hnumbered.le

theorem inOrder_of_reached (h : Reached texts failures scenario state) : InOrder state := by
  induction h with
  | start => exact inOrder_initialState
  | next _ hstep ih => exact ih.step hstep

def truthsOf (snapshots : List WorldSnapshot) : History :=
  snapshots.map fun snapshot => ((snapshot.atSeconds : Int), snapshot.truthState)

theorem truthsOf_snapshots (h : Reached texts failures scenario state) :
    truthsOf state.snapshots = state.worldHistory := by
  induction h with
  | start => rfl
  | next _ hstep ih =>
    obtain ⟨item, rest, world, -, -, -, rfl⟩ := step_eq_inl hstep
    show truthsOf (_ ++ [_]) = _ ++ [_]
    rw [← ih]
    exact List.map_append

theorem truthAt_concat (history : History) (entry : Int × World) (atSeconds : Int) :
    truthAt (history ++ [entry]) atSeconds =
      if entry.1 ≤ atSeconds then entry else truthAt history atSeconds := by
  unfold truthAt
  rw [List.filter_append, List.filter_cons]
  by_cases h : entry.1 ≤ atSeconds
  · rw [if_pos (decide_eq_true h), if_pos h, List.filter_nil, List.getLast?_concat, Option.getD_some]
  · rw [if_neg fun htrue => h (of_decide_eq_true htrue), if_neg h, List.filter_nil, List.append_nil]

end Numbers

section Steps

variable {texts : ValueTexts} {failures : FailureTexts} {scenario : ScenarioInstance} {state : RunState}
  {queued : QueueItem} {rest : List QueueItem} {world : World}

theorem step_nil (h : state.queue = []) : step texts failures scenario state = .inr (.completed, state) := by
  rw [step, h]

theorem step_late (h : state.queue = queued :: rest) (hlate : scenario.maxTimeSeconds < queued.atSeconds) :
    step texts failures scenario state = .inr (.completed, { state with queue := rest }) := by
  rw [step, h]
  exact if_pos hlate

theorem step_happens (h : state.queue = queued :: rest) (htime : queued.atSeconds ≤ scenario.maxTimeSeconds)
    (happlied : applyMutation state.world queued.scheduled.mutation = .ok world) :
    step texts failures scenario state = .inl (afterEvent texts scenario state queued rest world) := by
  rw [step, h]
  dsimp only
  rw [if_neg (not_lt.mpr htime), happlied]

theorem step_fails {failure : MutationFailure} (h : state.queue = queued :: rest)
    (htime : queued.atSeconds ≤ scenario.maxTimeSeconds)
    (happlied : applyMutation state.world queued.scheduled.mutation = .error failure) :
    ∃ result, step texts failures scenario state = .inr result := by
  rw [step, h]
  dsimp only
  rw [if_neg (not_lt.mpr htime), happlied]
  exact ⟨_, rfl⟩

theorem step_ends (h : ∀ queued ∈ state.queue, scenario.maxTimeSeconds < queued.atSeconds) :
    ∃ result, step texts failures scenario state = .inr result := by
  cases hqueue : state.queue with
  | nil => exact ⟨_, step_nil hqueue⟩
  | cons queued rest => exact ⟨_, step_late hqueue (h queued (hqueue ▸ List.mem_cons_self))⟩

theorem snapshots_of_ends {result : RunStatus × RunState}
    (h : step texts failures scenario state = .inr result) :
    result.2.snapshots = state.snapshots := by
  unfold step at h
  split at h
  · obtain rfl := Sum.inr.inj h
    rfl
  · split at h
    · obtain rfl := Sum.inr.inj h
      rfl
    · split at h
      · cases h
      · obtain rfl := Sum.inr.inj h
        rfl

theorem loop_of_ends {result : RunStatus × RunState} (h : step texts failures scenario state = .inr result)
    (fuel : Nat) : loop texts failures scenario (fuel + 1) state = some result := by
  rw [loop, h]

theorem loop_of_happens {next : RunState} (h : step texts failures scenario state = .inl next) (fuel : Nat) :
    loop texts failures scenario (fuel + 1) state = loop texts failures scenario fuel next := by
  rw [loop, h]

theorem le_of_mem_afterEvent {other : QueueItem}
    (h : Reached texts failures scenario (afterEvent texts scenario state queued rest world))
    (hother : other ∈ (afterEvent texts scenario state queued rest world).queue) :
    queued.atSeconds ≤ other.atSeconds := by
  have hnow : (queued.atSeconds : Int) ∈
      timesOf (afterEvent texts scenario state queued rest world).worldHistory := by
    show _ ∈ timesOf (state.worldHistory ++ [_])
    rw [timesOf_concat]
    exact List.mem_append_right _ List.mem_cons_self
  have hwait := (inOrder_of_reached h).waits other hother _ hnow
  omega

theorem truthAt_loop {fuel atSeconds : Nat} {result : RunStatus × RunState}
    (hreached : Reached texts failures scenario state) (h : ∀ queued ∈ state.queue,
      atSeconds < queued.atSeconds)
    (hloop : loop texts failures scenario fuel state = some result) :
    truthAt (truthsOf result.2.snapshots) atSeconds = truthAt state.worldHistory atSeconds := by
  induction fuel generalizing state with
  | zero => cases hloop
  | succ fuel ih =>
    cases hstep : step texts failures scenario state with
    | inr ended =>
      rw [loop_of_ends hstep] at hloop
      obtain rfl := Option.some.inj hloop
      rw [snapshots_of_ends hstep, truthsOf_snapshots hreached]
    | inl next =>
      rw [loop_of_happens hstep] at hloop
      have hnext := hreached.next hstep
      obtain ⟨queued, rest, world, hqueue, -, -, rfl⟩ := step_eq_inl hstep
      have hlater : atSeconds < queued.atSeconds := h queued (hqueue ▸ List.mem_cons_self)
      rw [ih hnext (fun other hother => hlater.trans_le (le_of_mem_afterEvent hnext hother)) hloop]
      refine (truthAt_concat state.worldHistory _ _).trans (if_neg ?_)
      dsimp only
      omega

end Steps

end KubeOps.Simulator
