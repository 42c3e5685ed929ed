import KubeOps.Simulator.Equivariance
import KubeOps.Simulator.Termination

/-! The numbers and times of a run: the events are numbered one after the other until a mutation
fails, whose number is left out. -/
namespace KubeOps.Simulator

open KubeOps.Foundation KubeOps.Models KubeOps.Discovery KubeOps.Invariants

section Queue

variable {texts : ValueTexts} {world : World} {items queue : List QueueItem}
  {item : QueueItem} {atSeconds : Nat}

def InTime (items : List QueueItem) : Prop := items.Pairwise fun one two => one.atSeconds ≤ two.atSeconds

theorem InTime.push (h : InTime queue) (item : QueueItem) : InTime (push queue item) := by
  induction queue with
  | nil => exact List.pairwise_singleton _ item
  | cons first rest ih =>
    obtain ⟨hfirst, hrest⟩ := List.pairwise_cons.mp h
    rw [Simulator.push, List.orderedInsert_cons]
    split
    · rename_i hle
      have hitem : item.atSeconds ≤ first.atSeconds := by
        rcases hle with hless | ⟨hsame, -⟩ <;> omega
      refine List.pairwise_cons.mpr ⟨?_, h⟩
      intro other hother
      rcases List.mem_cons.mp hother with rfl | hlater
      · exact hitem
      · exact hitem.trans (hfirst other hlater)
    · rename_i hnot
      have hitem : first.atSeconds ≤ item.atSeconds := by
        by_contra hlater
        exact hnot (Or.inl (not_le.mp hlater))
      refine List.pairwise_cons.mpr ⟨?_, ih hrest⟩
      intro other hother
      rcases mem_push.mp hother with rfl | hlater
      · exact hitem
      · exact hfirst other hlater

theorem InTime.foldl_push (h : InTime queue) (items : List QueueItem) :
    InTime (items.foldl Simulator.push queue) := by
  induction items generalizing queue with
  | nil => exact h
  | cons item items ih => exact ih (h.push item)

theorem le_of_mem_effectItems {rule : TransitionRule} {index order : Nat} {effects : List StateMutation}
    (h : item ∈ effectItems rule atSeconds index order effects) : atSeconds ≤ item.atSeconds := by
  induction effects generalizing index order with
  | nil => cases h
  | cons effect effects ih =>
    rcases List.mem_cons.mp h with rfl | hrest
    · exact Nat.le_add_right _ _
    · exact ih hrest

theorem le_of_mem_generated {rules : List TransitionRule} {scheduling : Scheduling}
    (hold : ∀ item ∈ scheduling.generated, atSeconds ≤ item.atSeconds)
    (h : item ∈ (rules.foldl (scheduleRule texts world atSeconds) scheduling).generated) :
    atSeconds ≤ item.atSeconds := by
  induction rules generalizing scheduling with
  | nil => exact hold item h
  | cons rule rules ih =>
    apply ih _ h
    intro other hother
    unfold scheduleRule at hother
    split at hother
    · rcases List.mem_append.mp hother with hbefore | hnew
      · exact hold other hbefore
      · exact le_of_mem_effectItems hnew
    · exact hold other hother

end Queue

section Times

variable {texts : ValueTexts} {failures : FailureTexts} {scenario : ScenarioInstance} {state next : RunState}

def timesOf (history : History) : List Int := history.map Prod.fst

theorem timesOf_concat (history : History) (entry : Int × World) :
    timesOf (history ++ [entry]) = timesOf history ++ [entry.1] := List.map_append

/-- A history of the world begins at time 0 and goes on in time. -/
structure TruthHistory (history : History) : Prop where
  begins : (timesOf history).head? = some 0
  goesOn : (timesOf history).Pairwise (· ≤ ·)

/-- Time does not go back: not in the history of the world, of which each later state is due to
an event, and not in what is still to come. -/
structure InOrder (state : RunState) : Prop where
  history : TruthHistory state.worldHistory
  queue : InTime state.queue
  waits : ∀ item ∈ state.queue, ∀ time ∈ timesOf state.worldHistory, time ≤ item.atSeconds
  events : state.timeline.map (fun event => (event.atSeconds : Int)) = (timesOf state.worldHistory).tail

theorem TruthHistory.concat {history : History} {atSeconds : Int} (h : TruthHistory history) (world : World)
    (hlast : ∀ time ∈ timesOf history, time ≤ atSeconds) : TruthHistory (history ++ [(atSeconds, world)]) where
  begins := by
    rw [timesOf_concat, List.head?_append, h.begins]
    rfl
  goesOn := by
    rw [timesOf_concat, List.pairwise_append]
    refine ⟨h.goesOn, List.pairwise_singleton _ _, ?_⟩
    intro time htime other hother
    rw [List.mem_singleton.mp hother]
    exact hlast time htime

theorem inOrder_initialState : InOrder (initialState texts scenario) where
  history := ⟨rfl, List.pairwise_singleton _ _⟩
  queue := InTime.foldl_push List.Pairwise.nil _
  waits := by
    intro item _ time htime
    rw [List.mem_singleton.mp htime]
    exact Int.natCast_nonneg _
  events := rfl

theorem InOrder.step (h : InOrder state) (hstep : step texts failures scenario state = .inl next) :
    InOrder next := by
  obtain ⟨item, rest, world, hqueue, -, -, rfl⟩ := step_eq_inl hstep
  have hitem : item ∈ state.queue := by
    rw [hqueue]
    exact List.mem_cons_self
  have hsorted : InTime (item :: rest) := hqueue ▸ h.queue
  obtain ⟨hfirst, hrest⟩ := List.pairwise_cons.mp hsorted
  constructor
  · exact h.history.concat world (h.waits item hitem)
  · exact InTime.foldl_push hrest _
  · intro other hother time htime
    have hlater : item.atSeconds ≤ other.atSeconds := by
      rcases mem_foldl_push.mp hother with hnew | hold
      · exact le_of_mem_generated (fun _ hnone => absurd hnone List.not_mem_nil) hnew
      · exact hfirst other hold
    have htime : time ∈ timesOf (state.worldHistory ++ [((item.atSeconds : Int), world)]) := htime
    rw [timesOf_concat] at htime
    have hcast : (item.atSeconds : Int) ≤ other.atSeconds := by exact_mod_cast hlater
    rcases List.mem_append.mp htime with hold | hnow
    · exact (h.waits item hitem time hold).trans hcast
    · rw [List.mem_singleton.mp hnow]
      exact hcast
  · have hne : timesOf state.worldHistory ≠ [] := by
      intro hnil
      have hbegins := h.history.begins
      rw [hnil] at hbegins
      cases hbegins
    show (state.timeline ++ [mutationEvent state.sequence item]).map _ =
      (timesOf (state.worldHistory ++ [((item.atSeconds : Int), world)])).tail
    rw [timesOf_concat, List.map_append, h.events, List.tail_append_of_ne_nil hne]
    rfl

end Times

section Numbers

variable {texts : ValueTexts} {failures : FailureTexts} {scenario : ScenarioInstance} {state next : RunState}

def Triggered (timeline : List TimelineEvent) (snapshot : WorldSnapshot) : Prop :=
  ∃ event ∈ timeline, snapshot.triggerEventSequence = some event.sequence ∧ event.atSeconds = snapshot.atSeconds

def NamesTriggers (timeline : List TimelineEvent) (snapshots : List WorldSnapshot) : Prop :=
  snapshots.head?.map WorldSnapshot.triggerEventSequence = some none ∧
    ∀ snapshot ∈ snapshots.tail, Triggered timeline snapshot

/-- The numbers are those from 0 on, in order; time does not go back; and the snapshots name their events. -/
structure Numbered (simulation : SimulationRun) : Prop where
  sequences : simulation.timeline.map TimelineEvent.sequence = List.range simulation.timeline.length
  times : simulation.timeline.Pairwise fun one two => one.atSeconds ≤ two.atSeconds
  triggers : NamesTriggers simulation.timeline simulation.snapshots

structure CountsEvents (state : RunState) : Prop where
  sequences : state.timeline.map TimelineEvent.sequence = List.range state.sequence
  triggers : NamesTriggers state.timeline state.snapshots

theorem NamesTriggers.mono {timeline later : List TimelineEvent} {snapshots : List WorldSnapshot}
    (h : NamesTriggers timeline snapshots) (hsub : timeline ⊆ later) : NamesTriggers later snapshots := by
  refine ⟨h.1, ?_⟩
  intro snapshot hsnapshot
  obtain ⟨event, hevent, hnames⟩ := h.2 snapshot hsnapshot
  exact ⟨event, hsub hevent, hnames⟩

theorem NamesTriggers.concat {timeline : List TimelineEvent} {snapshots : List WorldSnapshot}
    {snapshot : WorldSnapshot}
    (h : NamesTriggers timeline snapshots) (hsnapshot : Triggered timeline snapshot) :
    NamesTriggers timeline (snapshots ++ [snapshot]) := by
  cases snapshots with
  | nil => cases h.1
  | cons first rest =>
    refine ⟨h.1, ?_⟩
    intro other hother
    rcases List.mem_append.mp hother with hold | hnew
    · exact h.2 other hold
    · rw [List.mem_singleton.mp hnew]
      exact hsnapshot

theorem countsEvents_initialState : CountsEvents (initialState texts scenario) :=
  ⟨rfl, rfl, fun _ hnone => absurd hnone List.not_mem_nil⟩

theorem CountsEvents.step (h : CountsEvents state) (hstep : step texts failures scenario state = .inl next) :
    CountsEvents next := by
  obtain ⟨item, rest, world, -, -, -, rfl⟩ := step_eq_inl hstep
  constructor
  · show (state.timeline ++ [mutationEvent state.sequence item]).map _ = List.range (state.sequence + 1)
    rw [List.map_append, h.sequences, List.range_succ]
    rfl
  · apply NamesTriggers.concat
    · exact h.triggers.mono (List.subset_append_left _ _)
    · exact ⟨mutationEvent state.sequence item, List.mem_append_right _ List.mem_cons_self, rfl, rfl⟩

def FailsNext (scenario : ScenarioInstance) (state : RunState) : Prop :=
  ∃ item, state.queue.head? = some item ∧ item.atSeconds ≤ scenario.maxTimeSeconds ∧
    ∃ failure, applyMutation state.world item.scheduled.mutation = .error failure

theorem InOrder.times (h : InOrder state) :
    state.timeline.Pairwise fun one two => one.atSeconds ≤ two.atSeconds := by
  have htail : (state.timeline.map fun event => (event.atSeconds : Int)).Pairwise (· ≤ ·) := by
    rw [h.events]
    exact h.history.goesOn.tail
  apply (List.pairwise_map.mp htail).imp
  intro one two hle
  exact_mod_cast hle

theorem CountsEvents.length_timeline (h : CountsEvents state) : state.timeline.length = state.sequence := by
  have hlength := congrArg List.length h.sequences
  rwa [List.length_map, List.length_range] at hlength

theorem numbered_finished (horder : InOrder state) (hcounts : CountsEvents state) (status : RunStatus)
    (queue : List QueueItem) : Numbered (finished scenario (status, { state with queue })) where
  sequences := by
    show state.timeline.map _ = List.range state.timeline.length
    rw [hcounts.sequences, hcounts.length_timeline]
  times := horder.times
  triggers := hcounts.triggers

theorem not_numbered_failed (hcounts : CountsEvents state) (status : RunStatus) (queue : List QueueItem)
    (atSeconds : Nat) (failure : MutationFailure) :
    ¬ Numbered (finished scenario (status, { state with
      queue
      sequence := state.sequence + 2
      timeline := state.timeline ++ [failureEvent failures (state.sequence + 1) atSeconds failure] })) := by
  intro hnumbered
  have hsequences : (state.timeline ++ [failureEvent failures (state.sequence + 1) atSeconds failure]).map
      TimelineEvent.sequence = List.range (state.timeline ++ [_]).length := hnumbered.sequences
  rw [List.map_append, hcounts.sequences, List.length_append, hcounts.length_timeline, List.length_singleton,
    List.range_succ] at hsequences
  have hlast : [state.sequence + 1] = [state.sequence] := List.append_cancel_left hsequences
  exact Nat.succ_ne_self _ (List.singleton_inj.mp hlast)

theorem numbered_step_iff {result : RunStatus × RunState} (horder : InOrder state)
    (hcounts : CountsEvents state)
    (hstep : step texts failures scenario state = .inr result) :
    Numbered (finished scenario result) ↔ ¬ FailsNext scenario state := by
  unfold step at hstep
  cases hqueue : state.queue with
  | nil =>
    rw [hqueue] at hstep
    obtain rfl := Sum.inr.inj hstep
    apply iff_of_true (numbered_finished horder hcounts _ state.queue)
    rintro ⟨item, hhead, -⟩
    rw [hqueue] at hhead
    cases hhead
  | cons item rest =>
    rw [hqueue] at hstep
    dsimp only at hstep
    split at hstep
    · rename_i hlate
      obtain rfl := Sum.inr.inj hstep
      apply iff_of_true (numbered_finished horder hcounts _ rest)
      rintro ⟨other, hhead, htime, -⟩
      rw [hqueue] at hhead
      obtain rfl := Option.some.inj hhead
      omega
    · rename_i htime
      cases happlied : applyMutation state.world item.scheduled.mutation with
      | ok world =>
        rw [happlied] at hstep
        cases hstep
      | error failure =>
        rw [happlied] at hstep
        obtain rfl := Sum.inr.inj hstep
        apply iff_of_false (not_numbered_failed hcounts _ rest _ failure)
        rw [not_not]
        exact ⟨item, by rw [hqueue]; rfl, not_lt.mp htime, failure, happlied⟩

theorem not_failsNext_of_step (hstep : step texts failures scenario state = .inl next) :
    ¬ FailsNext scenario state := by
  obtain ⟨item, rest, world, hqueue, -, happlied, -⟩ := step_eq_inl hstep
  rintro ⟨other, hhead, -, failure, hfailure⟩
  rw [hqueue] at hhead
  obtain rfl := Option.some.inj hhead
  rw [happlied] at hfailure
  cases hfailure

theorem follows_iff_of_step {later : RunState} (hstep : step texts failures scenario state = .inl next) :
    Follows texts failures scenario state later ↔ later = state ∨
      Follows texts failures scenario next later := by
  constructor
  · intro h
    rcases Relation.ReflTransGen.cases_head h with rfl | ⟨middle, hmiddle, hlater⟩
    · exact Or.inl rfl
    · rw [hstep] at hmiddle
      obtain rfl := Sum.inl.inj hmiddle
      exact Or.inr hlater
  · rintro (rfl | hlater)
    · exact Relation.ReflTransGen.refl
    · exact Relation.ReflTransGen.head hstep hlater

theorem numbered_loop_iff {fuel : Nat} {result : RunStatus × RunState} (horder : InOrder state)
    (hcounts : CountsEvents state) (h : loop texts failures scenario fuel state = some result) :
    Numbered (finished scenario result) ↔
      ∀ later, Follows texts failures scenario state later → ¬ FailsNext scenario later := by
  induction fuel generalizing state with
  | zero => cases h
  | succ fuel ih =>
    rw [loop] at h
    cases hstep : step texts failures scenario state with
    | inl next =>
      rw [hstep] at h
      rw [ih (horder.step hstep) (hcounts.step hstep) h]
      simp only [follows_iff_of_step hstep, forall_eq_or_imp, not_failsNext_of_step hstep,
        not_false_eq_true, true_and]
    | inr found =>
      rw [hstep] at h
      obtain rfl := Option.some.inj h
      rw [numbered_step_iff horder hcounts hstep]
      constructor
      · intro hnone later hlater
        rcases Relation.ReflTransGen.cases_head hlater with rfl | ⟨middle, hmiddle, -⟩
        · exact hnone
        · rw [hstep] at hmiddle
          cases hmiddle
      · intro hall
        exact hall state Relation.ReflTransGen.refl

/-- A run that comes to its end has its events numbered if and only if no mutation that is due fails. -/
theorem run_numbered_iff {fuel : Nat} {simulation : SimulationRun}
    (h : run texts failures scenario fuel = some simulation) :
    Numbered simulation ↔
      ∀ state, Follows texts failures scenario (initialState texts scenario) state →
        ¬ FailsNext scenario state := by
  obtain ⟨result, hloop, rfl⟩ := Option.map_eq_some_iff.mp h
  exact numbered_loop_iff inOrder_initialState countsEvents_initialState hloop

end Numbers

section Example

theorem podScenario_numbered : ∃ simulation, run plainTexts plainFailures podScenario 2 = some simulation ∧
    (Numbered simulation ↔ ∀ state, Follows plainTexts plainFailures podScenario
      (initialState plainTexts podScenario) state → ¬ FailsNext podScenario state) := by
  have hrun : (run plainTexts plainFailures podScenario 2).isSome = true := by decide
  obtain ⟨simulation, hrun⟩ := Option.isSome_iff_exists.mp hrun
  exact ⟨simulation, hrun, run_numbered_iff hrun⟩

def podMissing : ScenarioInstance :=
  { podScenario with
    disturbance := ⟨"disturbance", [⟨"ready", 1, "pod is ready", setReady "pod" true⟩,
      ⟨"missing", 2, "other pod is ready", setReady "other" true⟩]⟩ }

def sequencesOf (simulation : SimulationRun) : List Nat := simulation.timeline.map TimelineEvent.sequence

/-- The second event of the run is the failure, and its number is 2. -/
theorem podMissing_not_numbered : podMissing.validateReferences = .ok () ∧
    ∃ simulation, run plainTexts plainFailures podMissing 3 = some simulation ∧
      sequencesOf simulation = [0, 2] ∧ ¬ Numbered simulation := by
  have hsequences : (run plainTexts plainFailures podMissing 3).map sequencesOf = some [0, 2] := by decide
  obtain ⟨simulation, hrun, hsimulation⟩ := Option.map_eq_some_iff.mp hsequences
  refine ⟨by decide, simulation, hrun, hsimulation, ?_⟩
  intro hnumbered
  have hrange : sequencesOf simulation = List.range simulation.timeline.length := hnumbered.sequences
  have hlength : simulation.timeline.length = 2 := by
    rw [← List.length_map TimelineEvent.sequence, ← sequencesOf, hsimulation]
    rfl
  rw [hsimulation, hlength] at hrange
  cases hrange

end Example

end KubeOps.Simulator
