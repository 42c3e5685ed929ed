import KubeOps.Execution.Certificates

/-! What a run does after a required action has failed. The behaviour asked for by one
action stays in force for the actions after it that ask for none. -/
namespace KubeOps.Execution

open KubeOps.Foundation KubeOps.Models KubeOps.Policy KubeOps.Actions
open OperationRuntime (LoopState LoopExit firstReady startLoop receiptEvent markActions)

inductive Reaction where
  | carryOn | pause | stop | rollBack
deriving DecidableEq, Repr

def reactionTo (rollbackOnFailure : Bool) (failureBehavior : String) : Reaction :=
  if failureBehavior = "continue" then .carryOn
  else if failureBehavior = "pause" then .pause
  else if rollbackOnFailure ∧ failureBehavior = "rollback" then .rollBack
  else .stop

/-- What `run` goes on to do after a round that ends so: `while pending and not failed`, and
behind the loop `rollbackIfAsked`. -/
def OperationRuntime.LoopExit.reaction (rollbackOnFailure : Bool) : LoopExit → Reaction
  | .paused _ => .pause
  | .left next =>
    if ¬ next.failed then .carryOn
    else if rollbackOnFailure ∧ next.failureBehavior = "rollback" then .rollBack
    else .stop

def OperationRuntime.LoopExit.operation : LoopExit → OperationRun
  | .paused operation => operation
  | .left next => next.operation

section Rounds

variable (runtime : OperationRuntime) (context : RuntimeContext)

structure FailsIn (state : LoopState) (trace : Trace Effect) (action : ActionInstance) (exit : LoopExit)
    (reached : Trace Effect) : Prop where
  ready : firstReady state.ready = some action
  required : action.isOptional = false
  executed : (runtime.iterate context state).exec trace = (.ok exit, reached)
  failed : ∃ receipt, exit.operation.actionReceipts.getLast? = some receipt ∧
    receipt.status.successful = false

/-- The states between the rounds of a run, with the actions whose failures it has tolerated. -/
inductive Underway (start : LoopState) (begun : Trace Effect) :
    List ActionInstance → LoopState → Trace Effect → Prop
  | start : Underway start begun [] start begun
  | settled {tolerated : List ActionInstance} {state next : LoopState} {trace reached : Trace Effect}
      (earlier : Underway start begun tolerated state trace)
      (executed : (runtime.iterate context state).exec trace = (.ok (.left next), reached))
      (unfailed : ∀ action, ¬ FailsIn runtime context state trace action (.left next) reached)
      (going : next.failed = false) : Underway start begun tolerated next reached
  | tolerated {tolerated : List ActionInstance} {state next : LoopState} {trace reached : Trace Effect}
      {action : ActionInstance} (earlier : Underway start begun tolerated state trace)
      (fails : FailsIn runtime context state trace action (.left next) reached)
      (going : next.failed = false) : Underway start begun (tolerated ++ [action]) next reached

end Rounds

section Steps

variable {runtime : OperationRuntime} {context : RuntimeContext} {state : LoopState} {action : ActionInstance}
  {receipt : ActionReceipt} {exit : LoopExit} {rollbackOnFailure : Bool}

/-- How `settle` ends for an action with this receipt. -/
structure Settles (runtime : OperationRuntime) (state : LoopState) (action : ActionInstance)
    (receipt : ActionReceipt) (exit : LoopExit) : Prop where
  receipts : exit.operation.actionReceipts = state.operation.actionReceipts
  passed : receipt.status.successful = true ∨ action.isOptional = true → ∃ next, exit = .left next ∧
    next.failed = state.failed ∧ next.failureBehavior = state.failureBehavior
  failed : receipt.status.successful = false → action.isOptional = false →
    (∀ rollbackOnFailure, exit.reaction rollbackOnFailure =
      reactionTo rollbackOnFailure (runtime.onFailure action state.failureBehavior)) ∧
    ∀ next, exit = .left next → next.failureBehavior = runtime.onFailure action state.failureBehavior

theorem fail_fails {operation : OperationRun} {reason : String} :
    Returns (runtime.fail operation reason) fun failed => ∃ updatedAtIso events, failed =
      { operation with updatedAtIso, events, status := .failed, failureReason := some reason } := by
  unfold OperationRuntime.fail
  refine Returns.bind noted_returns fun noted hnoted => Returns.pure ?_
  obtain ⟨updatedAtIso, event, -, -, rfl⟩ := hnoted
  exact ⟨updatedAtIso, _, rfl⟩

theorem settle_settles (state : LoopState) (action : ActionInstance) (receipt : ActionReceipt)
    (hgoing : state.failed = false) :
    Returns (runtime.settle state action receipt) (Settles runtime state action receipt) := by
  unfold OperationRuntime.settle
  refine Returns.ite (fun hsuccessful => Returns.pure ?_) fun hfailed => ?_
  · exact ⟨rfl, fun _ => ⟨_, rfl, rfl, rfl⟩, fun hnot => absurd hsuccessful (by simp [hnot])⟩
  refine Returns.ite (fun hoptional => Returns.pure ?_) fun hrequired => ?_
  · exact ⟨rfl, fun _ => ⟨_, rfl, rfl, rfl⟩, fun _ hnot => absurd hoptional (by simp [hnot])⟩
  have hpassed : ¬ (receipt.status.successful = true ∨ action.isOptional = true) :=
    not_or.mpr ⟨hfailed, hrequired⟩
  dsimp only
  refine Returns.ite (fun hcontinue => ?_) fun hcontinue => ?_
  · refine Returns.bind noted_returns fun noted hnoted => Returns.bind_any fun _ => Returns.pure ?_
    obtain ⟨updatedAtIso, event, -, -, rfl⟩ := hnoted
    refine ⟨rfl, fun h => absurd h hpassed, fun _ _ => ⟨fun rollbackOnFailure => ?_, fun next hnext => ?_⟩⟩
    · simp [LoopExit.reaction, reactionTo, hcontinue, hgoing]
    · cases hnext
      rfl
  refine Returns.ite (fun hpause => ?_) fun hpause => ?_
  · refine Returns.bind noted_returns fun noted hnoted => Returns.bind_any fun _ => Returns.pure ?_
    obtain ⟨updatedAtIso, event, -, -, rfl⟩ := hnoted
    refine ⟨rfl, fun h => absurd h hpassed, fun _ _ => ⟨fun rollbackOnFailure => ?_, fun next hnext => ?_⟩⟩
    · rw [reactionTo, if_neg hcontinue, if_pos hpause]
      rfl
    · cases hnext
  · refine Returns.bind fail_fails fun failed hfails => Returns.pure ?_
    obtain ⟨updatedAtIso, events, rfl⟩ := hfails
    refine ⟨rfl, fun h => absurd h hpassed, fun _ _ => ⟨fun rollbackOnFailure => ?_, fun next hnext => ?_⟩⟩
    · rw [reactionTo, if_neg hcontinue, if_neg hpause]
      simp [LoopExit.reaction]
    · cases hnext
      rfl

theorem appendReceipt_appends {operation : OperationRun} :
    Returns (runtime.appendReceipt operation receipt) fun later => ∃ updatedAtIso event, later =
      { operation with
        updatedAtIso
        events := operation.events ++ [event]
        plan := { operation.plan with
          actions := markActions operation.plan.actions receipt.actionId (receiptEvent receipt.status).2 }
        actionReceipts := operation.actionReceipts ++ [receipt]
        currentActionIds := operation.currentActionIds.filter (· ≠ receipt.actionId) } := by
  unfold OperationRuntime.appendReceipt
  refine Returns.bind noted_returns fun noted hnoted => Returns.bind_any fun _ => Returns.pure ?_
  obtain ⟨updatedAtIso, event, -, -, rfl⟩ := hnoted
  exact ⟨updatedAtIso, event, rfl⟩

theorem iterate_settles (hready : firstReady state.ready = some action) (hgoing : state.failed = false) :
    Returns (runtime.iterate context state) fun exit => ∃ between receipt,
      between.failed = false ∧ between.failureBehavior = state.failureBehavior ∧
      exit.operation.actionReceipts.getLast? = some receipt ∧ Settles runtime between action receipt exit := by
  unfold OperationRuntime.iterate
  rw [hready]
  dsimp only
  split
  · exact Returns.raise _
  · refine Returns.bind_any fun _ => Returns.bind_any fun running => Returns.bind_any fun checked => ?_
    refine Returns.bind_any fun receipt => Returns.bind appendReceipt_appends fun received hreceived => ?_
    have hlast : received.actionReceipts.getLast? = some receipt := by
      obtain ⟨updatedAtIso, event, rfl⟩ := hreceived
      exact List.getLast?_concat
    let between : LoopState :=
      { state with operation := received, pending := state.pending.erase action.actionId }
    refine (settle_settles between action receipt hgoing).mono fun exit hexit => ?_
    refine ⟨between, receipt, hgoing, rfl, ?_, hexit⟩
    rw [hexit.receipts]
    exact hlast

theorem iterate_blocked (hready : firstReady state.ready = none) :
    Returns (runtime.iterate context state) fun exit => ∃ next, exit = .left next ∧ next.failed = true := by
  unfold OperationRuntime.iterate
  rw [hready]
  dsimp only
  exact Returns.bind_any fun _ => Returns.bind_any fun failed => Returns.pure ⟨_, rfl, rfl⟩

end Steps

section Runs

variable {runtime : OperationRuntime} {context : RuntimeContext} {operation : OperationRun}
  {rollbackOnFailure : Bool} {begun trace reached : Trace Effect} {tolerated : List ActionInstance}
  {state : LoopState} {action : ActionInstance} {exit : LoopExit}

/-- `"rollback" if rollback_on_failure else "stop"` -/
def defaultBehavior (rollbackOnFailure : Bool) : String := if rollbackOnFailure then "rollback" else "stop"

def SaysOnFailure (action : ActionInstance) : Prop := (action.metadata.get? "on_failure").isSome

theorem onFailure_of_own (h : SaysOnFailure action) (one other : String) :
    runtime.onFailure action one = runtime.onFailure action other := by
  obtain ⟨value, hvalue⟩ := Option.isSome_iff_exists.mp h
  rw [OperationRuntime.onFailure, OperationRuntime.onFailure, hvalue]

theorem onFailure_of_silent (h : ¬ SaysOnFailure action) (failureBehavior : String) :
    runtime.onFailure action failureBehavior = failureBehavior := by
  rw [SaysOnFailure, Bool.not_eq_true, Option.isSome_eq_false_iff, Option.isNone_iff_eq_none] at h
  rw [OperationRuntime.onFailure, h]

theorem reactionTo_defaultBehavior (rollbackOnFailure : Bool) :
    reactionTo rollbackOnFailure (defaultBehavior rollbackOnFailure) ≠ .carryOn := by
  cases rollbackOnFailure <;> decide

theorem FailsIn.reaction_eq (h : FailsIn runtime context state trace action exit reached)
    (hgoing : state.failed = false) : (∀ rollbackOnFailure, exit.reaction rollbackOnFailure =
      reactionTo rollbackOnFailure (runtime.onFailure action state.failureBehavior)) ∧
    ∀ next, exit = .left next → next.failureBehavior = runtime.onFailure action state.failureBehavior := by
  obtain ⟨between, receipt, -, hbehavior, hlast, hsettles⟩ :=
    (iterate_settles h.ready hgoing).apply h.executed
  obtain ⟨failing, hfailing, hunsuccessful⟩ := h.failed
  obtain rfl := Option.some.inj (hlast.symm.trans hfailing)
  rw [← hbehavior]
  exact hsettles.failed hunsuccessful h.required

theorem Underway.behavior (h : Underway runtime context (startLoop operation rollbackOnFailure) begun
    tolerated state trace) : state.failed = false ∧ state.failureBehavior =
      if tolerated = [] then defaultBehavior rollbackOnFailure else "continue" := by
  induction h with
  | start => exact ⟨rfl, rfl⟩
  | @settled tolerated state next trace reached earlier executed unfailed going ih =>
    refine ⟨going, ?_⟩
    rw [← ih.2]
    cases hready : firstReady state.ready with
    | none =>
      obtain ⟨blocked, hblocked, hfailed⟩ := (iterate_blocked hready).apply executed
      cases hblocked
      rw [going] at hfailed
      cases hfailed
    | some action =>
      obtain ⟨between, receipt, -, hbehavior, hlast, hsettles⟩ :=
        (iterate_settles hready ih.1).apply executed
      have hpassed : receipt.status.successful = true ∨ action.isOptional = true := by
        by_contra hnot
        rw [not_or, Bool.not_eq_true, Bool.not_eq_true] at hnot
        exact unfailed action ⟨hready, hnot.2, executed, receipt, hlast, hnot.1⟩
      obtain ⟨found, hfound, -, hkept⟩ := hsettles.passed hpassed
      cases hfound
      rw [hkept, hbehavior]
  | @tolerated tolerated state next trace reached action earlier fails going ih =>
    refine ⟨going, ?_⟩
    obtain ⟨hreaction, hbehavior⟩ := fails.reaction_eq ih.1
    have hcarries : reactionTo true (runtime.onFailure action state.failureBehavior) = .carryOn := by
      rw [← hreaction true]
      simp [LoopExit.reaction, going]
    rw [if_neg (by simp), hbehavior next rfl]
    by_contra hne
    unfold reactionTo at hcarries
    rw [if_neg hne] at hcarries
    split at hcarries
    · cases hcarries
    · split at hcarries
      · cases hcarries
      · cases hcarries

theorem reaction_iff (h : Underway runtime context (startLoop operation rollbackOnFailure) begun tolerated
    state trace) (hfails : FailsIn runtime context state trace action exit reached) :
    exit.reaction rollbackOnFailure =
        reactionTo rollbackOnFailure (runtime.onFailure action (defaultBehavior rollbackOnFailure)) ↔
      tolerated = [] ∨ SaysOnFailure action := by
  obtain ⟨hgoing, hbehavior⟩ := h.behavior
  rw [(hfails.reaction_eq hgoing).1, hbehavior]
  by_cases hnone : tolerated = []
  · simp [hnone]
  · rw [if_neg hnone]
    by_cases hown : SaysOnFailure action
    · rw [onFailure_of_own hown "continue" (defaultBehavior rollbackOnFailure)]
      simp [hown]
    · rw [onFailure_of_silent hown, onFailure_of_silent hown]
      refine iff_of_false ?_ (not_or.mpr ⟨hnone, hown⟩)
      exact fun hsame => reactionTo_defaultBehavior rollbackOnFailure hsame.symm

theorem Underway.runLoop {start : LoopState} {rounds : Nat}
    (h : Underway runtime context start begun tolerated state trace) (hgoing : state.failed = false)
    (hloop : (runtime.runLoop context rounds state).exec trace = (.ok exit, reached)) :
    (∃ tolerated last, Underway runtime context start begun tolerated last reached ∧ exit = .left last ∧
      last.pending.entries = []) ∨
    ∃ tolerated last ended, Underway runtime context start begun tolerated last ended ∧
      (runtime.iterate context last).exec ended = (.ok exit, reached) ∧
      ∀ next, exit = .left next → next.failed = true := by
  induction rounds generalizing tolerated state trace with
  | zero =>
    obtain ⟨_, between, -, hraised⟩ := Program.exec_bind_ok hloop
    cases hraised
  | succ rounds ih =>
    unfold OperationRuntime.runLoop at hloop
    by_cases hended : state.pending.entries = [] ∨ state.failed
    · rw [if_pos hended] at hloop
      cases hloop
      refine .inl ⟨tolerated, state, h, rfl, hended.resolve_right ?_⟩
      simp [hgoing]
    · rw [if_neg hended] at hloop
      obtain ⟨round, between, hround, hrest⟩ := Program.exec_bind_ok hloop
      cases round with
      | paused operation =>
        cases hrest
        refine .inr ⟨tolerated, state, trace, h, hround, fun next hnext => ?_⟩
        cases hnext
      | left next =>
        cases hfailed : next.failed with
        | false =>
          by_cases hsome : ∃ action, FailsIn runtime context state trace action (.left next) between
          · obtain ⟨action, hfails⟩ := hsome
            exact ih (h.tolerated hfails hfailed) hfailed hrest
          · exact ih (h.settled hround (not_exists.mp hsome) hfailed) hfailed hrest
        | true =>
          -- the loop ends without another round
          cases rounds with
          | zero =>
            obtain ⟨_, between, -, hraised⟩ := Program.exec_bind_ok hrest
            cases hraised
          | succ rounds =>
            unfold OperationRuntime.runLoop at hrest
            dsimp only at hrest
            rw [if_pos (.inr hfailed)] at hrest
            cases hrest
            refine .inr ⟨tolerated, state, trace, h, hround, fun found hfound => ?_⟩
            cases hfound
            exact hfailed

/-- In all rounds of a run, a failing action is treated as its own metadata and the argument
of `run` say. -/
def FailsAlone (runtime : OperationRuntime) (context : RuntimeContext) (operation : OperationRun)
    (rollbackOnFailure : Bool) (begun : Trace Effect) : Prop :=
  ∀ tolerated state trace action exit reached,
    Underway runtime context (startLoop operation rollbackOnFailure) begun tolerated state trace →
    FailsIn runtime context state trace action exit reached →
      exit.reaction rollbackOnFailure =
        reactionTo rollbackOnFailure (runtime.onFailure action (defaultBehavior rollbackOnFailure))

theorem failsAlone_iff (runtime : OperationRuntime) (context : RuntimeContext) (operation : OperationRun)
    (rollbackOnFailure : Bool) (begun : Trace Effect) :
    FailsAlone runtime context operation rollbackOnFailure begun ↔
      ∀ tolerated state trace action exit reached,
        Underway runtime context (startLoop operation rollbackOnFailure) begun tolerated state trace →
        FailsIn runtime context state trace action exit reached → tolerated = [] ∨ SaysOnFailure action := by
  unfold FailsAlone
  constructor
  · intro h tolerated state trace action exit reached hunderway hfails
    exact (reaction_iff hunderway hfails).mp (h _ _ _ _ _ _ hunderway hfails)
  · intro h tolerated state trace action exit reached hunderway hfails
    exact (reaction_iff hunderway hfails).mpr (h _ _ _ _ _ _ hunderway hfails)

end Runs

section Examples

open DockerHost

def tolerantWait (condition : String) : ActionInstance :=
  { waitFor condition false with metadata := Dict.ofList [("on_failure", .str "continue")] }

def runNotes (actions : List ActionInstance) (eventType : String) (actionId : Option String) : Bool :=
  (latest (waitingRuntime.session (creation actions) [.run policy liveContext none true]).log).any
    fun operation =>
    operation.events.any fun event => event.eventType = eventType ∧ event.actionId = actionId

/-- The same wait, without a behaviour of its own, has the run rolled back when it fails alone,
and is tolerated when it fails behind another one whose failure was. -/
theorem tolerance_spreads :
    runNotes [waitFor "ready" false] "rollback.started" none = true ∧
    runNotes [waitFor "ready" false] "action.failure_tolerated" (some "action:wait:ready") = false ∧
    runNotes [tolerantWait "cache", waitFor "ready" false] "rollback.started" none = false ∧
    runNotes [tolerantWait "cache", waitFor "ready" false] "action.failure_tolerated"
      (some "action:wait:ready") =
      true := by decide +kernel

end Examples

end KubeOps.Execution
