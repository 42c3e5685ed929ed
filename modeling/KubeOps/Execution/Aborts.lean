import KubeOps.Execution.Run

/-! What a run has raised when it ends right after it has called an executor: the loop has no handler, and
nothing that it does between a call and the next write raises, so that the exception is the executor's. -/
namespace KubeOps.Execution

open KubeOps.Foundation KubeOps.Models KubeOps.Policy KubeOps.Actions
open OperationRuntime (LoopState)

def Effect.calls : Effect → Bool
  | .invoked .. => true
  | _ => false

/-- What has been done last is no call. -/
def Quiet (segment : Log) : Prop := ∀ effect, segment.getLast? = some effect → effect.calls = false

/-- The executor that has been called last has raised this. -/
def Raised (runtime : OperationRuntime) (base : Log) (failure : PyError) (segment : Log) : Prop :=
  ∀ before operation executorId action context attempt,
    segment = before ++ [.invoked operation executorId action context attempt] →
    ∃ executor ∈ runtime.executors.items.values, executor.executorId = executorId ∧
      ∃ definition, runtime.actions.validateInstance runtime.python action = .ok definition ∧
        ∃ ticks,
          executor.execute ⟨base ++ segment, ticks⟩ action definition context attempt = .error failure

section Segments

variable {runtime : OperationRuntime} {base segment : Log} {failure : PyError} {entry : Effect}

theorem quiet_nil : Quiet [] := by
  intro effect h
  cases h

theorem quiet_concat (h : entry.calls = false) : Quiet (segment ++ [entry]) := by
  intro effect hlast
  rw [List.getLast?_concat] at hlast
  rwa [← Option.some.inj hlast]

theorem Quiet.raised (h : Quiet segment) : Raised runtime base failure segment := by
  intro before operation executorId action context attempt hsegment
  have hcalls := h (.invoked operation executorId action context attempt) (by
    rw [hsegment, List.getLast?_concat])
  cases hcalls

end Segments

section Rules

variable {runtime : OperationRuntime} {operation : OperationRun} {context : RuntimeContext} {base : Log}
variable {action : ActionInstance} {receipt : ActionReceipt} {state : LoopState}

/-- A call that is quiet when it begins and when it returns. -/
abbrev Calm {α : Type} (runtime : OperationRuntime) (base : Log) (program : Runtime α) : Prop :=
  Triple (After base Quiet) program (fun _ => After base Quiet)
    fun failure => After base (Raised runtime base failure)

theorem calm_failed (failure : PyError) (log : Log) (h : After base Quiet log) :
    After base (Raised runtime base failure) log := h.mono fun _ => Quiet.raised

theorem calm_concat {holds : Log → Prop} {log : Log} {entry : Effect} (h : After base holds log)
    (hentry : entry.calls = false) : After base Quiet (log ++ [entry]) :=
  h.concat fun _ _ => quiet_concat hentry

theorem calm_save {later : OperationRun} :
    Calm runtime base (do FileOperationStore.save later; return later) :=
  OperationRuntime.saved_rule fun _ h => calm_concat h rfl

theorem attempts_calls {executor : ActionExecutor} {definition : ActionTypeDefinition}
    {context : ExecutionContext} (hexecutor : executor ∈ runtime.executors.items.values)
    (hdefinition : runtime.actions.validateInstance runtime.python action = .ok definition)
    (remaining attempt : Nat) (last : Option ActionReceipt) :
    Triple (After base fun segment => last = none → Quiet segment)
      (OperationRuntime.attempts operation executor action definition context remaining attempt last)
      (fun _ => After base fun _ => True) (fun failure => After base (Raised runtime base failure)) := by
  induction remaining generalizing attempt last with
  | zero =>
    cases last with
    | none => exact Triple.raise fun log h => h.mono fun segment hsegment => (hsegment rfl).raised
    | some receipt => exact Triple.pure fun log h => h.mono fun _ _ => trivial
  | succ remaining ih =>
    unfold OperationRuntime.attempts
    refine Triple.bind_record (m := After base fun segment => ∃ before,
      segment = before ++ [.invoked operation executor.executorId action context attempt])
      (fun log h => h.concat fun segment _ => ⟨segment, rfl⟩) ?_
    refine Triple.bind_answer (fun outcome => ?_) fun trace failure hanswer h => ?_
    · refine Triple.ite (fun _ => Triple.pure fun log h => h.mono fun _ _ => trivial) fun _ => ?_
      exact Triple.weaken (ih _ _) (fun log h => h.mono fun _ _ hnone => absurd hnone (Option.some_ne_none _)) (fun _ _ h => h)
        fun _ _ h => h
    · obtain ⟨segment, hlog, before, hsegment⟩ := h
      refine ⟨segment, hlog, fun front found executorId called later number hcall => ?_⟩
      obtain ⟨-, hcall⟩ := List.append_inj' (hsegment.symm.trans hcall) rfl
      cases hcall
      refine ⟨executor, hexecutor, rfl, definition, hdefinition, trace.ticks, ?_⟩
      rw [← hlog]
      exact hanswer

theorem executeAction_calls : Triple (After base Quiet) (runtime.executeAction operation action context)
    (fun _ => After base fun _ => True) (fun failure => After base (Raised runtime base failure)) := by
  unfold OperationRuntime.executeAction OperationRuntime.validateInstance
  refine Triple.bind_attempt (fun definition hdefinition => ?_) fun failure _ => calm_failed failure
  refine Triple.ite (fun _ => Triple.raise (calm_failed _)) fun _ => ?_
  refine Triple.bind_attempt (fun executor hget => ?_) fun failure _ => calm_failed failure
  exact Triple.weaken (attempts_calls (ExecutorRegistry.mem_of_get hget) hdefinition _ _ none)
    (fun log h => h.mono fun _ hquiet _ => hquiet) (fun _ _ h => h) fun _ _ h => h

theorem perform_calls {successfulKeys : List String} :
    Triple (After base Quiet) (runtime.perform context operation successfulKeys action)
      (fun _ => After base fun _ => True) (fun failure => After base (Raised runtime base failure)) := by
  unfold OperationRuntime.perform
  refine Triple.ite (fun _ => ?_) fun _ => executeAction_calls
  unfold OperationRuntime.alreadySatisfied OperationRuntime.utcNowIso
  exact Triple.bind_tick fun now => Triple.pure fun log h => h.mono fun _ _ => trivial

theorem appendReceipt_quiets : Triple (After base fun _ => True) (runtime.appendReceipt operation receipt)
    (fun _ => After base Quiet) (fun failure => After base (Raised runtime base failure)) :=
  OperationRuntime.appendReceipt_rule fun _ _ _ _ h => calm_concat h rfl

theorem settle_calm : Calm runtime base (runtime.settle state action receipt) := by
  unfold OperationRuntime.settle
  refine Triple.ite (fun _ => Triple.pure fun log h => h) fun _ => ?_
  refine Triple.ite (fun _ => Triple.pure fun log h => h) fun _ => ?_
  refine Triple.ite (fun _ => ?_) fun _ => ?_
  · refine OperationRuntime.bind_noted fun later event _ _ _ => ?_
    exact Triple.bind_record (m := After base Quiet) (fun log h => calm_concat h rfl)
      (Triple.pure fun log h => h)
  refine Triple.ite (fun _ => ?_) fun _ => ?_
  · refine OperationRuntime.bind_noted fun later event _ _ _ => ?_
    exact Triple.bind_record (m := After base Quiet) (fun log h => calm_concat h rfl)
      (Triple.pure fun log h => h)
  · exact OperationRuntime.bind_fail fun later event _ => Triple.pure fun log h => h

theorem iterate_calm : Calm runtime base (runtime.iterate context state) := by
  unfold OperationRuntime.iterate
  split
  · refine Triple.bind_record (m := After base Quiet) (fun log h => calm_concat h rfl) ?_
    exact OperationRuntime.bind_fail fun later event _ => Triple.pure fun log h => h
  · split
    · exact Triple.raise (calm_failed _)
    refine Triple.bind_record (m := After base Quiet) (fun log h => calm_concat h rfl) ?_
    refine Triple.bind (m := fun _ => After base Quiet)
      (OperationRuntime.startAction_rule fun _ _ _ _ h => calm_concat h rfl) fun running => ?_
    refine Triple.bind (m := fun _ => After base Quiet) (OperationRuntime.checkpointIfRequired_rule
      (fun _ h => h) (fun _ _ _ _ h => calm_concat h rfl) calm_failed) fun checked => ?_
    refine Triple.bind perform_calls fun receipt => ?_
    exact Triple.bind appendReceipt_quiets fun received => settle_calm

theorem runLoop_calm (rounds : Nat) : Calm runtime base (runtime.runLoop context rounds state) := by
  induction rounds generalizing state with
  | zero =>
    unfold OperationRuntime.runLoop
    exact Triple.bind_record (m := After base Quiet) (fun log h => calm_concat h rfl)
      (Triple.raise (calm_failed _))
  | succ rounds ih =>
    unfold OperationRuntime.runLoop
    refine Triple.ite (fun _ => Triple.pure fun log h => h) fun _ => ?_
    refine Triple.bind iterate_calm fun exit => ?_
    cases exit with
    | left next => exact ih
    | paused operation => exact Triple.pure fun log h => h

theorem rollbackOne_calm : Calm runtime base (runtime.rollbackOne context operation receipt) := by
  unfold OperationRuntime.rollbackOne
  split
  · exact Triple.raise (calm_failed _)
  · refine Triple.bind_attempt (fun definition _ => ?_) fun failure _ => calm_failed failure
    split
    · exact Triple.pure fun log h => h
    · refine Triple.bind_attempt (fun rollbackDefinition _ => ?_) fun failure _ => calm_failed failure
      exact Triple.bind executeAction_calls fun rollbackReceipt => appendReceipt_quiets

theorem rollback_calm : Calm runtime base (runtime.rollback operation context) := by
  unfold OperationRuntime.rollback OperationRuntime.utcNowIso
  refine Triple.bind_record (m := After base Quiet) (fun log h => calm_concat h rfl) ?_
  refine OperationRuntime.bind_noted fun started event _ _ _ => ?_
  refine Triple.bind (m := fun _ => After base Quiet)
    (Triple.foldlM (i := fun _ _ => After base Quiet) fun _ _ _ _ => rollbackOne_calm) fun rolled => ?_
  refine Triple.bind_tick fun completedAtIso => ?_
  exact OperationRuntime.bind_noted fun finished event _ _ _ => calm_save

theorem decide_calm {policy : ExecutionPolicy} {policyContext : PolicyContext} :
    Calm runtime base (runtime.decide operation policy policyContext action) := by
  unfold OperationRuntime.decide OperationRuntime.validateInstance OperationRuntime.utcNowIso
  refine Triple.bind_attempt (fun definition _ => ?_) fun failure _ => calm_failed failure
  refine Triple.bind_tick fun now => Triple.bind_tick fun evaluatedAtIso => ?_
  refine Triple.bind_attempt (fun decision _ => ?_) fun failure _ => calm_failed failure
  exact Triple.bind_record (m := After base Quiet) (fun log h => calm_concat h rfl) (Triple.pure fun log h => h)

theorem authorize_calm {policy : ExecutionPolicy} :
    Calm runtime base (runtime.authorize operation policy context) := by
  unfold OperationRuntime.authorize
  refine Triple.bind (m := fun _ => After base Quiet)
    (Triple.mapM (i := fun _ _ => After base Quiet) fun _ _ _ _ => decide_calm) fun decisions => ?_
  refine Triple.bind_attempt (fun marked _ => ?_) fun failure _ => calm_failed failure
  exact OperationRuntime.bind_noted fun noted event _ _ _ => calm_save

theorem sealRun_calm {conditions : Option (List VerificationCondition)} :
    Calm runtime base (runtime.sealRun operation context conditions) := by
  unfold OperationRuntime.sealRun OperationRuntime.utcNowIso
  refine OperationRuntime.bind_noted fun verifying event _ _ _ => ?_
  refine Triple.bind (evaluateConditions_rule calm_failed) fun results =>
    Triple.bind_tick fun completedAtIso => ?_
  exact OperationRuntime.bind_noted fun final sealEvent _ _ _ => calm_save

theorem rollbackIfAsked_calm {rollbackOnFailure : Bool} :
    Calm runtime base (runtime.rollbackIfAsked context state rollbackOnFailure) := by
  unfold OperationRuntime.rollbackIfAsked
  exact Triple.ite (fun _ => rollback_calm) fun _ => Triple.pure fun log h => h

theorem run_calm {policy : ExecutionPolicy} {conditions : Option (List VerificationCondition)}
    {rollbackOnFailure : Bool} :
    Calm runtime base (runtime.run operation policy context conditions rollbackOnFailure) := by
  unfold OperationRuntime.run OperationRuntime.utcNowIso
  refine Triple.bind authorize_calm fun authorized => ?_
  refine Triple.ite (fun _ => Triple.pure fun log h => h) fun _ => ?_
  refine Triple.bind_tick fun now => OperationRuntime.bind_event fun event _ _ => ?_
  refine Triple.bind_record (m := After base Quiet) (fun log h => calm_concat h rfl) ?_
  refine Triple.bind (runLoop_calm _) fun exit => ?_
  cases exit with
  | paused operation => exact Triple.pure fun log h => h
  | left state =>
    refine Triple.ite (fun _ => ?_) fun _ => sealRun_calm
    exact Triple.bind rollbackIfAsked_calm fun rolled => calm_save

theorem raised_of_run {policy : ExecutionPolicy} {conditions : Option (List VerificationCondition)}
    {rollbackOnFailure : Bool} {ticks : Nat} {failure : PyError} {reached : Trace Effect}
    (h : (runtime.run operation policy context conditions rollbackOnFailure).exec ⟨base, ticks⟩ =
      (.error failure, reached)) :
    ∃ segment, reached.log = base ++ segment ∧ Raised runtime base failure segment := by
  have hrun := @run_calm runtime operation context base policy conditions rollbackOnFailure ⟨base, ticks⟩
    (After.start quiet_nil)
  rw [h] at hrun
  exact hrun

end Rules

end KubeOps.Execution
