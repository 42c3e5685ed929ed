import KubeOps.Execution.Loop
import KubeOps.Execution.Rollback

/-! One whole call of `run`: every entry it adds to the log is permitted, also
when an exception ends it. -/
namespace KubeOps.Execution

open KubeOps.Foundation KubeOps.Models KubeOps.Policy KubeOps.Actions
open OperationRuntime (LoopState LoopExit startLoop)

section Rules

variable {runtime : OperationRuntime} {given operation later : OperationRun}
  {policy : ExecutionPolicy} {context : RuntimeContext} {base segment : Log} {state : LoopState}

theorem Looping.carries (h : Looping runtime given policy context base state segment) :
    Carries runtime given context base (RunPermits runtime given policy context base)
      state.operation segment :=
  ⟨h.monitored, h.accounted.progress h.monitored (List.Sublist.refl _) h.grown⟩

theorem Authorized.start (h : Authorized runtime given policy context base operation segment)
    (hstatus : operation.status = .authorized) (rollbackOnFailure : Bool) {event : OperationEvent}
    (hnext : Extends operation later [] [event])
    (hactions : later.plan.actions = operation.plan.actions) :
    Looping runtime given policy context base (startLoop later rollbackOnFailure)
      (segment ++ [.saved later]) := by
  obtain ⟨first, hfirst⟩ := h.continues
  have hlater : Extends given later [] ([first] ++ [event]) := hfirst.trans hnext
  have hreceipts : later.actionReceipts = given.actionReceipts := by
    rw [hlater.receipted, List.append_nil]
  have hunstarted : startedIds (segment ++ [.saved later]) = [] :=
    (startedIds_concat_other rfl).trans h.unstarted
  have hcurrent : latest (base ++ (segment ++ [.saved later])) = some later := by
    rw [← List.append_assoc, latest_concat_saved]
  refine ⟨h.monitored.concat ?_, ?_, ?_, ?_, fun _ => hcurrent,
    Grown.of_latest hcurrent List.prefix_rfl⟩
  · refine ⟨⟨[], _, hlater, List.nil_sublist _, fun _ hmem => absurd hmem List.not_mem_nil⟩, ?_⟩
    exact fun _ => Grown.of_latest h.current ⟨[], hnext.receipted.symm⟩
  · rw [hunstarted]
    exact ⟨[], _, hlater, rfl, fun actionId hmem => Or.inl hmem⟩
  · intro entry hmem
    obtain ⟨action, haction, rfl⟩ := List.mem_map.mp (Dict.mem_of_mem_ofList hmem)
    obtain ⟨haction, hpending⟩ := List.mem_filter.mp haction
    refine ⟨rfl, hlater.mem_actions haction, ?_, ?_, ?_⟩
    · exact (h.allowed hstatus action (hactions ▸ haction)).concat _
    · rw [hunstarted]
      exact List.not_mem_nil
    · rw [← hreceipts]
      exact of_decide_eq_true hpending
  · intro _ actionId hmem
    rw [← hlater.actionIds_eq] at hmem
    obtain ⟨action, haction, rfl⟩ := List.mem_map.mp hmem
    by_cases hcompleted : action.actionId ∈ (startLoop later rollbackOnFailure).completedIds
    · exact Or.inr hcompleted
    · refine Or.inl (Dict.mem_keys_ofList.mpr ?_)
      rw [List.map_map]
      exact List.mem_map.mpr ⟨action, List.mem_filter.mpr ⟨haction, decide_eq_true hcompleted⟩, rfl⟩

theorem evaluateConditions_rule {conditions : List VerificationCondition} {pre : Log → Prop}
    {failed : PyError → Log → Prop} (hfailed : ∀ error log, pre log → failed error log) :
    Triple pre (runtime.evaluateConditions conditions context) (fun _ => pre) failed := by
  unfold OperationRuntime.evaluateConditions
  refine Triple.ite (fun _ => Triple.pure fun log h => h) fun _ => ?_
  refine Triple.bind_consult (fun world => ?_) hfailed
  refine Triple.bind_consult (fun relationships => ?_) hfailed
  exact Triple.attempt (fun _ _ log h => h) fun error _ => hfailed error

variable (given) in
theorem sealRun_rule {conditions : Option (List VerificationCondition)}
    {permits : Log → Effect → Prop}
    (hpermits : ∀ before operation, Progress runtime given context base before operation →
      permits before (.saved operation)) :
    Triple (After base (Carries runtime given context base permits operation))
      (runtime.sealRun operation context conditions)
      (fun _ => After base (Monitored permits)) (fun _ => After base (Monitored permits)) := by
  unfold OperationRuntime.sealRun OperationRuntime.utcNowIso
  refine OperationRuntime.bind_noted fun verifying event hverifying _ _ => ?_
  refine Triple.bind (evaluateConditions_rule fun _ log h => h.mono fun _ => And.left)
    fun results => Triple.bind_tick fun completedAtIso => ?_
  refine OperationRuntime.bind_noted fun final sealEvent hfinal _ _ => ?_
  refine Triple.weaken (Carries.saved_rule hpermits
    (?_ : Extends operation _ [] [event, sealEvent])) (fun log h => h)
    (fun _ _ h => h.mono fun _ => And.left) fun _ _ h => h
  have hmarked : Extends operation { verifying with status := .verifying } [] [event] :=
    { hverifying with }
  exact { hmarked.quiet hfinal with }

variable (given) in
theorem rollbackIfAsked_rule {rollbackOnFailure : Bool} {permits : Log → Effect → Prop}
    (hrollback : ∀ before effect, RollbackPermits runtime given context base before effect →
      permits before effect) :
    Triple (After base (Carries runtime given context base permits state.operation))
      (runtime.rollbackIfAsked context state rollbackOnFailure)
      (fun later => After base (Carries runtime given context base permits later))
      (fun _ => After base (Monitored permits)) := by
  unfold OperationRuntime.rollbackIfAsked
  exact Triple.ite (fun _ => rollback_rule given base hrollback) fun _ => Triple.pure fun log h => h

variable (runtime policy context base) in
theorem run_rule {order : List String} (hplan : given.plan.DependencyOrder order)
    (conditions : Option (List VerificationCondition)) (rollbackOnFailure : Bool) :
    Triple (fun log => log = base)
      (runtime.run given policy context conditions rollbackOnFailure)
      (fun _ => After base (Monitored (RunPermits runtime given policy context base)))
      (fun _ => After base (Monitored (RunPermits runtime given policy context base))) := by
  have hsaved : ∀ before operation, Progress runtime given context base before operation →
      RunPermits runtime given policy context base before (.saved operation) := fun _ _ h => h
  unfold OperationRuntime.run OperationRuntime.utcNowIso
  refine Triple.bind (authorize_rule runtime given policy context base) fun operation => ?_
  refine Triple.ite (fun _ => Triple.pure fun log h => h.mono fun _ => Authorized.monitored)
    fun hstatus => ?_
  rw [not_not] at hstatus
  refine Triple.bind_tick fun now => OperationRuntime.bind_event fun event _ _ => ?_
  refine Triple.bind_record (fun log h => h.concat fun segment hsegment =>
    hsegment.start hstatus rollbackOnFailure (?_ : Extends operation _ [] [event]) rfl) ?_
  · exact ⟨rfl, rfl, rfl, rfl, (List.append_nil _).symm, rfl⟩
  refine Triple.bind (runLoop_rule hplan _ (Nat.lt_succ_self _)) fun exit => ?_
  cases exit with
  | paused operation => exact Triple.pure fun log h => h
  | left state =>
    refine Triple.ite (fun _ => ?_) fun _ => ?_
    · refine Triple.bind (Triple.weaken (rollbackIfAsked_rule given fun _ _ =>
        RollbackPermits.runPermits) (fun log h => h.2.mono fun _ => Looping.carries)
        (fun _ _ h => h) fun _ _ h => h) fun rolled => ?_
      exact Triple.weaken (Carries.saved_rule hsaved (Extends.refl rolled)) (fun log h => h)
        (fun _ _ h => h.mono fun _ => And.left) fun _ _ h => h
    · exact Triple.weaken (sealRun_rule given hsaved)
        (fun log h => h.2.mono fun _ => Looping.carries) (fun _ _ h => h) fun _ _ h => h

end Rules

end KubeOps.Execution
