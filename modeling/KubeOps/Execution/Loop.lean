import KubeOps.Execution.Authorization
import KubeOps.Models.PlanGraph

/-! The loop of `run`. Its invariant says that the receipts added so far are
exactly those of the actions started, that what counts as completed is settled
and that every other action of the plan is still pending. -/
namespace KubeOps.Execution

open KubeOps.Foundation KubeOps.Models KubeOps.Policy KubeOps.Actions
open OperationRuntime (LoopState LoopExit firstReady)

section Invariant

variable (runtime : OperationRuntime) (given : OperationRun) (policy : ExecutionPolicy)
  (context : RuntimeContext) (base : Log)

structure Waiting (segment : Log) (entry : String × ActionInstance) : Prop where
  key : entry.1 = entry.2.actionId
  planned : ∃ original ∈ given.plan.actions, original.unmarked = entry.2.unmarked
  allowed : Allowed given policy context segment entry.2
  unstarted : entry.1 ∉ startedIds segment
  unsuccessful : entry.1 ∉ successfulIds given.actionReceipts

/-- `operation` has the receipts of the actions in `ids`, and what is completed is settled. -/
def Accounted (completedIds ids : List String) (operation : OperationRun) : Prop :=
  ∃ receipts events, Extends given operation receipts events ∧
    receipts.map ActionReceipt.actionId = ids ∧
    ∀ actionId ∈ completedIds, Settled given operation actionId

/-- The invariant of the loop. A failure is not written, so only the receipts in
the journal are known once the loop has failed. -/
structure Looping (state : LoopState) (segment : Log) : Prop where
  monitored : Monitored (RunPermits runtime given policy context base) segment
  accounted : Accounted given state.completedIds (startedIds segment) state.operation
  waiting : ∀ entry ∈ state.pending.entries, Waiting given policy context segment entry
  covered : state.failed = false → ∀ actionId ∈ given.plan.actionIds,
    actionId ∈ state.pending.keys ∨ actionId ∈ state.completedIds
  current : state.failed = false → latest (base ++ segment) = some state.operation
  grown : Grown (base ++ segment) state.operation

/-- The invariant while `action` is performed, with its receipt still to come. -/
structure Performing (pending : Dict String ActionInstance) (completedIds : List String)
    (action : ActionInstance) (operation : OperationRun) (segment : Log) : Prop where
  monitored : Monitored (RunPermits runtime given policy context base) segment
  accounted : ∃ ids, startedIds segment = ids ++ [action.actionId] ∧
    Accounted given completedIds ids operation
  planned : ∃ original ∈ given.plan.actions, original.unmarked = action.unmarked
  allowed : Allowed given policy context segment action
  unsuccessful : action.actionId ∉ successfulIds given.actionReceipts
  waiting : ∀ entry ∈ pending.entries, Waiting given policy context segment entry
  covered : ∀ actionId ∈ given.plan.actionIds,
    actionId = action.actionId ∨ actionId ∈ pending.keys ∨ actionId ∈ completedIds
  current : latest (base ++ segment) = some operation

/-- The invariant once the receipt of `action` is appended. -/
structure Received (pending : Dict String ActionInstance) (completedIds : List String)
    (action : ActionInstance) (receipt : ActionReceipt) (operation : OperationRun) (segment : Log) :
    Prop where
  monitored : Monitored (RunPermits runtime given policy context base) segment
  accounted : Accounted given completedIds (startedIds segment) operation
  planned : ∃ original ∈ given.plan.actions, original.unmarked = action.unmarked
  receipted : receipt ∈ operation.actionReceipts.drop given.actionReceipts.length
  about : receipt.actionId = action.actionId
  waiting : ∀ entry ∈ pending.entries, Waiting given policy context segment entry
  covered : ∀ actionId ∈ given.plan.actionIds,
    actionId = action.actionId ∨ actionId ∈ pending.keys ∨ actionId ∈ completedIds
  current : latest (base ++ segment) = some operation

end Invariant

section Steps

variable {runtime : OperationRuntime} {given operation later : OperationRun}
  {policy : ExecutionPolicy} {context : RuntimeContext} {base segment : Log}
  {pending : Dict String ActionInstance} {completedIds ids : List String} {action : ActionInstance}
  {receipt : ActionReceipt} {event : OperationEvent} {state : LoopState}

theorem Waiting.concat {entry : String × ActionInstance}
    (h : Waiting given policy context segment entry) {effect : Effect}
    (hother : ∀ actionId ∈ effect.startedId, actionId ≠ entry.1) :
    Waiting given policy context (segment ++ [effect]) entry where
  key := h.key
  planned := h.planned
  allowed := h.allowed.concat effect
  unstarted := by
    rw [startedIds_concat, List.mem_append, not_or]
    refine ⟨h.unstarted, fun hmem => ?_⟩
    rw [Option.mem_toList] at hmem
    exact hother entry.1 hmem rfl
  unsuccessful := h.unsuccessful

theorem Accounted.quiet (h : Accounted given completedIds ids operation)
    (hnext : Extends operation later [] [event]) : Accounted given completedIds ids later := by
  obtain ⟨receipts, events, hextends, hids, hsettled⟩ := h
  exact ⟨receipts, _, hextends.quiet hnext, hids, fun actionId hmem =>
    (hsettled actionId hmem).extend hextends hnext⟩

theorem Accounted.progress (h : Accounted given completedIds ids operation)
    (hmonitored : Monitored (RunPermits runtime given policy context base) segment)
    (hids : List.Sublist ids (startedIds segment)) (hgrown : Grown (base ++ segment) operation) :
    Progress runtime given context base segment operation := by
  obtain ⟨receipts, events, hextends, rfl, -⟩ := h
  refine ⟨⟨receipts, events, hextends, (successfulIds_sublist receipts).trans hids, ?_⟩,
    fun _ => hgrown⟩
  intro receipt hmem
  exact Or.inl (mem_startedIds hmonitored (hids.subset (List.mem_map_of_mem hmem))).1

theorem Accounted.not_successful (h : Accounted given completedIds ids operation) {actionId : String}
    (hids : actionId ∉ ids) (hgiven : actionId ∉ successfulIds given.actionReceipts) :
    actionId ∉ successfulIds operation.actionReceipts := by
  obtain ⟨receipts, events, hextends, rfl, -⟩ := h
  rw [hextends.receipted, successfulIds_append, List.mem_append, not_or]
  exact ⟨hgiven, fun hmem => hids ((successfulIds_sublist receipts).subset hmem)⟩

theorem Looping.exists_ready (h : Looping runtime given policy context base state segment)
    {order : List String} (hplan : given.plan.DependencyOrder order)
    (hpending : state.pending.entries ≠ []) (hfailed : state.failed = false) :
    ∃ action, action ∈ state.ready := by
  obtain ⟨entry, hentry⟩ := List.exists_mem_of_ne_nil _ hpending
  have hid : ∀ entry ∈ state.pending.entries, entry.1 ∈ given.plan.actionIds := by
    intro entry hentry
    obtain ⟨original, horiginal, hsame⟩ := (h.waiting entry hentry).planned
    rw [(h.waiting entry hentry).key,
      show entry.2.actionId = original.actionId from (congrArg ActionInstance.actionId hsame).symm]
    exact List.mem_map_of_mem horiginal
  obtain ⟨actionId, hremaining, hfree⟩ := hplan.ordered.exists_ready
    (fun actionId => actionId ∈ state.pending.keys)
    ⟨entry.1, (hplan.covers _).mpr (hid entry hentry), Dict.mem_keys.mpr ⟨entry.2, hentry⟩⟩
  obtain ⟨action, haction⟩ := Dict.mem_keys.mp hremaining
  have hwaiting := h.waiting _ haction
  obtain ⟨original, horiginal, hsame⟩ := hwaiting.planned
  have hdeps : original.dependsOnActionIds = action.dependsOnActionIds :=
    (congrArg ActionInstance.dependsOnActionIds hsame :)
  have hsameId : original.actionId = action.actionId := (congrArg ActionInstance.actionId hsame :)
  refine ⟨action, List.mem_filter.mpr ⟨Dict.mem_values.mpr ⟨actionId, haction⟩, ?_⟩⟩
  rw [decide_eq_true_eq]
  intro dependency hdependency
  rw [← hdeps] at hdependency
  have hknown := hplan.closed original horiginal hdependency
  refine (h.covered hfailed dependency hknown).resolve_left (hfree dependency ?_)
  exact ⟨original, horiginal, hsameId.trans hwaiting.key.symm, hdependency⟩

theorem firstReady_eq_none {ready : List ActionInstance} (h : firstReady ready = none) :
    ready = [] := by
  unfold firstReady at h
  rw [List.head?_eq_none_iff] at h
  have hlength := congrArg List.length h
  rw [List.length_insertionSort] at hlength
  exact List.eq_nil_of_length_eq_zero hlength

theorem mem_of_firstReady {ready : List ActionInstance} (h : firstReady ready = some action) :
    action ∈ ready := by
  unfold firstReady at h
  exact (List.mem_insertionSort _).mp (List.mem_of_head? h)

theorem mem_ready (h : action ∈ state.ready) :
    (∃ key, (key, action) ∈ state.pending.entries) ∧
      ∀ dependency ∈ action.dependsOnActionIds, dependency ∈ state.completedIds := by
  obtain ⟨hvalue, hdeps⟩ := List.mem_filter.mp h
  exact ⟨Dict.mem_values.mp hvalue, of_decide_eq_true hdeps⟩

theorem Looping.begin (h : Looping runtime given policy context base state segment)
    (hfailed : state.failed = false) (hready : action ∈ state.ready) :
    Performing runtime given policy context base (state.pending.erase action.actionId)
      state.completedIds action state.operation (segment ++ [.started state.operation action]) := by
  obtain ⟨⟨key, hentry⟩, hdeps⟩ := mem_ready hready
  have hwaiting := h.waiting _ hentry
  have hkey : key = action.actionId := hwaiting.key
  obtain ⟨receipts, events, hextends, hids, hsettled⟩ := h.accounted
  refine ⟨h.monitored.concat ?_, ⟨startedIds segment, ?_, h.accounted⟩, hwaiting.planned,
    hwaiting.allowed.concat _, ?_, ?_, ?_, ?_⟩
  · refine ⟨h.accounted.progress h.monitored (List.Sublist.refl _) h.grown, hwaiting.planned, ?_, ?_,
      ?_⟩
    · exact hkey ▸ hwaiting.unstarted
    · exact hkey ▸ hwaiting.unsuccessful
    · exact fun dependency hmem => hsettled dependency (hdeps dependency hmem)
  · rw [startedIds_concat]
    rfl
  · exact hkey ▸ hwaiting.unsuccessful
  · intro entry hmem
    obtain ⟨hne, hmem⟩ := Dict.mem_entries_erase.mp hmem
    refine (h.waiting entry hmem).concat fun actionId hid => ?_
    obtain rfl : action.actionId = actionId := Option.some.inj hid
    exact Ne.symm hne
  · intro actionId hmem
    by_cases hsame : actionId = action.actionId
    · exact Or.inl hsame
    · refine Or.inr ((h.covered hfailed actionId hmem).imp_left fun hpending => ?_)
      obtain ⟨value, hvalue⟩ := Dict.mem_keys.mp hpending
      exact Dict.mem_keys.mpr ⟨value, Dict.mem_entries_erase.mpr ⟨hsame, hvalue⟩⟩
  · rw [← List.append_assoc, latest_concat_other rfl, h.current hfailed]

theorem Performing.progress
    (h : Performing runtime given policy context base pending completedIds action operation segment) :
    Progress runtime given context base segment operation := by
  obtain ⟨ids, hids, haccounted⟩ := h.accounted
  exact haccounted.progress h.monitored (hids ▸ List.sublist_append_left _ _)
    (Grown.of_latest h.current List.prefix_rfl)

theorem Performing.saved
    (h : Performing runtime given policy context base pending completedIds action operation segment)
    (hnext : Extends operation later [] [event]) :
    Performing runtime given policy context base pending completedIds action later
      (segment ++ [.saved later]) where
  monitored := h.monitored.concat (h.progress.quiet hnext)
  accounted := by
    obtain ⟨ids, hids, haccounted⟩ := h.accounted
    exact ⟨ids, (startedIds_concat_other rfl).trans hids, haccounted.quiet hnext⟩
  planned := h.planned
  allowed := h.allowed.concat _
  unsuccessful := h.unsuccessful
  waiting := fun entry hmem => (h.waiting entry hmem).concat nofun
  covered := h.covered
  current := by rw [← List.append_assoc, latest_concat_saved]

theorem Performing.invoked
    (h : Performing runtime given policy context base pending completedIds action operation segment)
    (executorId : String) (attempt : Nat) :
    Performing runtime given policy context base pending completedIds action operation
      (segment ++ [.invoked operation executorId action context.executionContext attempt]) where
  monitored := by
    obtain ⟨ids, hids, haccounted⟩ := h.accounted
    have hnodup := startedIds_nodup h.monitored
    rw [hids, List.nodup_append] at hnodup
    have hfresh : action.actionId ∉ ids := fun hmem =>
      hnodup.2.2 _ hmem _ (List.mem_singleton_self _) rfl
    refine h.monitored.concat ⟨rfl, h.progress, Or.inl ⟨h.allowed, ?_, ?_, h.current⟩⟩
    · rw [hids, List.getLast?_concat]
    · exact haccounted.not_successful hfresh h.unsuccessful
  accounted := by
    rw [startedIds_concat_other rfl]
    exact h.accounted
  planned := h.planned
  allowed := h.allowed.concat _
  unsuccessful := h.unsuccessful
  waiting := fun entry hmem => (h.waiting entry hmem).concat nofun
  covered := h.covered
  current := by rw [← List.append_assoc, latest_concat_other rfl, h.current]

theorem Performing.receipted
    (h : Performing runtime given policy context base pending completedIds action operation segment)
    (hnext : Extends operation later [receipt] [event]) (habout : receipt.actionId = action.actionId) :
    Received runtime given policy context base pending completedIds action receipt later
      (segment ++ [.saved later]) := by
  obtain ⟨ids, hids, receipts, events, hextends, hreceipts, hsettled⟩ := h.accounted
  have hlater := hextends.trans hnext
  have haccounted : Accounted given completedIds (startedIds segment) later := by
    refine ⟨_, _, hlater, ?_, fun actionId hmem => (hsettled actionId hmem).extend hextends hnext⟩
    rw [List.map_append, hreceipts, hids, List.map_singleton, habout]
  have hgrown : Grown (base ++ segment) later :=
    Grown.of_latest h.current ⟨[receipt], hnext.receipted.symm⟩
  refine ⟨h.monitored.concat (haccounted.progress h.monitored (List.Sublist.refl _) hgrown), ?_,
    h.planned, ?_, habout, fun entry hmem => (h.waiting entry hmem).concat nofun, h.covered, ?_⟩
  · rw [startedIds_concat_other rfl]
    exact haccounted
  · rw [hlater.receipted, List.drop_left]
    exact List.mem_append_right _ (List.mem_singleton_self _)
  · rw [← List.append_assoc, latest_concat_saved]

theorem Received.progress
    (h : Received runtime given policy context base pending completedIds action receipt operation
      segment) : Progress runtime given context base segment operation :=
  h.accounted.progress h.monitored (List.Sublist.refl _) (Grown.of_latest h.current List.prefix_rfl)

theorem Received.saved
    (h : Received runtime given policy context base pending completedIds action receipt operation
      segment)
    (hnext : Extends operation later [] [event]) :
    Received runtime given policy context base pending completedIds action receipt later
      (segment ++ [.saved later]) where
  monitored := h.monitored.concat (h.progress.quiet hnext)
  accounted := by
    rw [startedIds_concat_other rfl]
    exact h.accounted.quiet hnext
  planned := h.planned
  receipted := by
    rw [hnext.receipted, List.append_nil]
    exact h.receipted
  about := h.about
  waiting := fun entry hmem => (h.waiting entry hmem).concat nofun
  covered := h.covered
  current := by rw [← List.append_assoc, latest_concat_saved]

theorem Received.proceed
    (h : Received runtime given policy context base pending completedIds action receipt operation
      segment)
    (hsettled : Settled given operation action.actionId) (hoperation : state.operation = operation)
    (hpending : state.pending = pending)
    (hcompleted : state.completedIds = completedIds ++ [action.actionId]) :
    Looping runtime given policy context base state segment where
  monitored := h.monitored
  accounted := by
    obtain ⟨receipts, events, hextends, hids, hall⟩ := h.accounted
    rw [hoperation, hcompleted]
    refine ⟨receipts, events, hextends, hids, fun actionId hmem => ?_⟩
    rcases List.mem_append.mp hmem with hold | hnew
    · exact hall actionId hold
    · rw [List.mem_singleton.mp hnew]
      exact hsettled
  waiting := by
    rw [hpending]
    exact h.waiting
  covered := by
    intro _ actionId hmem
    rw [hpending, hcompleted, List.mem_append, List.mem_singleton]
    have hcovered := h.covered actionId hmem
    tauto
  current := by
    intro _
    rw [hoperation]
    exact h.current
  grown := by
    rw [hoperation]
    exact Grown.of_latest h.current List.prefix_rfl

theorem Received.abandon
    (h : Received runtime given policy context base pending completedIds action receipt operation
      segment)
    (hnext : Extends operation state.operation [] [event]) (hpending : state.pending = pending)
    (hcompleted : state.completedIds = completedIds) (hfailed : state.failed = true) :
    Looping runtime given policy context base state segment where
  monitored := h.monitored
  accounted := by
    rw [hcompleted]
    exact h.accounted.quiet hnext
  waiting := by
    rw [hpending]
    exact h.waiting
  covered := fun hrunning => absurd hrunning (by simp [hfailed])
  current := fun hrunning => absurd hrunning (by simp [hfailed])
  grown := Grown.of_latest h.current (by rw [hnext.receipted]; exact List.prefix_append _ _)

theorem Received.succeeded
    (h : Received runtime given policy context base pending completedIds action receipt operation
      segment)
    (hstatus : receipt.status.successful) : Settled given operation action.actionId :=
  Or.inl (mem_successfulIds.mpr ⟨receipt, List.mem_of_mem_drop h.receipted, hstatus, h.about⟩)

theorem Received.optional
    (h : Received runtime given policy context base pending completedIds action receipt operation
      segment)
    (hstatus : ¬ receipt.status.successful) (hoptional : action.isOptional) :
    Settled given operation action.actionId := by
  obtain ⟨original, horiginal, hsame⟩ := h.planned
  have hid : original.actionId = action.actionId := (congrArg ActionInstance.actionId hsame :)
  have hoptionality : original.isOptional = action.isOptional :=
    (congrArg ActionInstance.isOptional hsame :)
  refine Or.inr ⟨⟨receipt, h.receipted, h.about, hstatus⟩, Or.inl ⟨original, horiginal, hid, ?_⟩⟩
  rw [hoptionality]
  exact hoptional

theorem Received.tolerated
    (h : Received runtime given policy context base pending completedIds action receipt operation
      segment)
    (hstatus : ¬ receipt.status.successful) (hnext : Extends operation later [] [event])
    (htype : event.eventType = "action.failure_tolerated")
    (hid : event.actionId = some action.actionId) : Settled given later action.actionId := by
  obtain ⟨receipts, events, hextends, -, -⟩ := h.accounted
  have hreceipted := h.receipted
  refine Or.inr ⟨⟨receipt, ?_, h.about, hstatus⟩, Or.inr ⟨event, ?_, htype, hid⟩⟩
  · rw [hnext.receipted, List.append_nil]
    exact hreceipted
  · rw [(hextends.quiet hnext).recorded, List.drop_left]
    exact List.mem_append_right _ (List.mem_singleton_self _)

end Steps

section Rules

variable {runtime : OperationRuntime} {given operation : OperationRun} {policy : ExecutionPolicy}
  {context : RuntimeContext} {base : Log} {action : ActionInstance} {receipt : ActionReceipt}
  {state : LoopState}

/-- A round either goes on from a state of which `holds` is true, or has paused the run. -/
def Ended (runtime : OperationRuntime) (given : OperationRun) (policy : ExecutionPolicy)
    (context : RuntimeContext) (base : Log) (holds : LoopState → Prop) (exit : LoopExit)
    (log : Log) : Prop :=
  match exit with
  | .left next => holds next ∧ After base (Looping runtime given policy context base next) log
  | .paused _ => After base (Monitored (RunPermits runtime given policy context base)) log

theorem settle_rule :
    Triple (After base (Received runtime given policy context base state.pending state.completedIds
        action receipt state.operation))
      (runtime.settle state action receipt)
      (Ended runtime given policy context base fun next => next.pending = state.pending)
      (fun _ => After base (Monitored (RunPermits runtime given policy context base))) := by
  unfold OperationRuntime.settle
  refine Triple.ite (fun hstatus => ?_) fun hstatus => ?_
  · refine Triple.pure fun log h => ⟨rfl, h.mono fun segment hsegment => ?_⟩
    exact hsegment.proceed (hsegment.succeeded hstatus) rfl rfl rfl
  refine Triple.ite (fun hoptional => ?_) fun _ => ?_
  · refine Triple.pure fun log h => ⟨rfl, h.mono fun segment hsegment => ?_⟩
    exact hsegment.proceed (hsegment.optional hstatus hoptional) rfl rfl rfl
  refine Triple.ite (fun _ => ?_) fun _ => ?_
  · refine OperationRuntime.bind_noted fun later event hnext htype hid => ?_
    refine Triple.bind_record (m := After base fun segment =>
      Received runtime given policy context base state.pending state.completedIds action receipt
        later segment ∧ Settled given later action.actionId) ?_ ?_
    · exact fun log h => h.concat fun segment hsegment =>
        ⟨hsegment.saved hnext, hsegment.tolerated hstatus hnext htype hid⟩
    · refine Triple.pure fun log h => ⟨rfl, h.mono fun segment hsegment => ?_⟩
      exact hsegment.1.proceed hsegment.2 rfl rfl rfl
  refine Triple.ite (fun _ => ?_) fun _ => ?_
  · refine OperationRuntime.bind_noted fun later event hnext _ _ => ?_
    refine Triple.bind_record
      (m := After base (Monitored (RunPermits runtime given policy context base)))
      (fun log h => h.concat fun segment hsegment => ?_) (Triple.pure fun log h => h)
    refine hsegment.monitored.concat
      (hsegment.progress.quiet (?_ : Extends state.operation _ [] [event]))
    exact { hnext with }
  · refine OperationRuntime.bind_fail fun later event hnext => ?_
    exact Triple.pure fun log h => ⟨rfl, h.mono fun segment hsegment =>
      hsegment.abandon hnext rfl rfl rfl⟩

theorem iterate_rule {order : List String} (hplan : given.plan.DependencyOrder order)
    (hpending : state.pending.entries ≠ []) (hfailed : state.failed = false) :
    Triple (After base (Looping runtime given policy context base state))
      (runtime.iterate context state)
      (Ended runtime given policy context base fun next => next.pending.size < state.pending.size)
      (fun _ => After base (Monitored (RunPermits runtime given policy context base))) := by
  unfold OperationRuntime.iterate
  cases hfirst : firstReady state.ready with
  | none =>
    refine Triple.assuming (fun log h => (?_ : False)) False.elim
    obtain ⟨segment, -, hsegment⟩ := h
    obtain ⟨action, hready⟩ := hsegment.exists_ready hplan hpending hfailed
    rw [firstReady_eq_none hfirst] at hready
    exact List.not_mem_nil hready
  | some action =>
    have hready := mem_of_firstReady hfirst
    refine Triple.assuming (fun log h => ?_) fun (hkey : action.actionId ∈ state.pending.keys) => ?_
    · obtain ⟨segment, -, hsegment⟩ := h
      obtain ⟨key, hentry⟩ := (mem_ready hready).1
      rw [show action.actionId = key from (hsegment.waiting _ hentry).key.symm]
      exact Dict.mem_keys.mpr ⟨action, hentry⟩
    have hmonitored : ∀ operation (_ : PyError) log,
        After base (Performing runtime given policy context base
          (state.pending.erase action.actionId) state.completedIds action operation) log →
        After base (Monitored (RunPermits runtime given policy context base)) log :=
      fun _ _ _ h => h.mono fun _ => Performing.monitored
    dsimp only
    split
    · exact Triple.raise fun log h => h.mono fun _ => Looping.monitored
    rename_i decision _
    refine Triple.bind_record (fun log h => h.concat fun segment hsegment =>
      hsegment.begin hfailed hready) ?_
    refine Triple.bind (OperationRuntime.startAction_rule fun later event log hnext h =>
      h.concat fun segment hsegment => hsegment.saved hnext) fun running => ?_
    refine Triple.bind (OperationRuntime.checkpointIfRequired_rule (fun log h => h)
      (fun later event log hnext h => h.concat fun segment hsegment => hsegment.saved hnext)
      (hmonitored running)) fun checked => ?_
    refine Triple.bind (OperationRuntime.perform_rule (fun executorId attempt log h =>
      h.concat fun segment hsegment => hsegment.invoked executorId attempt)
      (hmonitored checked)) fun receipt => ?_
    refine Triple.bind (OperationRuntime.appendReceipt_rule fun later event log hnext h =>
      h.2.concat fun segment hsegment => hsegment.receipted hnext h.1) fun received => ?_
    refine Triple.weaken settle_rule (fun log h => h) (fun exit log h => ?_) fun _ _ h => h
    cases exit with
    | left next =>
      have hnext : next.pending = state.pending.erase action.actionId := h.1
      have hsize := Dict.size_erase_lt hkey
      rw [← hnext] at hsize
      exact ⟨hsize, h.2⟩
    | paused operation => exact h

theorem runLoop_rule {order : List String} (hplan : given.plan.DependencyOrder order) (rounds : Nat)
    (hrounds : state.pending.size < rounds) :
    Triple (After base (Looping runtime given policy context base state))
      (runtime.runLoop context rounds state)
      (Ended runtime given policy context base fun _ => True)
      (fun _ => After base (Monitored (RunPermits runtime given policy context base))) := by
  induction rounds generalizing state with
  | zero => omega
  | succ rounds ih =>
    unfold OperationRuntime.runLoop
    refine Triple.ite (fun _ => Triple.pure fun log h => ⟨trivial, h⟩) fun hgoing => ?_
    rw [not_or, Bool.not_eq_true] at hgoing
    refine Triple.bind (iterate_rule hplan hgoing.1 hgoing.2) fun exit => ?_
    cases exit with
    | left next =>
      refine Triple.assuming (fun log h => h.1) fun hsize => ?_
      exact Triple.weaken (ih (by omega)) (fun log h => h.2) (fun _ _ h => h) fun _ _ h => h
    | paused operation => exact Triple.pure fun log h => h

end Rules

end KubeOps.Execution
