import KubeOps.Execution.Certificates
import KubeOps.Execution.ReceiptIdentity

/-! A local run beside a reconciliation of its receipts. The run decides after
each failed action whether to go on; the reconciliation reads the verdict off
the receipts alone. -/
namespace KubeOps.Execution

open KubeOps.Foundation KubeOps.Models KubeOps.Policy KubeOps.Actions
open OperationRuntime (LoopState LoopExit startLoop firstReady)

section Verdicts

variable (runtime : OperationRuntime) (plan : RecoveryPlan)

def failedAction (receipt : ActionReceipt) : Option ActionInstance :=
  if receipt.status.successful then none
  else plan.actions.find? fun action => action.actionId = receipt.actionId ∧ ¬ action.isOptional

def RequiredFailure (receipts : List ActionReceipt) : Prop :=
  ∃ receipt ∈ receipts, (failedAction plan receipt).isSome

/-- The `on_failure` in force: each failed required action may set another one. -/
def behaviorAfter (initial : String) (receipts : List ActionReceipt) : String :=
  receipts.foldl (fun behavior receipt =>
    match failedAction plan receipt with
    | some action => runtime.onFailure action behavior
    | none => behavior) initial

/-- `"rollback" if rollback_on_failure else "stop"` -/
def initialBehavior (rollbackOnFailure : Bool) : String :=
  if rollbackOnFailure then "rollback" else "stop"

def Tolerated (rollbackOnFailure : Bool) (receipts : List ActionReceipt) : Prop :=
  RequiredFailure plan receipts ∧
    behaviorAfter runtime plan (initialBehavior rollbackOnFailure) receipts = "continue"

end Verdicts

structure Tally (runtime : OperationRuntime) (given : OperationRun) (context : RuntimeContext)
    (initial : String) (state : LoopState) : Prop where
  operationId : state.operation.operationId = given.operationId
  stamped : ∀ receipt ∈ state.operation.actionReceipts,
    Mints given.operationId context.executionContext receipt.actionId receipt.receiptId ∧
      receipt.status ≠ .rolledBack
  behaves : state.failureBehavior =
    behaviorAfter runtime given.plan initial state.operation.actionReceipts
  tolerant : state.failed = false → RequiredFailure given.plan state.operation.actionReceipts →
    state.failureBehavior = "continue"
  fatal : state.failed = true → RequiredFailure given.plan state.operation.actionReceipts ∧
    state.failureBehavior ≠ "continue"

section Counting

variable {runtime : OperationRuntime} {given operation later : OperationRun} {plan : RecoveryPlan}
  {context : RuntimeContext} {policy : ExecutionPolicy} {initial : String} {state next : LoopState}
  {action original : ActionInstance} {receipt : ActionReceipt} {receipts : List ActionReceipt}
  {base : Log}

theorem failedAction_successful (h : receipt.status.successful = true) :
    failedAction plan receipt = none := if_pos h

theorem failedAction_eq (hids : plan.actionIds.Nodup) (horiginal : original ∈ plan.actions)
    (hid : receipt.actionId = original.actionId) (hstatus : ¬ receipt.status.successful) :
    failedAction plan receipt = if original.isOptional then none else some original := by
  have hunique : ∀ action ∈ plan.actions, action.actionId = receipt.actionId → action = original := by
    intro action hmem hsame
    exact List.inj_on_of_nodup_map hids hmem horiginal (hsame.trans hid)
  rw [failedAction, if_neg hstatus]
  cases hfind : plan.actions.find? fun action =>
      action.actionId = receipt.actionId ∧ ¬ action.isOptional with
  | none =>
    have hnot := List.find?_eq_none.mp hfind original horiginal
    simp only [hid, true_and, Bool.not_eq_true, decide_eq_true_eq, Bool.not_eq_false] at hnot
    rw [if_pos hnot]
  | some action =>
    have hfound := List.find?_some hfind
    rw [decide_eq_true_eq] at hfound
    obtain rfl := hunique action (List.mem_of_find?_eq_some hfind) hfound.1
    rw [if_neg hfound.2]

theorem behaviorAfter_concat : behaviorAfter runtime plan initial (receipts ++ [receipt]) =
    match failedAction plan receipt with
    | some action => runtime.onFailure action (behaviorAfter runtime plan initial receipts)
    | none => behaviorAfter runtime plan initial receipts := by
  simp [behaviorAfter, List.foldl_append]

theorem requiredFailure_concat : RequiredFailure plan (receipts ++ [receipt]) ↔
    RequiredFailure plan receipts ∨ (failedAction plan receipt).isSome := by
  simp [RequiredFailure, or_and_right, exists_or]

theorem onFailure_unmarked {left right : ActionInstance} (h : left.unmarked = right.unmarked)
    (behavior : String) : runtime.onFailure left behavior = runtime.onFailure right behavior := by
  have hmetadata : left.metadata = right.metadata := (congrArg ActionInstance.metadata h :)
  unfold OperationRuntime.onFailure
  rw [hmetadata]

theorem isOptional_unmarked {left right : ActionInstance} (h : left.unmarked = right.unmarked) :
    left.isOptional = right.isOptional :=
  (congrArg ActionInstance.isOptional h :)

structure Counted (runtime : OperationRuntime) (given : OperationRun) (context : RuntimeContext)
    (initial : String) (state : LoopState) (action : ActionInstance) (receipt : ActionReceipt) :
    Prop where
  operationId : state.operation.operationId = given.operationId
  stamped : ∀ receipt ∈ state.operation.actionReceipts,
    Mints given.operationId context.executionContext receipt.actionId receipt.receiptId ∧
      receipt.status ≠ .rolledBack
  about : receipt.actionId = action.actionId
  counted : ∃ earlier, state.operation.actionReceipts = earlier ++ [receipt] ∧
    state.failureBehavior = behaviorAfter runtime given.plan initial earlier ∧
    (RequiredFailure given.plan earlier → state.failureBehavior = "continue")

theorem Counted.pass (h : Counted runtime given context initial state action receipt)
    (hnone : failedAction given.plan receipt = none) (hgoing : next.failed = false)
    (hoperation : next.operation = state.operation)
    (hbehavior : next.failureBehavior = state.failureBehavior) :
    Tally runtime given context initial next := by
  obtain ⟨earlier, hreceipts, hbehaves, htolerant⟩ := h.counted
  constructor
  · rw [hoperation]
    exact h.operationId
  · rw [hoperation]
    exact h.stamped
  · rw [hoperation, hreceipts, behaviorAfter_concat, hnone, hbehavior]
    exact hbehaves
  · intro _ hrequired
    rw [hoperation, hreceipts, requiredFailure_concat, hnone] at hrequired
    rw [hbehavior]
    exact htolerant (hrequired.resolve_right (by simp))
  · intro hfailed
    rw [hgoing] at hfailed
    cases hfailed

theorem Counted.fail (h : Counted runtime given context initial state action receipt)
    (hfailed : failedAction given.plan receipt = some original)
    (hsame : original.unmarked = action.unmarked)
    (hoperationId : next.operation.operationId = state.operation.operationId)
    (hreceipts : next.operation.actionReceipts = state.operation.actionReceipts)
    (hbehavior : next.failureBehavior = runtime.onFailure action state.failureBehavior)
    (hgoing : next.failed = false ↔ next.failureBehavior = "continue") :
    Tally runtime given context initial next := by
  obtain ⟨earlier, hearlier, hbehaves, htolerant⟩ := h.counted
  have hrequired : RequiredFailure given.plan next.operation.actionReceipts := by
    rw [hreceipts, hearlier, requiredFailure_concat, hfailed]
    exact Or.inr rfl
  constructor
  · exact hoperationId.trans h.operationId
  · rw [hreceipts]
    exact h.stamped
  · rw [hreceipts, hearlier, behaviorAfter_concat, hfailed, hbehavior, hbehaves]
    exact (onFailure_unmarked hsame _).symm
  · exact fun hrunning _ => hgoing.mp hrunning
  · intro hstopped
    refine ⟨hrequired, fun hcontinue => ?_⟩
    rw [hgoing.mpr hcontinue] at hstopped
    cases hstopped

/-- A round leaves the count right, unless it has paused the run. -/
def Tallied (runtime : OperationRuntime) (given : OperationRun) (context : RuntimeContext)
    (initial : String) : LoopExit → Prop
  | .left next => Tally runtime given context initial next
  | .paused _ => True

theorem settle_tally (h : Counted runtime given context initial state action receipt)
    (hgoing : state.failed = false) (hids : given.plan.actionIds.Nodup)
    (horiginal : original ∈ given.plan.actions) (hsame : original.unmarked = action.unmarked) :
    Returns (runtime.settle state action receipt) (Tallied runtime given context initial) := by
  have hid : receipt.actionId = original.actionId := h.about.trans (actionId_unmarked hsame).symm
  unfold OperationRuntime.settle
  refine Returns.ite (fun hsuccessful => ?_) fun hstatus => ?_
  · exact Returns.pure (h.pass (failedAction_successful hsuccessful) hgoing rfl rfl)
  have hfound := failedAction_eq hids horiginal hid hstatus
  refine Returns.ite (fun hoptional => ?_) fun hrequired => ?_
  · rw [if_pos ((isOptional_unmarked hsame).trans hoptional)] at hfound
    exact Returns.pure (h.pass hfound hgoing rfl rfl)
  rw [if_neg (by rw [isOptional_unmarked hsame]; exact hrequired)] at hfound
  refine Returns.ite (fun hcontinue => ?_) fun hstop => Returns.ite (fun _ => ?_) fun _ => ?_
  · refine Returns.bind noted_returns fun noted hnoted => Returns.bind_any fun _ => ?_
    obtain ⟨updatedAtIso, event, -, -, rfl⟩ := hnoted
    exact Returns.pure (h.fail hfound hsame rfl rfl rfl (by simp [hgoing, hcontinue]))
  · exact Returns.bind_any fun noted => Returns.bind_any fun _ => Returns.pure trivial
  · unfold OperationRuntime.fail
    simp only [bind_assoc, pure_bind]
    refine Returns.bind noted_returns fun noted hnoted => ?_
    obtain ⟨updatedAtIso, event, -, -, rfl⟩ := hnoted
    exact Returns.pure (h.fail hfound hsame rfl rfl rfl (by simp [hstop]))

theorem received_counted (h : Tally runtime given context initial state)
    (hgoing : state.failed = false) (pending : Dict String ActionInstance)
    (hbefore : ∃ events, Extends state.operation operation [] events)
    (hstamped : Stamped operation.operationId context.executionContext action receipt)
    (hnext : ∃ events, Extends operation later [receipt] events) :
    Counted runtime given context initial { state with operation := later, pending := pending } action
      receipt := by
  obtain ⟨events, hbefore⟩ := hbefore
  obtain ⟨others, hnext⟩ := hnext
  have hoperationId := hbefore.operationId.trans h.operationId
  have hreceipts : later.actionReceipts = state.operation.actionReceipts ++ [receipt] := by
    rw [hnext.receipted, hbefore.receipted, List.append_nil]
  refine ⟨hnext.operationId.trans hoperationId, ?_, hstamped.actionId,
    ⟨state.operation.actionReceipts, hreceipts, h.behaves, h.tolerant hgoing⟩⟩
  intro found hmem
  rw [hreceipts, List.mem_append, List.mem_singleton] at hmem
  rcases hmem with hold | rfl
  · exact h.stamped found hold
  · rw [hstamped.actionId, ← hoperationId]
    exact ⟨hstamped.minted, hstamped.status_ne⟩

theorem iterate_tally (h : Tally runtime given context initial state) (hgoing : state.failed = false)
    (hexecutors : runtime.executors.Conventional) (hids : given.plan.actionIds.Nodup)
    (hfirst : firstReady state.ready = some action) (horiginal : original ∈ given.plan.actions)
    (hsame : original.unmarked = action.unmarked) :
    Returns (runtime.iterate context state) (Tallied runtime given context initial) := by
  unfold OperationRuntime.iterate
  rw [hfirst]
  dsimp only
  split
  · exact Returns.raise _
  refine Returns.bind_any fun _ => Returns.bind (m := fun running =>
    ∃ events, Extends state.operation running [] events) ?_ fun running hrunning => ?_
  · exact OperationRuntime.startAction_rule fun later event _ hnext _ => ⟨_, hnext⟩
  refine Returns.bind (m := fun checked => ∃ events, Extends running checked [] events) ?_
    fun checked hchecked => ?_
  · exact OperationRuntime.checkpointIfRequired_rule (fun _ _ => ⟨[], Extends.refl running⟩)
      (fun later event _ hnext _ => ⟨_, hnext⟩) fun _ _ _ => trivial
  refine Returns.bind (perform_stamped hexecutors) fun receipt hstamped => ?_
  refine Returns.bind (m := fun received => ∃ events, Extends checked received [receipt] events) ?_
    fun received hreceived => ?_
  · exact OperationRuntime.appendReceipt_rule fun later event _ hnext _ => ⟨_, hnext⟩
  obtain ⟨events, hrunning⟩ := hrunning
  obtain ⟨others, hchecked⟩ := hchecked
  have hcounted := received_counted h hgoing (state.pending.erase action.actionId)
    ⟨_, hrunning.quiet hchecked⟩ hstamped hreceived
  exact settle_tally hcounted hgoing hids horiginal hsame

/-- How a loop ends whose count was right: with nothing left to do, failed or paused. -/
def Finished (runtime : OperationRuntime) (given : OperationRun) (policy : ExecutionPolicy)
    (context : RuntimeContext) (base : Log) (initial : String) (exit : LoopExit) (log : Log) : Prop :=
  match exit with
  | .left state => Tally runtime given context initial state ∧
      (state.pending.entries = [] ∨ state.failed = true) ∧
      After base (Looping runtime given policy context base state) log
  | .paused _ => True

theorem runLoop_tally {order : List String} (hplan : given.plan.DependencyOrder order)
    (hexecutors : runtime.executors.Conventional) (rounds : Nat)
    (h : Tally runtime given context initial state) :
    Triple (After base (Looping runtime given policy context base state))
      (runtime.runLoop context rounds state)
      (Finished runtime given policy context base initial) (fun _ _ => True) := by
  induction rounds generalizing state with
  | zero =>
    refine Triple.bind (m := fun _ _ => True) (Triple.record fun _ _ => trivial) fun _ => ?_
    exact Triple.raise fun _ _ => trivial
  | succ rounds ih =>
    unfold OperationRuntime.runLoop
    refine Triple.ite (fun hdone => Triple.pure fun log hlooping => ⟨h, hdone, hlooping⟩) fun hgoing => ?_
    rw [not_or, Bool.not_eq_true] at hgoing
    have hready : ∀ log, After base (Looping runtime given policy context base state) log →
        ∃ action original, firstReady state.ready = some action ∧
          original ∈ given.plan.actions ∧ original.unmarked = action.unmarked := by
      rintro log ⟨segment, -, hlooping⟩
      cases hfirst : firstReady state.ready with
      | none =>
        obtain ⟨action, hready⟩ := hlooping.exists_ready hplan hgoing.1 hgoing.2
        rw [firstReady_eq_none hfirst] at hready
        cases hready
      | some action =>
        obtain ⟨key, hentry⟩ := (mem_ready (mem_of_firstReady hfirst)).1
        obtain ⟨original, horiginal, hsame⟩ := (hlooping.waiting _ hentry).planned
        exact ⟨action, original, rfl, horiginal, hsame⟩
    refine Triple.assuming hready fun hfound => ?_
    obtain ⟨action, original, hfirst, horiginal, hsame⟩ := hfound
    refine Triple.bind (Triple.weaken ((iterate_rule hplan hgoing.1 hgoing.2).and (iterate_tally h
      hgoing.2 hexecutors hplan.distinct hfirst horiginal hsame)) (fun log hlog => ⟨hlog, trivial⟩)
      (fun _ _ hexit => hexit) fun _ _ _ => trivial) fun exit => ?_
    cases exit with
    | left next =>
      refine Triple.assuming (fun log hexit => hexit.2) fun htally => ?_
      exact Triple.weaken (ih htally) (fun log hexit => hexit.1.2) (fun _ _ hend => hend)
        fun _ _ _ => trivial
    | paused operation => exact Triple.pure fun _ _ => trivial

end Counting

/-- Nothing was executed or reconciled before. -/
structure Unexecuted (operation : OperationRun) : Prop where
  unreceipted : operation.actionReceipts = []
  unprojected : operation.metadata.get? "external_projection_hash" = none

/-- The run has come to its end, without a rollback: it was sealed or has failed. -/
def Complete (final : OperationRun) : Prop :=
  lastEvent final = some "operation.sealed" ∨ lastEvent final = some "operation.failed"

structure Concluded (runtime : OperationRuntime) (given : OperationRun) (context : RuntimeContext)
    (rollbackOnFailure : Bool) (final : OperationRun) : Prop where
  distinct : (final.actionReceipts.map ActionReceipt.actionId).Nodup
  stamped : ∀ receipt ∈ final.actionReceipts,
    Mints given.operationId context.executionContext receipt.actionId receipt.receiptId ∧
      receipt.status ≠ .rolledBack
  sealed : lastEvent final = some "operation.sealed" →
    (∀ actionId ∈ given.plan.actionIds, actionId ∈ final.actionReceipts.map ActionReceipt.actionId) ∧
      (RequiredFailure given.plan final.actionReceipts →
        Tolerated runtime given.plan rollbackOnFailure final.actionReceipts)
  failed : lastEvent final = some "operation.failed" →
    RequiredFailure given.plan final.actionReceipts ∧
      ¬ Tolerated runtime given.plan rollbackOnFailure final.actionReceipts

section Runs

variable {runtime : OperationRuntime} {given operation later : OperationRun} {policy : ExecutionPolicy}
  {context : RuntimeContext} {conditions : Option (List VerificationCondition)}
  {rollbackOnFailure : Bool} {state : LoopState} {base segment : Log}

theorem sealRun_last : Returns (runtime.sealRun operation context conditions) fun sealed =>
    lastEvent sealed = some "operation.sealed" ∧ sealed.actionReceipts = operation.actionReceipts := by
  unfold OperationRuntime.sealRun OperationRuntime.utcNowIso
  refine Returns.bind noted_returns fun verifying hverifying => ?_
  obtain ⟨updatedAtIso, event, -, -, rfl⟩ := hverifying
  refine Returns.bind_any fun results => Returns.bind_any fun completedAtIso => ?_
  refine Returns.bind noted_returns fun noted hnoted => ?_
  obtain ⟨sealedAtIso, sealEvent, htype, -, rfl⟩ := hnoted
  refine Returns.bind_any fun _ => Returns.pure ⟨?_, rfl⟩
  rw [← htype]
  exact lastEvent_append rfl

theorem Looping.receipts_nodup (h : Looping runtime given policy context base state segment)
    (hfresh : Unexecuted given) : (state.operation.actionReceipts.map ActionReceipt.actionId).Nodup := by
  obtain ⟨receipts, events, hextends, hids, -⟩ := h.accounted
  rw [hextends.receipted, hfresh.unreceipted, List.nil_append, hids]
  exact startedIds_nodup h.monitored

theorem Looping.all_receipted (h : Looping runtime given policy context base state segment)
    (hgoing : state.failed = false) (hdone : state.pending.entries = []) :
    ∀ actionId ∈ given.plan.actionIds,
      actionId ∈ state.operation.actionReceipts.map ActionReceipt.actionId := by
  intro actionId hmem
  obtain ⟨receipts, events, -, -, hsettled⟩ := h.accounted
  have hcompleted : actionId ∈ state.completedIds := by
    refine (h.covered hgoing actionId hmem).resolve_left fun hpending => ?_
    rw [Dict.keys, hdone] at hpending
    cases hpending
  rcases hsettled actionId hcompleted with hsuccess | ⟨⟨receipt, hreceipt, hid, -⟩, -⟩
  · exact (successfulIds_sublist _).subset hsuccess
  · exact hid ▸ List.mem_map_of_mem (List.mem_of_mem_drop hreceipt)

theorem start_tally (hfresh : operation.actionReceipts = [])
    (hoperationId : operation.operationId = given.operationId) :
    Tally runtime given context (initialBehavior rollbackOnFailure)
      (startLoop operation rollbackOnFailure) where
  operationId := hoperationId
  stamped := by
    intro receipt hmem
    change receipt ∈ operation.actionReceipts at hmem
    rw [hfresh] at hmem
    cases hmem
  behaves := by
    change _ = behaviorAfter _ _ _ operation.actionReceipts
    rw [hfresh]
    rfl
  tolerant := by
    rintro - ⟨receipt, hmem, -⟩
    change receipt ∈ operation.actionReceipts at hmem
    rw [hfresh] at hmem
    cases hmem
  fatal := fun hfailed => by cases hfailed

theorem concluded_of_finished {initial : String} (hinitial : initial = initialBehavior rollbackOnFailure)
    {log : Log} (h : Finished runtime given policy context base initial (.left state) log)
    (hfresh : Unexecuted given) (hreceipts : later.actionReceipts = state.operation.actionReceipts)
    (hsealed : lastEvent later = some "operation.sealed" → state.failed = false)
    (hfailed : lastEvent later = some "operation.failed" → state.failed = true) :
    Concluded runtime given context rollbackOnFailure later := by
  subst hinitial
  obtain ⟨htally, hdone, segment, -, hlooping⟩ := h
  have htolerated : state.failureBehavior = "continue" ↔ behaviorAfter runtime given.plan
      (initialBehavior rollbackOnFailure) later.actionReceipts = "continue" := by
    rw [hreceipts, htally.behaves]
  constructor
  · rw [hreceipts]
    exact hlooping.receipts_nodup hfresh
  · rw [hreceipts]
    exact htally.stamped
  · intro hlast
    have hgoing := hsealed hlast
    have hempty := hdone.resolve_right (by simp [hgoing])
    refine ⟨?_, fun hrequired => ⟨hrequired, htolerated.mp (htally.tolerant hgoing ?_)⟩⟩
    · rw [hreceipts]
      exact hlooping.all_receipted hgoing hempty
    · rw [← hreceipts]
      exact hrequired
  · intro hlast
    obtain ⟨hrequired, hbehavior⟩ := htally.fatal (hfailed hlast)
    refine ⟨?_, fun htolerated' => hbehavior (htolerated.mpr htolerated'.2)⟩
    rw [hreceipts]
    exact hrequired

theorem run_concluded (hplan : given.plan.Accepted runtime.python)
    (hexecutors : runtime.executors.Conventional) (hfresh : Unexecuted given) :
    Returns (runtime.run given policy context conditions rollbackOnFailure)
      fun final => Complete final → Concluded runtime given context rollbackOnFailure final := by
  obtain ⟨order, horder⟩ := hplan.exists_order
  have hother : ∀ {final : OperationRun} {eventType : String}, lastEvent final = some eventType →
      eventType ≠ "operation.sealed" → eventType ≠ "operation.failed" → Complete final →
      Concluded runtime given context rollbackOnFailure final := by
    intro final eventType hlast hsealed hfailed hcomplete
    rcases hcomplete with h | h
    · exact absurd (Option.some.inj (hlast.symm.trans h)) hsealed
    · exact absurd (Option.some.inj (hlast.symm.trans h)) hfailed
  intro trace _
  suffices h : Triple (fun log => log = trace.log)
      (runtime.run given policy context conditions rollbackOnFailure)
      (fun final _ => Complete final → Concluded runtime given context rollbackOnFailure final)
      (fun _ _ => True) from h trace rfl
  unfold OperationRuntime.run OperationRuntime.utcNowIso
  refine Triple.bind (Triple.weaken ((authorize_rule runtime given policy context trace.log).and
    authorize_last) (fun log h => ⟨h, trivial⟩) (fun _ _ h => h) fun _ _ _ => trivial)
    fun authorized => ?_
  refine Triple.ite (fun _ => Triple.pure fun _ h => hother h.2 (by decide) (by decide)) fun hstatus => ?_
  rw [not_not] at hstatus
  have hextends : ∀ log, After trace.log (Authorized runtime given policy context trace.log authorized)
      log ∧ lastEvent authorized = some "operation.authorization_evaluated" →
      ∃ event, Extends given authorized [] [event] := by
    rintro log ⟨⟨segment, -, hauthorized⟩, -⟩
    exact hauthorized.continues
  refine Triple.assuming hextends fun ⟨first, hfirst⟩ => ?_
  refine Triple.bind_tick fun now => OperationRuntime.bind_event fun event _ _ => ?_
  refine Triple.bind_record (fun log h => h.1.concat fun segment hsegment =>
    hsegment.start hstatus rollbackOnFailure (?_ : Extends authorized _ [] [event]) rfl) ?_
  · exact ⟨rfl, rfl, rfl, rfl, (List.append_nil _).symm, rfl⟩
  have htally : Tally runtime given context (initialBehavior rollbackOnFailure)
      (startLoop { authorized with
        status := .running
        startedAtIso := authorized.startedAtIso.orElse fun _ => some now
        updatedAtIso := now
        events := authorized.events ++ [event] } rollbackOnFailure) := by
    refine start_tally ?_ hfirst.operationId
    exact hfirst.receipted.trans (by rw [hfresh.unreceipted]; rfl)
  refine Triple.bind (Triple.weaken ((runLoop_tally horder hexecutors _ htally).and
    (runLoop_announces _ fun hfailed => by cases hfailed)) (fun log h => ⟨h, trivial⟩)
    (fun _ _ h => h) fun _ _ _ => trivial) fun exit => ?_
  cases exit with
  | paused operation => exact Triple.pure fun _ h => hother h.2 (by decide) (by decide)
  | left state =>
    refine Triple.ite (fun hfailed => ?_) fun hgoing => ?_
    · refine Triple.bind (m := fun rolled log => lastEvent rolled = some "rollback.completed" ∨
        rolled = state.operation ∧
          Finished runtime given policy context trace.log (initialBehavior rollbackOnFailure)
            (.left state) log ∧ Announces (.left state)) ?_ fun rolled => ?_
      · unfold OperationRuntime.rollbackIfAsked
        refine Triple.ite (fun _ => ?_) fun _ => Triple.pure fun _ h => Or.inr ⟨rfl, h⟩
        exact Triple.weaken rollback_last (fun _ _ => trivial) (fun _ _ => Or.inl) fun _ _ h => h
      · refine Triple.bind_record (m := fun _ => Complete rolled →
          Concluded runtime given context rollbackOnFailure rolled) (fun log h => ?_)
          (Triple.pure fun _ h => h)
        rcases h with hlast | ⟨rfl, hfinished, hannounced⟩
        · exact hother hlast (by decide) (by decide)
        · intro _
          refine concluded_of_finished rfl hfinished hfresh rfl (fun hlast => ?_) fun _ => hfailed
          have hsame := hlast.symm.trans (hannounced hfailed)
          simp at hsame
    · rw [Bool.not_eq_true] at hgoing
      have hleft : ∀ log, Finished runtime given policy context trace.log
          (initialBehavior rollbackOnFailure) (.left state) log ∧ Announces (.left state) →
          ∃ log, Finished runtime given policy context trace.log (initialBehavior rollbackOnFailure)
            (.left state) log := fun log h => ⟨log, h.1⟩
      refine Triple.assuming hleft fun ⟨log, hfinished⟩ => ?_
      refine Triple.weaken sealRun_last (fun _ _ => trivial) (fun final _ hfinal _ => ?_)
        fun _ _ h => h
      refine concluded_of_finished rfl hfinished hfresh hfinal.2 (fun _ => hgoing) fun hlast => ?_
      have hsame := hlast.symm.trans hfinal.1
      simp at hsame

end Runs

section Reconciliation

variable {runtime : OperationRuntime} {given operation authorized : OperationRun}
  {policy : ExecutionPolicy} {context : RuntimeContext} {plan : RecoveryPlan}
  {receipts : List ActionReceipt} {action : ActionInstance} {rollbackOnFailure : Bool}

def latestReceipt (receipts : List ActionReceipt) (actionId : String) : Option ActionReceipt :=
  (Dict.ofList (receipts.map fun receipt => (receipt.actionId, receipt))).get? actionId

def projectedActions (operation : OperationRun) (receipts : List ActionReceipt) : List ActionInstance :=
  let merged := OperationRuntime.mergeReceipts operation.actionReceipts receipts
  operation.plan.actions.map fun action =>
    { action with status :=
        OperationRuntime.projectedStatus action [] (latestReceipt merged action.actionId) }

theorem reconcile_status (hunprojected : operation.metadata.get? "external_projection_hash" = none) :
    Returns (runtime.reconcileExternalReceipts operation receipts none) fun reconciled =>
      reconciled.status = OperationRuntime.reconciledStatus (projectedActions operation receipts) := by
  unfold OperationRuntime.reconcileExternalReceipts
  rw [hunprojected]
  dsimp only
  unfold OperationRuntime.reconcileExternalReceipts.project
  refine Returns.bind_any fun now => Returns.bind_any fun event => ?_
  exact Returns.bind_any fun _ => Returns.pure rfl

theorem projectedStatus_eq_failed {found : Option ActionReceipt} :
    OperationRuntime.projectedStatus action [] found = .failed ↔
      ∃ receipt, found = some receipt ∧ receipt.status = .failed := by
  cases found with
  | none =>
    simp only [OperationRuntime.projectedStatus, List.not_mem_nil, ↓reduceIte, Option.map_none]
    split
    · rename_i hmark
      rcases hmark with h | h <;> simp [h]
    · simp
  | some receipt =>
    cases hstatus : receipt.status <;> simp [OperationRuntime.projectedStatus, hstatus]

theorem terminal_projectedStatus (found : Option ActionReceipt) :
    OperationRuntime.terminalAction (OperationRuntime.projectedStatus action [] found) =
      found.isSome := by
  cases found with
  | none =>
    simp only [OperationRuntime.projectedStatus, List.not_mem_nil, ↓reduceIte, Option.map_none]
    split
    · rename_i hmark
      rcases hmark with h | h <;> simp [h, OperationRuntime.terminalAction]
    · rfl
  | some receipt =>
    cases hstatus : receipt.status <;>
      simp [OperationRuntime.projectedStatus, OperationRuntime.terminalAction, hstatus]

theorem latestReceipt_eq_some (hactions : (receipts.map ActionReceipt.actionId).Nodup)
    {actionId : String} {receipt : ActionReceipt} :
    latestReceipt receipts actionId = some receipt ↔
      receipt ∈ receipts ∧ receipt.actionId = actionId := by
  have hentries : (Dict.ofList (receipts.map fun receipt => (receipt.actionId, receipt))).entries =
      receipts.map fun receipt => (receipt.actionId, receipt) := by
    apply Dict.entries_ofList
    rw [List.map_map]
    exact hactions
  rw [latestReceipt, Dict.get?_eq_some, hentries]
  simp only [List.mem_map, Prod.mk.injEq]
  constructor
  · rintro ⟨found, hmem, hid, rfl⟩
    exact ⟨hmem, hid⟩
  · rintro ⟨hmem, hid⟩
    exact ⟨receipt, hmem, hid, rfl⟩

theorem mergeReceipts_perm (hids : (receipts.map ActionReceipt.receiptId).Nodup) :
    (OperationRuntime.mergeReceipts [] receipts).Perm receipts := by
  unfold OperationRuntime.mergeReceipts
  refine (List.perm_insertionSort _ _).trans ?_
  have hentries : (Dict.ofList (([] ++ receipts).map fun receipt : ActionReceipt =>
      (receipt.receiptId, receipt))).entries =
        receipts.map fun receipt => (receipt.receiptId, receipt) := by
    apply Dict.entries_ofList
    rw [List.map_map]
    exact hids
  rw [Dict.values, hentries, List.map_map, Function.comp_def, List.map_id']

structure OnePerAction (plan : RecoveryPlan) (operation : OperationRun)
    (receipts : List ActionReceipt) : Prop where
  distinct : plan.actionIds.Nodup
  unreceipted : operation.actionReceipts = []
  same : operation.plan.actions.map ActionInstance.unmarked =
    plan.actions.map ActionInstance.unmarked
  actions : (receipts.map ActionReceipt.actionId).Nodup
  ids : (receipts.map ActionReceipt.receiptId).Nodup
  status_ne : ∀ receipt ∈ receipts, receipt.status ≠ .rolledBack

theorem OnePerAction.latestReceipt_eq_some (h : OnePerAction plan operation receipts)
    {actionId : String} {receipt : ActionReceipt} :
    latestReceipt (OperationRuntime.mergeReceipts operation.actionReceipts receipts) actionId =
      some receipt ↔ receipt ∈ receipts ∧ receipt.actionId = actionId := by
  have hperm := mergeReceipts_perm h.ids
  rw [h.unreceipted, Execution.latestReceipt_eq_some
    ((hperm.map ActionReceipt.actionId).nodup_iff.mpr h.actions), hperm.mem_iff]

theorem OnePerAction.failedRequired_iff (h : OnePerAction plan operation receipts) :
    OperationRuntime.failedRequired (projectedActions operation receipts) ≠ [] ↔
      RequiredFailure plan receipts := by
  have hfailed : ∀ receipt ∈ receipts, receipt.status = .failed ↔ ¬ receipt.status.successful := by
    intro receipt hmem
    have hne := h.status_ne receipt hmem
    cases hstatus : receipt.status <;> simp [hstatus, ReceiptStatus.successful] at hne ⊢
  rw [ne_eq, List.eq_nil_iff_forall_not_mem, not_forall]
  simp only [not_not, OperationRuntime.failedRequired, projectedActions, List.mem_filter,
    List.mem_map, decide_eq_true_eq]
  constructor
  · rintro ⟨_, ⟨action, haction, rfl⟩, hstatus, hrequired⟩
    obtain ⟨receipt, hfound, hreceipt⟩ := projectedStatus_eq_failed.mp hstatus
    obtain ⟨hmem, hid⟩ := h.latestReceipt_eq_some.mp hfound
    obtain ⟨original, horiginal, hsame⟩ := RecoveryPlan.exists_original h.same haction
    refine ⟨receipt, hmem, ?_⟩
    rw [failedAction_eq h.distinct horiginal (hid.trans (actionId_unmarked hsame).symm)
      ((hfailed receipt hmem).mp hreceipt), if_neg]
    · rfl
    · rw [isOptional_unmarked hsame]
      exact hrequired
  · rintro ⟨receipt, hmem, hsome⟩
    obtain ⟨original, hfound⟩ := Option.isSome_iff_exists.mp hsome
    have hstatus : ¬ receipt.status.successful := by
      intro hsuccessful
      rw [failedAction_successful hsuccessful] at hfound
      cases hfound
    rw [failedAction, if_neg hstatus] at hfound
    have hrequired := List.find?_some hfound
    rw [decide_eq_true_eq] at hrequired
    obtain ⟨action, haction, hsame⟩ := RecoveryPlan.exists_original h.same.symm
      (List.mem_of_find?_eq_some hfound)
    refine ⟨_, ⟨action, haction, rfl⟩, projectedStatus_eq_failed.mpr ⟨receipt, ?_, ?_⟩, ?_⟩
    · exact h.latestReceipt_eq_some.mpr ⟨hmem, (actionId_unmarked hsame).trans hrequired.1 ▸ rfl⟩
    · exact (hfailed receipt hmem).mpr hstatus
    · change ¬ action.isOptional = true
      rw [isOptional_unmarked hsame]
      exact hrequired.2

theorem OnePerAction.all_terminal_iff (h : OnePerAction plan operation receipts) :
    ((projectedActions operation receipts).all fun action =>
        OperationRuntime.terminalAction action.status) = true ↔
      ∀ actionId ∈ plan.actionIds, actionId ∈ receipts.map ActionReceipt.actionId := by
  rw [← RecoveryPlan.actionIds_of_unmarked h.same]
  simp only [projectedActions, List.all_eq_true, List.mem_map, forall_exists_index, and_imp,
    forall_apply_eq_imp_iff₂, terminal_projectedStatus, RecoveryPlan.actionIds]
  refine forall_congr' fun action => imp_congr_right fun _ => ?_
  rw [Option.isSome_iff_exists]
  exact exists_congr fun receipt => h.latestReceipt_eq_some

theorem reconciledStatus_eq_failed {actions : List ActionInstance} :
    OperationRuntime.reconciledStatus actions = .failed ↔
      OperationRuntime.failedRequired actions ≠ [] := by
  unfold OperationRuntime.reconciledStatus
  by_cases hfailed : OperationRuntime.failedRequired actions = []
  · simp only [hfailed, ne_eq, not_true_eq_false, ↓reduceIte, iff_false]
    split <;> simp
  · simp [hfailed]

theorem reconciledStatus_eq_verifying {actions : List ActionInstance} :
    OperationRuntime.reconciledStatus actions = .verifying ↔
      ¬ OperationRuntime.failedRequired actions ≠ [] ∧
        (actions.all fun action => OperationRuntime.terminalAction action.status) = true := by
  unfold OperationRuntime.reconciledStatus
  split
  · rename_i hfailed
    simp [hfailed]
  · rename_i hfailed
    split
    · rename_i hall
      simp only [hfailed, not_false_eq_true, hall, and_self]
    · rename_i hall
      simp only [reduceCtorEq, hall, and_false]

variable (runtime) in
theorem reconcile_total (operation : OperationRun) (receipts : List ActionReceipt)
    (current : Option (List String)) (trace : Trace Effect) : ∃ reconciled ended,
      (runtime.reconcileExternalReceipts operation receipts current).exec trace =
        (.ok reconciled, ended) := by
  unfold OperationRuntime.reconcileExternalReceipts
  dsimp only
  split
  · split
    · exact ⟨_, _, rfl⟩
    · exact ⟨_, _, rfl⟩
  · exact ⟨_, _, rfl⟩

theorem authorize_unchanged : Returns (runtime.authorize operation policy context) fun authorized =>
    authorized.metadata = operation.metadata ∧ authorized.currentActionIds = operation.currentActionIds := by
  unfold OperationRuntime.authorize
  refine Returns.bind_any fun decisions => Returns.bind_any fun marked => ?_
  refine Returns.bind noted_returns fun noted hnoted => ?_
  obtain ⟨updatedAtIso, event, -, -, rfl⟩ := hnoted
  exact Returns.bind_any fun _ => Returns.pure ⟨rfl, rfl⟩

theorem authorize_extends : Returns (runtime.authorize operation policy context)
    fun authorized => ∃ event, Extends operation authorized [] [event] := by
  intro trace _
  have hout := authorize_rule runtime operation policy context trace.log trace rfl
  revert hout
  rcases (runtime.authorize operation policy context).exec trace with ⟨result, reached⟩
  cases result with
  | ok authorized => exact fun ⟨segment, _, hsegment⟩ => hsegment.continues
  | error error => exact fun _ => trivial

/-- Reconciling gives `verifying` exactly for a run that was verified, and `failed`
exactly for one that has failed. -/
def Agrees (reconciled final : OperationRun) : Prop :=
  (reconciled.status = .verifying ↔ lastEvent final = some "operation.sealed") ∧
    (reconciled.status = .failed ↔ lastEvent final = some "operation.failed")

structure CompleteRun (runtime : OperationRuntime) (given : OperationRun) (policy : ExecutionPolicy)
    (context : RuntimeContext) (rollbackOnFailure : Bool) (final authorized : OperationRun) : Prop where
  fresh : Unexecuted given
  byRun : ∃ conditions trace reached,
    (runtime.run given policy context conditions rollbackOnFailure).exec trace = (.ok final, reached)
  complete : Complete final
  authorization : ∃ trace reached,
    (runtime.authorize given policy context).exec trace = (.ok authorized, reached)

theorem CompleteRun.onePerAction {final : OperationRun} (hplan : given.plan.Accepted runtime.python)
    (hexecutors : runtime.executors.Conventional)
    (h : CompleteRun runtime given policy context rollbackOnFailure final authorized) :
    Concluded runtime given context rollbackOnFailure final ∧
      OnePerAction given.plan authorized final.actionReceipts := by
  obtain ⟨conditions, trace, reached, hexec⟩ := h.byRun
  obtain ⟨start, finish, hauthorized⟩ := h.authorization
  obtain ⟨event, hextends⟩ := authorize_extends.apply hauthorized
  have hconcluded := (run_concluded hplan hexecutors h.fresh).apply hexec h.complete
  refine ⟨hconcluded, (RecoveryPlan.accepted_iff.mp hplan).1, ?_, hextends.actions,
    hconcluded.distinct, ?_, fun receipt hmem => (hconcluded.stamped receipt hmem).2⟩
  · rw [hextends.receipted, h.fresh.unreceipted]
    rfl
  · exact receiptIds_nodup hconcluded.distinct fun receipt hmem => (hconcluded.stamped receipt hmem).1

/-- The two agree, but for a run that went on after a required action had failed
and failed at nothing later. -/
theorem run_agrees_iff {final : OperationRun} (hplan : given.plan.Accepted runtime.python)
    (hexecutors : runtime.executors.Conventional)
    (h : CompleteRun runtime given policy context rollbackOnFailure final authorized)
    (trace : Trace Effect) : ∃ reconciled ended,
      (runtime.reconcileExternalReceipts authorized final.actionReceipts none).exec trace =
        (.ok reconciled, ended) ∧
      (Agrees reconciled final ↔
        ¬ Tolerated runtime given.plan rollbackOnFailure final.actionReceipts) := by
  obtain ⟨hconcluded, hone⟩ := h.onePerAction hplan hexecutors
  obtain ⟨reconciled, ended, hreconciled⟩ :=
    reconcile_total runtime authorized final.actionReceipts none trace
  have hstatus : reconciled.status = OperationRuntime.reconciledStatus
      (projectedActions authorized final.actionReceipts) := by
    obtain ⟨start, finish, hauthorized⟩ := h.authorization
    refine (reconcile_status ?_).apply hreconciled
    rw [(authorize_unchanged.apply hauthorized).1]
    exact h.fresh.unprojected
  refine ⟨reconciled, ended, hreconciled, ?_⟩
  unfold Agrees
  rw [hstatus, reconciledStatus_eq_failed, reconciledStatus_eq_verifying, hone.failedRequired_iff,
    hone.all_terminal_iff]
  rcases h.complete with hsealed | hfailed
  · obtain ⟨hall, htolerated⟩ := hconcluded.sealed hsealed
    have hother : some "operation.sealed" ≠ some "operation.failed" := by decide
    have hrequired : RequiredFailure given.plan final.actionReceipts ↔
        Tolerated runtime given.plan rollbackOnFailure final.actionReceipts := ⟨htolerated, And.left⟩
    simp only [hsealed, hrequired, iff_true]
    tauto
  · obtain ⟨hrequired, htolerated⟩ := hconcluded.failed hfailed
    simp [hfailed, hrequired, htolerated]

end Reconciliation

section Examples

open DockerHost

def runAndReconcile (runtime : OperationRuntime) (given : OperationRun) (context : RuntimeContext)
    (rollbackOnFailure : Bool) : Runtime (OperationRun × OperationRun × OperationRun) := do
  let final ← runtime.run given policy context none rollbackOnFailure
  let authorized ← runtime.authorize given policy context
  let reconciled ← runtime.reconcileExternalReceipts authorized final.actionReceipts none
  return (final, authorized, reconciled)

theorem exists_of_runAndReconcile {runtime : OperationRuntime} {given : OperationRun}
    {context : RuntimeContext} {rollbackOnFailure : Bool}
    {check : OperationRun × OperationRun × OperationRun → Bool} (hfresh : Unexecuted given)
    (h : (runAndReconcile runtime given context rollbackOnFailure).returns (Trace.start Effect)
      check = true)
    (hcomplete : ∀ outcome, check outcome = true → Complete outcome.1) :
    ∃ final authorized reconciled trace ended,
      CompleteRun runtime given policy context rollbackOnFailure final authorized ∧
        (runtime.reconcileExternalReceipts authorized final.actionReceipts none).exec trace =
          (.ok reconciled, ended) ∧ check (final, authorized, reconciled) = true := by
  obtain ⟨outcome, reached, hexec, hcheck⟩ := Program.exists_of_returns h
  obtain ⟨final, afterRun, hrun, hrest⟩ := Program.exec_bind_ok hexec
  obtain ⟨authorized, afterAuthorization, hauthorized, hlast⟩ := Program.exec_bind_ok hrest
  obtain ⟨reconciled, ended, hreconciled, hpure⟩ := Program.exec_bind_ok hlast
  obtain ⟨rfl, -⟩ : outcome = (final, authorized, reconciled) ∧ reached = ended := by
    rw [Program.exec_pure, Prod.mk.injEq, Except.ok.injEq] at hpure
    exact ⟨hpure.1.symm, hpure.2.symm⟩
  exact ⟨final, authorized, reconciled, _, _, ⟨hfresh, ⟨_, _, _, hrun⟩, hcomplete _ hcheck,
    ⟨_, _, hauthorized⟩⟩, hreconciled, hcheck⟩

theorem createdRun_unexecuted (actions : List ActionInstance) : Unexecuted (createdRun actions) := ⟨rfl, rfl⟩

theorem run_agrees_iff_started : ∃ final authorized reconciled ended,
    CompleteRun runtime (createdRun [startContainer "db"]) policy context true final authorized ∧
      (runtime.reconcileExternalReceipts authorized final.actionReceipts none).exec
        (Trace.start Effect) = (.ok reconciled, ended) ∧
      (Agrees reconciled final ↔ ¬ Tolerated runtime (createdRun [startContainer "db"]).plan true
        final.actionReceipts) := by
  have hreturns : (runAndReconcile runtime (createdRun [startContainer "db"]) context true).returns
      (Trace.start Effect) (fun outcome => lastEvent outcome.1 = some "operation.sealed") = true := by
    decide +kernel
  obtain ⟨final, authorized, -, -, -, hrun, -⟩ := exists_of_runAndReconcile
    (createdRun_unexecuted _) hreturns fun outcome h => Or.inl (of_decide_eq_true h)
  obtain ⟨reconciled, ended, hagrees⟩ := run_agrees_iff (by decide) dockerHost_conventional
    hrun (Trace.start Effect)
  exact ⟨final, authorized, reconciled, ended, hrun, hagrees⟩

def toleratedWait : ActionInstance :=
  { waitFor "db" false with metadata := Dict.ofList [("on_failure", .str "continue")] }

/-- The run seals the operation, the reconciliation of its receipts fails it. -/
theorem toleratedWait_not_agrees : ∃ final authorized reconciled trace ended,
    CompleteRun waitingRuntime (createdRun [toleratedWait]) policy liveContext false final
        authorized ∧
      (waitingRuntime.reconcileExternalReceipts authorized final.actionReceipts none).exec trace =
        (.ok reconciled, ended) ∧ ¬ Agrees reconciled final := by
  have hreturns : (runAndReconcile waitingRuntime (createdRun [toleratedWait]) liveContext
      false).returns (Trace.start Effect) (fun outcome =>
        lastEvent outcome.1 = some "operation.sealed" ∧ outcome.2.2.status = .failed) = true := by
    decide +kernel
  obtain ⟨final, authorized, reconciled, trace, ended, hrun, hreconciled, hcheck⟩ :=
    exists_of_runAndReconcile (createdRun_unexecuted _) hreturns fun outcome h =>
      Or.inl (of_decide_eq_true h).1
  obtain ⟨hsealed, hfailed⟩ := of_decide_eq_true hcheck
  refine ⟨final, authorized, reconciled, trace, ended, hrun, hreconciled, fun h => ?_⟩
  have hlast := h.2.mp hfailed
  rw [hsealed] at hlast
  exact absurd hlast (by decide)

end Examples

end KubeOps.Execution
