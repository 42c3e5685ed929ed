import KubeOps.Execution.Delivery
import KubeOps.Execution.DockerHost
import KubeOps.Execution.Invariant

/-! What no call can break, whichever of the runs written so far it is given: the
mode stays, events are only appended, each with the next number, and the executor
that is invoked is the one the mode asks for. -/
namespace KubeOps.Execution

open KubeOps.Foundation KubeOps.Models KubeOps.Policy KubeOps.Actions
open OperationRuntime (Creation LoopState LoopExit)

/-- `later` has the mode of `earlier` and more events, numbered from the first new place on,
and records a projection of receipts it has if `earlier` does. -/
structure Continues (runtime : OperationRuntime) (earlier later : OperationRun) : Prop where
  mode : later.mode = earlier.mode
  recorded : ∃ events, later.events = earlier.events ++ events ∧
    events.map OperationEvent.sequence = List.range' earlier.events.length events.length
  recordsOwn : SeparatesReceipts runtime → RecordsOwn runtime earlier → RecordsOwn runtime later

/-- The events are numbered by their places. -/
def Sequenced (operation : OperationRun) : Prop :=
  ∀ i (h : i < operation.events.length), operation.events[i].sequence = i

theorem sequenced_iff {operation : OperationRun} : Sequenced operation ↔
    operation.events.map OperationEvent.sequence = List.range' 0 operation.events.length := by
  rw [Sequenced, List.ext_getElem_iff]
  simp

namespace Continues

variable {runtime : OperationRuntime} {earlier operation later : OperationRun} {event : OperationEvent}

theorem refl (operation : OperationRun) : Continues runtime operation operation :=
  ⟨rfl, ⟨[], (List.append_nil _).symm, rfl⟩, fun _ h => h⟩

theorem trans (h : Continues runtime earlier operation) (hnext : Continues runtime operation later) :
    Continues runtime earlier later := by
  obtain ⟨events, hevents, hnumbers⟩ := h.recorded
  obtain ⟨others, hothers, hlater⟩ := hnext.recorded
  refine ⟨hnext.mode.trans h.mode, ⟨events ++ others, ?_, ?_⟩, fun hseparates hown =>
    hnext.recordsOwn hseparates (h.recordsOwn hseparates hown)⟩
  · rw [hothers, hevents, List.append_assoc]
  · rw [hevents, List.length_append] at hlater
    rw [List.map_append, hnumbers, hlater, List.length_append, List.range'_append_1]

theorem of_append (hsequence : event.sequence = earlier.events.length)
    (hmode : later.mode = earlier.mode) (hevents : later.events = earlier.events ++ [event])
    (hmetadata : later.metadata = earlier.metadata)
    (hreceipts : earlier.actionReceipts ⊆ later.actionReceipts) : Continues runtime earlier later := by
  refine ⟨hmode, ⟨[event], hevents, by simp [hsequence]⟩, fun _ hown merged current status h => ?_⟩
  rw [hmetadata] at h
  exact fun receipt hmem => List.map_subset _ hreceipts (hown merged current status h receipt hmem)

theorem prefix_events (h : Continues runtime earlier later) : earlier.events <+: later.events := by
  obtain ⟨events, hevents, -⟩ := h.recorded
  exact ⟨events, hevents.symm⟩

theorem sequenced (h : Continues runtime earlier later) (hearlier : Sequenced earlier) : Sequenced later := by
  obtain ⟨events, hevents, hnumbers⟩ := h.recorded
  rw [sequenced_iff] at hearlier ⊢
  rw [hevents, List.map_append, hearlier, hnumbers, List.length_append]
  exact (congrArg _ (by rw [Nat.zero_add])).trans List.range'_append_1

end Continues

/-- `executorId` names the executor this mode asks for, where it asks for one. -/
def Chosen (runtime : OperationRuntime) (operation : OperationRun) (executorId : String) : Prop :=
  operation.mode = .dryRun → ∃ executor,
    runtime.executors.get runtime.python "dry_run" = .ok executor ∧ executor.executorId = executorId

/-- What a call on `given` writes and invokes. -/
def Effect.Continues (runtime : OperationRuntime) (given : OperationRun) : Effect → Prop
  | .saved later => Execution.Continues runtime given later
  | .invoked _ executorId _ _ _ => Chosen runtime given executorId
  | _ => True

def Chronicle (runtime : OperationRuntime) (given : OperationRun) (segment : Log) : Prop :=
  ∀ effect ∈ segment, effect.Continues runtime given

/-- A call on `given` has reached `operation`. -/
def Reaches (runtime : OperationRuntime) (given operation : OperationRun) (segment : Log) : Prop :=
  Continues runtime given operation ∧ Chronicle runtime given segment

theorem Chronicle.concat {runtime : OperationRuntime} {given : OperationRun} {segment : Log}
    {effect : Effect} (h : Chronicle runtime given segment) (heffect : effect.Continues runtime given) :
    Chronicle runtime given (segment ++ [effect]) :=
  List.forall_mem_append.mpr ⟨h, List.forall_mem_singleton.mpr heffect⟩

section Rules

variable {runtime : OperationRuntime} {base : Log} {given operation : OperationRun}
  {context : RuntimeContext} {policy : ExecutionPolicy} {action : ActionInstance}
  {receipt : ActionReceipt} {state : LoopState} {α : Type} {pre : Log → Prop}
  {post : α → Log → Prop} {failed : PyError → Log → Prop}

theorem bind_event_next {eventType title : String} {actionId : Option String} {details : JsonObject}
    {operationId : String} {sequence : Nat} {next : OperationEvent → Runtime α}
    (h : ∀ event, event.sequence = sequence → Triple pre (next event) post failed) :
    Triple pre (runtime.event operationId sequence eventType title actionId details >>= next) post
      failed := by
  refine Triple.bind (m := fun event log => event.sequence = sequence ∧ pre log) ?_ ?_
  · unfold OperationRuntime.event OperationRuntime.utcNowIso
    exact Triple.bind_tick fun occurredAtIso => Triple.pure fun log hpre => ⟨rfl, hpre⟩
  · intro event trace hmid
    exact h event hmid.1 trace hmid.2

theorem bind_noted_next {eventType title : String} {actionId : Option String} {details : JsonObject}
    {next : OperationRun → Runtime α}
    (h : ∀ updatedAtIso event, event.sequence = operation.events.length → Triple pre
      (next { operation with updatedAtIso, events := operation.events ++ [event] }) post failed) :
    Triple pre (runtime.noted operation eventType title actionId details >>= next) post failed := by
  refine Triple.bind (m := fun later log => (∃ updatedAtIso event,
    event.sequence = operation.events.length ∧
      later = { operation with updatedAtIso, events := operation.events ++ [event] }) ∧ pre log) ?_ ?_
  · unfold OperationRuntime.noted OperationRuntime.utcNowIso
    refine Triple.bind_tick fun updatedAtIso => bind_event_next fun event hsequence => ?_
    exact Triple.pure fun log hpre => ⟨⟨updatedAtIso, event, hsequence, rfl⟩, hpre⟩
  · rintro later trace ⟨⟨updatedAtIso, event, hsequence, rfl⟩, hpre⟩
    exact h updatedAtIso event hsequence trace hpre

theorem Reaches.raised (_ : PyError) (log : Log) (h : After base (Reaches runtime given operation) log) :
    After base (Chronicle runtime given) log :=
  h.mono fun _ hsegment => hsegment.2

theorem Reaches.next {later : OperationRun} {log : Log}
    (h : After base (Reaches runtime given operation) log) (hnext : Continues runtime operation later) :
    After base (Reaches runtime given later) log :=
  h.mono fun _ hsegment => ⟨hsegment.1.trans hnext, hsegment.2⟩

theorem raise_reaches {error : PyError} :
    Triple (After base (Reaches runtime given operation)) (Program.raise error) post
      (fun _ => After base (Chronicle runtime given)) :=
  Triple.raise (Reaches.raised error)

theorem bind_record_reaches {effect : Effect} {next : Unit → Runtime α}
    (heffect : effect.Continues runtime given)
    (h : Triple (After base (Reaches runtime given operation)) (next ()) post failed) :
    Triple (After base (Reaches runtime given operation)) (Program.record effect >>= next) post failed :=
  Triple.bind_record (fun _ hlog => hlog.concat fun _ hsegment =>
    ⟨hsegment.1, hsegment.2.concat heffect⟩) h

theorem bind_save_reaches {later : OperationRun} {next : Unit → Runtime α}
    (hnext : Continues runtime operation later)
    (h : Triple (After base (Reaches runtime given later)) (next ()) post failed) :
    Triple (After base (Reaches runtime given operation)) (FileOperationStore.save later >>= next) post
      failed :=
  Triple.bind_record (fun _ hlog => hlog.concat fun _ hsegment =>
    have hlater := hsegment.1.trans hnext
    ⟨hlater, hsegment.2.concat hlater⟩) h

theorem decide_reaches {policyContext : PolicyContext} :
    Triple (After base (Reaches runtime given operation))
      (runtime.decide operation policy policyContext action)
      (fun _ => After base (Reaches runtime given operation))
      (fun _ => After base (Chronicle runtime given)) := by
  unfold OperationRuntime.decide OperationRuntime.validateInstance OperationRuntime.utcNowIso
  refine Triple.bind_attempt (fun definition _ => ?_) fun error _ => Reaches.raised error
  refine Triple.bind_tick fun now => Triple.bind_tick fun evaluatedAtIso => ?_
  refine Triple.bind_attempt (fun decision _ => ?_) fun error _ => Reaches.raised error
  exact bind_record_reaches trivial (Triple.pure fun _ h => h)

theorem authorize_reaches :
    Triple (After base (Reaches runtime given operation)) (runtime.authorize operation policy context)
      (fun later => After base (Reaches runtime given later))
      (fun _ => After base (Chronicle runtime given)) := by
  unfold OperationRuntime.authorize
  refine Triple.bind (m := fun _ => After base (Reaches runtime given operation)) ?_ fun decisions => ?_
  · exact Triple.mapM (i := fun _ _ => After base (Reaches runtime given operation))
      fun done action results _ => decide_reaches
  · refine Triple.bind_attempt (fun marked _ => ?_) fun error _ => Reaches.raised error
    refine bind_noted_next fun updatedAtIso event hsequence => ?_
    exact bind_save_reaches (.of_append hsequence rfl rfl rfl (List.Subset.refl _)) (Triple.pure fun _ h => h)

theorem startAction_reaches {actionId : String} :
    Triple (After base (Reaches runtime given operation)) (runtime.startAction operation actionId)
      (fun later => After base (Reaches runtime given later))
      (fun _ => After base (Chronicle runtime given)) := by
  unfold OperationRuntime.startAction OperationRuntime.utcNowIso
  refine bind_event_next fun event hsequence => Triple.bind_tick fun updatedAtIso => ?_
  exact bind_save_reaches (.of_append hsequence rfl rfl rfl (List.Subset.refl _)) (Triple.pure fun _ h => h)

theorem checkpointIfRequired_reaches {decision : PolicyDecision} :
    Triple (After base (Reaches runtime given operation))
      (runtime.checkpointIfRequired context operation decision)
      (fun later => After base (Reaches runtime given later))
      (fun _ => After base (Chronicle runtime given)) := by
  unfold OperationRuntime.checkpointIfRequired
  refine Triple.ite (fun _ => ?_) fun _ => Triple.pure fun _ h => h
  refine Triple.bind_consult (fun world => ?_) Reaches.raised
  unfold OperationRuntime.checkpoint OperationRuntime.utcNowIso
  refine Triple.bind_tick fun createdAtIso => bind_event_next fun event hsequence => ?_
  refine Triple.bind_tick fun updatedAtIso => ?_
  exact bind_save_reaches (.of_append hsequence rfl rfl rfl (List.Subset.refl _)) (Triple.pure fun _ h => h)

theorem attempts_reaches {executor : ActionExecutor} {definition : ActionTypeDefinition}
    {executionContext : ExecutionContext} (hchosen : Chosen runtime given executor.executorId)
    (remaining attempt : Nat) (last : Option ActionReceipt) :
    Triple (After base (Reaches runtime given operation))
      (OperationRuntime.attempts operation executor action definition executionContext remaining attempt
        last)
      (fun _ => After base (Reaches runtime given operation))
      (fun _ => After base (Chronicle runtime given)) := by
  induction remaining generalizing attempt last with
  | zero =>
    cases last with
    | none => exact raise_reaches
    | some receipt => exact Triple.pure fun _ h => h
  | succ remaining ih =>
    unfold OperationRuntime.attempts
    refine bind_record_reaches hchosen ?_
    refine Triple.bind_consult (fun outcome => ?_) Reaches.raised
    exact Triple.ite (fun _ => Triple.pure fun _ h => h) fun _ => ih _ _

theorem executeAction_reaches :
    Triple (After base (Reaches runtime given operation))
      (runtime.executeAction operation action context)
      (fun _ => After base (Reaches runtime given operation))
      (fun _ => After base (Chronicle runtime given)) := by
  refine Triple.assuming (fun _ ⟨_, _, hreaches⟩ => hreaches.1.mode) fun hmode => ?_
  unfold OperationRuntime.executeAction OperationRuntime.validateInstance
  refine Triple.bind_attempt (fun definition _ => ?_) fun error _ => Reaches.raised error
  refine Triple.ite (fun _ => raise_reaches) fun _ => ?_
  refine Triple.bind_attempt (fun executor hget => attempts_reaches ?_ _ _ _) fun error _ =>
    Reaches.raised error
  -- The mode decides before the context and the definition do.
  intro hdryRun
  rw [OperationRuntime.executorFor, if_pos (hmode.trans hdryRun)] at hget
  exact ⟨executor, hget, rfl⟩

theorem perform_reaches {successfulKeys : List String} :
    Triple (After base (Reaches runtime given operation))
      (runtime.perform context operation successfulKeys action)
      (fun _ => After base (Reaches runtime given operation))
      (fun _ => After base (Chronicle runtime given)) := by
  unfold OperationRuntime.perform
  refine Triple.ite (fun _ => ?_) fun _ => executeAction_reaches
  unfold OperationRuntime.alreadySatisfied OperationRuntime.utcNowIso
  exact Triple.bind_tick fun now => Triple.pure fun _ h => h

theorem appendReceipt_reaches :
    Triple (After base (Reaches runtime given operation)) (runtime.appendReceipt operation receipt)
      (fun later => After base (Reaches runtime given later))
      (fun _ => After base (Chronicle runtime given)) := by
  unfold OperationRuntime.appendReceipt
  refine bind_noted_next fun updatedAtIso event hsequence => ?_
  exact bind_save_reaches (.of_append hsequence rfl rfl rfl (List.subset_append_left _ _))
    (Triple.pure fun _ h => h)

theorem fail_reaches {reason : String} :
    Triple (After base (Reaches runtime given operation)) (runtime.fail operation reason)
      (fun later => After base (Reaches runtime given later))
      (fun _ => After base (Chronicle runtime given)) := by
  unfold OperationRuntime.fail
  refine bind_noted_next fun updatedAtIso event hsequence => Triple.pure fun log h => ?_
  exact Reaches.next h (.of_append hsequence rfl rfl rfl (List.Subset.refl _))

theorem settle_reaches (hstate : state.operation = operation) :
    Triple (After base (Reaches runtime given operation)) (runtime.settle state action receipt)
      (fun exit => After base (Reaches runtime given (RunInvariant.reached exit)))
      (fun _ => After base (Chronicle runtime given)) := by
  subst hstate
  unfold OperationRuntime.settle
  refine Triple.ite (fun _ => Triple.pure fun _ h => h) fun _ => ?_
  refine Triple.ite (fun _ => Triple.pure fun _ h => h) fun _ => ?_
  refine Triple.ite (fun _ => ?_) fun _ => Triple.ite (fun _ => ?_) fun _ => ?_
  · refine bind_noted_next fun updatedAtIso event hsequence => ?_
    exact bind_save_reaches (.of_append hsequence rfl rfl rfl (List.Subset.refl _)) (Triple.pure fun _ h => h)
  · refine bind_noted_next fun updatedAtIso event hsequence => ?_
    exact bind_save_reaches (.of_append hsequence rfl rfl rfl (List.Subset.refl _)) (Triple.pure fun _ h => h)
  · exact Triple.bind fail_reaches fun failed => Triple.pure fun _ h => h

theorem iterate_reaches (hstate : state.operation = operation) :
    Triple (After base (Reaches runtime given operation)) (runtime.iterate context state)
      (fun exit => After base (Reaches runtime given (RunInvariant.reached exit)))
      (fun _ => After base (Chronicle runtime given)) := by
  subst hstate
  unfold OperationRuntime.iterate
  split
  · refine bind_record_reaches trivial ?_
    exact Triple.bind fail_reaches fun failed => Triple.pure fun _ h => h
  · split
    · exact raise_reaches
    · refine bind_record_reaches trivial ?_
      refine Triple.bind startAction_reaches fun running => ?_
      refine Triple.bind checkpointIfRequired_reaches fun checked => ?_
      refine Triple.bind perform_reaches fun receipt => ?_
      exact Triple.bind appendReceipt_reaches fun received => settle_reaches rfl

theorem runLoop_reaches (rounds : Nat) (hstate : state.operation = operation) :
    Triple (After base (Reaches runtime given operation)) (runtime.runLoop context rounds state)
      (fun exit => After base (Reaches runtime given (RunInvariant.reached exit)))
      (fun _ => After base (Chronicle runtime given)) := by
  induction rounds generalizing state operation with
  | zero => exact bind_record_reaches trivial raise_reaches
  | succ rounds ih =>
    unfold OperationRuntime.runLoop
    refine Triple.ite (fun _ => Triple.pure fun _ h => ?_) fun _ => ?_
    · rw [← hstate] at h
      exact h
    refine Triple.bind (iterate_reaches hstate) fun exit => ?_
    cases exit with
    | left next => exact ih rfl
    | paused operation => exact Triple.pure fun _ h => h

theorem rollbackOne_reaches :
    Triple (After base (Reaches runtime given operation))
      (runtime.rollbackOne context operation receipt)
      (fun later => After base (Reaches runtime given later))
      (fun _ => After base (Chronicle runtime given)) := by
  unfold OperationRuntime.rollbackOne
  split
  · exact raise_reaches
  · refine Triple.bind_attempt (fun definition _ => ?_) fun error _ => Reaches.raised error
    split
    · exact Triple.pure fun _ h => h
    · refine Triple.bind_attempt (fun rollbackDefinition _ => ?_) fun error _ => Reaches.raised error
      exact Triple.bind executeAction_reaches fun rollbackReceipt => appendReceipt_reaches

theorem rollback_reaches :
    Triple (After base (Reaches runtime given operation)) (runtime.rollback operation context)
      (fun later => After base (Reaches runtime given later))
      (fun _ => After base (Chronicle runtime given)) := by
  unfold OperationRuntime.rollback OperationRuntime.utcNowIso
  refine bind_record_reaches trivial ?_
  refine bind_noted_next fun updatedAtIso event hsequence => ?_
  refine Triple.bind (m := fun later => After base (Reaches runtime given later)) ?_ fun rolled => ?_
  · refine Triple.weaken (Triple.foldlM (i := fun _ later => After base (Reaches runtime given later))
      (f := fun _ => After base (Chronicle runtime given))
      fun done receipt later _ => rollbackOne_reaches)
      (fun _ h => Reaches.next h ?_) (fun _ _ h => h) fun _ _ h => h
    exact .of_append hsequence rfl rfl rfl (List.Subset.refl _)
  · refine Triple.bind_tick fun completedAtIso => ?_
    refine bind_noted_next fun finishedAtIso finish hfinish => ?_
    exact bind_save_reaches (.of_append hfinish rfl rfl rfl (List.Subset.refl _)) (Triple.pure fun _ h => h)

theorem sealRun_reaches {conditions : Option (List VerificationCondition)} :
    Triple (After base (Reaches runtime given operation))
      (runtime.sealRun operation context conditions)
      (fun later => After base (Reaches runtime given later))
      (fun _ => After base (Chronicle runtime given)) := by
  unfold OperationRuntime.sealRun OperationRuntime.utcNowIso
  refine bind_noted_next fun updatedAtIso event hsequence => ?_
  refine Triple.bind (m := fun _ => After base (Reaches runtime given operation))
    (evaluateConditions_rule Reaches.raised) fun results => Triple.bind_tick fun completedAtIso => ?_
  refine bind_noted_next fun sealedAtIso finish hfinish => ?_
  refine bind_save_reaches (Continues.trans ?_ (.of_append hfinish rfl rfl rfl (List.Subset.refl _)))
    (Triple.pure fun _ h => h)
  exact .of_append hsequence rfl rfl rfl (List.Subset.refl _)

theorem run_reaches {conditions : Option (List VerificationCondition)} {rollbackOnFailure : Bool} :
    Triple (After base (Reaches runtime given operation))
      (runtime.run operation policy context conditions rollbackOnFailure)
      (fun later => After base (Reaches runtime given later))
      (fun _ => After base (Chronicle runtime given)) := by
  unfold OperationRuntime.run OperationRuntime.utcNowIso
  refine Triple.bind authorize_reaches fun authorized => ?_
  refine Triple.ite (fun _ => Triple.pure fun _ h => h) fun _ => ?_
  refine Triple.bind_tick fun now => bind_event_next fun event hsequence => ?_
  refine bind_save_reaches (.of_append hsequence rfl rfl rfl (List.Subset.refl _)) ?_
  refine Triple.bind (runLoop_reaches _ rfl) fun exit => ?_
  cases exit with
  | paused operation => exact Triple.pure fun _ h => h
  | left state =>
    refine Triple.ite (fun _ => ?_) fun _ => sealRun_reaches
    refine Triple.bind (m := fun later => After base (Reaches runtime given later)) ?_ fun rolled => ?_
    · unfold OperationRuntime.rollbackIfAsked
      exact Triple.ite (fun _ => rollback_reaches) fun _ => Triple.pure fun _ h => h
    · exact bind_save_reaches (Continues.refl _) (Triple.pure fun _ h => h)

end Rules

/-- The run a call goes on from: a resumed one is read from the journal. -/
def Call.subject (log : Log) (given : OperationRun) : Call → Option OperationRun
  | .resume .. => FileOperationStore.content log (FileOperationStore.pathFor given.operationId)
  | _ => some given

/-- Calls on runs written before, in any order: what they leave. -/
inductive Journal (runtime : OperationRuntime) (creation : Creation) : Trace Effect → Prop
  | created : Journal runtime creation (runtime.created creation)
  | called {trace : Trace Effect} {given : OperationRun} (call : Call)
      (h : Journal runtime creation trace) (hgiven : .saved given ∈ trace.log) :
      Journal runtime creation ((call.perform runtime given).exec trace).2

/-- A call on `given` returns this run, or has written it. -/
def Call.Yields (runtime : OperationRuntime) (trace : Trace Effect) (given : OperationRun) (call : Call)
    (later : OperationRun) : Prop :=
  ((call.perform runtime given).exec trace).1 = .ok later ∨
    ∃ segment, ((call.perform runtime given).exec trace).2.log = trace.log ++ segment ∧
      .saved later ∈ segment

section Calls

variable {runtime : OperationRuntime} {base : Log} {given subject : OperationRun}
  {creation : Creation} {trace : Trace Effect}

theorem reconcile_reaches {receipts : List ActionReceipt} {currentActionIds : Option (List String)} :
    Triple (After base (Reaches runtime given subject))
      (runtime.reconcileExternalReceipts subject receipts currentActionIds)
      (fun later => After base (Reaches runtime given later))
      (fun _ => After base (Chronicle runtime given)) := by
  have hproject : ∀ merged current actions status,
      Triple (After base (Reaches runtime given subject))
        (OperationRuntime.reconcileExternalReceipts.project runtime subject merged current actions status
          (runtime.projectionHash merged current status))
        (fun later => After base (Reaches runtime given later))
        (fun _ => After base (Chronicle runtime given)) := by
    intro merged current actions status
    unfold OperationRuntime.reconcileExternalReceipts.project OperationRuntime.utcNowIso
    refine Triple.bind_tick fun now => bind_event_next fun event hsequence => ?_
    refine bind_save_reaches ⟨rfl, ⟨[event], rfl, by simp [hsequence]⟩, ?_⟩ (Triple.pure fun _ h => h)
    -- The hash that is recorded lists the receipts the run is given.
    intro hseparates _ listed others found hrecorded receipt hmem
    rw [Dict.get?_set_self] at hrecorded
    have hids := hseparates _ _ _ _ _ _ (Json.str.inj (Option.some.inj hrecorded))
    rw [hids]
    exact List.mem_map_of_mem hmem
  unfold OperationRuntime.reconcileExternalReceipts
  dsimp only
  split
  · exact Triple.ite (fun _ => Triple.pure fun _ h => h) fun _ => hproject _ _ _ _
  · exact hproject _ _ _ _

theorem resume_reaches {policy : ExecutionPolicy} {context : RuntimeContext}
    {conditions : Option (List VerificationCondition)}
    (hcontent : FileOperationStore.content base (FileOperationStore.pathFor given.operationId) =
      some subject) :
    Triple (fun log => log = base) (runtime.resume given.operationId policy context conditions)
      (fun later => After base (Reaches runtime subject later))
      (fun _ => After base (Chronicle runtime subject)) := by
  have hidle : After base (Chronicle runtime subject) base := After.start (List.forall_mem_nil _)
  have hstart : ∀ log, subject = subject ∧ log = base → After base (Reaches runtime subject subject) log :=
    fun log h => h.2 ▸ After.start ⟨Continues.refl subject, List.forall_mem_nil _⟩
  unfold OperationRuntime.resume
  refine Triple.bind (load_content_rule hcontent (fun _ => hidle)) fun loaded => ?_
  refine Triple.assuming (fun _ h => h.1) fun hloaded => ?_
  subst hloaded
  refine Triple.weaken (Triple.ite (fun _ => raise_reaches) fun _ => ?_) hstart (fun _ _ h => h)
    fun _ _ h => h
  refine bind_noted_next fun updatedAtIso event hsequence => ?_
  exact bind_save_reaches (.of_append hsequence rfl rfl rfl (List.Subset.refl _)) run_reaches

theorem call_reaches (runtime : OperationRuntime) (call : Call)
    (hsubject : call.subject base given = some subject) :
    Triple (fun log => log = base) (call.perform runtime given)
      (fun later => After base (Reaches runtime subject later))
      (fun _ => After base (Chronicle runtime subject)) := by
  have hstart : ∀ log, log = base → After base (Reaches runtime given given) log :=
    fun log hlog => hlog ▸ After.start ⟨Continues.refl _, List.forall_mem_nil _⟩
  cases call with
  | resume policy context conditions => exact resume_reaches hsubject
  | authorize policy context =>
    obtain rfl := Option.some.inj hsubject
    exact Triple.weaken authorize_reaches hstart (fun _ _ h => h) fun _ _ h => h
  | run policy context conditions rollbackOnFailure =>
    obtain rfl := Option.some.inj hsubject
    exact Triple.weaken run_reaches hstart (fun _ _ h => h) fun _ _ h => h
  | rollback context =>
    obtain rfl := Option.some.inj hsubject
    exact Triple.weaken rollback_reaches hstart (fun _ _ h => h) fun _ _ h => h
  | reconcileExternalReceipts receipts currentActionIds =>
    obtain rfl := Option.some.inj hsubject
    exact Triple.weaken reconcile_reaches hstart (fun _ _ h => h) fun _ _ h => h
  | addApproval approval =>
    obtain rfl := Option.some.inj hsubject
    refine Triple.weaken ?_ hstart (fun _ _ h => h) fun _ _ h => h
    simp only [Call.perform, OperationRuntime.addApproval]
    refine Triple.ite (fun _ => raise_reaches) fun _ => ?_
    refine bind_noted_next fun updatedAtIso event hsequence => ?_
    exact bind_save_reaches (.of_append hsequence rfl rfl rfl (List.Subset.refl _)) (Triple.pure fun _ h => h)
  | cancel reason =>
    obtain rfl := Option.some.inj hsubject
    refine Triple.weaken ?_ hstart (fun _ _ h => h) fun _ _ h => h
    simp only [Call.perform, OperationRuntime.cancel, OperationRuntime.utcNowIso]
    refine Triple.ite (fun _ => raise_reaches) fun _ => Triple.bind_tick fun completedAtIso => ?_
    refine bind_noted_next fun updatedAtIso event hsequence => ?_
    exact bind_save_reaches (.of_append hsequence rfl rfl rfl (List.Subset.refl _)) (Triple.pure fun _ h => h)
  | pause reason =>
    obtain rfl := Option.some.inj hsubject
    refine Triple.weaken ?_ hstart (fun _ _ h => h) fun _ _ h => h
    simp only [Call.perform, OperationRuntime.pause]
    refine Triple.ite (fun _ => raise_reaches) fun _ => ?_
    refine bind_noted_next fun updatedAtIso event hsequence => ?_
    exact bind_save_reaches (.of_append hsequence rfl rfl rfl (List.Subset.refl _)) (Triple.pure fun _ h => h)
  | verifyExternal context conditions =>
    obtain rfl := Option.some.inj hsubject
    refine Triple.weaken ?_ hstart (fun _ _ h => h) fun _ _ h => h
    simp only [Call.perform, OperationRuntime.verifyExternal, OperationRuntime.utcNowIso]
    refine Triple.ite (fun _ => raise_reaches) fun _ => ?_
    refine Triple.bind (evaluateConditions_rule Reaches.raised) fun results =>
      Triple.bind_tick fun now => ?_
    refine bind_event_next fun event hsequence => ?_
    exact bind_save_reaches (.of_append hsequence rfl rfl rfl (List.Subset.refl _)) (Triple.pure fun _ h => h)

theorem exec_reaches (runtime : OperationRuntime) {call : Call}
    (hsubject : call.subject trace.log given = some subject) :
    ∃ segment, ((call.perform runtime given).exec trace).2.log = trace.log ++ segment ∧
      Chronicle runtime subject segment ∧
      ∀ later, ((call.perform runtime given).exec trace).1 = .ok later → Continues runtime subject later := by
  have hout := call_reaches runtime call hsubject trace rfl
  rcases hexec : (call.perform runtime given).exec trace with ⟨result, reached⟩
  rw [hexec] at hout
  cases result with
  | ok value =>
    obtain ⟨segment, hlog, hcontinues, hchronicle⟩ := hout
    refine ⟨segment, hlog, hchronicle, fun later heq => ?_⟩
    obtain rfl := Except.ok.inj heq
    exact hcontinues
  | error error =>
    obtain ⟨segment, hlog, hchronicle⟩ := hout
    exact ⟨segment, hlog, hchronicle, fun later heq => by cases heq⟩

theorem continues_of_yields {call : Call} {later : OperationRun}
    (hsubject : call.subject trace.log given = some subject)
    (h : call.Yields runtime trace given later) : Continues runtime subject later := by
  obtain ⟨segment, hlog, hchronicle, hreturned⟩ := exec_reaches runtime hsubject
  rcases h with hvalue | ⟨written, hwritten, hmem⟩
  · exact hreturned later hvalue
  · obtain rfl := List.append_cancel_left (hlog.symm.trans hwritten)
    exact hchronicle _ hmem

theorem exists_subject (call : Call) (hgiven : .saved given ∈ trace.log) :
    ∃ subject, call.subject trace.log given = some subject ∧ .saved subject ∈ trace.log := by
  cases call with
  | resume policy context conditions =>
    have hfound : (FileOperationStore.content trace.log
        (FileOperationStore.pathFor given.operationId)).isSome = true := by
      rw [FileOperationStore.content, List.find?_isSome]
      exact ⟨given, List.mem_reverse.mpr (mem_savedRuns.mpr hgiven), decide_eq_true rfl⟩
    obtain ⟨subject, hsubject⟩ := Option.isSome_iff_exists.mp hfound
    refine ⟨subject, hsubject, mem_savedRuns.mp (List.mem_reverse.mp ?_)⟩
    exact List.mem_of_find?_eq_some hsubject
  | _ => exact ⟨given, rfl, hgiven⟩

def Effect.Journaled (runtime : OperationRuntime) (creation : Creation) : Effect → Prop
  | .saved operation => Sequenced operation ∧ operation.mode = creation.mode ∧
    (SeparatesReceipts runtime → RecordsOwn runtime operation)
  | .invoked _ executorId _ _ _ => creation.mode = .dryRun → ∃ executor,
    runtime.executors.get runtime.python "dry_run" = .ok executor ∧ executor.executorId = executorId
  | _ => True

theorem create_journaled (runtime : OperationRuntime) (creation : Creation) :
    Triple (fun log => log = [])
      (runtime.create creation.environmentId creation.plan creation.mode creation.approvals)
      (fun _ log => ∀ effect ∈ log, effect.Journaled runtime creation) (fun _ log => log = []) := by
  unfold OperationRuntime.create OperationRuntime.utcNowIso OperationRuntime.validateInstance
  refine Triple.bind (m := fun _ log => log = []) ?_ fun _ => ?_
  · exact Triple.weaken (Triple.mapM (i := fun _ _ log => log = []) fun done action results _ =>
      Triple.attempt (fun _ _ _ h => h) fun _ _ _ h => h) (fun _ h => h) (fun _ _ h => h)
      fun _ _ h => h
  · refine Triple.bind_tick fun now => bind_event_next fun event hsequence => ?_
    refine Triple.bind_attempt (fun _ _ => ?_) fun _ _ _ h => h
    refine OperationRuntime.saved_rule ?_
    rintro log rfl
    refine List.forall_mem_singleton.mpr ⟨fun i hi => ?_, rfl, fun _ merged current status h => ?_⟩
    · obtain rfl := Nat.lt_one_iff.mp hi
      exact hsequence
    · rw [Dict.get?_empty] at h
      cases h

theorem Journal.journaled (h : Journal runtime creation trace) :
    ∀ effect ∈ trace.log, effect.Journaled runtime creation := by
  induction h with
  | created =>
    have hout := create_journaled runtime creation (Trace.start Effect) rfl
    unfold OperationRuntime.created
    revert hout
    rcases (runtime.create creation.environmentId creation.plan creation.mode
      creation.approvals).exec (Trace.start Effect) with ⟨result, reached⟩
    cases result with
    | ok operation => exact id
    | error error =>
      intro hlog
      rw [show reached.log = [] from hlog]
      exact List.forall_mem_nil _
  | @called trace given call _ hgiven ih =>
    obtain ⟨subject, hsubject, hmem⟩ := exists_subject call hgiven
    obtain ⟨hsequenced, hmode, hrecords⟩ := ih _ hmem
    obtain ⟨segment, hlog, hchronicle, -⟩ := exec_reaches runtime hsubject
    rw [hlog]
    refine List.forall_mem_append.mpr ⟨ih, fun effect heffect => ?_⟩
    have hcontinues := hchronicle effect heffect
    cases effect with
    | saved later =>
      exact ⟨hcontinues.sequenced hsequenced, hcontinues.mode.trans hmode, fun hseparates =>
        hcontinues.recordsOwn hseparates (hrecords hseparates)⟩
    | invoked => exact fun hdryRun => hcontinues (hmode.trans hdryRun)
    | _ => trivial

theorem Journal.recordsOwn (h : Journal runtime creation trace) (hseparates : SeparatesReceipts runtime)
    {operation : OperationRun} (hmem : .saved operation ∈ trace.log) : RecordsOwn runtime operation :=
  (h.journaled _ hmem).2.2 hseparates

theorem session_journal (runtime : OperationRuntime) (creation : Creation) (calls : List Call) :
    Journal runtime creation (runtime.session creation calls) := by
  induction calls using List.reverseRecOn with
  | nil => exact .created
  | append_singleton calls call ih =>
    rw [session_concat, OperationRuntime.step]
    cases hlatest : latest (runtime.session creation calls).log with
    | none => exact ih
    | some given => exact ih.called call (mem_of_latest hlatest)

/-- Every run that calls lead to has its events numbered by their places, and no call
takes back an event. -/
theorem journal_sequenced (h : Journal runtime creation trace) :
    (∀ operation, .saved operation ∈ trace.log → Sequenced operation) ∧
    ∀ given, .saved given ∈ trace.log → ∀ call : Call,
      ∃ subject, call.subject trace.log given = some subject ∧
        ∀ later, call.Yields runtime trace given later →
          Sequenced later ∧ subject.events <+: later.events := by
  refine ⟨fun operation hmem => (h.journaled _ hmem).1, fun given hgiven call => ?_⟩
  obtain ⟨subject, hsubject, hmem⟩ := exists_subject call hgiven
  refine ⟨subject, hsubject, fun later hyields => ?_⟩
  have hcontinues := continues_of_yields hsubject hyields
  exact ⟨hcontinues.sequenced (h.journaled _ hmem).1, hcontinues.prefix_events⟩

/-- A dry run invokes the dry-run executor and no other. -/
theorem journal_dryRun (hregistered : runtime.executors.Registered) (hmode : creation.mode = .dryRun)
    (h : Journal runtime creation trace) {operation : OperationRun} {executorId : String}
    {action : ActionInstance} {context : ExecutionContext} {attempt : Nat}
    (hmem : .invoked operation executorId action context attempt ∈ trace.log) :
    executorId = "dry_run" := by
  obtain ⟨executor, hget, hid⟩ := h.journaled _ hmem hmode
  exact hid.symm.trans (hregistered.executorId_of_get hget)

end Calls

section Samples

open DockerHost

/-- Starting and stopping the container is written in eight runs with numbered events. -/
theorem DockerHost.rolledBack_sequenced : (savedRuns rolledBack.log).length = 8 ∧
    ∀ operation, .saved operation ∈ rolledBack.log → Sequenced operation :=
  ⟨by decide +kernel, (journal_sequenced (session_journal runtime _ _)).1⟩

theorem DockerHost.runtime_registered : runtime.executors.Registered := by
  intro executorId executor hfound
  have hall : runtime.executors.items.entries.all (fun entry => entry.2.executorId = entry.1) = true := by
    decide
  exact of_decide_eq_true (List.all_eq_true.mp hall _ (Dict.get?_eq_some.mp hfound))

def DockerHost.dryRun : Trace Effect :=
  runtime.session { creation [startContainer "db"] with mode := .dryRun }
    [.run policy { context with
      executionContext := { context.executionContext with mode := "live" } } none true]

def Effect.invokedId : Effect → Option String
  | .invoked _ executorId .. => some executorId
  | _ => none

theorem DockerHost.dryRun_invoked : ∃ operation executorId action context attempt,
    .invoked operation executorId action context attempt ∈ dryRun.log ∧ executorId = "dry_run" := by
  have hinvoked : dryRun.log.any (fun effect => effect.invokedId.isSome) = true := by
    decide +kernel
  obtain ⟨effect, hmem, heffect⟩ := List.any_eq_true.mp hinvoked
  cases effect with
  | invoked operation executorId action context attempt =>
    refine ⟨operation, executorId, action, context, attempt, hmem, ?_⟩
    exact journal_dryRun runtime_registered rfl (session_journal runtime _ _) hmem
  | _ => cases heffect

end Samples

end KubeOps.Execution
