import KubeOps.Execution.Permits

/-! Rollback invokes only compensations of the completed receipts it found, and
adds only receipts for them, none of which counts as a success. -/
namespace KubeOps.Execution

open KubeOps.Foundation KubeOps.Models KubeOps.Policy KubeOps.Actions

def RollbackPermits (runtime : OperationRuntime) (given : OperationRun) (context : RuntimeContext)
    (base before : Log) : Effect → Prop
  | .rollingBack operation usedContext =>
    usedContext = context.executionContext ∧ Progress runtime given context base before operation
  | .invoked operation _ action usedContext _ =>
    usedContext = context.executionContext ∧
      Progress runtime given context base before operation ∧ Compensating runtime context before action
  | .saved operation => Progress runtime given context base before operation
  | _ => False

theorem RollbackPermits.runPermits {runtime : OperationRuntime} {given : OperationRun}
    {policy : ExecutionPolicy} {context : RuntimeContext} {base before : Log} {effect : Effect}
    (h : RollbackPermits runtime given context base before effect) :
    RunPermits runtime given policy context base before effect := by
  cases effect with
  | rollingBack operation usedContext => exact h
  | invoked operation executorId action usedContext attempt =>
    exact ⟨h.1, h.2.1, Or.inr h.2.2⟩
  | saved operation => exact h
  | _ => exact h.elim

theorem rollbackAction_unmarked {left right : ActionInstance} (h : left.unmarked = right.unmarked)
    (definition : ActionTypeDefinition) :
    OperationRuntime.rollbackAction left definition =
      OperationRuntime.rollbackAction right definition :=
  calc OperationRuntime.rollbackAction left definition
      = OperationRuntime.rollbackAction left.unmarked definition := rfl
    _ = OperationRuntime.rollbackAction right.unmarked definition := by rw [h]
    _ = OperationRuntime.rollbackAction right definition := rfl

theorem actionTypeId_unmarked {left right : ActionInstance} (h : left.unmarked = right.unmarked) :
    left.actionTypeId = right.actionTypeId :=
  (congrArg ActionInstance.actionTypeId h :)

theorem actionId_unmarked {left right : ActionInstance} (h : left.unmarked = right.unmarked) :
    left.actionId = right.actionId :=
  (congrArg ActionInstance.actionId h :)

theorem rollbackStatus_unsuccessful (receipt : ActionReceipt) :
    (OperationRuntime.rollbackStatus receipt).successful = false := by
  unfold OperationRuntime.rollbackStatus
  split <;> rfl

/-- The state of a rollback that found `found` and has reached `operation`. -/
structure RollingBack (runtime : OperationRuntime) (given : OperationRun) (context : RuntimeContext)
    (base : Log) (permits : Log → Effect → Prop) (found operation : OperationRun) (segment : Log) :
    Prop where
  monitored : Monitored permits segment
  announced : .rollingBack found context.executionContext ∈ segment
  progress : Progress runtime given context base segment operation
  continues : ∃ receipts events, Extends found operation receipts events

section Rules

variable {runtime : OperationRuntime} {given found operation : OperationRun}
  {context : RuntimeContext} {permits : Log → Effect → Prop} {segment base : Log}

theorem RollingBack.append {later : OperationRun} {receipts : List ActionReceipt}
    {events : List OperationEvent}
    (h : RollingBack runtime given context base permits found operation segment)
    (hnext : Extends operation later receipts events) (hsuccessful : successfulIds receipts = [])
    (hfor : ∀ receipt ∈ receipts, ReceiptFor runtime given context segment receipt) :
    RollingBack runtime given context base permits found later segment where
  monitored := h.monitored
  announced := h.announced
  progress := h.progress.append hnext hsuccessful hfor
  continues := by
    obtain ⟨earlier, recorded, hextends⟩ := h.continues
    exact ⟨_, _, hextends.trans hnext⟩

theorem RollingBack.quiet {later : OperationRun} {events : List OperationEvent}
    (h : RollingBack runtime given context base permits found operation segment)
    (hnext : Extends operation later [] events) :
    RollingBack runtime given context base permits found later segment :=
  h.append hnext rfl fun _ hmem => absurd hmem List.not_mem_nil

theorem RollingBack.concat {effect : Effect}
    (h : RollingBack runtime given context base permits found operation segment)
    (hpermits : permits segment effect)
    (heffect : effect.savedRun = none ∨ effect = .saved operation) :
    RollingBack runtime given context base permits found operation (segment ++ [effect]) where
  monitored := h.monitored.concat hpermits
  announced := List.mem_append_left _ h.announced
  progress := h.progress.concat heffect
  continues := h.continues

variable (hrollback : ∀ before effect, RollbackPermits runtime given context base before effect →
  permits before effect)

include hrollback

theorem rollbackOne_rule {receipt : ActionReceipt} (hreceipt : receipt ∈ found.actionReceipts)
    (hcompleted : receipt.status = .completed) :
    Triple (After base (RollingBack runtime given context base permits found operation))
      (runtime.rollbackOne context operation receipt)
      (fun later => After base (RollingBack runtime given context base permits found later))
      (fun _ => After base (Monitored permits)) := by
  have hfailed : ∀ (error : PyError) log,
      After base (RollingBack runtime given context base permits found operation) log →
        After base (Monitored permits) log :=
    fun _ _ h => h.mono fun _ => RollingBack.monitored
  unfold OperationRuntime.rollbackOne
  split
  · exact Triple.raise (hfailed PyError.stopIteration)
  · rename_i original horiginal
    refine Triple.bind_attempt (fun definition hdefinition => ?_) fun error _ => hfailed error
    split
    · exact Triple.pure fun log h => h
    · rename_i rollbackActionTypeId htype
      refine Triple.bind_attempt (fun rollbackDefinition htarget => ?_) fun error _ => hfailed error
      -- the action found carries the marks of the current plan, the compensation does not
      have hcompensates : ∀ seg, RollingBack runtime given context base permits found operation seg →
          Compensates runtime.actions found
            (OperationRuntime.rollbackAction original rollbackDefinition) := by
        intro seg h
        obtain ⟨receipts, events, hextends⟩ := h.continues
        obtain ⟨planned, hplanned, hsame⟩ := hextends.mem_actions (List.mem_of_find?_eq_some horiginal)
        have hid : original.actionId = receipt.actionId := by simpa using List.find?_some horiginal
        refine ⟨receipt, hreceipt, hcompleted, planned, hplanned, ?_, definition,
          rollbackActionTypeId, rollbackDefinition, ?_, htype, htarget, ?_⟩
        · rw [actionId_unmarked hsame, hid]
        · rw [actionTypeId_unmarked hsame, hdefinition]
        · exact (rollbackAction_unmarked hsame _).symm
      refine Triple.bind (OperationRuntime.executeAction_rule (fun executorId attempt log h => ?_)
        hfailed) fun rollbackReceipt => ?_
      · refine h.concat fun seg hseg => hseg.concat (hrollback _ _ ?_) (Or.inl rfl)
        exact ⟨rfl, hseg.progress, found, hseg.announced, hcompensates seg hseg⟩
      · refine OperationRuntime.appendReceipt_rule fun later event log hnext hpost => ?_
        refine hpost.2.concat fun seg hseg => ?_
        have hlater := hseg.append hnext (by simp [successfulIds, rollbackStatus_unsuccessful])
          (List.forall_mem_singleton.mpr
            (Or.inr ⟨_, ⟨found, hseg.announced, hcompensates seg hseg⟩, hpost.1⟩))
        exact hlater.concat (hrollback _ _ hlater.progress) (Or.inr rfl)

variable (given base) in
theorem rollback_rule :
    Triple (After base (Carries runtime given context base permits operation))
      (runtime.rollback operation context)
      (fun later => After base (Carries runtime given context base permits later))
      (fun _ => After base (Monitored permits)) := by
  unfold OperationRuntime.rollback OperationRuntime.utcNowIso
  refine Triple.bind_record
    (m := After base (RollingBack runtime given context base permits operation operation)) ?_ ?_
  · refine fun log h => h.concat fun segment hsegment => ?_
    exact {
      monitored := hsegment.1.concat (hrollback _ _ ⟨rfl, hsegment.2⟩)
      announced := List.mem_append_right _ (List.mem_singleton_self _)
      progress := hsegment.2.concat (Or.inl rfl)
      continues := ⟨[], [], Extends.refl operation⟩ }
  refine OperationRuntime.bind_noted fun started event hstarted _ _ => ?_
  refine Triple.bind (m := fun later => After base
    (RollingBack runtime given context base permits operation later)) ?_ fun rolled => ?_
  · refine Triple.weaken (Triple.foldlM
      (i := fun _ later => After base (RollingBack runtime given context base permits operation later))
      (f := fun _ => After base (Monitored permits)) ?_) ?_ (fun _ _ h => h) (fun _ _ h => h)
    · intro done receipt later hdone
      have hmem := hdone.subset (List.mem_append_right done (List.mem_singleton_self receipt))
      rw [List.mem_reverse, List.mem_filter, hstarted.receipted, List.append_nil] at hmem
      exact rollbackOne_rule hrollback hmem.1 (of_decide_eq_true hmem.2)
    · exact fun log h => h.mono fun segment hsegment => hsegment.quiet { hstarted with }
  · refine Triple.bind_tick fun completedAtIso => ?_
    refine OperationRuntime.bind_noted fun finished event hnext _ _ => ?_
    refine Triple.weaken (Carries.saved_rule
      (fun before operation => hrollback before (.saved operation))
      (?_ : Extends rolled _ [] [event]))
      (fun log h => h.mono fun segment hsegment => ⟨hsegment.monitored, hsegment.progress⟩)
      (fun _ _ h => h) (fun _ _ h => h)
    exact { hnext with }

end Rules

end KubeOps.Execution
