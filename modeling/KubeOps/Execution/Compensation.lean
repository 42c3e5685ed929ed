import KubeOps.Execution.ReceiptIdentity

/-! What is left of an action once a rollback has compensated it. The receipt of
the compensation names another action, so the plan and the completed receipt of
the compensated one stay as they were. -/
namespace KubeOps.Execution

open KubeOps.Foundation KubeOps.Models KubeOps.Policy KubeOps.Actions
open OperationRuntime (Creation)

/-- The actions that `operation` has rolled back since `given`, in this order. -/
def undoneIds (given operation : OperationRun) : List String :=
  ((operation.actionReceipts.drop given.actionReceipts.length).filter fun receipt =>
    receipt.status = .rolledBack).map ActionReceipt.actionId

/-- What is rolled back has been completed, and what was completed last is rolled back first. -/
def InReverse (given operation : OperationRun) : Prop :=
  List.Sublist (undoneIds given operation)
    (compensationIds ((completedReceipts operation).map ActionReceipt.actionId))

/-- An action rolled back since `given` has the status `rolled_back`. -/
def MarkedUndone (given operation : OperationRun) : Prop :=
  ∀ action ∈ operation.plan.actions, s!"rollback:{action.actionId}" ∈ undoneIds given operation →
    action.status = .rolledBack

/-- The last success of the action was its completion, and that was rolled back. -/
def Compensated (operation : OperationRun) (actionId : String) : Prop :=
  ∃ before compensation after,
    operation.actionReceipts = before ++ compensation :: after ∧
    compensation.status = .rolledBack ∧ compensation.actionId = s!"rollback:{actionId}" ∧
    (∃ receipt ∈ before, receipt.status = .completed ∧ receipt.actionId = actionId) ∧
    actionId ∉ successfulIds after

def completions (operation : OperationRun) (actionId : String) : Nat :=
  operation.actionReceipts.countP fun receipt =>
    receipt.status = .completed ∧ receipt.actionId = actionId

def reversals (operation : OperationRun) (actionId : String) : Nat :=
  operation.actionReceipts.countP fun receipt =>
    receipt.status = .rolledBack ∧ receipt.actionId = s!"rollback:{actionId}"

/-- No compensation has succeeded. -/
def NothingUndone (operation : OperationRun) : Prop :=
  ∀ receipt ∈ operation.actionReceipts, receipt.status ≠ .rolledBack

/-- No compensation has succeeded, and no action with a receipt is marked as rolled back. -/
structure Intact (operation : OperationRun) : Prop where
  nothingUndone : NothingUndone operation
  marks : ∀ action ∈ operation.plan.actions, action.status = .rolledBack →
    ∀ receipt ∈ operation.actionReceipts, receipt.actionId ≠ action.actionId

/-- A compensation was made for something that `found` had completed, and the
action it is for was not marked. -/
def Betrayed (catalog : ActionCatalog) (given : OperationRun) (segment : Log) : Prop :=
  (∃ operation, .saved operation ∈ segment ∧ ¬ MarkedUndone given operation) ∧
    ∃ found context, .rollingBack found context ∈ segment ∧
      ∃ action, Compensates catalog found action

/-- A rollback that found `found` and has dealt with `done`. -/
structure Reversal (given found : OperationRun) (done : List ActionReceipt)
    (operation : OperationRun) (segment : Log) : Prop where
  announced : ∃ context, .rollingBack found context ∈ segment
  actions : operation.plan.actions.map ActionInstance.unmarked =
    found.plan.actions.map ActionInstance.unmarked
  kept : found.actionReceipts <+: operation.actionReceipts
  completed : completedReceipts operation = completedReceipts found
  done_prefix : done <+: completedReceipts found
  undone : List.Sublist (undoneIds given operation) (compensationIds (done.map ActionReceipt.actionId))

def Undone (given : OperationRun) (segment : Log) : Phase → OperationRun → Prop
  | .idle, operation | .performing _, operation => undoneIds given operation = []
  | .rolling found done, operation => Reversal given found done operation segment
  | .ended _, operation => InReverse given operation

structure Undoing (catalog : ActionCatalog) (given : OperationRun) (phase : Phase)
    (operation : OperationRun) (segment : Log) : Prop where
  continues : given.actionReceipts <+: operation.actionReceipts
  undone : Undone given segment phase operation
  reversed : ∀ later, .saved later ∈ segment → InReverse given later
  intact : Intact given → Betrayed catalog given segment ∨
    Intact operation ∧ ∀ later, .saved later ∈ segment → Intact later

section Receipts

variable {catalog : ActionCatalog} {given found operation later : OperationRun}
  {receipts : List ActionReceipt} {receipt compensation : ActionReceipt}
  {checkpoints : List ExecutionCheckpoint} {segment : Log} {phase : Phase} {effect : Effect}
  {done : List ActionReceipt} {actionId : String}

theorem undoneIds_append (hcontinues : given.actionReceipts <+: operation.actionReceipts)
    (h : later.actionReceipts = operation.actionReceipts ++ receipts) :
    undoneIds given later = undoneIds given operation ++
      (receipts.filter fun receipt => receipt.status = .rolledBack).map ActionReceipt.actionId := by
  unfold undoneIds
  rw [h, List.drop_append_of_le_length hcontinues.length_le, List.filter_append, List.map_append]

theorem undoneIds_congr (h : later.actionReceipts = operation.actionReceipts) :
    undoneIds given later = undoneIds given operation := by
  unfold undoneIds
  rw [h]

theorem completedReceipts_congr (h : later.actionReceipts = operation.actionReceipts) :
    completedReceipts later = completedReceipts operation := by
  unfold completedReceipts
  rw [h]

theorem completedReceipts_concat (h : later.actionReceipts = operation.actionReceipts ++ [receipt])
    (hstatus : receipt.status ≠ .completed) :
    completedReceipts later = completedReceipts operation := by
  unfold completedReceipts
  rw [h, List.filter_append, List.filter_cons_of_neg (by simpa using hstatus), List.filter_nil,
    List.append_nil]

theorem InReverse.congr (h : InReverse given operation)
    (hreceipts : later.actionReceipts = operation.actionReceipts) : InReverse given later := by
  unfold InReverse
  rw [undoneIds_congr hreceipts, completedReceipts_congr hreceipts]
  exact h

theorem inReverse_of_nil (h : undoneIds given operation = []) : InReverse given operation := by
  unfold InReverse
  rw [h]
  exact List.nil_sublist _

theorem Reversal.inReverse (h : Reversal given found done operation segment) :
    InReverse given operation := by
  unfold InReverse
  rw [h.completed]
  exact h.undone.trans ((h.done_prefix.sublist.map _).map _)

theorem Undone.inReverse (h : Undone given segment phase operation) : InReverse given operation := by
  cases phase with
  | idle => exact inReverse_of_nil h
  | performing action => exact inReverse_of_nil h
  | rolling found done => exact Reversal.inReverse h
  | ended found => exact h

theorem Undone.grows (h : Undone given segment phase operation)
    (hnext : Grows operation later [] checkpoints) : Undone given segment phase later := by
  have hreceipts : later.actionReceipts = operation.actionReceipts := by
    rw [hnext.receipted, List.append_nil]
  cases phase with
  | idle => exact (undoneIds_congr hreceipts).trans h
  | performing action => exact (undoneIds_congr hreceipts).trans h
  | rolling found done =>
    exact {
      announced := h.announced
      actions := hnext.actions.trans h.actions
      kept := hreceipts ▸ h.kept
      completed := (completedReceipts_congr hreceipts).trans h.completed
      done_prefix := h.done_prefix
      undone := by
        rw [undoneIds_congr hreceipts]
        exact h.undone }
  | ended found => exact InReverse.congr h hreceipts

theorem Undone.concat (h : Undone given segment phase operation) (effect : Effect) :
    Undone given (segment ++ [effect]) phase operation := by
  cases phase with
  | rolling found done =>
    obtain ⟨context, hannounced⟩ := Reversal.announced h
    exact { h with announced := ⟨context, List.mem_append_left _ hannounced⟩ }
  | _ => exact h

theorem Betrayed.concat (h : Betrayed catalog given segment) (effect : Effect) :
    Betrayed catalog given (segment ++ [effect]) := by
  obtain ⟨⟨operation, hsaved, hunmarked⟩, found, context, hrolling, hcompensates⟩ := h
  exact ⟨⟨operation, List.mem_append_left _ hsaved, hunmarked⟩, found, context,
    List.mem_append_left _ hrolling, hcompensates⟩

theorem Intact.grows (h : Intact operation) (hnext : Grows operation later receipts checkpoints)
    (hreceipts : ∀ receipt ∈ receipts, receipt.status ≠ .rolledBack) : Intact later where
  nothingUndone := by
    intro receipt hmem
    rw [hnext.receipted] at hmem
    rcases List.mem_append.mp hmem with hold | hnew
    · exact h.nothingUndone receipt hold
    · exact hreceipts receipt hnew
  marks := by
    intro action haction hstatus receipt hmem hid
    rcases hnext.marks action haction hstatus with ⟨marking, hmarking, -, hrolled⟩ | ⟨hnone, hbefore⟩
    · exact hreceipts marking hmarking hrolled
    · obtain ⟨original, horiginal, hsame, hmarked⟩ := hbefore
      rw [hnext.receipted] at hmem
      rcases List.mem_append.mp hmem with hold | hnew
      · exact h.marks original horiginal hmarked receipt hold (hid.trans hsame.symm)
      · exact hnone receipt hnew hid

theorem Intact.seals {certificateId : String} (h : Intact operation)
    (hseals : Seals operation later certificateId) : Intact later where
  nothingUndone := by
    unfold NothingUndone
    rw [hseals.receipted]
    exact h.nothingUndone
  marks := by
    rw [hseals.plan, hseals.receipted]
    exact h.marks

theorem rollback_ne (actionId : String) : s!"rollback:{actionId}" ≠ actionId := by
  intro h
  have hlength := congrArg String.length h
  change ("rollback:" ++ actionId).length = _ at hlength
  rw [String.length_append] at hlength
  have hprefix : "rollback:".length = 9 := by decide
  omega

theorem mem_of_mem_completedReceipts (h : receipt ∈ completedReceipts found) :
    receipt ∈ found.actionReceipts ∧ receipt.status = .completed := by
  rw [completedReceipts, List.mem_reverse, List.mem_filter] at h
  exact ⟨h.1, of_decide_eq_true h.2⟩

section Step

variable {context : ExecutionContext} (hreversal : Reversal given found done operation segment)
  (hdone : done ++ [receipt] <+: completedReceipts found)
  (hcompensation : CompensationFor catalog context operation receipt compensation)
  (hnext : Grows operation later [compensation] [])

include hreversal hdone

theorem Reversal.passed : Reversal given found (done ++ [receipt]) operation segment where
  announced := hreversal.announced
  actions := hreversal.actions
  kept := hreversal.kept
  completed := hreversal.completed
  done_prefix := hdone
  undone := by
    rw [List.map_append, compensationIds, List.map_append]
    exact hreversal.undone.trans (List.sublist_append_left _ _)

include hcompensation hnext

theorem Reversal.compensated (hcontinues : given.actionReceipts <+: operation.actionReceipts) :
    Reversal given found (done ++ [receipt]) later segment where
  announced := hreversal.announced
  actions := hnext.actions.trans hreversal.actions
  kept := by
    rw [hnext.receipted]
    exact hreversal.kept.trans (List.prefix_append _ _)
  completed := by
    refine (completedReceipts_concat hnext.receipted fun hstatus => ?_).trans hreversal.completed
    rcases hcompensation.status with hrolled | hfailed
    · exact absurd (hrolled.symm.trans hstatus) nofun
    · exact absurd (hfailed.symm.trans hstatus) nofun
  done_prefix := hdone
  undone := by
    rw [undoneIds_append hcontinues hnext.receipted, List.map_append, compensationIds,
      List.map_append]
    refine hreversal.undone.append ?_
    rw [List.map_singleton, List.map_singleton, ← hcompensation.actionId]
    exact List.filter_sublist.map ActionReceipt.actionId

theorem Reversal.not_markedUndone (hcontinues : given.actionReceipts <+: operation.actionReceipts)
    (hintact : Intact operation) (hstatus : compensation.status = .rolledBack) :
    ¬ MarkedUndone given later := by
  intro hmarked
  obtain ⟨original, horiginal, hid, -⟩ := hcompensation.planned
  have hkept : original.unmarked ∈ later.plan.actions.map ActionInstance.unmarked := by
    rw [hnext.actions]
    exact List.mem_map_of_mem horiginal
  obtain ⟨action, haction, hsame⟩ := List.mem_map.mp hkept
  have hsameId : action.actionId = receipt.actionId :=
    (congrArg ActionInstance.actionId hsame :).trans hid
  have hundone : s!"rollback:{action.actionId}" ∈ undoneIds given later := by
    rw [undoneIds_append hcontinues hnext.receipted, hsameId, ← hcompensation.actionId]
    refine List.mem_append_right _ (List.mem_map_of_mem (List.mem_filter.mpr ⟨?_, ?_⟩))
    · exact List.mem_singleton_self _
    · exact decide_eq_true hstatus
  rcases hnext.marks action haction (hmarked action haction hundone) with
    ⟨marking, hmarking, hmark, -⟩ | ⟨-, earlier, hearlier, hearlierId, hrolled⟩
  · rw [List.mem_singleton.mp hmarking, hcompensation.actionId, ← hsameId] at hmark
    exact rollback_ne _ hmark
  · have hmem := hdone.subset (List.mem_append_right done (List.mem_singleton_self receipt))
    have hreceipt := hreversal.kept.subset (mem_of_mem_completedReceipts hmem).1
    exact hintact.marks earlier hearlier hrolled receipt hreceipt (hearlierId.trans hsameId).symm

omit hnext in
theorem Reversal.compensates : ∃ action, Compensates catalog found action := by
  obtain ⟨original, horiginal, hid, definition, rollbackActionTypeId, rollbackDefinition, hdefinition,
    htype, htarget⟩ := hcompensation.planned
  have hkept : original.unmarked ∈ found.plan.actions.map ActionInstance.unmarked := by
    rw [← hreversal.actions]
    exact List.mem_map_of_mem horiginal
  obtain ⟨planned, hplanned, hsame⟩ := List.mem_map.mp hkept
  have hmem := hdone.subset (List.mem_append_right done (List.mem_singleton_self receipt))
  obtain ⟨hreceipt, hcompleted⟩ := mem_of_mem_completedReceipts hmem
  refine ⟨_, receipt, hreceipt, hcompleted, planned, hplanned, ?_, definition, rollbackActionTypeId,
    rollbackDefinition, ?_, htype, htarget, rfl⟩
  · exact (actionId_unmarked hsame).trans hid
  · rw [actionTypeId_unmarked hsame]
    exact hdefinition

end Step

end Receipts

namespace Undoing

variable {catalog : ActionCatalog} {given found operation later : OperationRun} {phase : Phase}
  {segment : Log} {effect : Effect} {action : ActionInstance} {receipt compensation : ActionReceipt}
  {checkpoints : List ExecutionCheckpoint} {done : List ActionReceipt}

theorem grows (h : Undoing catalog given phase operation segment)
    (hnext : Grows operation later [] checkpoints) : Undoing catalog given phase later segment where
  continues := by
    rw [hnext.receipted, List.append_nil]
    exact h.continues
  undone := h.undone.grows hnext
  reversed := h.reversed
  intact := fun hgiven => (h.intact hgiven).imp_right fun hintact =>
    ⟨hintact.1.grows hnext fun _ hmem => absurd hmem List.not_mem_nil, hintact.2⟩

theorem saved (h : Undoing catalog given phase operation segment) :
    Undoing catalog given phase operation (segment ++ [.saved operation]) where
  continues := h.continues
  undone := h.undone.concat _
  reversed := by
    intro later hmem
    rcases List.mem_append.mp hmem with hold | hnew
    · exact h.reversed later hold
    · rw [Effect.saved.inj (List.mem_singleton.mp hnew)]
      exact h.undone.inReverse
  intact := by
    intro hgiven
    refine (h.intact hgiven).imp (fun hbetrayed => hbetrayed.concat _) fun ⟨hintact, hsaved⟩ => ?_
    refine ⟨hintact, fun later hmem => ?_⟩
    rcases List.mem_append.mp hmem with hold | hnew
    · exact hsaved later hold
    · rw [Effect.saved.inj (List.mem_singleton.mp hnew)]
      exact hintact

theorem concat {next : Phase} (h : Undoing catalog given phase operation segment)
    (heffect : effect.savedRun = none) (hundone : Undone given (segment ++ [effect]) next operation) :
    Undoing catalog given next operation (segment ++ [effect]) where
  continues := h.continues
  undone := hundone
  reversed := by
    intro later hmem
    refine (List.mem_append.mp hmem).elim (h.reversed later) fun hnew => ?_
    rw [← List.mem_singleton.mp hnew] at heffect
    cases heffect
  intact := by
    intro hgiven
    refine (h.intact hgiven).imp (fun hbetrayed => hbetrayed.concat _) fun ⟨hintact, hsaved⟩ => ?_
    refine ⟨hintact, fun later hmem => ?_⟩
    refine (List.mem_append.mp hmem).elim (hsaved later) fun hnew => ?_
    rw [← List.mem_singleton.mp hnew] at heffect
    cases heffect

theorem received (h : Undoing catalog given (.performing action) operation segment)
    (hnext : Grows operation later [receipt] []) (hstatus : receipt.status ≠ .rolledBack) :
    Undoing catalog given .idle later segment where
  continues := by
    rw [hnext.receipted]
    exact h.continues.trans (List.prefix_append _ _)
  undone := by
    have hnone : undoneIds given operation = [] := h.undone
    change undoneIds given later = []
    rw [undoneIds_append h.continues hnext.receipted, hnone,
      List.filter_cons_of_neg (by simpa using hstatus)]
    rfl
  reversed := h.reversed
  intact := fun hgiven => (h.intact hgiven).imp_right fun hintact =>
    ⟨hintact.1.grows hnext (List.forall_mem_singleton.mpr hstatus), hintact.2⟩

theorem compensated {context : ExecutionContext}
    (h : Undoing catalog given (.rolling found done) operation segment)
    (hdone : done ++ [receipt] <+: completedReceipts found)
    (hcompensation : CompensationFor catalog context operation receipt compensation)
    (hnext : Grows operation later [compensation] []) :
    Undoing catalog given (.rolling found (done ++ [receipt])) later (segment ++ [.saved later]) := by
  have hreversal : Reversal given found done operation segment := h.undone
  have hlater : Reversal given found (done ++ [receipt]) later segment :=
    hreversal.compensated hdone hcompensation hnext h.continues
  have hundone : Undone given segment (.rolling found (done ++ [receipt])) later := hlater
  refine ⟨?_, hundone.concat _, fun other hmem => ?_, fun hgiven => ?_⟩
  · rw [hnext.receipted]
    exact h.continues.trans (List.prefix_append _ _)
  · rcases List.mem_append.mp hmem with hold | hnew
    · exact h.reversed other hold
    · rw [Effect.saved.inj (List.mem_singleton.mp hnew)]
      exact hlater.inReverse
  rcases h.intact hgiven with hbetrayed | ⟨hintact, hsaved⟩
  · exact Or.inl (hbetrayed.concat _)
  rcases hcompensation.status with hrolled | hfailed
  · -- the compensation succeeded, and what is written now shows it
    left
    obtain ⟨usedContext, hannounced⟩ := hreversal.announced
    refine ⟨⟨later, List.mem_append_right _ (List.mem_singleton_self _), ?_⟩, found, usedContext,
      List.mem_append_left _ hannounced, hreversal.compensates hdone hcompensation⟩
    exact hreversal.not_markedUndone hdone hcompensation hnext h.continues hintact hrolled
  · right
    have hstill : Intact later := by
      refine hintact.grows hnext (List.forall_mem_singleton.mpr ?_)
      rw [hfailed]
      exact nofun
    refine ⟨hstill, fun other hmem => ?_⟩
    rcases List.mem_append.mp hmem with hold | hnew
    · exact hsaved other hold
    · rw [Effect.saved.inj (List.mem_singleton.mp hnew)]
      exact hstill

theorem ended {certificateId : String} (h : Undoing catalog given phase operation segment)
    (hseals : Seals operation later certificateId) : Undoing catalog given (.ended found) later segment where
  continues := by
    rw [hseals.receipted]
    exact h.continues
  undone := InReverse.congr h.undone.inReverse hseals.receipted
  reversed := h.reversed
  intact := fun hgiven => (h.intact hgiven).imp_right fun hintact =>
    ⟨hintact.1.seals hseals, hintact.2⟩

end Undoing

section Calls

variable {runtime : OperationRuntime} {given : OperationRun} {context : RuntimeContext}
  {mayRollBack : Bool} {base : Log} {call : Call} {creation : Creation}

theorem undoing_invariant (catalog : ActionCatalog) (given : OperationRun) (base : Log) :
    RunInvariant catalog context mayRollBack fun phase operation =>
      After base (Undoing catalog given phase operation) where
  quiet := fun hnext hi => hi.mono fun _ h => h.grows hnext
  plain := by
    intro phase operation log effect _ hsaved hi
    refine hi.concat fun segment h => ?_
    rcases hsaved with hnone | rfl
    · exact h.concat hnone (h.undone.concat effect)
    · exact h.saved
  started := fun action hi => hi.concat fun _ h => h.concat rfl h.undone
  checkpointed := fun _ hnext hi => hi.mono fun _ h => h.grows hnext
  received := fun hstamped hnext hi => hi.concat fun _ h => (h.received hnext hstamped.status_ne).saved
  rolling := by
    intro operation log _ hi
    refine hi.concat fun segment h => h.concat rfl ?_
    have hnone : undoneIds given operation = [] := h.undone
    exact {
      announced := ⟨_, List.mem_append_right _ (List.mem_singleton_self _)⟩
      actions := rfl
      kept := List.prefix_rfl
      completed := rfl
      done_prefix := List.nil_prefix
      undone := by rw [hnone]; exact List.nil_sublist _ }
  passed := by
    intro found done receipt operation log hdone hi
    refine hi.mono fun segment h => { h with undone := ?_ }
    exact Reversal.passed h.undone hdone
  compensated := fun hdone hcompensation hnext hi => hi.concat fun _ h =>
    h.compensated hdone hcompensation hnext
  rolledBack := fun hseals _ hi => hi.mono fun _ h => h.ended hseals
  sealed := fun hseals hi => hi.mono fun _ h => h.ended hseals

/-- What a call that executes actions has undone when it ends. -/
structure Reversed (catalog : ActionCatalog) (given : OperationRun) (segment : Log) : Prop where
  reversed : ∀ later, .saved later ∈ segment → InReverse given later
  intact : Intact given → Betrayed catalog given segment ∨
    ∀ later, .saved later ∈ segment → Intact later

theorem perform_reversed (hexecutors : runtime.executors.Conventional)
    (hlatest : latest base = some given) (hexecution : call.execution = some (context, mayRollBack)) :
    Triple (fun log => log = base) (call.perform runtime given)
      (fun _ => After base (Reversed runtime.actions given))
      (fun _ => After base (Reversed runtime.actions given)) := by
  have hended : ∀ log, Somewhere (fun phase operation =>
      After base (Undoing runtime.actions given phase operation)) log →
      After base (Reversed runtime.actions given) log := by
    rintro log ⟨phase, operation, hi⟩
    exact hi.mono fun segment h => ⟨h.reversed, fun hgiven => (h.intact hgiven).imp_right And.right⟩
  refine Triple.weaken ((undoing_invariant runtime.actions given base).perform_rule hexecutors hlatest
    hexecution ?_) (fun _ h => h) (fun _ _ => hended _) fun _ _ => hended _
  refine After.start ⟨List.prefix_rfl, ?_, fun _ hmem => absurd hmem List.not_mem_nil, fun hgiven =>
    Or.inr ⟨hgiven, fun _ hmem => absurd hmem List.not_mem_nil⟩⟩
  change undoneIds given given = []
  unfold undoneIds
  rw [List.drop_length]
  rfl

end Calls

/-- `call` is one of the calls, is given `given` and writes `segment`. -/
def Called (runtime : OperationRuntime) (creation : Creation) (calls : List Call)
    (given : OperationRun) (call : Call) (segment : Log) : Prop :=
  ∃ done rest, calls = done ++ call :: rest ∧
    latest (runtime.session creation done).log = some given ∧
    (runtime.session creation (done ++ [call])).log =
      (runtime.session creation done).log ++ segment

/-- A completion is rolled back at most once, the latest first; what is rolled back
is marked so, and a resumed run does not count it as completed. -/
structure RollsBackOnce (runtime : OperationRuntime) (creation : Creation) (calls : List Call) :
    Prop where
  once : ∀ operation, .saved operation ∈ (runtime.session creation calls).log →
    ∀ actionId, reversals operation actionId ≤ completions operation actionId
  reversed : ∀ given call segment, Called runtime creation calls given call segment →
    ∀ operation, .saved operation ∈ segment → InReverse given operation
  marked : ∀ given call segment, Called runtime creation calls given call segment →
    ∀ operation, .saved operation ∈ segment → MarkedUndone given operation
  repeated : ∀ given policy context conditions segment,
    Called runtime creation calls given (.resume policy context conditions) segment →
    ∀ actionId, Compensated given actionId →
      actionId ∉ (OperationRuntime.startLoop given true).completedIds

/-- No rollback finds a completed action that has a rollback type. -/
def NothingReversible (catalog : ActionCatalog) (log : Log) : Prop :=
  ∀ found context, .rollingBack found context ∈ log → ∀ action, ¬ Compensates catalog found action

section Sessions

variable {runtime : OperationRuntime} {creation : Creation} {calls : List Call}
  {given operation : OperationRun} {call : Call} {segment : Log}

theorem Called.mem (h : Called runtime creation calls given call segment) : call ∈ calls := by
  obtain ⟨done, rest, rfl, -⟩ := h
  exact List.mem_append_right _ List.mem_cons_self

theorem Called.concat (h : Called runtime creation calls given call segment) (last : Call) :
    Called runtime creation (calls ++ [last]) given call segment := by
  obtain ⟨done, rest, rfl, hlatest, hlog⟩ := h
  exact ⟨done, rest ++ [last], by simp, hlatest, hlog⟩

theorem Called.sublist (h : Called runtime creation calls given call segment)
    (hplan : creation.plan.Accepted runtime.python) :
    List.Sublist segment (runtime.session creation calls).log := by
  obtain ⟨done, rest, rfl, -, hlog⟩ := h
  have hprefix := session_prefix hplan (done ++ [call]) rest
  rw [hlog, List.append_assoc, List.singleton_append] at hprefix
  exact (List.sublist_append_right _ _).trans hprefix.sublist

theorem Called.given_saved (h : Called runtime creation calls given call segment)
    (hplan : creation.plan.Accepted runtime.python) :
    .saved given ∈ (runtime.session creation calls).log := by
  obtain ⟨done, rest, rfl, hlatest, -⟩ := h
  have hprefix := session_prefix hplan done (call :: rest)
  exact hprefix.subset (mem_of_latest hlatest)

theorem Called.reversed (h : Called runtime creation calls given call segment)
    (hexecutors : runtime.executors.Conventional)
    (hcalls : ∀ call ∈ calls, call.execution.isSome) : Reversed runtime.actions given segment := by
  obtain ⟨⟨context, mayRollBack⟩, hexecution⟩ := Option.isSome_iff_exists.mp (hcalls call h.mem)
  obtain ⟨done, rest, -, hlatest, hlog⟩ := h
  exact holds_of_perform hlatest hlog (perform_reversed hexecutors hlatest hexecution)

theorem session_intact (hplan : creation.plan.Accepted runtime.python)
    (hexecutors : runtime.executors.Conventional)
    (hcalls : ∀ call ∈ calls, call.execution.isSome) :
    (∃ given call segment, Called runtime creation calls given call segment ∧
      Betrayed runtime.actions given segment) ∨
    ∀ operation, .saved operation ∈ (runtime.session creation calls).log → Intact operation := by
  induction calls using List.reverseRecOn with
  | nil =>
    right
    intro operation hmem
    change _ ∈ (runtime.created creation).log at hmem
    rcases created_log runtime creation with hlog | ⟨begun, hbegun, hlog⟩ <;> rw [hlog] at hmem
    · cases hmem
    · obtain rfl := Effect.saved.inj (List.mem_singleton.mp hmem)
      constructor
      · intro receipt hreceipt
        rw [hbegun.unreceipted] at hreceipt
        cases hreceipt
      · intro action _ _ receipt hreceipt
        rw [hbegun.unreceipted] at hreceipt
        cases hreceipt
  | append_singleton calls call ih =>
    rcases ih fun call hmem => hcalls call (List.mem_append_left _ hmem) with
      ⟨given, earlier, segment, hcalled, hbetrayed⟩ | hearlier
    · exact Or.inl ⟨given, earlier, segment, hcalled.concat call, hbetrayed⟩
    obtain ⟨segment, hlog, hsegment⟩ := session_advances hplan calls call
    rcases hsegment with rfl | ⟨given, hlatest, -, -⟩
    · right
      rw [hlog, List.append_nil]
      exact hearlier
    have hcalled : Called runtime creation (calls ++ [call]) given call segment :=
      ⟨calls, [], rfl, hlatest, hlog⟩
    refine ((hcalled.reversed hexecutors hcalls).intact (hearlier given (mem_of_latest hlatest))).imp
      (fun hbetrayed => ⟨given, call, segment, hcalled, hbetrayed⟩) fun hintact operation hmem => ?_
    rw [hlog] at hmem
    exact (List.mem_append.mp hmem).elim (hearlier operation) (hintact operation)

theorem NothingUndone.reversals_eq (h : NothingUndone operation) (actionId : String) :
    reversals operation actionId = 0 := by
  refine List.countP_eq_zero.mpr fun receipt hmem => ?_
  rw [decide_eq_true_eq]
  exact fun hrolled => h receipt hmem hrolled.1

theorem NothingUndone.undoneIds_eq (h : NothingUndone operation) : undoneIds given operation = [] := by
  refine List.map_eq_nil_iff.mpr (List.filter_eq_nil_iff.mpr fun receipt hmem => ?_)
  rw [decide_eq_true_eq]
  exact h receipt (List.mem_of_mem_drop hmem)

end Sessions

section Examples

open DockerHost

def Effect.isOverdone (actionId : String) : Effect → Bool
  | .saved operation => completions operation actionId < reversals operation actionId
  | _ => false

end Examples

end KubeOps.Execution
