import KubeOps.Execution.FailureBehavior
import KubeOps.Execution.Projection

/-! The statuses of the actions in a sealed plan. Every run authorizes all actions anew, and
gives only those that it executes a status again. -/
namespace KubeOps.Execution

open KubeOps.Foundation KubeOps.Models KubeOps.Policy KubeOps.Actions
open OperationRuntime (Creation LoopState LoopExit firstReady startLoop receiptEvent markActions)

def Reflects (operation : OperationRun) (action : ActionInstance) : Prop :=
  ∃ receipt, latestReceipt operation.actionReceipts action.actionId = some receipt ∧
    action.status = (receiptEvent receipt.status).2

/-- No action of the plan has succeeded before. -/
def FromScratch (operation : OperationRun) : Prop :=
  ∀ actionId ∈ operation.plan.actionIds, actionId ∉ successfulIds operation.actionReceipts

section Receipts

variable {receipts : List ActionReceipt} {receipt : ActionReceipt} {actionId : String}

theorem latestReceipt_concat (receipts : List ActionReceipt) (receipt : ActionReceipt) (actionId : String) :
    latestReceipt (receipts ++ [receipt]) actionId =
      if receipt.actionId = actionId then some receipt else latestReceipt receipts actionId := by
  rw [latestReceipt, List.map_append, Dict.get?_ofList_append]
  change ((∅ : Dict String ActionReceipt).set receipt.actionId receipt |>.get? actionId).or _ = _
  rw [Dict.get?_set]
  by_cases h : receipt.actionId = actionId
  · rw [if_pos h, if_pos h.symm, Option.some_or]
  · rw [if_neg h, if_neg (Ne.symm h), Dict.get?_empty, Option.none_or]
    rfl

theorem receiptEvent_ne_authorized (status : ReceiptStatus) : (receiptEvent status).2 ≠ .authorized := by
  cases status <;> decide

end Receipts

section Loop

variable {runtime : OperationRuntime} {given operation later : OperationRun} {policy : ExecutionPolicy}
  {context : RuntimeContext} {state : LoopState} {action : ActionInstance} {receipt : ActionReceipt}

/-- The action has been executed and reflects its receipt, or it was not to be executed again. -/
def DealtWith (given operation : OperationRun) (action : ActionInstance) : Prop :=
  (Reflects operation action ∧ action.actionId ∉ successfulIds given.actionReceipts) ∨
    (action.status = .authorized ∧ action.actionId ∈ successfulIds given.actionReceipts)

structure Keeping (given : OperationRun) (state : LoopState) : Prop where
  planned : state.operation.plan.actionIds = given.plan.actionIds
  keyed : ∀ entry ∈ state.pending.entries, entry.1 = entry.2.actionId
  unsuccessful : ∀ actionId ∈ state.pending.keys, actionId ∉ successfulIds given.actionReceipts
  accounted : ∀ action ∈ state.operation.plan.actions, action.actionId ∉ state.pending.keys →
    DealtWith given state.operation action
  failed : state.failed = true → state.operation.status = .failed

theorem DealtWith.congr (h : DealtWith given operation action)
    (hreceipts : later.actionReceipts = operation.actionReceipts) : DealtWith given later action := by
  unfold DealtWith Reflects
  rw [hreceipts]
  exact h

theorem markActions_actionIds (actions : List ActionInstance) (actionId : String) (status : ActionStatus) :
    (markActions actions actionId status).map ActionInstance.actionId =
      actions.map ActionInstance.actionId := by
  rw [markActions, List.map_map]
  apply List.map_congr_left
  intro action _
  by_cases h : action.actionId = actionId <;> simp [h]

theorem startAction_marks {actionId : String} : Returns (runtime.startAction operation actionId) fun later =>
    later.actionReceipts = operation.actionReceipts ∧
      later.plan.actions = markActions operation.plan.actions actionId .running := by
  unfold OperationRuntime.startAction
  refine Returns.bind_any fun _ => Returns.bind_any fun _ => Returns.bind_any fun _ => ?_
  exact Returns.pure ⟨rfl, rfl⟩

theorem checkpointIfRequired_keeps {decision : PolicyDecision} :
    Returns (runtime.checkpointIfRequired context operation decision) fun later =>
      later.actionReceipts = operation.actionReceipts ∧ later.plan = operation.plan := by
  unfold OperationRuntime.checkpointIfRequired OperationRuntime.checkpoint
  refine Returns.ite (fun _ => Returns.bind_any fun _ => ?_) fun _ => Returns.pure ⟨rfl, rfl⟩
  refine Returns.bind_any fun _ => Returns.bind_any fun _ => Returns.bind_any fun _ => ?_
  exact Returns.bind_any fun _ => Returns.pure ⟨rfl, rfl⟩

theorem perform_actionId {successfulKeys : List String} :
    Returns (runtime.perform context operation successfulKeys action)
      fun receipt => receipt.actionId = action.actionId :=
  Returns.of_rule (OperationRuntime.perform_rule (fun _ _ _ _ => trivial) fun _ _ _ => trivial)

theorem Keeping.received {started : OperationRun} (h : Keeping given state)
    (hpending : action.actionId ∈ state.pending.keys)
    (hstarted : started.actionReceipts = state.operation.actionReceipts ∧
      started.plan.actions = markActions state.operation.plan.actions action.actionId .running)
    (hreceipt : receipt.actionId = action.actionId)
    (hlater : later.actionReceipts = started.actionReceipts ++ [receipt] ∧
      later.plan.actions = markActions started.plan.actions receipt.actionId (receiptEvent receipt.status).2)
    (hgoing : state.failed = false) :
    Keeping given { state with operation := later, pending := state.pending.erase action.actionId } where
  planned := by
    rw [← h.planned, RecoveryPlan.actionIds, RecoveryPlan.actionIds, hlater.2, markActions_actionIds,
      hstarted.2, markActions_actionIds]
  keyed := fun entry hentry => h.keyed entry (Dict.mem_entries_erase.mp hentry).2
  unsuccessful := by
    intro actionId hkey
    obtain ⟨value, hentry⟩ := Dict.mem_keys.mp hkey
    exact h.unsuccessful actionId (Dict.mem_keys.mpr ⟨value, (Dict.mem_entries_erase.mp hentry).2⟩)
  accounted := by
    intro other hother hgone
    rw [hlater.2, hreceipt] at hother
    have hlatest := latestReceipt_concat started.actionReceipts receipt
    rw [← hlater.1, hreceipt] at hlatest
    rcases mem_markActions hother with ⟨hid, hstatus⟩ | ⟨hid, hearlier⟩
    · refine .inl ⟨⟨receipt, ?_, hstatus⟩, hid ▸ h.unsuccessful _ hpending⟩
      rw [hid, hlatest, if_pos rfl]
    · rw [hstarted.2] at hearlier
      rcases mem_markActions hearlier with ⟨hsame, -⟩ | ⟨-, hbefore⟩
      · exact absurd hsame hid
      have hwaited : other.actionId ∉ state.pending.keys := by
        intro hkey
        obtain ⟨value, hentry⟩ := Dict.mem_keys.mp hkey
        exact hgone (Dict.mem_keys.mpr ⟨value, Dict.mem_entries_erase.mpr ⟨hid, hentry⟩⟩)
      rcases h.accounted other hbefore hwaited with ⟨⟨found, hfound, hstatus⟩, hfresh⟩ | hkept
      · refine .inl ⟨⟨found, ?_, hstatus⟩, hfresh⟩
        rw [hlatest, if_neg (Ne.symm hid), hstarted.1, hfound]
      · exact .inr hkept
  failed := fun hfailed => absurd hfailed (by simp [hgoing])

def Kept (given : OperationRun) : LoopExit → Prop
  | .left next => Keeping given next
  | .paused operation => operation.status = .paused

theorem settle_keeps (h : Keeping given state) (hgoing : state.failed = false) :
    Returns (runtime.settle state action receipt) (Kept given) := by
  unfold OperationRuntime.settle
  refine Returns.ite (fun _ => Returns.pure { h with }) fun _ => ?_
  refine Returns.ite (fun _ => Returns.pure { h with }) fun _ => ?_
  dsimp only
  refine Returns.ite (fun _ => ?_) fun _ => Returns.ite (fun _ => ?_) fun _ => ?_
  · refine Returns.bind noted_returns fun noted hnoted => Returns.bind_any fun _ => Returns.pure ?_
    obtain ⟨updatedAtIso, event, -, -, rfl⟩ := hnoted
    exact { h with failed := fun hfailed => absurd hfailed (by simp [hgoing]) }
  · exact Returns.bind_any fun _ => Returns.bind_any fun _ => Returns.pure rfl
  · refine Returns.bind fail_fails fun failed hfailed => Returns.pure ?_
    obtain ⟨updatedAtIso, events, rfl⟩ := hfailed
    exact { h with failed := fun _ => rfl }

theorem iterate_keeps (h : Keeping given state) (hgoing : state.failed = false) :
    Returns (runtime.iterate context state) (Kept given) := by
  unfold OperationRuntime.iterate
  split
  · refine Returns.bind_any fun _ => Returns.bind fail_fails fun failed hfailed => Returns.pure ?_
    obtain ⟨updatedAtIso, events, rfl⟩ := hfailed
    exact { h with failed := fun _ => rfl }
  next action hready =>
  split
  · exact Returns.raise _
  next decision _ =>
  obtain ⟨key, hentry⟩ := (mem_ready (mem_of_firstReady hready)).1
  have hpending : action.actionId ∈ state.pending.keys := by
    rw [← h.keyed _ hentry]
    exact Dict.mem_keys.mpr ⟨action, hentry⟩
  refine Returns.bind_any fun _ => Returns.bind startAction_marks fun started hstarted => ?_
  refine Returns.bind checkpointIfRequired_keeps fun checked hchecked => ?_
  refine Returns.bind perform_actionId fun receipt hreceipt => ?_
  refine Returns.bind appendReceipt_appends fun later hlater => ?_
  obtain ⟨updatedAtIso, event, rfl⟩ := hlater
  refine settle_keeps (h.received hpending ?_ hreceipt ⟨rfl, rfl⟩ hgoing) hgoing
  rw [hchecked.1, hchecked.2]
  exact hstarted

def Concluding (given : OperationRun) : LoopExit → Prop
  | .left last => Keeping given last ∧ (last.pending.entries = [] ∨ last.failed = true)
  | .paused operation => operation.status = .paused

theorem runLoop_keeps {rounds : Nat} (h : Keeping given state) :
    Returns (runtime.runLoop context rounds state) (Concluding given) := by
  induction rounds generalizing state with
  | zero => exact Returns.bind_any fun _ => Returns.raise _
  | succ rounds ih =>
    unfold OperationRuntime.runLoop
    refine Returns.ite (fun hended => Returns.pure ⟨h, hended⟩) fun hgoing => ?_
    refine Returns.bind (iterate_keeps h (Bool.eq_false_of_not_eq_true fun hfailed => hgoing (.inr hfailed)))
      fun exit hexit => ?_
    cases exit with
    | left next => exact ih hexit
    | paused operation => exact Returns.pure hexit

/-- Authorization gives all actions of the plan a status; if it is passed, all the same one. -/
structure Authorizing (operation authorized : OperationRun) : Prop where
  receipted : authorized.actionReceipts = operation.actionReceipts
  planned : authorized.plan.actionIds = operation.plan.actionIds
  status_ne : authorized.status ≠ .completed
  marked : authorized.status = .authorized →
    ∀ action ∈ authorized.plan.actions, action.status = .authorized

theorem authorizationStatus_ne_completed (denied pending : List PolicyDecision) :
    OperationRuntime.authorizationStatus denied pending ≠ .completed := by
  unfold OperationRuntime.authorizationStatus
  split
  · nofun
  · split
    · nofun
    · nofun

theorem status_of_markAction {decisions : List PolicyDecision} {original marked : ActionInstance}
    (hallowed : ∀ decision ∈ decisions, decision.outcome = .allow)
    (h : OperationRuntime.markAction (Dict.ofList (decisions.map fun decision => (decision.actionId, decision)))
      original = .ok marked) : marked.status = .authorized := by
  unfold OperationRuntime.markAction at h
  split at h
  next decision hfound =>
    obtain ⟨found, hmem, heq⟩ := List.mem_map.mp (Dict.mem_of_mem_ofList (Dict.get?_eq_some.mp hfound))
    obtain rfl := (Prod.mk.inj heq).2
    rw [← Except.ok.inj h, hallowed _ hmem]
    rfl
  next => cases h

theorem authorize_authorizing :
    Returns (runtime.authorize operation policy context) (Authorizing operation) := by
  unfold OperationRuntime.authorize
  refine Returns.bind_any fun decisions => Returns.bind (Returns.attempt fun marked hmarked => hmarked)
    fun marked hmarked => ?_
  refine Returns.bind noted_returns fun noted hnoted => Returns.bind_any fun _ => Returns.pure ?_
  obtain ⟨updatedAtIso, event, -, -, rfl⟩ := hnoted
  refine ⟨rfl, RecoveryPlan.actionIds_of_unmarked (mapM_markAction_unmarked hmarked),
    authorizationStatus_ne_completed _ _, fun hstatus action hmem => ?_⟩
  obtain ⟨original, -, horiginal⟩ := mem_of_mapM hmarked hmem
  exact status_of_markAction (authorizationStatus_eq_authorized hstatus) horiginal

theorem mem_keys_startLoop {rollbackOnFailure : Bool} {actionId : String} :
    actionId ∈ (startLoop operation rollbackOnFailure).pending.keys ↔
      actionId ∈ operation.plan.actionIds ∧ actionId ∉ successfulIds operation.actionReceipts := by
  rw [startLoop, Dict.mem_keys_ofList, List.map_map, List.mem_map]
  constructor
  · rintro ⟨action, hmem, rfl⟩
    obtain ⟨haction, hnew⟩ := List.mem_filter.mp hmem
    exact ⟨List.mem_map_of_mem haction, of_decide_eq_true hnew⟩
  · rintro ⟨hplanned, hnew⟩
    obtain ⟨action, haction, rfl⟩ := List.mem_map.mp hplanned
    exact ⟨action, List.mem_filter.mpr ⟨haction, decide_eq_true hnew⟩, rfl⟩

theorem startLoop_keeps {rollbackOnFailure : Bool}
    (hmarked : ∀ action ∈ operation.plan.actions, action.status = .authorized)
    (hreceipted : operation.actionReceipts = given.actionReceipts)
    (hplanned : operation.plan.actionIds = given.plan.actionIds) :
    Keeping given (startLoop operation rollbackOnFailure) where
  planned := hplanned
  keyed := by
    intro entry hentry
    obtain ⟨action, -, heq⟩ := List.mem_map.mp (Dict.mem_of_mem_ofList hentry)
    rw [← heq]
  unsuccessful := fun actionId hkey => hreceipted ▸ (mem_keys_startLoop.mp hkey).2
  accounted := by
    intro action haction hgone
    refine .inr ⟨hmarked action haction, ?_⟩
    rw [← hreceipted]
    by_contra hnew
    exact hgone (mem_keys_startLoop.mpr ⟨List.mem_map_of_mem haction, hnew⟩)
  failed := fun hfailed => absurd hfailed Bool.false_ne_true

theorem sealRun_keeps {conditions : Option (List VerificationCondition)} :
    Returns (runtime.sealRun operation context conditions) fun sealed =>
      sealed.actionReceipts = operation.actionReceipts ∧ sealed.plan = operation.plan := by
  unfold OperationRuntime.sealRun
  refine Returns.bind noted_returns fun verifying hverifying => ?_
  obtain ⟨updatedAtIso, event, -, -, rfl⟩ := hverifying
  refine Returns.bind_any fun results => Returns.bind_any fun completedAtIso => ?_
  refine Returns.bind noted_returns fun noted hnoted => Returns.bind_any fun _ => Returns.pure ?_
  obtain ⟨sealedAtIso, sealEvent, -, -, rfl⟩ := hnoted
  exact ⟨rfl, rfl⟩

theorem rollbackIfAsked_failed {rollbackOnFailure : Bool} (h : state.operation.status = .failed) :
    Returns (runtime.rollbackIfAsked context state rollbackOnFailure)
      fun rolled => rolled.status = .failed := by
  unfold OperationRuntime.rollbackIfAsked OperationRuntime.rollback
  refine Returns.ite (fun _ => ?_) fun _ => Returns.pure h
  refine Returns.bind_any fun _ => Returns.bind_any fun _ => Returns.bind_any fun _ => ?_
  refine Returns.bind_any fun _ => Returns.bind_any fun _ => Returns.bind_any fun _ => ?_
  exact Returns.pure rfl

theorem Keeping.reflects_iff (h : Keeping given state) (hnone : state.pending.entries = [])
    (hreceipted : later.actionReceipts = state.operation.actionReceipts)
    (hplanned : later.plan = state.operation.plan) :
    (∀ action ∈ later.plan.actions, Reflects later action) ↔ FromScratch given := by
  have hdealt : ∀ action ∈ later.plan.actions, DealtWith given later action := by
    intro action haction
    rw [hplanned] at haction
    refine (h.accounted action haction ?_).congr hreceipted
    simp [Dict.keys, hnone]
  constructor
  · intro hall actionId hactionId hsucceeded
    rw [← h.planned, ← hplanned] at hactionId
    obtain ⟨action, haction, rfl⟩ := List.mem_map.mp hactionId
    rcases hdealt action haction with ⟨-, hfresh⟩ | ⟨hstatus, -⟩
    · exact hfresh hsucceeded
    · obtain ⟨receipt, -, hreceipt⟩ := hall action haction
      exact receiptEvent_ne_authorized _ (hreceipt.symm.trans hstatus)
  · intro hscratch action haction
    refine ((hdealt action haction).resolve_right fun hpassed => ?_).1
    refine hscratch action.actionId ?_ hpassed.2
    rw [← h.planned, ← hplanned]
    exact List.mem_map_of_mem haction

theorem run_reflects_iff {conditions : Option (List VerificationCondition)} {rollbackOnFailure : Bool} :
    Returns (runtime.run given policy context conditions rollbackOnFailure) fun final =>
      final.status = .completed →
        ((∀ action ∈ final.plan.actions, Reflects final action) ↔ FromScratch given) := by
  unfold OperationRuntime.run
  refine Returns.bind authorize_authorizing fun authorized hauthorized => ?_
  refine Returns.ite (fun _ => Returns.pure ?_) fun hpassed => ?_
  · exact fun hstatus => absurd hstatus hauthorized.status_ne
  rw [ne_eq, not_not] at hpassed
  refine Returns.bind_any fun now => Returns.bind_any fun event => Returns.bind_any fun _ => ?_
  dsimp only
  refine Returns.bind (runLoop_keeps (startLoop_keeps (hauthorized.marked hpassed) hauthorized.receipted
    hauthorized.planned)) fun exit hexit => ?_
  cases exit with
  | paused operation =>
    refine Returns.pure fun hstatus => ?_
    rw [show operation.status = .paused from hexit] at hstatus
    cases hstatus
  | left last =>
    refine Returns.ite (fun hfailed => ?_) fun hpassed => ?_
    · refine Returns.bind (rollbackIfAsked_failed (hexit.1.failed hfailed)) fun rolled hrolled =>
        Returns.bind_any fun _ => Returns.pure fun hstatus => ?_
      rw [hrolled] at hstatus
      cases hstatus
    · refine sealRun_keeps.mono fun sealed hsealed _ => ?_
      exact hexit.1.reflects_iff (hexit.2.resolve_right hpassed) hsealed.1 hsealed.2

end Loop

section Histories

variable {runtime : OperationRuntime} {creation : Creation} {done : List Call} {call : Call}
  {given final : OperationRun}

def Call.executes : Call → Bool
  | .run .. | .resume .. => true
  | _ => false

/-- After these calls on the operation, the next one executes what is left of its plan and seals it
as completed. -/
structure Completes (runtime : OperationRuntime) (creation : Creation) (done : List Call) (call : Call)
    (given final : OperationRun) : Prop where
  latest : latest (runtime.session creation done).log = some given
  executes : call.executes = true
  returned : ((call.perform runtime given).exec (runtime.session creation done)).1 = .ok final
  completed : final.status = .completed

theorem Completes.reflects_iff (h : Completes runtime creation done call given final) :
    (∀ action ∈ final.plan.actions, Reflects final action) ↔ FromScratch given := by
  obtain ⟨hlatest, hexecutes, hreturned, hcompleted⟩ := h
  rcases hexec : (call.perform runtime given).exec (runtime.session creation done) with ⟨result, reached⟩
  rw [hexec] at hreturned
  dsimp only at hreturned
  subst hreturned
  cases call with
  | run policy context conditions rollbackOnFailure => exact run_reflects_iff.apply hexec hcompleted
  | resume policy context conditions =>
    rw [Call.perform, OperationRuntime.resume] at hexec
    obtain ⟨loaded, between, hload, hrest⟩ := Program.exec_bind_ok hexec
    have hloaded : loaded = given := by
      have hrule := @load_rule runtime _ _ hlatest _ rfl
      rw [hload] at hrule
      exact hrule.1
    subst hloaded
    split at hrest
    · cases hrest
    · obtain ⟨noted, after, hnoted, hsaved⟩ := Program.exec_bind_ok hrest
      obtain ⟨updatedAtIso, event, -, -, rfl⟩ := noted_returns.apply hnoted
      obtain ⟨_, written, -, hrun⟩ := Program.exec_bind_ok hsaved
      have hreflects := run_reflects_iff.apply hrun hcompleted
      exact hreflects
  | _ => cases hexecutes

/-- In a history of calls, every operation sealed as completed has the statuses that its latest
receipts imply exactly if every one was sealed by a call that had nothing executed before. -/
theorem completions_reflect_iff (runtime : OperationRuntime) (creation : Creation) (calls : List Call) :
    (∀ done call given final, done ++ [call] <+: calls →
      Completes runtime creation done call given final →
        ∀ action ∈ final.plan.actions, Reflects final action) ↔
    ∀ done call given final, done ++ [call] <+: calls →
      Completes runtime creation done call given final → FromScratch given := by
  constructor
  · intro h done call given final hcalls hcompletes
    exact hcompletes.reflects_iff.mp (h done call given final hcalls hcompletes)
  · intro h done call given final hcalls hcompletes
    exact hcompletes.reflects_iff.mpr (h done call given final hcalls hcompletes)

end Histories

section Examples

open DockerHost

def simulatedContext : RuntimeContext :=
  { liveContext with executionContext := { liveContext.executionContext with mode := "simulation" } }

/-- A wait has succeeded and the one behind it has failed; the resumed run completes the operation
and leaves the first action authorized. -/
theorem resumed_action_stale :
    ((latest (waitingRuntime.session (creation [waitFor "cache" true, waitFor "ready" false])
      [.run policy liveContext none false, .resume policy simulatedContext none]).log).any fun operation =>
        operation.status = .completed ∧
        operation.actionReceipts.map (fun receipt => (receipt.actionId, receipt.status)) =
          [("action:wait:cache", .completed), ("action:wait:ready", .failed),
            ("action:wait:ready", .completed)] ∧
        operation.plan.actions.map (fun action => (action.actionId, action.status)) =
          [("action:wait:cache", .authorized), ("action:wait:ready", .completed)]) = true := by
  decide +kernel

end Examples

end KubeOps.Execution
