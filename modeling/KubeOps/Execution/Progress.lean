import KubeOps.Execution.Runtime
import KubeOps.Models.PlanGraph

/-! What the steps of a run do to the operation they carry. Every step keeps
the plan up to status marks and only appends receipts and events. -/
namespace KubeOps.Execution

open KubeOps.Foundation KubeOps.Models KubeOps.Policy KubeOps.Actions

/-- `later` is `earlier` with these receipts and events appended. -/
structure Extends (earlier later : OperationRun) (receipts : List ActionReceipt)
    (events : List OperationEvent) : Prop where
  operationId : later.operationId = earlier.operationId
  mode : later.mode = earlier.mode
  approvals : later.approvals = earlier.approvals
  actions : later.plan.actions.map ActionInstance.unmarked =
    earlier.plan.actions.map ActionInstance.unmarked
  receipted : later.actionReceipts = earlier.actionReceipts ++ receipts
  recorded : later.events = earlier.events ++ events

namespace Extends

variable {earlier between later : OperationRun} {receipts more : List ActionReceipt}
  {events others : List OperationEvent}

theorem refl (operation : OperationRun) : Extends operation operation [] [] where
  operationId := rfl
  mode := rfl
  approvals := rfl
  actions := rfl
  receipted := (List.append_nil _).symm
  recorded := (List.append_nil _).symm

theorem trans (h : Extends earlier between receipts events)
    (hnext : Extends between later more others) :
    Extends earlier later (receipts ++ more) (events ++ others) where
  operationId := hnext.operationId.trans h.operationId
  mode := hnext.mode.trans h.mode
  approvals := hnext.approvals.trans h.approvals
  actions := hnext.actions.trans h.actions
  receipted := by rw [hnext.receipted, h.receipted, List.append_assoc]
  recorded := by rw [hnext.recorded, h.recorded, List.append_assoc]

theorem quiet (h : Extends earlier between receipts events) (hnext : Extends between later [] others) :
    Extends earlier later receipts (events ++ others) := by
  simpa using h.trans hnext

theorem mem_actions (h : Extends earlier later receipts events) {action : ActionInstance}
    (hmem : action ∈ later.plan.actions) :
    ∃ original ∈ earlier.plan.actions, original.unmarked = action.unmarked :=
  RecoveryPlan.exists_original h.actions hmem

theorem actionIds_eq (h : Extends earlier later receipts events) :
    later.plan.actionIds = earlier.plan.actionIds := RecoveryPlan.actionIds_of_unmarked h.actions

end Extends

theorem markActions_unmarked (actions : List ActionInstance) (actionId : String)
    (status : ActionStatus) :
    (OperationRuntime.markActions actions actionId status).map ActionInstance.unmarked =
      actions.map ActionInstance.unmarked := by
  rw [OperationRuntime.markActions, List.map_map]
  apply List.map_congr_left
  intro action _
  by_cases h : action.actionId = actionId <;> simp [h, ActionInstance.unmarked]

namespace OperationRuntime

variable {runtime : OperationRuntime} {pre : Log → Prop} {operation : OperationRun}
  {failed : PyError → Log → Prop}

section Steps

variable {α : Type} {post : α → Log → Prop} {posted : OperationRun → Log → Prop}

theorem bind_event {operationId : String} {sequence : Nat} {eventType title : String}
    {actionId : Option String} {details : JsonObject} {next : OperationEvent → Runtime α}
    (h : ∀ event, event.eventType = eventType → event.actionId = actionId →
      Triple pre (next event) post failed) :
    Triple pre (runtime.event operationId sequence eventType title actionId details >>= next) post
      failed := by
  refine Triple.bind (m := fun event log => (event.eventType = eventType ∧
    event.actionId = actionId) ∧ pre log) ?_ fun event trace hmid => ?_
  · unfold event utcNowIso
    refine Triple.bind_tick fun occurredAtIso => ?_
    exact Triple.pure fun log hpre => ⟨⟨rfl, rfl⟩, hpre⟩
  · exact h event hmid.1.1 hmid.1.2 trace hmid.2

theorem bind_noted {eventType title : String} {actionId : Option String} {details : JsonObject}
    {next : OperationRun → Runtime α}
    (h : ∀ later event, Extends operation later [] [event] → event.eventType = eventType →
      event.actionId = actionId → Triple pre (next later) post failed) :
    Triple pre (runtime.noted operation eventType title actionId details >>= next) post failed := by
  refine Triple.bind (m := fun later log => (∃ event, Extends operation later [] [event] ∧
    event.eventType = eventType ∧ event.actionId = actionId) ∧ pre log) ?_ fun later trace hmid => ?_
  · unfold noted utcNowIso
    refine Triple.bind_tick fun updatedAtIso => ?_
    refine bind_event fun event htype hid => Triple.pure fun log hpre => ⟨⟨event, ?_, htype, hid⟩, hpre⟩
    exact ⟨rfl, rfl, rfl, rfl, (List.append_nil _).symm, rfl⟩
  · obtain ⟨⟨event, hextends, htype, hid⟩, hpre⟩ := hmid
    exact h later event hextends htype hid trace hpre

theorem bind_fail {reason : String} {next : OperationRun → Runtime α}
    (h : ∀ later event, Extends operation later [] [event] → Triple pre (next later) post failed) :
    Triple pre (runtime.fail operation reason >>= next) post failed := by
  refine Triple.bind (m := fun later log => (∃ event, Extends operation later [] [event]) ∧
    pre log) ?_ fun later trace hmid => ?_
  · unfold fail
    refine bind_noted fun later event hextends _ _ => Triple.pure fun log hpre => ⟨⟨event, ?_⟩, hpre⟩
    exact { hextends with }
  · obtain ⟨⟨event, hextends⟩, hpre⟩ := hmid
    exact h later event hextends trace hpre

theorem saved_rule {later : OperationRun} (h : ∀ log, pre log → posted later (log ++ [.saved later])) :
    Triple pre (do FileOperationStore.save later; return later) posted failed :=
  Triple.bind_record (m := posted later) h (Triple.pure fun _ hposted => hposted)

theorem startAction_rule {actionId : String}
    (h : ∀ later event log, Extends operation later [] [event] → pre log →
      posted later (log ++ [.saved later])) :
    Triple pre (runtime.startAction operation actionId) posted failed := by
  unfold startAction utcNowIso
  refine bind_event fun event _ _ => Triple.bind_tick fun updatedAtIso => ?_
  refine saved_rule fun log => h _ event log ?_
  exact ⟨rfl, rfl, rfl, markActions_unmarked _ _ _, (List.append_nil _).symm, rfl⟩

theorem checkpoint_rule {world : WorldState}
    (h : ∀ later event log, Extends operation later [] [event] → pre log →
      posted later (log ++ [.saved later])) :
    Triple pre (runtime.checkpoint operation world) posted failed := by
  unfold checkpoint utcNowIso
  refine Triple.bind_tick fun createdAtIso => bind_event fun event _ _ => ?_
  refine Triple.bind_tick fun updatedAtIso => saved_rule fun log => h _ event log ?_
  exact ⟨rfl, rfl, rfl, rfl, (List.append_nil _).symm, rfl⟩

theorem checkpointIfRequired_rule {context : RuntimeContext} {decision : PolicyDecision}
    (hsame : ∀ log, pre log → posted operation log)
    (hsaved : ∀ later event log, Extends operation later [] [event] → pre log →
      posted later (log ++ [.saved later]))
    (hfailed : ∀ error log, pre log → failed error log) :
    Triple pre (runtime.checkpointIfRequired context operation decision) posted failed := by
  unfold checkpointIfRequired
  refine Triple.ite (fun _ => ?_) fun _ => Triple.pure hsame
  exact Triple.bind_consult (fun world => checkpoint_rule hsaved) hfailed

theorem appendReceipt_rule {receipt : ActionReceipt}
    (h : ∀ later event log, Extends operation later [receipt] [event] → pre log →
      posted later (log ++ [.saved later])) :
    Triple pre (runtime.appendReceipt operation receipt) posted failed := by
  unfold appendReceipt
  refine bind_noted fun noted event hextends _ _ => saved_rule fun log => h _ event log ?_
  refine ⟨hextends.operationId, hextends.mode, hextends.approvals, ?_, ?_, hextends.recorded⟩
  · exact (markActions_unmarked _ _ _).trans hextends.actions
  · simp [hextends.receipted]

end Steps

section Execution

variable {action : ActionInstance} {post : ActionReceipt → Log → Prop}

theorem attempts_rule {executor : ActionExecutor} {definition : ActionTypeDefinition}
    {context : ExecutionContext} (remaining attempt : Nat) (last : Option ActionReceipt)
    (hlast : ∀ receipt, last = some receipt → receipt.actionId = action.actionId)
    (hinvoked : ∀ attempt log, pre log →
      pre (log ++ [.invoked operation executor.executorId action context attempt]))
    (hfailed : ∀ error log, pre log → failed error log) :
    Triple pre (attempts operation executor action definition context remaining attempt last)
      (fun receipt log => receipt.actionId = action.actionId ∧ pre log) failed := by
  induction remaining generalizing attempt last with
  | zero =>
    cases last with
    | none => exact Triple.raise fun log hpre => hfailed _ log hpre
    | some receipt => exact Triple.pure fun log hpre => ⟨hlast receipt rfl, hpre⟩
  | succ remaining ih =>
    unfold attempts
    refine Triple.bind_record (hinvoked attempt) ?_
    refine Triple.bind_consult (fun outcome => ?_) hfailed
    refine Triple.ite (fun _ => ?_) fun _ => ?_
    · exact Triple.pure fun log hpre => ⟨rfl, hpre⟩
    · refine ih _ _ ?_
      rintro receipt ⟨⟩
      rfl

theorem executeAction_rule {context : RuntimeContext}
    (hinvoked : ∀ executorId attempt log, pre log →
      pre (log ++ [.invoked operation executorId action context.executionContext attempt]))
    (hfailed : ∀ error log, pre log → failed error log) :
    Triple pre (runtime.executeAction operation action context)
      (fun receipt log => receipt.actionId = action.actionId ∧ pre log) failed := by
  unfold executeAction validateInstance
  refine Triple.bind_attempt (fun definition _ => ?_) fun error _ => hfailed error
  refine Triple.ite (fun _ => ?_) fun _ => ?_
  · exact Triple.raise fun log hpre => hfailed _ log hpre
  · refine Triple.bind_attempt (fun executor _ => ?_) fun error _ => hfailed error
    refine attempts_rule _ _ none ?_ (hinvoked executor.executorId) hfailed
    intro receipt hnone
    cases hnone

theorem perform_rule {context : RuntimeContext} {successfulKeys : List String}
    (hinvoked : ∀ executorId attempt log, pre log →
      pre (log ++ [.invoked operation executorId action context.executionContext attempt]))
    (hfailed : ∀ error log, pre log → failed error log) :
    Triple pre (runtime.perform context operation successfulKeys action)
      (fun receipt log => receipt.actionId = action.actionId ∧ pre log) failed := by
  unfold perform
  refine Triple.ite (fun _ => ?_) fun _ => executeAction_rule hinvoked hfailed
  unfold alreadySatisfied utcNowIso
  refine Triple.bind_tick fun now => ?_
  exact Triple.pure fun log hpre => ⟨rfl, hpre⟩

end Execution

end OperationRuntime

end KubeOps.Execution
