import KubeOps.Execution.Progress
import KubeOps.Foundation.Interleaving

/-! What one call of `run` may do to the outside, entry by entry. The entries of
a run are judged by what the same run did before them. -/
namespace KubeOps.Execution

open KubeOps.Foundation KubeOps.Models KubeOps.Policy KubeOps.Actions

/-- The actions with a completed, already satisfied or skipped receipt. -/
def successfulIds (receipts : List ActionReceipt) : List String :=
  (receipts.filter fun receipt => receipt.status.successful).map ActionReceipt.actionId

def Effect.startedId : Effect → Option String
  | .started _ action => some action.actionId
  | _ => none

def startedIds (log : Log) : List String := log.filterMap Effect.startedId

theorem startedIds_concat (log : Log) (effect : Effect) :
    startedIds (log ++ [effect]) = startedIds log ++ effect.startedId.toList := by
  rw [startedIds, startedIds, List.filterMap_append]
  cases h : effect.startedId <;> simp [h]

theorem startedIds_concat_other {log : Log} {effect : Effect} (h : effect.startedId = none) :
    startedIds (log ++ [effect]) = startedIds log := by
  simp [startedIds_concat, h]

theorem mem_successfulIds {receipts : List ActionReceipt} {actionId : String} :
    actionId ∈ successfulIds receipts ↔
      ∃ receipt ∈ receipts, receipt.status.successful ∧ receipt.actionId = actionId := by
  simp [successfulIds, and_assoc]

theorem successfulIds_append (receipts more : List ActionReceipt) :
    successfulIds (receipts ++ more) = successfulIds receipts ++ successfulIds more := by
  simp [successfulIds]

theorem successfulIds_sublist (receipts : List ActionReceipt) :
    List.Sublist (successfulIds receipts) (receipts.map ActionReceipt.actionId) :=
  List.filter_sublist.map _

def policyContextFor (operation : OperationRun) (context : RuntimeContext) : PolicyContext :=
  { context.policyContext with executionMode := effectiveMode operation context }

/-- `operation` has a completed receipt for which `action` is the compensation. -/
def Compensates (catalog : ActionCatalog) (operation : OperationRun) (action : ActionInstance) :
    Prop :=
  ∃ receipt ∈ operation.actionReceipts, receipt.status = .completed ∧
    ∃ original ∈ operation.plan.actions, original.actionId = receipt.actionId ∧
      ∃ definition rollbackActionTypeId rollbackDefinition,
        catalog.get original.actionTypeId = .ok definition ∧
        definition.rollbackActionTypeId.filter (· ≠ "") = some rollbackActionTypeId ∧
        catalog.get rollbackActionTypeId = .ok rollbackDefinition ∧
        action = OperationRuntime.rollbackAction original rollbackDefinition

/-- The dependency has succeeded, or failed since `given` and was tolerated. -/
def Settled (given operation : OperationRun) (dependency : String) : Prop :=
  dependency ∈ successfulIds operation.actionReceipts ∨
  ((∃ receipt ∈ operation.actionReceipts.drop given.actionReceipts.length,
      receipt.actionId = dependency ∧ ¬ receipt.status.successful) ∧
    ((∃ action ∈ given.plan.actions, action.actionId = dependency ∧ action.isOptional) ∨
      ∃ event ∈ operation.events.drop given.events.length,
        event.eventType = "action.failure_tolerated" ∧ event.actionId = some dependency))

theorem Settled.extend {given earlier later : OperationRun} {dependency : String}
    {receipts more : List ActionReceipt} {events others : List OperationEvent}
    (h : Settled given earlier dependency) (hgiven : Extends given earlier receipts events)
    (hnext : Extends earlier later more others) : Settled given later dependency := by
  have hlater := hgiven.trans hnext
  rcases h with hsuccess | ⟨⟨receipt, hreceipt, hid, hfailed⟩, htolerated⟩
  · left
    rw [hnext.receipted, successfulIds_append]
    exact List.mem_append_left _ hsuccess
  · right
    rw [hgiven.receipted, List.drop_left] at hreceipt
    rw [hgiven.recorded, List.drop_left] at htolerated
    rw [hlater.receipted, List.drop_left, hlater.recorded, List.drop_left]
    refine ⟨⟨receipt, List.mem_append_left _ hreceipt, hid, hfailed⟩, htolerated.imp_right ?_⟩
    rintro ⟨event, hevent, htype, haction⟩
    exact ⟨event, List.mem_append_left _ hevent, htype, haction⟩

section Permits

variable (runtime : OperationRuntime) (given : OperationRun) (policy : ExecutionPolicy)
  (context : RuntimeContext) (base : Log)

/-- The engine gave `decision` on `action`, for the definition the catalog has of it. -/
def Evaluated (action : ActionInstance) (definition : ActionTypeDefinition)
    (decision : PolicyDecision) : Prop :=
  runtime.actions.validateInstance runtime.python action = .ok definition ∧
    ∃ now evaluatedAtIso, evaluate runtime.python now action definition policy
      (policyContextFor given context) given.approvals evaluatedAtIso = .ok decision

/-- The run has had `action`, its mark aside, evaluated to `allow` before. -/
def Allowed (before : Log) (action : ActionInstance) : Prop :=
  ∃ evaluated definition decision,
    .evaluated evaluated definition policy (policyContextFor given context) given.approvals decision
      ∈ before ∧
    evaluated.unmarked = action.unmarked ∧ decision.outcome = .allow

/-- `action` undoes something in a rollback announced before. -/
def Compensating (before : Log) (action : ActionInstance) : Prop :=
  ∃ operation, .rollingBack operation context.executionContext ∈ before ∧
    Compensates runtime.actions operation action

def ReceiptFor (before : Log) (receipt : ActionReceipt) : Prop :=
  receipt.actionId ∈ given.plan.actionIds ∨
    ∃ action, Compensating runtime context before action ∧ receipt.actionId = action.actionId

/-- The journal, where it holds a run, holds no receipt that `operation` lacks. -/
def Grown (log : Log) (operation : OperationRun) : Prop :=
  ∀ previous, latest log = some previous → previous.actionReceipts <+: operation.actionReceipts

/-- `operation` continues `given`, and its new receipts come from the actions
started. The journal's receipts only grow if `given` had all of them. -/
def Progress (before : Log) (operation : OperationRun) : Prop :=
  (∃ receipts events, Extends given operation receipts events ∧
    List.Sublist (successfulIds receipts) (startedIds before) ∧
    ∀ receipt ∈ receipts, ReceiptFor runtime given context before receipt) ∧
  (Grown base given → Grown (base ++ before) operation)

/-- An invocation for the action started last: allowed, not successful so far,
and made while the journal holds the operation it is made for. -/
def Forward (before : Log) (operation : OperationRun) (action : ActionInstance) : Prop :=
  Allowed given policy context before action ∧
    (startedIds before).getLast? = some action.actionId ∧
    action.actionId ∉ successfulIds operation.actionReceipts ∧
    latest (base ++ before) = some operation

/-- The entries a run may add after `before`. -/
def RunPermits (before : Log) : Effect → Prop
  | .evaluated action definition usedPolicy usedContext approvals decision =>
    action ∈ given.plan.actions ∧ usedPolicy = policy ∧
      usedContext = policyContextFor given context ∧ approvals = given.approvals ∧
      Evaluated runtime given policy context action definition decision
  | .started operation action =>
    Progress runtime given context base before operation ∧
      (∃ original ∈ given.plan.actions, original.unmarked = action.unmarked) ∧
      action.actionId ∉ startedIds before ∧
      action.actionId ∉ successfulIds given.actionReceipts ∧
      ∀ dependency ∈ action.dependsOnActionIds, Settled given operation dependency
  | .blocked _ => False
  | .cutOff _ => False
  | .rollingBack operation usedContext =>
    usedContext = context.executionContext ∧ Progress runtime given context base before operation
  | .invoked operation _ action usedContext _ =>
    usedContext = context.executionContext ∧ Progress runtime given context base before operation ∧
      (Forward given policy context base before operation action ∨
        Compensating runtime context before action)
  | .saved operation => Progress runtime given context base before operation

end Permits

section Facts

variable {runtime : OperationRuntime} {given : OperationRun} {policy : ExecutionPolicy}
  {context : RuntimeContext} {base before : Log}

theorem Allowed.concat {action : ActionInstance} (h : Allowed given policy context before action)
    (effect : Effect) : Allowed given policy context (before ++ [effect]) action := by
  obtain ⟨evaluated, definition, decision, hmem, hsame, houtcome⟩ := h
  exact ⟨evaluated, definition, decision, List.mem_append_left _ hmem, hsame, houtcome⟩

theorem Compensating.concat {action : ActionInstance} (h : Compensating runtime context before action)
    (effect : Effect) : Compensating runtime context (before ++ [effect]) action := by
  obtain ⟨operation, hmem, hcompensates⟩ := h
  exact ⟨operation, List.mem_append_left _ hmem, hcompensates⟩

theorem ReceiptFor.concat {receipt : ActionReceipt}
    (h : ReceiptFor runtime given context before receipt) (effect : Effect) :
    ReceiptFor runtime given context (before ++ [effect]) receipt := by
  rcases h with hplan | ⟨action, hcompensating, hid⟩
  · exact Or.inl hplan
  · exact Or.inr ⟨action, hcompensating.concat effect, hid⟩

theorem Grown.of_latest {log : Log} {previous operation : OperationRun}
    (hlatest : latest log = some previous)
    (hreceipts : previous.actionReceipts <+: operation.actionReceipts) : Grown log operation := by
  intro found hfound
  rw [hlatest, Option.some.injEq] at hfound
  exact hfound ▸ hreceipts

theorem Progress.append {operation later : OperationRun} {receipts : List ActionReceipt}
    {events : List OperationEvent} (h : Progress runtime given context base before operation)
    (hnext : Extends operation later receipts events)
    (hsuccessful : successfulIds receipts = [])
    (hfor : ∀ receipt ∈ receipts, ReceiptFor runtime given context before receipt) :
    Progress runtime given context base before later := by
  obtain ⟨⟨earlier, recorded, hextends, hsublist, hearlier⟩, hgrown⟩ := h
  refine ⟨⟨_, _, hextends.trans hnext, ?_, ?_⟩, ?_⟩
  · rw [successfulIds_append, hsuccessful, List.append_nil]
    exact hsublist
  · intro receipt hmem
    rcases List.mem_append.mp hmem with hold | hnew
    · exact hearlier receipt hold
    · exact hfor receipt hnew
  · intro hbase previous hprevious
    rw [hnext.receipted]
    exact (hgrown hbase previous hprevious).trans (List.prefix_append _ _)

theorem Progress.quiet {operation later : OperationRun} {events : List OperationEvent}
    (h : Progress runtime given context base before operation)
    (hnext : Extends operation later [] events) :
    Progress runtime given context base before later :=
  h.append hnext rfl fun _ hmem => absurd hmem List.not_mem_nil

theorem Progress.concat {operation : OperationRun} {effect : Effect}
    (h : Progress runtime given context base before operation)
    (heffect : effect.savedRun = none ∨ effect = .saved operation) :
    Progress runtime given context base (before ++ [effect]) operation := by
  obtain ⟨⟨receipts, events, hextends, hsublist, hfor⟩, hgrown⟩ := h
  refine ⟨⟨receipts, events, hextends, ?_, fun receipt hmem => (hfor receipt hmem).concat effect⟩, ?_⟩
  · rw [startedIds_concat]
    exact hsublist.trans (List.sublist_append_left _ _)
  · rw [← List.append_assoc]
    rcases heffect with hother | rfl
    · intro hbase previous hprevious
      rw [latest_concat_other hother] at hprevious
      exact hgrown hbase previous hprevious
    · exact fun _ => Grown.of_latest (latest_concat_saved _ _) List.prefix_rfl

theorem Progress.refl : Progress runtime given context base [] given := by
  refine ⟨⟨[], [], Extends.refl given, List.nil_sublist _, ?_⟩, ?_⟩
  · exact fun _ hmem => absurd hmem List.not_mem_nil
  · rw [List.append_nil]
    exact id

theorem startedIds_nodup {segment : Log}
    (h : Monitored (RunPermits runtime given policy context base) segment) :
    (startedIds segment).Nodup := by
  induction segment using List.reverseRecOn with
  | nil => exact List.nodup_nil
  | append_singleton segment effect ih =>
    obtain ⟨hsegment, heffect⟩ := Monitored.concat_iff.mp h
    rw [startedIds_concat]
    cases effect with
    | started operation action =>
      refine List.nodup_append.mpr ⟨ih hsegment, List.nodup_singleton _, ?_⟩
      intro left hleft right hright heq
      rw [List.mem_singleton.mp hright] at heq
      exact heffect.2.2.1 (heq ▸ hleft)
    | _ => simpa [Effect.startedId] using ih hsegment

theorem mem_startedIds {segment : Log} {actionId : String}
    (h : Monitored (RunPermits runtime given policy context base) segment)
    (hmem : actionId ∈ startedIds segment) :
    actionId ∈ given.plan.actionIds ∧ actionId ∉ successfulIds given.actionReceipts := by
  obtain ⟨effect, heffect, hid⟩ := List.mem_filterMap.mp hmem
  obtain ⟨before, -, hpermits⟩ := h.permits_of_mem heffect
  cases effect with
  | started operation action =>
    obtain rfl : action.actionId = actionId := Option.some.inj hid
    obtain ⟨-, ⟨original, horiginal, hsame⟩, -, hunsuccessful, -⟩ := hpermits
    refine ⟨?_, hunsuccessful⟩
    rw [show action.actionId = original.actionId from
      (congrArg ActionInstance.actionId hsame).symm]
    exact List.mem_map_of_mem horiginal
  | _ => cases hid

end Facts

/-- So far everything was permitted and `operation` is where the run has got to. -/
def Carries (runtime : OperationRuntime) (given : OperationRun) (context : RuntimeContext)
    (base : Log) (permits : Log → Effect → Prop) (operation : OperationRun) (segment : Log) : Prop :=
  Monitored permits segment ∧ Progress runtime given context base segment operation

theorem Carries.saved_rule {runtime : OperationRuntime} {given operation later : OperationRun}
    {context : RuntimeContext} {permits : Log → Effect → Prop} {base : Log}
    {events : List OperationEvent} {failed : PyError → Log → Prop}
    (hpermits : ∀ before operation, Progress runtime given context base before operation →
      permits before (.saved operation))
    (hnext : Extends operation later [] events) :
    Triple (After base (Carries runtime given context base permits operation))
      (do FileOperationStore.save later; return later)
      (fun later => After base (Carries runtime given context base permits later)) failed := by
  refine OperationRuntime.saved_rule fun log h => h.concat fun segment hsegment => ?_
  have hlater := hsegment.2.quiet hnext
  exact ⟨hsegment.1.concat (hpermits _ _ hlater), hlater.concat (Or.inr rfl)⟩

end KubeOps.Execution
