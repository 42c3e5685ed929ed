import KubeOps.Execution.Session
import KubeOps.Foundation.Segments

/-! The ids receipts are given. An id names the action it is for before its last
segment, so that receipts for different actions never share one. -/
namespace KubeOps.Execution

open KubeOps.Foundation KubeOps.Models KubeOps.Policy KubeOps.Actions

def receiptId (operationId actionId mark : String) : String :=
  s!"receipt:{operationId}:{actionId}:{mark}"

theorem receiptId_dryRun (operationId actionId : String) :
    s!"receipt:{operationId}:{actionId}:dry-run" = receiptId operationId actionId "dry-run" := by
  change _ ++ (":" ++ "dry-run") = _
  rw [← String.append_assoc]
  rfl

theorem receiptId_idempotent (operationId actionId : String) :
    s!"receipt:{operationId}:{actionId}:idempotent" = receiptId operationId actionId "idempotent" := by
  change _ ++ (":" ++ "idempotent") = _
  rw [← String.append_assoc]
  rfl

/-- The ids that executors and the idempotency guard make up for an action. -/
inductive Mints (operationId : String) (context : ExecutionContext) (actionId : String) :
    String → Prop where
  | attempted (attempt : Nat) : Mints operationId context actionId
      (receiptId context.operationId actionId (toString attempt))
  | dryRun : Mints operationId context actionId (receiptId context.operationId actionId "dry-run")
  | idempotent : Mints operationId context actionId (receiptId operationId actionId "idempotent")

/-- What every executor keeps to: the id of a receipt is made of the operation,
the action and the attempt, and only a rollback reports `rolled_back`. -/
structure Conventional (executor : ActionExecutor) : Prop where
  receiptId_eq : ∀ trace action definition context attempt outcome,
    executor.execute trace action definition context attempt = .ok outcome →
      outcome.receiptId = receiptId context.operationId action.actionId (toString attempt) ∨
        outcome.receiptId = receiptId context.operationId action.actionId "dry-run"
  status_ne : ∀ trace action definition context attempt outcome,
    executor.execute trace action definition context attempt = .ok outcome →
      outcome.status ≠ .rolledBack

def ExecutorRegistry.Conventional (registry : ExecutorRegistry) : Prop :=
  ∀ executor ∈ registry.items.values, Execution.Conventional executor

theorem simulationExecutor_conventional (utcNowIso : Nat → String) :
    Conventional (simulationExecutor utcNowIso) := by
  constructor
  · rintro trace action definition context attempt outcome ⟨⟩
    exact Or.inl rfl
  · rintro trace action definition context attempt outcome ⟨⟩
    exact nofun

theorem dryRunExecutor_conventional (utcNowIso : Nat → String) :
    Conventional (dryRunExecutor utcNowIso) := by
  constructor
  · rintro trace action definition context attempt outcome ⟨⟩
    exact Or.inr (receiptId_dryRun _ _)
  · rintro trace action definition context attempt outcome ⟨⟩
    exact nofun

theorem waitExecutor_conventional (utcNowIso : Nat → String) :
    Conventional (waitExecutor utcNowIso) := by
  constructor
  · rintro trace action definition context attempt outcome ⟨⟩
    exact Or.inl rfl
  · rintro trace action definition context attempt outcome ⟨⟩
    dsimp only
    split <;> exact nofun

section Ids

variable {operationId : String} {context : ExecutionContext} {actionId other id : String}

theorem receiptId_inj {left right mark sign : String} (hmark : Unbroken ':' mark)
    (hsign : Unbroken ':' sign)
    (h : receiptId left actionId mark = receiptId right other sign) :
    left ++ ":" ++ actionId = right ++ ":" ++ other ∧ mark = sign := by
  obtain ⟨hfront, hback⟩ := last_segment_inj ':' hmark hsign h
  refine ⟨?_, hback⟩
  have hassoc : ∀ operationId actionId : String, s!"receipt:{operationId}:{actionId}" =
      "receipt:" ++ (operationId ++ ":" ++ actionId) := by
    intro operationId actionId
    change "receipt:" ++ operationId ++ ":" ++ actionId = _
    simp only [String.append_assoc]
  exact (String.append_right_inj "receipt:").mp
    ((hassoc left actionId).symm.trans (hfront.trans (hassoc right other)))

theorem toString_ne_idempotent (attempt : Nat) : toString attempt ≠ "idempotent" := by
  intro h
  have hmem : 'i' ∈ (toString attempt).toList := by
    rw [h]
    decide
  have hdigit := Nat.isDigit_of_mem_toDigits (b := 10) (n := attempt) (by decide) (by decide)
    (Nat.toList_repr ▸ hmem)
  exact absurd hdigit (by decide)

theorem Mints.exists_mark (h : Mints operationId context actionId id) :
    ∃ mark, Unbroken ':' mark ∧ id = receiptId
      (if mark = "idempotent" then operationId else context.operationId) actionId mark := by
  cases h with
  | attempted attempt =>
    refine ⟨_, Unbroken.toString attempt, ?_⟩
    rw [if_neg (toString_ne_idempotent attempt)]
  | dryRun => exact ⟨"dry-run", by decide, rfl⟩
  | idempotent => exact ⟨"idempotent", by decide, rfl⟩

theorem Mints.actionId_inj (h : Mints operationId context actionId id)
    (hother : Mints operationId context other id) : actionId = other := by
  obtain ⟨mark, hmark, rfl⟩ := h.exists_mark
  obtain ⟨sign, hsign, heq⟩ := hother.exists_mark
  obtain ⟨hsame, rfl⟩ := receiptId_inj hmark hsign heq
  exact (String.append_right_inj _).mp hsame

end Ids

structure Stamped (operationId : String) (context : ExecutionContext) (action : ActionInstance)
    (receipt : ActionReceipt) : Prop where
  actionId : receipt.actionId = action.actionId
  minted : Mints operationId context action.actionId receipt.receiptId
  status_ne : receipt.status ≠ .rolledBack

section Stamps

variable {runtime : OperationRuntime} {operation : OperationRun} {action : ActionInstance}
  {executor : ActionExecutor} {definition : ActionTypeDefinition} {context : RuntimeContext}

theorem attempts_stamped (hexecutor : Conventional executor) {context : ExecutionContext}
    (remaining attempt : Nat) (last : Option ActionReceipt)
    (hlast : ∀ receipt, last = some receipt → Stamped operation.operationId context action receipt) :
    Returns (OperationRuntime.attempts operation executor action definition context remaining attempt
      last) (Stamped operation.operationId context action) := by
  induction remaining generalizing attempt last with
  | zero =>
    cases last with
    | none => exact Returns.raise _
    | some receipt => exact Returns.pure (hlast receipt rfl)
  | succ remaining ih =>
    unfold OperationRuntime.attempts
    refine Returns.bind_any fun _ => Returns.bind (m := fun outcome =>
      Stamped operation.operationId context action (executor.receipt action context attempt outcome))
      ?_ fun outcome hstamped => ?_
    · refine Returns.consult fun trace outcome houtcome => ⟨rfl, ?_, ?_⟩
      · change Mints _ _ _ outcome.receiptId
        rcases hexecutor.receiptId_eq _ _ _ _ _ _ houtcome with hid | hid
        · rw [hid]
          exact Mints.attempted attempt
        · rw [hid]
          exact Mints.dryRun
      · exact hexecutor.status_ne _ _ _ _ _ _ houtcome
    · refine Returns.ite (fun _ => Returns.pure hstamped) fun _ => ih _ _ ?_
      rintro receipt ⟨⟩
      exact hstamped

theorem executeAction_stamped (hexecutors : runtime.executors.Conventional) :
    Returns (runtime.executeAction operation action context)
      (Stamped operation.operationId context.executionContext action) := by
  unfold OperationRuntime.executeAction
  refine Returns.bind_any fun definition => Returns.ite (fun _ => Returns.raise _) fun _ => ?_
  refine Returns.bind (m := Conventional) (Returns.attempt fun executor hget => ?_)
    fun executor hexecutor => attempts_stamped hexecutor _ _ none nofun
  exact hexecutors executor (ExecutorRegistry.mem_of_get hget)

theorem perform_stamped (hexecutors : runtime.executors.Conventional) {successfulKeys : List String} :
    Returns (runtime.perform context operation successfulKeys action)
      (Stamped operation.operationId context.executionContext action) := by
  unfold OperationRuntime.perform
  refine Returns.ite (fun _ => ?_) fun _ => executeAction_stamped hexecutors
  unfold OperationRuntime.alreadySatisfied
  refine Returns.bind_any fun now => Returns.pure ⟨rfl, ?_, nofun⟩
  exact receiptId_idempotent _ _ ▸ Mints.idempotent

end Stamps

end KubeOps.Execution
