import KubeOps.Execution.Agreement

/-! What a reconciliation makes of the receipts it is given: the run as it was, where
their projection is the one recorded, and otherwise the run with the merged receipts, the
statuses they stand for and the hash of the projection. -/
namespace KubeOps.Execution

open KubeOps.Foundation KubeOps.Models

section Lookup

variable {receipts own external : List ActionReceipt} {receipt : ActionReceipt} {actionId : String}

theorem mem_of_latestReceipt (h : latestReceipt receipts actionId = some receipt) :
    receipt ∈ receipts ∧ receipt.actionId = actionId := by
  have hentry := Dict.mem_of_mem_ofList (Dict.get?_eq_some.mp h)
  obtain ⟨found, hmem, heq⟩ := List.mem_map.mp hentry
  obtain ⟨hid, rfl⟩ := Prod.mk.inj heq
  exact ⟨hmem, hid⟩

theorem latestReceipt_isSome :
    (latestReceipt receipts actionId).isSome = true ↔ actionId ∈ receipts.map ActionReceipt.actionId := by
  have hkeys : actionId ∈ (Dict.ofList (receipts.map fun receipt =>
      (receipt.actionId, receipt))).keys ↔ actionId ∈ receipts.map ActionReceipt.actionId := by
    simp [Function.comp_def]
  rw [← hkeys, Dict.mem_keys, Option.isSome_iff_exists]
  exact exists_congr fun receipt => Dict.get?_eq_some

end Lookup

section Reconciliation

/-- The actions of the plan with the statuses a reconciliation gives them while some run. -/
def projection (operation : OperationRun) (receipts : List ActionReceipt)
    (currentActionIds : Option (List String)) : List ActionInstance :=
  let merged := OperationRuntime.mergeReceipts operation.actionReceipts receipts
  let current := sortedSet (currentActionIds.getD [])
  operation.plan.actions.map fun action =>
    { action with status :=
        OperationRuntime.projectedStatus action current (latestReceipt merged action.actionId) }

/-- `later` is `operation` with these receipts projected onto it. -/
structure Projected (runtime : OperationRuntime) (operation : OperationRun)
    (receipts : List ActionReceipt) (currentActionIds : Option (List String))
    (later : OperationRun) : Prop where
  operationId : later.operationId = operation.operationId
  actions : later.plan.actions = projection operation receipts currentActionIds
  receipted : later.actionReceipts =
    OperationRuntime.mergeReceipts operation.actionReceipts receipts
  status : later.status =
    OperationRuntime.reconciledStatus (projection operation receipts currentActionIds)
  recorded : later.metadata = operation.metadata.set "external_projection_hash"
    (.str (runtime.projectionHash later.actionReceipts (sortedSet (currentActionIds.getD []))
      later.status))

variable {runtime : OperationRuntime} {operation later : OperationRun}
  {receipts : List ActionReceipt} {currentActionIds : Option (List String)}

theorem reconcile_cases : Returns
    (runtime.reconcileExternalReceipts operation receipts currentActionIds) fun later =>
      later = operation ∧ AlreadyProjected runtime operation receipts currentActionIds ∨
        Projected runtime operation receipts currentActionIds later := by
  unfold OperationRuntime.reconcileExternalReceipts
  dsimp only
  have hproject : Returns (OperationRuntime.reconcileExternalReceipts.project runtime operation
      (OperationRuntime.mergeReceipts operation.actionReceipts receipts)
      (sortedSet (currentActionIds.getD [])) (projection operation receipts currentActionIds)
      (OperationRuntime.reconciledStatus (projection operation receipts currentActionIds))
      (runtime.projectionHash (OperationRuntime.mergeReceipts operation.actionReceipts receipts)
        (sortedSet (currentActionIds.getD []))
        (OperationRuntime.reconciledStatus (projection operation receipts currentActionIds))))
      fun later => later = operation ∧ AlreadyProjected runtime operation receipts currentActionIds ∨
        Projected runtime operation receipts currentActionIds later := by
    unfold OperationRuntime.reconcileExternalReceipts.project
    apply Returns.bind_any
    intro now
    apply Returns.bind_any
    intro event
    apply Returns.bind_any
    intro _
    exact Returns.pure (Or.inr ⟨rfl, rfl, rfl, rfl, rfl⟩)
  split
  · rename_i recorded hrecorded
    refine Returns.ite (fun heq => Returns.pure (Or.inl ⟨rfl, ?_⟩)) fun _ => hproject
    rw [AlreadyProjected, hrecorded, heq]
  · exact hproject

theorem projection_sameActions : (projection operation receipts currentActionIds).map
    ActionInstance.unmarked = operation.plan.actions.map ActionInstance.unmarked := by
  simp [projection, Function.comp_def, ActionInstance.unmarked]

theorem Projected.sameActions
    (h : Projected runtime operation receipts currentActionIds later) :
    SameActions operation.plan later := by
  rw [SameActions, h.actions]
  exact projection_sameActions

theorem reconciledStatus_mem (actions : List ActionInstance) :
    OperationRuntime.reconciledStatus actions ∈
      [OperationStatus.running, .verifying, .failed] := by
  unfold OperationRuntime.reconciledStatus
  split
  · simp
  · split <;> simp

theorem failed_of_projectedStatus {action : ActionInstance} {current : List String}
    {found : Option ActionReceipt}
    (h : OperationRuntime.projectedStatus action current found = .failed) :
    ∃ receipt, found = some receipt ∧ receipt.status = .failed := by
  by_cases hcurrent : action.actionId ∈ current
  · rw [OperationRuntime.projectedStatus, if_pos hcurrent] at h
    cases h
  · apply projectedStatus_eq_failed.mp
    rw [OperationRuntime.projectedStatus, if_neg hcurrent] at h
    rw [OperationRuntime.projectedStatus, if_neg List.not_mem_nil]
    exact h

theorem exists_failed (h : OperationRuntime.reconciledStatus
      (projection operation receipts currentActionIds) = .failed) :
    ∃ receipt ∈ OperationRuntime.mergeReceipts operation.actionReceipts receipts,
      receipt.status = .failed ∧ ∃ action ∈ operation.plan.actions,
        action.actionId = receipt.actionId ∧ action.isOptional = false := by
  rw [reconciledStatus_eq_failed] at h
  obtain ⟨marked, hmem⟩ := List.exists_mem_of_ne_nil _ h
  obtain ⟨hmem, hfailed⟩ := List.mem_filter.mp hmem
  rw [decide_eq_true_eq] at hfailed
  obtain ⟨action, haction, rfl⟩ := List.mem_map.mp hmem
  obtain ⟨receipt, hfound, hstatus⟩ := failed_of_projectedStatus hfailed.1
  obtain ⟨hreceipt, hid⟩ := mem_of_latestReceipt hfound
  exact ⟨receipt, hreceipt, hstatus, action, haction, hid.symm, by simpa using hfailed.2⟩

end Reconciliation

end KubeOps.Execution
