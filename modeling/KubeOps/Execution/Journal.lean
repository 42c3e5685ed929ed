import KubeOps.Execution.DockerHost

/-! Whether the journal can be read back. A run is readable as long as each of
its receipts is for an action of its plan. -/
namespace KubeOps.Execution

open KubeOps.Foundation KubeOps.Models KubeOps.Policy KubeOps.Actions
open OperationRuntime (Creation)

/-- Loading an operation right after a write returns what was written. -/
def ReadsBack (runtime : OperationRuntime) (log : Log) : Prop :=
  ∀ before operation after ticks, log = before ++ .saved operation :: after →
    (FileOperationStore.load runtime.codec runtime.python operation.operationId).exec
        ⟨before ++ [.saved operation], ticks⟩ =
      (.ok operation, ⟨before ++ [.saved operation], ticks⟩)

def CompensatesWithin (catalog : ActionCatalog) (plan : RecoveryPlan) (log : Log) : Prop :=
  ∀ operation context, .rollingBack operation context ∈ log → ∀ action,
    Compensates catalog operation action → action.actionId ∈ plan.actionIds

def ReceiptsWithin (plan : RecoveryPlan) (operation : OperationRun) : Prop :=
  ∀ receipt ∈ operation.actionReceipts, receipt.actionId ∈ plan.actionIds

section Validity

variable {runtime : OperationRuntime} {creation : Creation} {given operation : OperationRun}
  {base before segment : Log} {context : RuntimeContext} {plan : RecoveryPlan}

theorem validateReceipts_of_within {python : Python} (h : ReceiptsWithin operation.plan operation) :
    operation.validateReceipts python = .ok () := by
  have hnone : (operation.actionReceipts.map ActionReceipt.actionId).filter
      (· ∉ operation.plan.actionIds) = [] := by
    rw [List.filter_eq_nil_iff]
    intro actionId hmem
    obtain ⟨receipt, hreceipt, rfl⟩ := List.mem_map.mp hmem
    simpa using h receipt hreceipt
  simp only [OperationRun.validateReceipts, hnone, ne_eq, not_true_eq_false, ↓reduceIte]

theorem validate_of_within {python : Python} (hplan : operation.plan.Accepted python)
    (h : ReceiptsWithin operation.plan operation) : operation.validate python = .ok operation := by
  unfold RecoveryPlan.Accepted at hplan
  simp only [OperationRun.validate, hplan, validateReceipts_of_within h, bind, Except.bind, pure,
    Except.pure]

theorem load_saved (h : operation.validate runtime.python = .ok operation) (ticks : Nat) :
    (FileOperationStore.load runtime.codec runtime.python operation.operationId).exec
        ⟨before ++ [.saved operation], ticks⟩ =
      (.ok operation, ⟨before ++ [.saved operation], ticks⟩) := by
  rw [FileOperationStore.load, Program.exec_consult,
    content_latest (latest_concat_saved before operation)]
  simp only [FileOperationStore.readBack_eq, h]

theorem Progress.receiptsWithin (h : Progress runtime given context base before operation)
    (hgiven : ReceiptsWithin plan given) (hplan : given.plan.actionIds = plan.actionIds)
    (hrollback : CompensatesWithin runtime.actions plan before) : ReceiptsWithin plan operation := by
  obtain ⟨⟨receipts, events, hextends, -, hfor⟩, -⟩ := h
  intro receipt hmem
  rw [hextends.receipted, List.mem_append] at hmem
  rcases hmem with hold | hnew
  · exact hgiven receipt hold
  · rcases hfor receipt hnew with hplanned | ⟨action, ⟨found, hfound, hcompensates⟩, hid⟩
    · exact hplan ▸ hplanned
    · rw [hid]
      exact hrollback found _ hfound action hcompensates

theorem Updates.receiptsWithin {later : OperationRun} (h : Updates given later)
    (hgiven : ReceiptsWithin plan given) : ReceiptsWithin plan later := by
  unfold ReceiptsWithin
  rw [h.receipted]
  exact hgiven

theorem CallSegment.receiptsWithin {call : Call} {later : OperationRun}
    (h : CallSegment runtime base given call segment) (hgiven : ReceiptsWithin plan given)
    (hplan : given.plan.actionIds = plan.actionIds)
    (hexternal : ∀ receipt ∈ call.receipts, receipt.actionId ∈ plan.actionIds)
    (hrollback : CompensatesWithin runtime.actions plan segment) (hmem : .saved later ∈ segment) :
    ReceiptsWithin plan later := by
  have hpermitted : ∀ {permits : Log → Effect → Prop} {rest : Log} {started : OperationRun}
      {used : RuntimeContext} {from_ : Log}, Monitored permits rest → .saved later ∈ rest →
      (∀ before, permits before (.saved later) → Progress runtime started used from_ before later) →
      ReceiptsWithin plan started → started.plan.actionIds = plan.actionIds → rest ⊆ segment →
      ReceiptsWithin plan later := by
    intro permits rest started used from_ hmonitored hlater hprogress hstarted hids hsubset
    obtain ⟨before, hearlier, hpermits⟩ := hmonitored.permits_of_mem hlater
    refine (hprogress before hpermits).receiptsWithin hstarted hids ?_
    exact fun found usedContext hfound =>
      hrollback found usedContext (hsubset (hearlier.subset hfound))
  cases h with
  | idle => cases hmem
  | updates _ _ hauthority hupdates =>
    obtain rfl := Effect.saved.inj (List.mem_singleton.mp hmem)
    exact hupdates.receiptsWithin hgiven
  | reconciles receipts currentActionIds _ hreconciles =>
    obtain rfl := Effect.saved.inj (List.mem_singleton.mp hmem)
    intro receipt hreceipt
    rw [hreconciles.receipted] at hreceipt
    exact (mem_mergeReceipts hreceipt).elim (hgiven receipt) (hexternal receipt)
  | runs _ policy context _ hauthority hmonitored =>
    exact hpermitted hmonitored hmem (fun _ h => h) hgiven hplan (List.Subset.refl _)
  | resumes policy context conditions started event rest hstarted hmonitored =>
    have hwithin := hstarted.updates.receiptsWithin hgiven
    rcases List.mem_cons.mp hmem with heq | hrest
    · obtain rfl := Effect.saved.inj heq
      exact hwithin
    · exact hpermitted hmonitored hrest (fun _ h => h) hwithin (hstarted.actionIds_eq.trans hplan)
        (List.subset_cons_self _ _)
  | rollsBack context _ hmonitored =>
    exact hpermitted hmonitored hmem (fun _ h => h) hgiven hplan (List.Subset.refl _)

theorem session_receiptsWithin (hplan : creation.plan.Accepted runtime.python) (calls : List Call)
    (hexternal : ∀ call ∈ calls, ∀ receipt ∈ call.receipts,
      receipt.actionId ∈ creation.plan.actionIds)
    (hrollback : CompensatesWithin runtime.actions creation.plan
      (runtime.session creation calls).log) :
    ∀ operation, .saved operation ∈ (runtime.session creation calls).log →
      ReceiptsWithin creation.plan operation := by
  induction calls using List.reverseRecOn with
  | nil =>
    intro operation hmem
    change _ ∈ (runtime.created creation).log at hmem
    rcases created_log runtime creation with hlog | ⟨begun, hbegun, hlog⟩ <;> rw [hlog] at hmem
    · cases hmem
    · obtain rfl := Effect.saved.inj (List.mem_singleton.mp hmem)
      intro receipt hreceipt
      rw [hbegun.unreceipted] at hreceipt
      cases hreceipt
  | append_singleton calls call ih =>
    obtain ⟨segment, hlog, hsegment⟩ := session_advances hplan calls call
    rw [hlog] at hrollback ⊢
    have hearlier := ih (fun call hmem => hexternal call (List.mem_append_left _ hmem))
      fun found context hfound => hrollback found context (List.mem_append_left _ hfound)
    intro operation hmem
    rcases List.mem_append.mp hmem with hold | hnew
    · exact hearlier operation hold
    · rcases hsegment with rfl | ⟨given, hlatest, hsame, hcall⟩
      · cases hnew
      · exact hcall.receiptsWithin (hearlier given (mem_of_latest hlatest))
          (RecoveryPlan.actionIds_of_unmarked hsame)
          (hexternal call (List.mem_append_right _ (List.mem_singleton_self _)))
          (fun found context hfound => hrollback found context (List.mem_append_right _ hfound)) hnew

end Validity

section Examples

open DockerHost

def Effect.isUnreadable : Effect → Bool
  | .saved operation =>
    match operation.validate Python.plain with
    | .ok _ => false
    | .error _ => true
  | _ => false

end Examples

end KubeOps.Execution
