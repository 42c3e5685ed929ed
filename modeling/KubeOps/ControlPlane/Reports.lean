import KubeOps.ControlPlane.Dispatch

/-! What agents report of the actions of a dispatched operation. A statement reports by
the receipts it writes: an agent that of the action it carried out, a sweep those of the
tasks it gives up. -/
namespace KubeOps.ControlPlane

open KubeOps.Foundation KubeOps.Models KubeOps.Execution

section Reports

/-- The rows `expireStaleLeases` writes for tasks at their last attempt. -/
def expiryReports (python : Python) (now : Int) (due : List (TaskLeaseRecord × ExecutionTaskRecord)) :
    List ActionReceiptRecord :=
  due.filterMap fun entry =>
    match entry.2.payload.modelValidate with
    | .ok model =>
      if model.attempt + 1 ≤ model.maxAttempts then none
      else some ⟨entry.2.operationId, entry.1.acquiredAt,
        leaseExpiredReceipt python entry.2 entry.1 model.attempt now⟩
    | .error _ => none

/-- The row `executeTask` writes. -/
def executionReport (python : Python) (assignment : Assignment) (answer : Except String ActionReceipt)
    (nowIso : String) (now : Int) : ActionReceiptRecord :=
  let answer := if assignment.nonceVerified python then answer
    else .error "PermissionError: task lease nonce verification failed"
  let failed (error : String) : ActionReceiptRecord :=
    ⟨assignment.task.operationId, now, attemptFailedReceipt assignment nowIso error⟩
  match answer with
  | .ok receipt =>
    match receiptRow python assignment.task.operationId receipt with
    | .ok row => row
    | .error error => failed error.describe
  | .error error => failed error

def Statement.reports (python : Python) (database : Database) :
    Statement → Phase → List ActionReceiptRecord
  | .expireStaleLeases locked now, .idle => expiryReports python now (dueLeases database locked now)
  | .execute answer nowIso now, .assigned assignment =>
    [executionReport python assignment answer nowIso now]
  | _, _ => []

def Awaited (plan : RecoveryPlan) (actionId : String) : Prop :=
  ∃ action ∈ plan.actions, actionId ∈ action.dependsOnActionIds

def Required (plan : RecoveryPlan) (actionId : String) : Prop :=
  ∃ action ∈ plan.actions, action.actionId = actionId ∧ action.isOptional = false

instance (plan : RecoveryPlan) (actionId : String) : Decidable (Awaited plan actionId) :=
  inferInstanceAs (Decidable (∃ action ∈ _, _))

instance (plan : RecoveryPlan) (actionId : String) : Decidable (Required plan actionId) :=
  inferInstanceAs (Decidable (∃ action ∈ _, _))

def FailureReported (plan : RecoveryPlan) (receipts : List ActionReceipt) : Prop :=
  ∃ receipt ∈ receipts, receipt.status = .failed ∧ Required plan receipt.actionId

def Unanimous (receipts : List ActionReceipt) : Prop :=
  ∀ left ∈ receipts, ∀ right ∈ receipts, left.actionId = right.actionId →
    (left.status = .failed ↔ right.status = .failed)

instance (receipts : List ActionReceipt) : Decidable (Unanimous receipts) :=
  inferInstanceAs (Decidable (∀ left ∈ _, _))

/-- A receipt of an action of the plan that can be written again. Where others wait for
the action, it has succeeded, or it is a required one that has failed. -/
@[mk_iff]
structure Conclusive (python : Python) (plan : RecoveryPlan) (operationId : String)
    (receipt : ActionReceipt) : Prop where
  planned : receipt.actionId ∈ plan.actionIds
  awaited : Awaited plan receipt.actionId →
    receipt.status.successful = true ∨ receipt.status = .failed ∧ Required plan receipt.actionId
  writable : (receiptRow python operationId receipt).isOk = true

instance (python : Python) (plan : RecoveryPlan) (operationId : String) (receipt : ActionReceipt) :
    Decidable (Conclusive python plan operationId receipt) :=
  decidable_of_iff _ (conclusive_iff ..).symm

@[mk_iff]
structure Consistent (python : Python) (plan : RecoveryPlan) (operationId : String)
    (database : Database) (reports : List ActionReceiptRecord) : Prop where
  distinct : (reports.map ActionReceiptRecord.receiptId).Nodup
  fresh : ∀ row ∈ reports, ¬ Stored database operationId row.receiptId
  conclusive : ∀ row ∈ reports, row.operationId = operationId →
    Conclusive python plan operationId row.payload
  unanimous : Unanimous (database.receiptsOf operationId ++
    (reports.filter fun row => row.operationId = operationId).map ActionReceiptRecord.payload)

instance (python : Python) (plan : RecoveryPlan) (operationId : String) (database : Database)
    (reports : List ActionReceiptRecord) :
    Decidable (Consistent python plan operationId database reports) :=
  decidable_of_iff _ (consistent_iff ..).symm

def Statement.answersFor : Statement → Phase → Bool
  | .execute (.ok receipt) _ _, .assigned assignment => receipt.actionId = assignment.task.actionId
  | _, _ => true

@[mk_iff]
structure Reliable (runtime : OperationRuntime) (plan : RecoveryPlan) (operationId : String)
    (database : Database) (statement : Statement) (phase : Phase) : Prop where
  answersFor : statement.answersFor phase = true
  consistent : Consistent runtime.python plan operationId database
    (statement.reports runtime.python database phase)
  upToDate : upToDate runtime operationId database statement phase = true

instance (runtime : OperationRuntime) (plan : RecoveryPlan) (operationId : String)
    (database : Database) (statement : Statement) (phase : Phase) :
    Decidable (Reliable runtime plan operationId database statement phase) :=
  decidable_of_iff _ (reliable_iff ..).symm

end Reports

section Effects

variable {python : Python} {plan : RecoveryPlan} {database reached : Database} {operationId : String}

theorem FailureReported.mono {receipts others : List ActionReceipt} (h : FailureReported plan receipts)
    (hsubset : receipts ⊆ others) : FailureReported plan others := by
  obtain ⟨receipt, hmem, hfailed⟩ := h
  exact ⟨receipt, hsubset hmem, hfailed⟩

theorem Unanimous.mono {receipts others : List ActionReceipt} (h : Unanimous others)
    (hsubset : receipts ⊆ others) : Unanimous receipts :=
  fun left hleft right hright => h left (hsubset hleft) right (hsubset hright)

theorem mem_receiptsOf_putReceipt {row : ActionReceiptRecord}
    (hfresh : ¬ Stored database operationId row.receiptId) {receipt : ActionReceipt} :
    receipt ∈ (database.putReceipt row).receiptsOf operationId ↔
      receipt ∈ database.receiptsOf operationId ∨ row.operationId = operationId ∧ row.payload = receipt := by
  simp only [mem_receiptsOf, Database.putReceipt, Table.get?_put]
  constructor
  · rintro ⟨found, hfound, hsame, rfl⟩
    split at hfound
    · obtain rfl := Option.some.inj hfound
      exact .inr ⟨hsame, rfl⟩
    · exact .inl ⟨found, hfound, hsame, rfl⟩
  · rintro (⟨found, hfound, hsame, rfl⟩ | ⟨hsame, rfl⟩)
    · refine ⟨found, ?_, hsame, rfl⟩
      rw [if_neg]
      · exact hfound
      · intro heq
        exact hfresh ⟨found, by rw [← heq]; exact hfound, hsame⟩
    · exact ⟨row, if_pos rfl, hsame, rfl⟩

theorem receiptsOf_congr (h : reached.receipts = database.receipts) :
    reached.receiptsOf operationId = database.receiptsOf operationId := by
  rw [Database.receiptsOf, h]
  rfl

theorem executeTask_report (python : Python) (database : Database) (assignment : Assignment)
    (answer : Except String ActionReceipt)
    (nowIso : String) (now : Int) : ∃ executed,
      executeTask python database assignment answer nowIso now =
        (database.putReceipt (executionReport python assignment answer nowIso now), executed,
          (executionReport python assignment answer nowIso now).payload.status.successful) ∧
      executed.task.taskId = assignment.task.taskId ∧
      executed.task.operationId = assignment.task.operationId ∧
      executed.task.actionId = assignment.task.actionId ∧
      dependencies executed.task = dependencies assignment.task := by
  unfold executeTask executeTask.failed executionReport
  dsimp only
  generalize (if assignment.nonceVerified python then answer
    else .error "PermissionError: task lease nonce verification failed") = checked
  cases checked with
  | error error => exact ⟨_, rfl, rfl, rfl, rfl, rfl⟩
  | ok receipt =>
    dsimp only
    cases hrow : receiptRow python assignment.task.operationId receipt with
    | error error => exact ⟨_, rfl, rfl, rfl, rfl, rfl⟩
    | ok row =>
      refine ⟨_, ?_, rfl, rfl, rfl, rfl⟩
      dsimp only
      rw [(receiptRow_ok hrow).2]

theorem executionReport_operationId (assignment : Assignment) (answer : Except String ActionReceipt)
    (nowIso : String) (now : Int) :
    (executionReport python assignment answer nowIso now).operationId = assignment.task.operationId := by
  unfold executionReport
  dsimp only
  split
  · split
    · rename_i hrow
      exact (receiptRow_ok hrow).1
    · rfl
  · rfl

theorem executionReport_actionId {assignment : Assignment} {answer : Except String ActionReceipt}
    {nowIso : String} {now : Int}
    (h : (Statement.execute answer nowIso now).answersFor (.assigned assignment) = true) :
    (executionReport python assignment answer nowIso now).payload.actionId = assignment.task.actionId := by
  unfold executionReport
  dsimp only
  split
  · rename_i receipt hanswer
    split at hanswer
    · subst hanswer
      have hid : receipt.actionId = assignment.task.actionId := of_decide_eq_true h
      split
      · rename_i hrow
        rw [(receiptRow_ok hrow).2, hid]
      · rfl
    · cases hanswer
  · rfl

end Effects

end KubeOps.ControlPlane
