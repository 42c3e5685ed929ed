import KubeOps.ControlPlane.Reports

/-! Completion of a dispatched operation. The status of an operation is read off its
receipts, and a cancelled task leaves none; so an operation ends with its tasks only
where every cancelled task is owed to a required action reported as failed. -/
namespace KubeOps.ControlPlane

open KubeOps.Foundation KubeOps.Models KubeOps.Execution

section Accounts

def Database.roster (database : Database) (operationId taskId : String) :
    Option (String × List String) :=
  ((database.tasks.get? taskId).filter fun task => task.operationId = operationId).map fun task =>
    (task.actionId, dependencies task)

def Listed (operationId : String) (roster : String → Option (String × List String))
    (task : ExecutionTaskRecord) : Prop :=
  roster task.taskId =
    if task.operationId = operationId then some (task.actionId, dependencies task) else none

structure Rostered (plan : RecoveryPlan) (roster : String → Option (String × List String)) : Prop where
  planned : ∀ taskId entry, roster taskId = some entry →
    ∃ action ∈ plan.actions, entry = (action.actionId, action.dependsOnActionIds)
  covers : ∀ action ∈ plan.actions, ∃ taskId entry, roster taskId = some entry ∧
    entry.1 = action.actionId

def Ended (plan : RecoveryPlan) (receipts : List ActionReceipt) (actionId : String) :
    TaskStatus → Prop
  | .completed => ∃ receipt ∈ receipts, receipt.actionId = actionId
  | .failed => ∃ receipt ∈ receipts, receipt.actionId = actionId ∧ receipt.status.successful = false
  | .cancelled => FailureReported plan receipts
  | .queued | .leased | .running | .expired => True

structure Canonical (runtime : OperationRuntime) (plan : RecoveryPlan) (receipts : List ActionReceipt)
    (operation : OperationRun) : Prop where
  same : SameActions plan operation
  reported : operation.actionReceipts ⊆ receipts
  distinct : DistinctReceipts operation
  recorded : ∃ merged current, operation.metadata.get? "external_projection_hash" =
    some (.str (runtime.projectionHash merged current operation.status))
  status : operation.status ∈ [.running, .verifying, .failed]
  failed : operation.status = .failed → FailureReported plan receipts

structure Accounted (runtime : OperationRuntime) (plan : RecoveryPlan) (operationId : String)
    (roster : String → Option (String × List String)) (database : Database) : Prop where
  listed : ∀ taskId, database.roster operationId taskId = roster taskId
  operation : ∃ operation, database.operations.get? operationId = some operation ∧
    Canonical runtime plan (database.receiptsOf operationId) operation
  conclusive : ∀ receipt ∈ database.receiptsOf operationId,
    Conclusive runtime.python plan operationId receipt
  unanimous : Unanimous (database.receiptsOf operationId)
  ended : ∀ task ∈ database.tasksOf operationId,
    Ended plan (database.receiptsOf operationId) task.actionId task.status

structure Projection.Accounted (runtime : OperationRuntime) (plan : RecoveryPlan)
    (operationId : String) (receipts : List ActionReceipt) (projection : Projection) : Prop where
  operationId : projection.operation.operationId = operationId
  projects : Projects runtime projection
  canonical : Canonical runtime plan receipts projection.reconciled

/-- So does whatever an agent holds in memory. -/
def Phase.Accounted (runtime : OperationRuntime) (plan : RecoveryPlan) (operationId : String)
    (roster : String → Option (String × List String)) (receipts : List ActionReceipt) : Phase → Prop
  | .stopped | .idle | .sweeping _ | .admitted => True
  | .culling queued => ∀ entry ∈ queued, Listed operationId roster entry.1 ∧
      (entry.1.operationId = operationId → operationTerminal entry.2 = true →
        FailureReported plan receipts)
  | .assigned assignment => Listed operationId roster assignment.task
  | .executed assignment success | .released assignment success =>
    Listed operationId roster assignment.task ∧ (assignment.task.operationId = operationId →
      Ended plan receipts assignment.task.actionId (if success then .completed else .failed))
  | .reconciling _ next => next.Accounted runtime plan operationId roster receipts
  | .refreshed operation next =>
    (operation.operationId = operationId → Canonical runtime plan receipts operation) ∧
      next.Accounted runtime plan operationId roster receipts
  | .gathered operation given next =>
    (operation.operationId = operationId →
      Canonical runtime plan receipts operation ∧ given ⊆ receipts) ∧
      next.Accounted runtime plan operationId roster receipts
  | .projected projection next =>
    (projection.operation.operationId = operationId ∨ projection.reconciled.operationId = operationId →
      projection.Accounted runtime plan operationId receipts) ∧
      next.Accounted runtime plan operationId roster receipts
  | .cancelling projection pending next =>
    (projection.operation.operationId = operationId ∨ projection.reconciled.operationId = operationId →
      projection.Accounted runtime plan operationId receipts) ∧
      (∀ task ∈ pending, Listed operationId roster task ∧
        (task.operationId = operationId → FailureReported plan receipts)) ∧
      next.Accounted runtime plan operationId roster receipts

variable {runtime : OperationRuntime} {plan : RecoveryPlan} {operationId actionId : String}
  {roster : String → Option (String × List String)} {receipts later : List ActionReceipt}

theorem Ended.mono {status : TaskStatus} (h : Ended plan receipts actionId status)
    (hsubset : receipts ⊆ later) : Ended plan later actionId status := by
  cases status with
  | completed =>
    obtain ⟨receipt, hmem, hid⟩ := h
    exact ⟨receipt, hsubset hmem, hid⟩
  | failed =>
    obtain ⟨receipt, hmem, hid⟩ := h
    exact ⟨receipt, hsubset hmem, hid⟩
  | cancelled => exact FailureReported.mono h hsubset
  | queued | leased | running | expired => trivial

theorem Canonical.mono {operation : OperationRun} (h : Canonical runtime plan receipts operation)
    (hsubset : receipts ⊆ later) : Canonical runtime plan later operation :=
  { h with
    reported := List.Subset.trans h.reported hsubset
    failed := fun hfailed => (h.failed hfailed).mono hsubset }

theorem Projection.Accounted.mono {projection : Projection}
    (h : projection.Accounted runtime plan operationId receipts) (hsubset : receipts ⊆ later) :
    projection.Accounted runtime plan operationId later :=
  { h with canonical := h.canonical.mono hsubset }

theorem Phase.Accounted.mono {phase : Phase}
    (h : phase.Accounted runtime plan operationId roster receipts) (hsubset : receipts ⊆ later) :
    phase.Accounted runtime plan operationId roster later := by
  induction phase with
  | stopped | idle | sweeping _ | admitted => trivial
  | culling queued =>
    intro entry hentry
    exact ⟨(h entry hentry).1, fun hown hterminal => ((h entry hentry).2 hown hterminal).mono hsubset⟩
  | assigned assignment => exact h
  | executed assignment success => exact ⟨h.1, fun hown => (h.2 hown).mono hsubset⟩
  | released assignment success => exact ⟨h.1, fun hown => (h.2 hown).mono hsubset⟩
  | reconciling _ next ih => exact ih h
  | refreshed operation next ih => exact ⟨fun hown => (h.1 hown).mono hsubset, ih h.2⟩
  | gathered operation given next ih =>
    refine ⟨fun hown => ⟨(h.1 hown).1.mono hsubset, ?_⟩, ih h.2⟩
    exact List.Subset.trans (h.1 hown).2 hsubset
  | projected projection next ih => exact ⟨fun hown => (h.1 hown).mono hsubset, ih h.2⟩
  | cancelling projection pending next ih =>
    refine ⟨fun hown => (h.1 hown).mono hsubset, fun task htask => ?_, ih h.2.2⟩
    exact ⟨(h.2.1 task htask).1, fun hown => ((h.2.1 task htask).2 hown).mono hsubset⟩

end Accounts

section Tasks

variable {runtime : OperationRuntime} {plan : RecoveryPlan} {operationId : String}
  {roster : String → Option (String × List String)} {database : Database}
  {task row : ExecutionTaskRecord}

theorem roster_of_get? {taskId : String} (h : database.tasks.get? taskId = some row) :
    database.roster operationId taskId =
      if row.operationId = operationId then some (row.actionId, dependencies row) else none := by
  rw [Database.roster, h, Option.filter_some]
  by_cases hown : row.operationId = operationId
  · simp [hown]
  · simp [hown]

theorem Accounted.listed_row (h : Accounted runtime plan operationId roster database)
    (hrow : row ∈ database.tasks.rows) : Listed operationId roster row := by
  rw [Listed, ← h.listed]
  exact roster_of_get? (Table.mem_rows.mp hrow)

theorem Listed.planned (h : Listed operationId roster task) (hroster : Rostered plan roster)
    (hown : task.operationId = operationId) :
    ∃ action ∈ plan.actions, TaskFor operationId action task := by
  rw [Listed, if_pos hown] at h
  obtain ⟨action, haction, heq⟩ := hroster.planned _ _ h
  obtain ⟨hid, hdependencies⟩ := Prod.mk.inj heq
  exact ⟨action, haction, hown, hid, hdependencies⟩

theorem Accounted.update (h : Accounted runtime plan operationId roster database)
    (hlisted : Listed operationId roster task) (change : ExecutionTaskRecord → ExecutionTaskRecord)
    (hkey : ∀ row, (change row).taskId = row.taskId)
    (hoperation : ∀ row, (change row).operationId = row.operationId)
    (haction : ∀ row, (change row).actionId = row.actionId)
    (hstatus : ∀ row, (change row).status = task.status)
    (hpayload : ∀ row, (change row).payload = task.payload)
    (hended : task.operationId = operationId →
      Ended plan (database.receiptsOf operationId) task.actionId task.status) :
    Accounted runtime plan operationId roster
      { database with tasks := database.tasks.update task.taskId change hkey } := by
  -- A row of the operation under the task's id has the task's ids and dependencies.
  have hsame : ∀ row, database.tasks.get? task.taskId = some row →
      (if row.operationId = operationId then some (row.actionId, dependencies row) else none) =
        if task.operationId = operationId then some (task.actionId, dependencies task) else none := by
    intro row hrow
    rw [← roster_of_get? hrow, h.listed]
    exact hlisted
  constructor
  · intro taskId
    rw [← h.listed]
    unfold Database.roster
    rw [Table.get?_update]
    split
    · rename_i heq
      subst heq
      cases hrow : database.tasks.get? task.taskId with
      | none => rfl
      | some row =>
        have hmatch := hsame row hrow
        have hdependencies : dependencies (change row) = dependencies task := by
          unfold dependencies
          rw [hpayload]
        rw [Option.map_some, Option.filter_some, Option.filter_some, hoperation]
        by_cases hown : row.operationId = operationId
        · rw [if_pos hown] at hmatch
          split at hmatch
          · rw [Option.some.injEq, Prod.mk.injEq] at hmatch
            simp [hown, haction, hdependencies, hmatch.2]
          · cases hmatch
        · simp [hown]
    · rfl
  · exact h.operation
  · exact h.conclusive
  · exact h.unanimous
  · intro found hfound
    obtain ⟨hget, hown⟩ := mem_tasksOf.mp hfound
    rw [Table.get?_update] at hget
    split at hget
    · obtain ⟨row, hrow, rfl⟩ := Option.map_eq_some_iff.mp hget
      have hmatch := hsame row hrow
      rw [hoperation] at hown
      rw [if_pos hown] at hmatch
      split at hmatch
      · rename_i htask
        rw [Option.some.injEq, Prod.mk.injEq] at hmatch
        rw [haction, hstatus, hmatch.1]
        exact hended htask
      · cases hmatch
    · exact h.ended found (mem_tasksOf.mpr ⟨hget, hown⟩)

theorem Accounted.saveTask (h : Accounted runtime plan operationId roster database)
    (hlisted : Listed operationId roster task) (hended : task.operationId = operationId →
      Ended plan (database.receiptsOf operationId) task.actionId task.status) :
    Accounted runtime plan operationId roster (database.saveTask task) := by
  apply h.update hlisted _ _ _ _ _ _ hended
  all_goals exact fun _ => rfl

theorem Accounted.saveAssignedTask (h : Accounted runtime plan operationId roster database)
    (hlisted : Listed operationId roster task) (hended : task.operationId = operationId →
      Ended plan (database.receiptsOf operationId) task.actionId task.status) :
    Accounted runtime plan operationId roster (database.saveAssignedTask task) := by
  apply h.update hlisted _ _ _ _ _ _ hended
  all_goals exact fun _ => rfl

theorem Accounted.saveLease (h : Accounted runtime plan operationId roster database)
    (lease : TaskLeaseRecord) :
    Accounted runtime plan operationId roster (database.saveLease lease) :=
  ⟨h.listed, h.operation, h.conclusive, h.unanimous, h.ended⟩

end Tasks

section Reporting

variable {runtime : OperationRuntime} {plan : RecoveryPlan} {operationId : String}
  {roster : String → Option (String × List String)} {database reached : Database}
  {row : ActionReceiptRecord} {rest : List ActionReceiptRecord}

theorem receiptsOf_subset_putReceipt (hfresh : ¬ Stored database operationId row.receiptId) :
    database.receiptsOf operationId ⊆ (database.putReceipt row).receiptsOf operationId :=
  fun _ hmem => (mem_receiptsOf_putReceipt hfresh).mpr (.inl hmem)

theorem Accounted.putReceipt (h : Accounted runtime plan operationId roster database)
    (hconsistent : Consistent runtime.python plan operationId database (row :: rest)) :
    Accounted runtime plan operationId roster (database.putReceipt row) := by
  have hfresh := hconsistent.fresh row (List.mem_cons_self ..)
  have hsubset := receiptsOf_subset_putReceipt hfresh
  obtain ⟨operation, hfound, hcanonical⟩ := h.operation
  constructor
  · exact h.listed
  · exact ⟨operation, hfound, hcanonical.mono hsubset⟩
  · intro receipt hmem
    rcases (mem_receiptsOf_putReceipt hfresh).mp hmem with hold | ⟨hown, rfl⟩
    · exact h.conclusive receipt hold
    · exact hconsistent.conclusive row (List.mem_cons_self ..) hown
  · apply hconsistent.unanimous.mono
    intro receipt hmem
    rcases (mem_receiptsOf_putReceipt hfresh).mp hmem with hold | ⟨hown, rfl⟩
    · exact List.mem_append_left _ hold
    · apply List.mem_append_right
      simp [hown]
  · intro task htask
    exact (h.ended task htask).mono hsubset

/-- What is consistent with the receipts before one of the reports is written is
consistent with them after it. -/
theorem Consistent.putReceipt {python : Python}
    (h : Consistent python plan operationId database (row :: rest)) :
    Consistent python plan operationId (database.putReceipt row) rest := by
  have hfresh := h.fresh row (List.mem_cons_self ..)
  have hdistinct := h.distinct
  rw [List.map_cons, List.nodup_cons] at hdistinct
  constructor
  · exact hdistinct.2
  · rintro other hother hstored
    rw [stored_iff_mem, List.mem_map] at hstored
    obtain ⟨receipt, hmem, hid⟩ := hstored
    rcases (mem_receiptsOf_putReceipt hfresh).mp hmem with hold | ⟨-, rfl⟩
    · apply h.fresh other (List.mem_cons_of_mem _ hother)
      rw [stored_iff_mem, ← hid]
      exact List.mem_map_of_mem hold
    · apply hdistinct.1
      change row.receiptId = other.receiptId at hid
      rw [hid]
      exact List.mem_map_of_mem hother
  · exact fun other hother => h.conclusive other (List.mem_cons_of_mem _ hother)
  · apply h.unanimous.mono
    intro receipt hmem
    rcases List.mem_append.mp hmem with hstored | hreport
    · rcases (mem_receiptsOf_putReceipt hfresh).mp hstored with hold | ⟨hown, rfl⟩
      · exact List.mem_append_left _ hold
      · apply List.mem_append_right
        simp [hown]
    · apply List.mem_append_right
      obtain ⟨other, hother, rfl⟩ := List.mem_map.mp hreport
      obtain ⟨hother, hown⟩ := List.mem_filter.mp hother
      exact List.mem_map_of_mem (List.mem_filter.mpr ⟨List.mem_cons_of_mem _ hother, hown⟩)

theorem Accounted.expireLeases {now : Int} (due : List (TaskLeaseRecord × ExecutionTaskRecord))
    (h : Accounted runtime plan operationId roster database)
    (hlisted : ∀ entry ∈ due, Listed operationId roster entry.2)
    (hconsistent : Consistent runtime.python plan operationId database
      (expiryReports runtime.python now due))
    (hexpire : due.foldlM (fun database entry =>
      expireLease runtime.python database now entry.1 entry.2) database = .ok reached) :
    Accounted runtime plan operationId roster reached ∧
      database.receiptsOf operationId ⊆ reached.receiptsOf operationId := by
  induction due generalizing database with
  | nil =>
    cases hexpire
    exact ⟨h, fun _ hmem => hmem⟩
  | cons entry due ih =>
    rw [List.foldlM_cons] at hexpire
    obtain ⟨next, hnext, hexpire⟩ := except_bind_eq_ok hexpire
    rw [List.forall_mem_cons] at hlisted
    obtain ⟨model, hmodel, ⟨hattempt, rfl⟩ | ⟨hattempt, rfl⟩⟩ := expireLease_cases hnext
    · -- requeued
      have hreports : expiryReports runtime.python now (entry :: due) =
          expiryReports runtime.python now due := by
        rw [expiryReports, List.filterMap_cons, hmodel]
        simp only [if_pos hattempt]
        rfl
      rw [hreports] at hconsistent
      obtain rfl := modelValidate_eq_ok hmodel
      have hrequeued : Listed operationId roster
          (requeuedTask runtime.python entry.2 entry.2.payload.fields hattempt now) := hlisted.1
      have hsaved := (h.saveLease { entry.1 with
        status := .expired, heartbeatAt := now }).saveAssignedTask hrequeued fun _ => trivial
      have hlast := ih hsaved hlisted.2 ⟨hconsistent.distinct, hconsistent.fresh,
        hconsistent.conclusive, hconsistent.unanimous⟩ hexpire
      exact hlast
    · -- given up
      have hreports : expiryReports runtime.python now (entry :: due) =
          ⟨entry.2.operationId, entry.1.acquiredAt,
            leaseExpiredReceipt runtime.python entry.2 entry.1 model.attempt now⟩ ::
              expiryReports runtime.python now due := by
        rw [expiryReports, List.filterMap_cons, hmodel]
        simp only [if_neg hattempt]
        rfl
      rw [hreports] at hconsistent
      obtain rfl := modelValidate_eq_ok hmodel
      have hreported := (h.saveLease { entry.1 with
        status := .expired, heartbeatAt := now }).putReceipt ⟨hconsistent.distinct, hconsistent.fresh,
          hconsistent.conclusive, hconsistent.unanimous⟩
      have hfresh := hconsistent.fresh _ (List.mem_cons_self ..)
      have hexhausted : Listed operationId roster
          (exhaustedTask runtime.python entry.2 entry.2.payload.fields now) := hlisted.1
      have hsaved := hreported.saveAssignedTask hexhausted ?_
      · obtain ⟨hdistinct, hrest, hconclusive, hunanimous⟩ := hconsistent.putReceipt
        have hlast := ih hsaved hlisted.2 ⟨hdistinct, hrest, hconclusive, hunanimous⟩ hexpire
        exact ⟨hlast.1, List.Subset.trans (receiptsOf_subset_putReceipt hfresh) hlast.2⟩
      · intro hown
        refine ⟨_, (mem_receiptsOf_putReceipt hfresh).mpr (.inr ⟨hown, rfl⟩), rfl, rfl⟩

end Reporting

section Reconciling

variable {runtime : OperationRuntime} {plan : RecoveryPlan} {operationId : String}
  {roster : String → Option (String × List String)} {database reached : Database}
  {task : ExecutionTaskRecord} {operation later : OperationRun} {receipts given : List ActionReceipt}

theorem Accounted.dependencyFailed (h : Accounted runtime plan operationId roster database)
    (hroster : Rostered plan roster) (hlisted : Listed operationId roster task)
    (hown : task.operationId = operationId) (hfailed : dependencyFailed database task = true) :
    FailureReported plan (database.receiptsOf operationId) := by
  obtain ⟨other, hother, hstatus⟩ := List.any_eq_true.mp hfailed
  rw [hown] at hother
  rw [decide_eq_true_eq] at hstatus
  have hended := h.ended other hother
  rcases hstatus with ⟨hdepends, hstatus | hstatus⟩
  · rw [hstatus] at hended
    obtain ⟨receipt, hreceipt, hid, hunsuccessful⟩ := hended
    obtain ⟨action, haction, hfor⟩ := hlisted.planned hroster hown
    have hawaited : Awaited plan receipt.actionId := by
      refine ⟨action, haction, ?_⟩
      rw [hid, ← hfor.dependencies]
      exact hdepends
    rcases (h.conclusive receipt hreceipt).awaited hawaited with hsuccessful | hfailed
    · rw [hunsuccessful] at hsuccessful
      cases hsuccessful
    · exact ⟨receipt, hreceipt, hfailed⟩
  · rw [hstatus] at hended
    exact hended

theorem Required.of_same (h : SameActions plan operation) {actionId : String}
    (hrequired : Required operation.plan actionId) : Required plan actionId := by
  obtain ⟨action, haction, hid, hoptional⟩ := hrequired
  obtain ⟨original, horiginal, hmark⟩ := RecoveryPlan.exists_original h haction
  refine ⟨original, horiginal, (actionId_unmarked hmark).trans hid, ?_⟩
  rw [isOptional_unmarked hmark, hoptional]

theorem Canonical.reconciled (h : Canonical runtime plan receipts operation) (hgiven : given ⊆ receipts)
    {current : Option (List String)} (hprojected : Projected runtime operation given current later) :
    Canonical runtime plan receipts later := by
  have hmerged : later.actionReceipts ⊆ receipts := by
    rw [hprojected.receipted]
    intro receipt hmem
    rcases mem_mergeReceipts hmem with hown | hexternal
    · exact h.reported hown
    · exact hgiven hexternal
  constructor
  · exact hprojected.sameActions.trans h.same
  · exact hmerged
  · unfold DistinctReceipts
    rw [hprojected.receipted]
    exact mergeReceipts_nodup _ _
  · refine ⟨later.actionReceipts, sortedSet (current.getD []), ?_⟩
    rw [hprojected.recorded, Dict.get?_set, if_pos rfl]
  · rw [hprojected.status]
    exact reconciledStatus_mem _
  · intro hfailed
    rw [hprojected.status] at hfailed
    obtain ⟨receipt, hmem, hstatus, hrequired⟩ := exists_failed hfailed
    rw [← hprojected.receipted] at hmem
    exact ⟨receipt, hmerged hmem, hstatus, Required.of_same h.same hrequired⟩

theorem eq_of_receiptId {left right : ActionReceipt} (hleft : left ∈ database.receiptsOf operationId)
    (hright : right ∈ database.receiptsOf operationId) (h : left.receiptId = right.receiptId) :
    left = right := by
  obtain ⟨row, hrow, -, rfl⟩ := mem_receiptsOf.mp hleft
  obtain ⟨other, hother, -, rfl⟩ := mem_receiptsOf.mp hright
  rw [h, hother] at hrow
  rw [Option.some.inj hrow]

theorem Projection.Accounted.receiptsOf_subset {projection : Projection} {next : Phase}
    (h : projection.Accounted runtime plan operationId (database.receiptsOf operationId))
    (hcurrent : upToDate runtime operationId database .persist
      (.cancelling projection [] next) = true)
    (hpersist : persistOperation runtime.python database projection.reconciled = some reached) :
    database.receiptsOf operationId ⊆ projection.reconciled.actionReceipts := by
  simp only [upToDate, decide_eq_true_eq, hpersist, Option.isSome_some, forall_const] at hcurrent
  intro receipt hmem
  obtain ⟨row, hrow, hown, rfl⟩ := mem_receiptsOf.mp hmem
  have hknown := hcurrent h.operationId row (Table.mem_rows.mpr hrow) hown
  obtain ⟨known, hreceipt, hid⟩ := List.mem_map.mp ((h.projects.receiptIds _).mpr hknown)
  rw [← eq_of_receiptId (h.canonical.reported hreceipt) hmem hid]
  exact hreceipt

theorem Accounted.persist (h : Accounted runtime plan operationId roster database)
    {projection : Projection} {next : Phase}
    (hprojection : projection.operation.operationId = operationId ∨
      projection.reconciled.operationId = operationId →
        projection.Accounted runtime plan operationId (database.receiptsOf operationId))
    (hcurrent : upToDate runtime operationId database .persist
      (.cancelling projection [] next) = true)
    (hpersist : persistOperation runtime.python database projection.reconciled = some reached) :
    Accounted runtime plan operationId roster reached ∧
      database.receiptsOf operationId ⊆ reached.receiptsOf operationId := by
  have hpersisted := persisted_of_persistOperation hpersist
  have htasks : reached.tasksOf operationId = database.tasksOf operationId := by
    rw [Database.tasksOf, hpersisted.tasks]
    rfl
  obtain ⟨hreceipts, hoperation⟩ : (∀ receipt, receipt ∈ reached.receiptsOf operationId ↔
      receipt ∈ database.receiptsOf operationId) ∧
      ∃ operation, reached.operations.get? operationId = some operation ∧
        Canonical runtime plan (database.receiptsOf operationId) operation := by
    rw [hpersisted.operations]
    by_cases hown : projection.reconciled.operationId = operationId
    · have haccounted := hprojection (.inr hown)
      have hall := haccounted.receiptsOf_subset hcurrent hpersist
      refine ⟨fun receipt => ?_, projection.reconciled, ?_, haccounted.canonical⟩
      · rw [← hown, hpersisted.own, hown]
        exact ⟨fun hmem => haccounted.canonical.reported hmem, fun hmem => hall hmem⟩
      · rw [Table.get?_put, if_pos hown.symm]
    · refine ⟨fun receipt => hpersisted.others _ (Ne.symm hown) receipt, ?_⟩
      rw [Table.get?_put, if_neg (Ne.symm hown)]
      exact h.operation
  obtain ⟨operation, hfound, hcanonical⟩ := hoperation
  have hsubset : database.receiptsOf operationId ⊆ reached.receiptsOf operationId :=
    fun receipt hmem => (hreceipts receipt).mpr hmem
  refine ⟨⟨?_, ⟨operation, hfound, hcanonical.mono hsubset⟩, ?_, ?_, ?_⟩, hsubset⟩
  · intro taskId
    rw [Database.roster, hpersisted.tasks]
    exact h.listed taskId
  · exact fun receipt hmem => h.conclusive receipt ((hreceipts receipt).mp hmem)
  · exact h.unanimous.mono fun receipt hmem => (hreceipts receipt).mp hmem
  · intro task htask
    rw [htasks] at htask
    exact (h.ended task htask).mono hsubset

end Reconciling

section Statements

variable {runtime : OperationRuntime} {plan : RecoveryPlan} {operationId : String}
  {roster : String → Option (String × List String)} {database reached : Database}

/-- What a statement leaves agrees with the receipts, of which none is lost. -/
structure Conserves (runtime : OperationRuntime) (plan : RecoveryPlan) (operationId : String)
    (roster : String → Option (String × List String)) (database reached : Database) (next : Phase) :
    Prop where
  accounted : Accounted runtime plan operationId roster reached
  kept : database.receiptsOf operationId ⊆ reached.receiptsOf operationId
  next : next.Accounted runtime plan operationId roster (reached.receiptsOf operationId)

theorem Accounted.conserves {next : Phase} (h : Accounted runtime plan operationId roster reached)
    (hkept : database.receiptsOf operationId ⊆ reached.receiptsOf operationId)
    (hnext : next.Accounted runtime plan operationId roster (database.receiptsOf operationId)) :
    Conserves runtime plan operationId roster database reached next :=
  ⟨h, hkept, hnext.mono hkept⟩

theorem Accounted.operationTerminal (h : Accounted runtime plan operationId roster database)
    (hterminal : operationTerminal
      ((database.operations.get? operationId).map OperationRun.status) = true) :
    FailureReported plan (database.receiptsOf operationId) := by
  obtain ⟨operation, hfound, hcanonical⟩ := h.operation
  rw [hfound, Option.map_some] at hterminal
  simp only [ControlPlane.operationTerminal, Option.some.injEq, decide_eq_true_eq] at hterminal
  have hstatus := hcanonical.status
  rcases hterminal with hfailed | hcancelled | hcompleted
  · exact hcanonical.failed hfailed
  · simp [hcancelled] at hstatus
  · simp [hcompleted] at hstatus

theorem Accounted.queuedWithStatus (h : Accounted runtime plan operationId roster database) :
    (Phase.culling (queuedWithStatus database)).Accounted runtime plan operationId roster
      (database.receiptsOf operationId) := by
  intro entry hentry
  obtain ⟨task, htask, rfl⟩ := List.mem_map.mp hentry
  have hmem := (List.mem_filter.mp htask).1
  refine ⟨h.listed_row hmem, fun hown hterminal => h.operationTerminal ?_⟩
  dsimp only at hown hterminal
  rw [hown] at hterminal
  exact hterminal

theorem Accounted.cancelIfBlocked (h : Accounted runtime plan operationId roster database)
    (hroster : Rostered plan roster) {task : ExecutionTaskRecord} {status : Option OperationStatus}
    (hlisted : Listed operationId roster task)
    (hterminal : task.operationId = operationId → ControlPlane.operationTerminal status = true →
      FailureReported plan (database.receiptsOf operationId)) (now : Int) :
    Accounted runtime plan operationId roster
        (cancelIfBlocked runtime.python database task status now) ∧
      (cancelIfBlocked runtime.python database task status now).receipts = database.receipts := by
  unfold ControlPlane.cancelIfBlocked
  split
  · rename_i hfailed
    refine ⟨h.saveTask ?_ fun hown => ?_, rfl⟩
    · exact hlisted
    · exact h.dependencyFailed hroster hlisted hown hfailed
  · split
    · rename_i hstatus
      refine ⟨h.saveTask ?_ fun hown => ?_, rfl⟩
      · exact hlisted
      · exact hterminal hown hstatus
    · exact ⟨h, rfl⟩

theorem Accounted.claim (h : Accounted runtime plan operationId roster database)
    {agent : ExecutorAgentRecord} {locked : List String} {now : Int} {random nonce : String}
    {assignment : Assignment}
    (hclaim : claim database agent runtime.python locked now random nonce =
      .ok (some (reached, assignment))) :
    Accounted runtime plan operationId roster reached ∧ reached.receipts = database.receipts ∧
      Listed operationId roster assignment.task := by
  obtain ⟨task, timeoutSeconds, hstored, -, -, -, -, rfl, rfl⟩ := claim_eq_some hclaim
  have hlisted := h.listed_row (Table.mem_rows_of_get? hstored)
  have hrunning : Listed operationId roster (runningTask agent runtime.python task now) := hlisted
  have hleased : Accounted runtime plan operationId roster { database with
      leases := database.leases.put (leaseFor agent runtime.python task timeoutSeconds now random nonce) } :=
    ⟨h.listed, h.operation, h.conclusive, h.unanimous, h.ended⟩
  exact ⟨hleased.saveAssignedTask hrunning fun _ => trivial, rfl, hlisted⟩

theorem reconciled_accounted {receipts given : List ActionReceipt} {operation reconciled : OperationRun}
    {current : List String} {trace ended : Trace Effect}
    (hown : operation.operationId = operationId) (h : Canonical runtime plan receipts operation)
    (hgiven : given ⊆ receipts)
    (hexec : (runtime.reconcileExternalReceipts operation given (some current)).exec trace =
      (.ok reconciled, ended)) :
    Projection.Accounted runtime plan operationId receipts ⟨operation, given, current, reconciled⟩ := by
  constructor
  · exact hown
  · exact Returns.apply reconcile_projects hexec
  · rcases reconcile_cases.apply hexec with ⟨rfl, -⟩ | hprojected
    · exact h
    · exact h.reconciled hgiven hprojected

theorem ended_of_receipt {receipts : List ActionReceipt} {receipt : ActionReceipt} {actionId : String}
    (hmem : receipt ∈ receipts) (hid : receipt.actionId = actionId) :
    Ended plan receipts actionId (if receipt.status.successful then .completed else .failed) := by
  cases hsuccess : receipt.status.successful with
  | true => exact ⟨receipt, hmem, hid⟩
  | false => exact ⟨receipt, hmem, hid, hsuccess⟩

theorem run_conserves {agent : ExecutorAgentRecord} {statement : Statement} {phase next : Phase}
    (h : statement.run runtime database agent phase = some (reached, next))
    (hroster : Rostered plan roster) (hdatabase : Accounted runtime plan operationId roster database)
    (hphase : phase.Accounted runtime plan operationId roster (database.receiptsOf operationId))
    (hreliable : Reliable runtime plan operationId database statement phase) :
    Conserves runtime plan operationId roster database reached next := by
  have hsame : ∀ {next : Phase}, next.Accounted runtime plan operationId roster
      (database.receiptsOf operationId) →
        Conserves runtime plan operationId roster database database next :=
    fun hnext => hdatabase.conserves (fun _ hmem => hmem) hnext
  unfold Statement.run at h
  split at h
  · -- expireStaleLeases
    split at h
    · rename_i hexpire
      cases h
      obtain ⟨hreached, hkept⟩ := hdatabase.expireLeases _ (fun entry hentry => hdatabase.listed_row
        (Table.mem_rows_of_get? (mem_dueLeases hentry).2)) hreliable.consistent (expireStaleLeases_ok hexpire)
      exact hreached.conserves hkept trivial
    · cases h
      exact hsame trivial
  · -- nextAffected
    split at h
    · cases h
      exact hsame trivial
    · cases h
  · -- countLeases
    cases h
    apply hsame
    split <;> trivial
  · -- listQueued
    cases h
    exact hsame hdatabase.queuedWithStatus
  · -- cancelBlocked
    rename_i now task status rest
    cases h
    rw [Phase.Accounted, List.forall_mem_cons] at hphase
    obtain ⟨hreached, hreceipts⟩ := hdatabase.cancelIfBlocked hroster hphase.1.1 hphase.1.2 now
    refine hreached.conserves ?_ hphase.2
    rw [receiptsOf_congr hreceipts]
    exact fun _ hmem => hmem
  · -- claim
    split at h
    · rename_i hclaim
      cases h
      obtain ⟨hreached, hreceipts, hlisted⟩ := hdatabase.claim hclaim
      refine hreached.conserves ?_ hlisted
      rw [receiptsOf_congr hreceipts]
      exact fun _ hmem => hmem
    · cases h
      exact hsame trivial
    · cases h
      exact hsame trivial
  · -- execute
    rename_i answer nowIso now assignment
    obtain ⟨executed, heq, htaskId, hoperation, hid, hdependencies⟩ :=
      executeTask_report runtime.python database assignment answer nowIso now
    rw [heq] at h
    cases h
    have hconsistent := hreliable.consistent
    have hfresh := hconsistent.fresh _ (List.mem_singleton_self _)
    refine ⟨hdatabase.putReceipt hconsistent, receiptsOf_subset_putReceipt hfresh, ?_, ?_⟩
    · rw [Listed, htaskId, hoperation, hid, hdependencies]
      exact hphase
    · intro hown
      rw [hid]
      apply ended_of_receipt
      · rw [mem_receiptsOf_putReceipt hfresh]
        refine .inr ⟨?_, rfl⟩
        rw [executionReport_operationId, ← hoperation, hown]
      · exact executionReport_actionId hreliable.answersFor
  · -- releaseLease
    cases h
    exact (hdatabase.saveLease _).conserves (fun _ hmem => hmem) hphase
  · -- finishTask
    rename_i now assignment success
    cases h
    have hfinished : Listed operationId roster
        (finishedTask runtime.python assignment success now) := hphase.1
    refine (hdatabase.saveTask hfinished fun hown => ?_).conserves (fun _ hmem => hmem) trivial
    exact hphase.2 hown
  · -- refreshOperation
    split at h
    · cases h
      exact hsame trivial
    · rename_i operation hfound
      split at h
      · rename_i refreshed hvalid
        cases h
        obtain ⟨rfl, -⟩ := validate_eq_ok hvalid
        refine hsame ⟨fun hown => ?_, hphase⟩
        obtain ⟨stored, hstored, hcanonical⟩ := hdatabase.operation
        rw [← hown, Table.key_of_get? hfound, hfound] at hstored
        rw [Option.some.inj hstored]
        exact hcanonical
      · cases h
        exact hsame trivial
  · -- readReceipts
    rename_i operation rest
    cases h
    refine hsame ⟨fun hown => ⟨hphase.1 hown, ?_⟩, hphase.2⟩
    rw [hown]
    exact fun _ hmem => hmem
  · -- reconcile
    rename_i trace operation given rest
    dsimp only at h
    split at h
    · rename_i reconciled ended hexec
      cases h
      refine hsame ⟨fun hown => ?_, hphase.2⟩
      have hid := (Returns.apply reconcile_projects hexec).operationId
      have hoperation : operation.operationId = operationId := hown.elim id fun h => hid.symm.trans h
      obtain ⟨hcanonical, hgiven⟩ := hphase.1 hoperation
      exact reconciled_accounted hoperation hcanonical hgiven hexec
    · cases h
      exact hsame trivial
  · -- listPending
    rename_i projection rest
    cases h
    refine hsame ⟨hphase.1, fun task htask => ?_, hphase.2⟩
    split at htask
    · rename_i hfailed
      obtain ⟨hmem, -⟩ := List.mem_filter.mp htask
      obtain ⟨hfound, hown⟩ := mem_tasksOf.mp hmem
      refine ⟨hdatabase.listed_row (Table.mem_rows_of_get? hfound), fun hsame => ?_⟩
      exact (hphase.1 (.inl (hown.symm.trans hsame))).canonical.failed hfailed
    · cases htask
  · -- cancelPending
    rename_i now projection task rest following
    cases h
    obtain ⟨hprojection, hpending, hnext⟩ := hphase
    rw [List.forall_mem_cons] at hpending
    have hcancelled : Listed operationId roster (cancelledTask runtime.python task now
        "another required action failed") := hpending.1.1
    refine (hdatabase.saveTask hcancelled fun hown => ?_).conserves (fun _ hmem => hmem) ?_
    · exact hpending.1.2 hown
    · exact ⟨hprojection, hpending.2, hnext⟩
  · -- persist
    rename_i projection rest
    split at h
    · rename_i hpersist
      cases h
      obtain ⟨hreached, hkept⟩ := hdatabase.persist hphase.1 hreliable.upToDate hpersist
      exact hreached.conserves hkept hphase.2.2
    · cases h
      exact hsame trivial
  · -- stop
    cases h
    exact hsame trivial
  · cases h

end Statements

section Steps

variable {ι : Type} {runtime : OperationRuntime} {plan : RecoveryPlan} {operationId : String}
  {roster : String → Option (String × List String)}

/-- The database and every agent agree with the receipts of the operation. -/
structure Plane.Accounted (runtime : OperationRuntime) (plan : RecoveryPlan) (operationId : String)
    (roster : String → Option (String × List String)) (plane : Plane ι) : Prop where
  database : ControlPlane.Accounted runtime plan operationId roster plane.database
  phases : ∀ i, (plane.processes i).phase.Accounted runtime plan operationId roster
    (plane.database.receiptsOf operationId)

def reliably (runtime : OperationRuntime) (plan : RecoveryPlan) (operationId : String)
    (transition : Transition (Plane ι) (ι × Statement)) : Prop :=
  Reliable runtime plan operationId transition.before.database transition.label.2
    (transition.before.processes transition.label.1).phase

instance (runtime : OperationRuntime) (plan : RecoveryPlan) (operationId : String)
    (transition : Transition (Plane ι) (ι × Statement)) :
    Decidable (reliably runtime plan operationId transition) :=
  inferInstanceAs (Decidable (Reliable ..))

theorem step_accounted [DecidableEq ι] {transition : Transition (Plane ι) (ι × Statement)}
    (hroster : Rostered plan roster)
    (h : step runtime transition.label transition.before = some transition.after)
    (hreliable : reliably runtime plan operationId transition)
    (hbefore : transition.before.Accounted runtime plan operationId roster) :
    transition.after.Accounted runtime plan operationId roster := by
  obtain ⟨before, label, after⟩ := transition
  dsimp only at h hbefore ⊢
  rcases step_cases h with ⟨agent, -, rfl⟩ | ⟨database, next, hrun, rfl⟩
  · exact ⟨hbefore.database, forall_phase_update trivial hbefore.phases⟩
  · have hconserves := run_conserves hrun hroster hbefore.database (hbefore.phases label.1) hreliable
    refine ⟨hconserves.accounted, forall_phase_update hconserves.next fun j => ?_⟩
    exact (hbefore.phases j).mono hconserves.kept

end Steps

section Conclusion

variable {ι : Type} {runtime : OperationRuntime} {plan : RecoveryPlan} {operationId : String}
  {roster : String → Option (String × List String)} {database : Database}

/-- The statements of `_reconcile_operation` where nothing is queued. -/
def reconcileOperation (trace : Trace Effect) : List Statement :=
  [.refreshOperation, .readReceipts, .reconcile trace, .listPending, .persist]

def perform (runtime : OperationRuntime) (agent : ExecutorAgentRecord) :
    List Statement → Database → Phase → Option (Database × Phase)
  | [], database, phase => some (database, phase)
  | statement :: rest, database, phase =>
    (statement.run runtime database agent phase).bind fun reached =>
      perform runtime agent rest reached.1 reached.2

def taskTerminal (status : TaskStatus) : Bool :=
  status = .completed ∨ status = .failed ∨ status = .cancelled

def AllTerminal (operationId : String) (database : Database) : Prop :=
  ∀ task ∈ database.tasksOf operationId, taskTerminal task.status = true

instance (operationId : String) (database : Database) : Decidable (AllTerminal operationId database) :=
  inferInstanceAs (Decidable (∀ task ∈ _, _))

/-- A dependency that does not hold back a local run: it is completed, or it is optional
and has failed. -/
def Passed (plan : RecoveryPlan) (database : Database) (operationId actionId : String) : Prop :=
  ∃ task ∈ database.tasksOf operationId, task.actionId = actionId ∧
    (task.status = .completed ∨ task.status = .failed ∧ ¬ Required plan actionId)

/-- The operation ends with its tasks, and nothing waits in vain for an optional action. -/
structure Concludes (runtime : OperationRuntime) (plan : RecoveryPlan) (operationId : String)
    (database : Database) : Prop where
  ends : AllTerminal operationId database → ∀ agent trace, ∃ reached reconciled,
    perform runtime agent (reconcileOperation trace) database (.reconciling operationId .idle) =
      some (reached, .idle) ∧ reached.operations.get? operationId = some reconciled ∧
        (reconciled.status = .verifying ∨ reconciled.status = .failed)
  treated : ∀ task ∈ database.tasksOf operationId,
    (∀ actionId ∈ dependencies task, Passed plan database operationId actionId) →
      FailureReported plan (database.receiptsOf operationId) ∨ task.status ≠ .cancelled ∧
        ∀ actionId ∈ dependencies task, actionId ∈ completedActionIds database operationId

theorem completed_of_passed (hroster : Rostered plan roster)
    (h : Accounted runtime plan operationId roster database) {task : ExecutionTaskRecord}
    (htask : task ∈ database.tasksOf operationId) {actionId : String}
    (hdepends : actionId ∈ dependencies task) (hpassed : Passed plan database operationId actionId)
    (hnone : ¬ FailureReported plan (database.receiptsOf operationId)) :
    actionId ∈ completedActionIds database operationId := by
  obtain ⟨other, hother, hid, hstatus⟩ := hpassed
  have hcompleted : other.status = .completed := by
    refine hstatus.resolve_right fun ⟨hfailed, _⟩ => hnone ?_
    obtain ⟨hfound, hown⟩ := mem_tasksOf.mp htask
    apply h.dependencyFailed hroster (h.listed_row (Table.mem_rows_of_get? hfound)) hown
    rw [ControlPlane.dependencyFailed, List.any_eq_true]
    refine ⟨other, hown ▸ hother, ?_⟩
    rw [decide_eq_true_eq, hid]
    exact ⟨hdepends, .inl hfailed⟩
  rw [completedActionIds, List.mem_map]
  exact ⟨other, List.mem_filter.mpr ⟨hother, decide_eq_true hcompleted⟩, hid⟩

theorem Accounted.treated (h : Accounted runtime plan operationId roster database)
    (hroster : Rostered plan roster) {task : ExecutionTaskRecord}
    (htask : task ∈ database.tasksOf operationId)
    (hpassed : ∀ actionId ∈ dependencies task, Passed plan database operationId actionId) :
    FailureReported plan (database.receiptsOf operationId) ∨ task.status ≠ .cancelled ∧
      ∀ actionId ∈ dependencies task, actionId ∈ completedActionIds database operationId := by
  by_cases hnone : FailureReported plan (database.receiptsOf operationId)
  · exact .inl hnone
  · right
    constructor
    · intro hcancelled
      have hended := h.ended task htask
      rw [hcancelled] at hended
      exact hnone hended
    · intro actionId hdepends
      exact completed_of_passed hroster h htask hdepends (hpassed actionId hdepends) hnone

/-- Projections of different statuses have different hashes. -/
def SeparatesStatuses (runtime : OperationRuntime) : Prop :=
  ∀ merged current status merged' current' status',
    runtime.projectionHash merged current status = runtime.projectionHash merged' current' status' →
      status = status'

variable {operation reconciled : OperationRun}

theorem mem_mergeReceipts_of_stored
    (hcanonical : Canonical runtime plan (database.receiptsOf operationId) operation)
    {receipt : ActionReceipt} (hmem : receipt ∈ database.receiptsOf operationId) :
    receipt ∈ OperationRuntime.mergeReceipts operation.actionReceipts
      (database.receiptsOf operationId) := by
  have hid := receiptIds_mergeReceipts.mpr
    (.inr (List.mem_map_of_mem hmem) : receipt.receiptId ∈
      operation.actionReceipts.map ActionReceipt.receiptId ∨ _)
  obtain ⟨found, hfound, hsame⟩ := List.mem_map.mp hid
  have hstored : found ∈ database.receiptsOf operationId :=
    (mem_mergeReceipts hfound).elim (fun hown => hcanonical.reported hown) id
  rwa [eq_of_receiptId hstored hmem hsame] at hfound

theorem Accounted.reported (h : Accounted runtime plan operationId roster database)
    (hroster : Rostered plan roster) (hterminal : AllTerminal operationId database)
    (hnone : ¬ FailureReported plan (database.receiptsOf operationId)) {action : ActionInstance}
    (haction : action ∈ plan.actions) :
    ∃ receipt ∈ database.receiptsOf operationId, receipt.actionId = action.actionId := by
  obtain ⟨taskId, entry, hentry, hid⟩ := hroster.covers action haction
  rw [← h.listed] at hentry
  obtain ⟨task, hfound, rfl⟩ := Option.map_eq_some_iff.mp hentry
  obtain ⟨hfound, hown⟩ := Option.filter_eq_some_iff.mp hfound
  rw [decide_eq_true_eq] at hown
  have htask : task ∈ database.tasksOf operationId := by
    rw [mem_tasksOf, Table.key_of_get? hfound]
    exact ⟨hfound, hown⟩
  have hended := h.ended task htask
  have hstatus := hterminal task htask
  rw [taskTerminal, decide_eq_true_eq] at hstatus
  rcases hstatus with hstatus | hstatus | hstatus
  · rw [hstatus] at hended
    obtain ⟨receipt, hmem, hreceipt⟩ := hended
    exact ⟨receipt, hmem, hreceipt.trans hid⟩
  · rw [hstatus] at hended
    obtain ⟨receipt, hmem, hreceipt, -⟩ := hended
    exact ⟨receipt, hmem, hreceipt.trans hid⟩
  · rw [hstatus] at hended
    exact absurd hended hnone

theorem mem_projection_unmarked {plan : RecoveryPlan} (hsame : SameActions plan operation)
    {action : ActionInstance} (haction : action ∈ plan.actions) :
    ∃ own ∈ operation.plan.actions, own.actionId = action.actionId ∧
      own.isOptional = action.isOptional := by
  obtain ⟨own, hown, hmark⟩ := RecoveryPlan.exists_original hsame.symm haction
  exact ⟨own, hown, actionId_unmarked hmark, isOptional_unmarked hmark⟩

theorem Accounted.projection_ends (h : Accounted runtime plan operationId roster database)
    (hroster : Rostered plan roster) (hterminal : AllTerminal operationId database)
    (hcanonical : Canonical runtime plan (database.receiptsOf operationId) operation) :
    OperationRuntime.reconciledStatus
        (projection operation (database.receiptsOf operationId) (some [])) = .verifying ∨
      OperationRuntime.reconciledStatus
        (projection operation (database.receiptsOf operationId) (some [])) = .failed := by
  rw [reconciledStatus_eq_failed, reconciledStatus_eq_verifying]
  by_cases hfailed : OperationRuntime.failedRequired
      (projection operation (database.receiptsOf operationId) (some [])) ≠ []
  · exact .inr hfailed
  left
  refine ⟨hfailed, ?_⟩
  -- No required action has failed, so every action has a receipt.
  have hnone : ¬ FailureReported plan (database.receiptsOf operationId) := by
    rintro ⟨receipt, hmem, hstatus, action, haction, hid, hrequired⟩
    apply hfailed
    obtain ⟨own, hown, hsameId, hoptional⟩ := mem_projection_unmarked hcanonical.same haction
    have hmerged := mem_mergeReceipts_of_stored hcanonical hmem
    obtain ⟨latest, hlatest⟩ := Option.isSome_iff_exists.mp (latestReceipt_isSome.mpr
      (List.mem_map.mpr ⟨receipt, hmerged, (hid.symm.trans hsameId.symm)⟩))
    obtain ⟨hfound, hlatestId⟩ := mem_of_latestReceipt hlatest
    have hstored : latest ∈ database.receiptsOf operationId :=
      (mem_mergeReceipts hfound).elim (fun hown => hcanonical.reported hown) id
    have hlatestFailed : latest.status = .failed :=
      (h.unanimous receipt hmem latest hstored (by rw [hlatestId, hsameId, hid])).mp hstatus
    apply List.ne_nil_of_mem
    refine List.mem_filter.mpr ⟨List.mem_map_of_mem hown, ?_⟩
    rw [decide_eq_true_eq]
    refine ⟨?_, by rw [hoptional, hrequired]; exact Bool.false_ne_true⟩
    change OperationRuntime.projectedStatus own [] (latestReceipt _ own.actionId) = .failed
    exact projectedStatus_eq_failed.mpr ⟨latest, hlatest, hlatestFailed⟩
  rw [List.all_eq_true]
  intro marked hmarked
  obtain ⟨own, hown, rfl⟩ := List.mem_map.mp hmarked
  obtain ⟨action, haction, hmark⟩ := RecoveryPlan.exists_original hcanonical.same hown
  obtain ⟨receipt, hmem, hid⟩ := h.reported hroster hterminal hnone haction
  change OperationRuntime.terminalAction (OperationRuntime.projectedStatus own []
    (latestReceipt _ own.actionId)) = true
  rw [terminal_projectedStatus, latestReceipt_isSome]
  refine List.mem_map.mpr ⟨receipt, mem_mergeReceipts_of_stored hcanonical hmem, ?_⟩
  exact hid.trans (actionId_unmarked hmark)

theorem exists_persistOperation (h : Accounted runtime plan operationId roster database)
    (hown : reconciled.operationId = operationId)
    (hcanonical : Canonical runtime plan (database.receiptsOf operationId) reconciled) :
    ∃ reached, persistOperation runtime.python database reconciled = some reached := by
  subst hown
  have hwritable : ∀ receipt ∈ reconciled.actionReceipts,
      ∃ row, receiptRow runtime.python reconciled.operationId receipt = .ok row := by
    intro receipt hmem
    have hok := (h.conclusive receipt (hcanonical.reported hmem)).writable
    cases hrow : receiptRow runtime.python reconciled.operationId receipt with
    | ok row => exact ⟨row, rfl⟩
    | error error =>
      rw [hrow] at hok
      cases hok
  obtain ⟨created, hcreated⟩ := exists_mapM_ok hwritable
  obtain ⟨hoperations, hpayloads⟩ := receiptRows_ok hcreated
  have hstored : ∀ row ∈ created, ∃ found, database.receipts.get? row.receiptId = some found ∧
      found.operationId = reconciled.operationId := by
    intro row hrow
    have hmem : row.payload ∈ reconciled.actionReceipts := hpayloads ▸ List.mem_map_of_mem hrow
    obtain ⟨found, hfound, hsame, -⟩ := mem_receiptsOf.mp (hcanonical.reported hmem)
    exact ⟨found, hfound, hsame⟩
  -- The ids are those of the rows deleted before.
  obtain ⟨receipts, hreceipts⟩ : ∃ receipts, (database.receipts.filter fun row =>
      row.operationId ≠ reconciled.operationId).bulkCreate created = some receipts := by
    apply Table.exists_bulkCreate
    · intro row hrow
      obtain ⟨found, hfound, hsame⟩ := hstored row hrow
      rw [Table.get?_filter, hfound, Option.filter_some, hsame]
      simp
    · have hids : created.map ActionReceiptRecord.receiptId =
          reconciled.actionReceipts.map ActionReceipt.receiptId := by
        rw [← hpayloads, List.map_map]
        rfl
      rw [hids]
      exact hcanonical.distinct
  unfold persistOperation
  rw [hcreated]
  exact ⟨{ database with
    receipts := receipts
    operations := database.operations.put reconciled }, by
      simp only [Except.toOption, bind, Option.bind_some, hreceipts, pure]⟩

theorem reconciled_status (hseparates : SeparatesStatuses runtime)
    {receipts given : List ActionReceipt} (hcanonical : Canonical runtime plan receipts operation)
    {current : Option (List String)} {trace ended : Trace Effect}
    (hexec : (runtime.reconcileExternalReceipts operation given current).exec trace =
      (.ok reconciled, ended)) :
    reconciled.status = OperationRuntime.reconciledStatus (projection operation given current) := by
  rcases reconcile_cases.apply hexec with ⟨rfl, halready⟩ | hprojected
  · obtain ⟨merged, listed, hrecorded⟩ := hcanonical.recorded
    rw [AlreadyProjected, hrecorded] at halready
    exact hseparates _ _ _ _ _ _ (Json.str.inj (Option.some.inj halready))
  · exact hprojected.status

theorem Accounted.ends (h : Accounted runtime plan operationId roster database)
    (hroster : Rostered plan roster) (haccepted : plan.Accepted runtime.python)
    (hseparates : SeparatesStatuses runtime) (hterminal : AllTerminal operationId database)
    (agent : ExecutorAgentRecord) (trace : Trace Effect) : ∃ reached reconciled,
      perform runtime agent (reconcileOperation trace) database (.reconciling operationId .idle) =
        some (reached, .idle) ∧ reached.operations.get? operationId = some reconciled ∧
          (reconciled.status = .verifying ∨ reconciled.status = .failed) := by
  obtain ⟨operation, hfound, hcanonical⟩ := h.operation
  have hown : operation.operationId = operationId := Table.key_of_get? hfound
  have hvalid : operation.validate runtime.python = .ok operation := by
    apply validate_of_within (haccepted.of_unmarked hcanonical.same)
    intro receipt hmem
    rw [RecoveryPlan.actionIds_of_unmarked hcanonical.same]
    exact (h.conclusive receipt (hcanonical.reported hmem)).planned
  have hstatus : ∀ status, taskTerminal status = false →
      (database.tasksOf operationId).filter (fun task => task.status = status) = [] := by
    intro status hnot
    rw [List.filter_eq_nil_iff]
    intro task htask hsame
    have hended := hterminal task htask
    rw [of_decide_eq_true hsame, hnot] at hended
    cases hended
  have hrunning : runningActionIds database operation.operationId = [] := by
    rw [runningActionIds, hown, hstatus .running rfl]
    rfl
  obtain ⟨reconciled, ended, hexec⟩ := reconcile_total runtime operation
    (database.receiptsOf operation.operationId) (some []) trace
  have haccounted := reconciled_accounted hown hcanonical (by rw [hown]; exact fun _ hmem => hmem) hexec
  have hid : reconciled.operationId = operationId := haccounted.projects.operationId.trans hown
  obtain ⟨reached, hpersist⟩ := exists_persistOperation h hid haccounted.canonical
  refine ⟨reached, reconciled, ?_, ?_, ?_⟩
  · have hpending : (if reconciled.status = .failed then
        (database.tasksOf operation.operationId).filter fun task => task.status = .queued else []) =
          ([] : List ExecutionTaskRecord) := by
      rw [hown, hstatus .queued rfl, ite_self]
    simp only [reconcileOperation, perform, Statement.run, hfound, hvalid, hrunning, hexec, hpending,
      hpersist, Option.bind_some]
  · rw [(persisted_of_persistOperation hpersist).operations, Table.get?_put, if_pos hid.symm]
  · rw [reconciled_status hseparates hcanonical hexec, hown]
    exact h.projection_ends hroster hterminal hcanonical

end Conclusion

section Runs

variable {ι : Type} {runtime : OperationRuntime} {given : OperationRun} {operationId : String}

def Phase.heldTasks : Phase → List ExecutionTaskRecord
  | .culling queued => queued.map Prod.fst
  | .assigned assignment | .executed assignment _ | .released assignment _ => [assignment.task]
  | .reconciling _ next | .refreshed _ next | .gathered _ _ next | .projected _ next => next.heldTasks
  | .cancelling _ pending next => pending ++ next.heldTasks
  | .stopped | .idle | .sweeping _ | .admitted => []

def Phase.heldOperations : Phase → List OperationRun
  | .refreshed operation next | .gathered operation _ next => operation :: next.heldOperations
  | .projected projection next | .cancelling projection _ next =>
    projection.operation :: projection.reconciled :: next.heldOperations
  | .reconciling _ next => next.heldOperations
  | .stopped | .idle | .sweeping _ | .admitted | .culling _ | .assigned _ | .executed _ _
  | .released _ _ => []

structure Unaware (operationId : String) (database : Database) (phase : Phase) : Prop where
  tasks : ∀ task ∈ phase.heldTasks, task.operationId ≠ operationId ∧
    ∀ own ∈ database.tasksOf operationId, own.taskId ≠ task.taskId
  operations : ∀ operation ∈ phase.heldOperations, operation.operationId ≠ operationId

theorem Unaware.listed {database : Database} {phase : Phase}
    (h : Unaware operationId database phase) {task : ExecutionTaskRecord}
    (htask : task ∈ phase.heldTasks) : Listed operationId (database.roster operationId) task := by
  obtain ⟨hother, hapart⟩ := h.tasks task htask
  rw [Listed, if_neg hother]
  cases hfound : database.tasks.get? task.taskId with
  | none => rw [Database.roster, hfound]; rfl
  | some row =>
    rw [roster_of_get? hfound, if_neg]
    intro hown
    have hkey := Table.key_of_get? hfound
    exact hapart row (mem_tasksOf.mpr ⟨by rw [hkey, hfound], hown⟩) hkey

theorem Unaware.accounted {database : Database} {phase : Phase} {plan : RecoveryPlan}
    {receipts : List ActionReceipt} (h : Unaware operationId database phase) :
    phase.Accounted runtime plan operationId (database.roster operationId) receipts := by
  induction phase with
  | stopped | idle | sweeping _ | admitted => trivial
  | culling queued =>
    intro entry hentry
    have hmem : entry.1 ∈ (Phase.culling queued).heldTasks := List.mem_map_of_mem hentry
    exact ⟨h.listed hmem, fun hown => absurd hown (h.tasks _ hmem).1⟩
  | assigned assignment => exact h.listed (List.mem_singleton_self _)
  | executed assignment success =>
    have hmem := List.mem_singleton_self assignment.task
    exact ⟨h.listed hmem, fun hown => absurd hown (h.tasks _ hmem).1⟩
  | released assignment success =>
    have hmem := List.mem_singleton_self assignment.task
    exact ⟨h.listed hmem, fun hown => absurd hown (h.tasks _ hmem).1⟩
  | reconciling _ next ih => exact ih ⟨h.tasks, h.operations⟩
  | refreshed operation next ih =>
    have hothers := List.forall_mem_cons.mp h.operations
    exact ⟨fun hown => absurd hown hothers.1, ih ⟨h.tasks, hothers.2⟩⟩
  | gathered operation receipts next ih =>
    have hothers := List.forall_mem_cons.mp h.operations
    exact ⟨fun hown => absurd hown hothers.1, ih ⟨h.tasks, hothers.2⟩⟩
  | projected projection next ih =>
    obtain ⟨hread, hothers⟩ := List.forall_mem_cons.mp h.operations
    obtain ⟨hmade, hothers⟩ := List.forall_mem_cons.mp hothers
    exact ⟨fun hown => (hown.elim hread hmade).elim, ih ⟨h.tasks, hothers⟩⟩
  | cancelling projection pending next ih =>
    obtain ⟨hread, hothers⟩ := List.forall_mem_cons.mp h.operations
    obtain ⟨hmade, hothers⟩ := List.forall_mem_cons.mp hothers
    refine ⟨fun hown => (hown.elim hread hmade).elim, fun task htask => ?_,
      ih ⟨fun task htask => h.tasks task (List.mem_append_right _ htask), hothers⟩⟩
    have hmem : task ∈ (Phase.cancelling projection pending next).heldTasks :=
      List.mem_append_left _ htask
    exact ⟨h.listed hmem, fun hown => absurd hown (h.tasks _ hmem).1⟩

theorem Dispatched.rostered {database : Database} (h : Dispatched runtime given database) :
    Rostered given.plan (database.roster given.operationId) := by
  constructor
  · intro taskId entry hentry
    obtain ⟨task, hfound, rfl⟩ := Option.map_eq_some_iff.mp hentry
    obtain ⟨hfound, hown⟩ := Option.filter_eq_some_iff.mp hfound
    rw [decide_eq_true_eq] at hown
    have hmem := mem_tasksOf.mpr ⟨by rw [Table.key_of_get? hfound, hfound], hown⟩
    obtain ⟨-, action, haction, hfor⟩ := h.only task hmem
    exact ⟨action, haction, by rw [hfor.actionId, hfor.dependencies]⟩
  · intro action haction
    obtain ⟨task, htask, hid⟩ := h.covers action haction
    obtain ⟨hfound, hown⟩ := mem_tasksOf.mp htask
    exact ⟨task.taskId, _, (roster_of_get? hfound).trans (if_pos hown), hid⟩

theorem Dispatched.accounted {database : Database} (h : Dispatched runtime given database) :
    Accounted runtime given.plan given.operationId (database.roster given.operationId) database := by
  obtain ⟨dispatched, hfound, hstarted⟩ := h.operation
  constructor
  · exact fun _ => rfl
  · refine ⟨dispatched, hfound, hstarted.same, ?_, ?_, ⟨_, _, hstarted.recorded⟩, ?_, ?_⟩
    · rw [hstarted.unreceipted]
      exact List.nil_subset _
    · unfold DistinctReceipts
      rw [hstarted.unreceipted]
      exact List.nodup_nil
    · simp [hstarted.status]
    · intro hfailed
      rw [hstarted.status] at hfailed
      cases hfailed
  · intro receipt hmem
    rw [h.unreceipted] at hmem
    cases hmem
  · intro left hmem
    rw [h.unreceipted] at hmem
    cases hmem
  · intro task htask
    rw [(h.only task htask).1]
    trivial

theorem concludes_of_accounted {plan : RecoveryPlan}
    {roster : String → Option (String × List String)} {database : Database}
    (h : Accounted runtime plan operationId roster database) (hroster : Rostered plan roster)
    (haccepted : plan.Accepted runtime.python) (hseparates : SeparatesStatuses runtime) :
    Concludes runtime plan operationId database where
  ends hterminal agent trace := h.ends hroster haccepted hseparates hterminal agent trace
  treated _ htask hpassed := h.treated hroster htask hpassed

/-- An operation dispatched for the first time ends with its tasks in every run in which
the agents report reliably. -/
theorem dispatched_concludes [DecidableEq ι] {request : DispatchRequest} {database : Database}
    {trace : Trace Effect} {start reached : Plane ι}
    {past : List (Transition (Plane ι) (ι × Statement))}
    (hdispatch : dispatch runtime request database operationId trace = .ok start.database)
    (hgiven : database.operations.get? operationId = some given) (hfresh : Unexecuted given)
    (hnone : database.tasksOf operationId = [])
    (hunaware : ∀ i, Unaware operationId start.database (start.processes i).phase)
    (hseparates : SeparatesStatuses runtime) (h : Run (step runtime) start past reached)
    (hreliable : ∀ transition ∈ past, reliably runtime given.plan operationId transition) :
    Concludes runtime given.plan operationId reached.database := by
  have hdispatched := dispatch_dispatched hdispatch hgiven hfresh hnone
  obtain rfl : given.operationId = operationId := Table.key_of_get? hgiven
  have hroster := hdispatched.rostered
  have hstart : start.Accounted runtime given.plan given.operationId
      (start.database.roster given.operationId) :=
    ⟨hdispatched.accounted, fun i => (hunaware i).accounted⟩
  have hreached := h.invariant hstart fun transition hmem hstep hbefore =>
    step_accounted hroster hstep (hreliable transition hmem) hbefore
  exact concludes_of_accounted hreached.database hroster hdispatched.accepted hseparates

end Runs

end KubeOps.ControlPlane
