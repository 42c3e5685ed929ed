import KubeOps.ControlPlane.DockerFleet

/-! Receipts under concurrent reconciliation. Persisting an operation deletes
its receipts and writes those of the model again, so a receipt survives exactly
when the agent that persists has seen it. -/
namespace KubeOps.ControlPlane

open KubeOps.Foundation KubeOps.Models KubeOps.Execution

variable {ι : Type}

section Database

def Stored (database : Database) (operationId receiptId : String) : Prop :=
  ∃ row, database.receipts.get? receiptId = some row ∧ row.operationId = operationId

variable {python : Python} {database reached : Database} {operationId receiptId : String}

theorem stored_iff {database : Database} {operationId receiptId : String} :
    Stored database operationId receiptId ↔
      (database.receipts.get? receiptId).map ActionReceiptRecord.operationId = some operationId := by
  rw [Option.map_eq_some_iff]
  rfl

instance (database : Database) (operationId receiptId : String) :
    Decidable (Stored database operationId receiptId) :=
  decidable_of_iff _ stored_iff.symm

theorem Stored.putReceipt {row : ActionReceiptRecord} (h : Stored database operationId receiptId)
    (hrow : row.operationId = operationId) :
    Stored (database.putReceipt row) operationId receiptId := by
  obtain ⟨found, hfound, hsame⟩ := h
  by_cases heq : receiptId = row.receiptId
  · exact ⟨row, by simp [Database.putReceipt, Table.get?_put, heq], hrow⟩
  · exact ⟨found, by simp [Database.putReceipt, Table.get?_put, heq, hfound], hsame⟩

theorem receiptRows_ok {receipts : List ActionReceipt} {rows : List ActionReceiptRecord}
    (h : receipts.mapM (receiptRow python operationId) = .ok rows) :
    (∀ row ∈ rows, row.operationId = operationId) ∧
      rows.map ActionReceiptRecord.payload = receipts := by
  constructor
  · intro row hrow
    obtain ⟨receipt, -, hwritten⟩ := mem_of_mapM h hrow
    exact (receiptRow_ok hwritten).1
  · have hpayloads := map_eq_of_mapM h fun _ _ hwritten => (receiptRow_ok hwritten).2
    rwa [List.map_id'] at hpayloads

theorem mem_receiptsOf {receipt : ActionReceipt} : receipt ∈ database.receiptsOf operationId ↔
    ∃ row, database.receipts.get? receipt.receiptId = some row ∧ row.operationId = operationId ∧
      row.payload = receipt := by
  simp only [Database.receiptsOf, List.mem_map, List.mem_insertionSort, List.mem_filter,
    Table.mem_rows, decide_eq_true_eq]
  constructor
  · rintro ⟨row, ⟨hfound, hrow⟩, rfl⟩
    exact ⟨row, hfound, hrow, rfl⟩
  · rintro ⟨row, hfound, hrow, rfl⟩
    exact ⟨row, ⟨hfound, hrow⟩, rfl⟩

structure Persisted (database : Database) (operation : OperationRun) (reached : Database) : Prop where
  tasks : reached.tasks = database.tasks
  leases : reached.leases = database.leases
  operations : reached.operations = database.operations.put operation
  own : ∀ receipt, receipt ∈ reached.receiptsOf operation.operationId ↔
    receipt ∈ operation.actionReceipts
  others : ∀ operationId, operationId ≠ operation.operationId → ∀ receipt,
    receipt ∈ reached.receiptsOf operationId ↔ receipt ∈ database.receiptsOf operationId

theorem persisted_of_persistOperation {operation : OperationRun}
    (h : persistOperation python database operation = some reached) :
    Persisted database operation reached := by
  unfold persistOperation at h
  simp only [bind, Option.bind_eq_some_iff] at h
  obtain ⟨rows, hrows, receipts, hreceipts, hreached⟩ := h
  cases hreached
  cases hcreated : operation.actionReceipts.mapM (receiptRow python operation.operationId) with
  | error error => simp [hcreated, Except.toOption] at hrows
  | ok created =>
    obtain rfl : created = rows := by simpa [hcreated, Except.toOption] using hrows
    obtain ⟨hoperations, hpayloads⟩ := receiptRows_ok hcreated
    constructor
    · rfl
    · rfl
    · rfl
    · intro receipt
      simp only [mem_receiptsOf, Table.get?_bulkCreate hreceipts, Table.get?_filter,
        Option.filter_eq_some_iff, decide_eq_true_eq, ← hpayloads, List.mem_map]
      constructor
      · rintro ⟨row, ⟨-, hkept⟩ | ⟨hmem, -⟩, hrow, rfl⟩
        · exact absurd hrow hkept
        · exact ⟨row, hmem, rfl⟩
      · rintro ⟨row, hmem, rfl⟩
        exact ⟨row, .inr ⟨hmem, rfl⟩, hoperations row hmem, rfl⟩
    · intro operationId hne receipt
      simp only [mem_receiptsOf, Table.get?_bulkCreate hreceipts, Table.get?_filter,
        Option.filter_eq_some_iff, decide_eq_true_eq]
      constructor
      · rintro ⟨row, ⟨hfound, -⟩ | ⟨hmem, -⟩, hrow, rfl⟩
        · exact ⟨row, hfound, hrow, rfl⟩
        · exact absurd (hrow.symm.trans (hoperations row hmem)) hne
      · rintro ⟨row, hfound, hrow, rfl⟩
        exact ⟨row, .inl ⟨hfound, fun h => hne (hrow.symm.trans h)⟩, hrow, rfl⟩

theorem stored_iff_mem : Stored database operationId receiptId ↔
    receiptId ∈ (database.receiptsOf operationId).map ActionReceipt.receiptId := by
  simp only [List.mem_map, mem_receiptsOf]
  constructor
  · rintro ⟨row, hfound, hrow⟩
    have hkey : row.receiptId = receiptId := Table.key_of_get? hfound
    change row.payload.receiptId = receiptId at hkey
    exact ⟨row.payload, ⟨row, by rw [hkey, hfound], hrow, rfl⟩, hkey⟩
  · rintro ⟨receipt, ⟨row, hfound, hrow, -⟩, rfl⟩
    exact ⟨row, hfound, hrow⟩

theorem stored_persistOperation {operation : OperationRun}
    (h : persistOperation python database operation = some reached) :
    Stored reached operationId receiptId ↔
      if operationId = operation.operationId then
        receiptId ∈ operation.actionReceipts.map ActionReceipt.receiptId
      else Stored database operationId receiptId := by
  have hpersisted := persisted_of_persistOperation h
  split
  · rename_i heq
    rw [stored_iff_mem, heq]
    simp only [List.mem_map, hpersisted.own]
  · rename_i hne
    simp only [stored_iff_mem, List.mem_map, hpersisted.others _ hne]

end Database

section Reconciliation

def Known (runtime : OperationRuntime) (projection : Projection) (receiptId : String) : Prop :=
  receiptId ∈ projection.operation.actionReceipts.map ActionReceipt.receiptId ∨
    receiptId ∈ projection.receipts.map ActionReceipt.receiptId ∧
      ¬ AlreadyProjected runtime projection.operation projection.receipts (some projection.current)

instance (runtime : OperationRuntime) (projection : Projection) (receiptId : String) :
    Decidable (Known runtime projection receiptId) :=
  inferInstanceAs (Decidable (_ ∨ _ ∧ ¬ AlreadyProjected ..))

/-- The reconciled model has the receipts known to it. -/
structure Projects (runtime : OperationRuntime) (projection : Projection) : Prop where
  operationId : projection.reconciled.operationId = projection.operation.operationId
  receiptIds : ∀ receiptId,
    receiptId ∈ projection.reconciled.actionReceipts.map ActionReceipt.receiptId ↔
      Known runtime projection receiptId

variable {runtime : OperationRuntime} {operation : OperationRun} {receipts : List ActionReceipt}
  {current : List String}

theorem Projects.unchanged (h : AlreadyProjected runtime operation receipts (some current)) :
    Projects runtime ⟨operation, receipts, current, operation⟩ := by
  refine ⟨rfl, fun receiptId => ?_⟩
  simp [Known, h]

theorem Projects.merged {later : OperationRun}
    (h : ¬ AlreadyProjected runtime operation receipts (some current))
    (hoperation : later.operationId = operation.operationId)
    (hreceipts : later.actionReceipts =
      OperationRuntime.mergeReceipts operation.actionReceipts receipts) :
    Projects runtime ⟨operation, receipts, current, later⟩ := by
  refine ⟨hoperation, fun receiptId => ?_⟩
  dsimp only
  rw [hreceipts, receiptIds_mergeReceipts]
  simp [Known, h]

theorem reconcile_projects :
    Triple (fun _ => True) (runtime.reconcileExternalReceipts operation receipts (some current))
      (fun later _ => Projects runtime ⟨operation, receipts, current, later⟩) (fun _ _ => True) := by
  have hproject : ¬ AlreadyProjected runtime operation receipts (some current) →
      ∀ actions status listed hash, Triple (fun _ => True)
        (OperationRuntime.reconcileExternalReceipts.project runtime operation
          (OperationRuntime.mergeReceipts operation.actionReceipts receipts) listed actions status hash)
        (fun later _ => Projects runtime ⟨operation, receipts, current, later⟩)
        (fun _ _ => True) := by
    intro hnew actions status listed hash
    unfold OperationRuntime.reconcileExternalReceipts.project OperationRuntime.utcNowIso
    refine Triple.bind_tick fun now => OperationRuntime.bind_event fun event _ _ => ?_
    exact OperationRuntime.saved_rule fun log _ => .merged hnew rfl rfl
  unfold OperationRuntime.reconcileExternalReceipts
  dsimp only
  split
  · rename_i recorded hrecorded
    refine Triple.ite (fun heq => Triple.pure fun log _ => .unchanged ?_) fun hne =>
      hproject (fun h => hne ?_) _ _ _ _
    · rw [AlreadyProjected, hrecorded, heq]
    · rw [AlreadyProjected, hrecorded] at h
      exact Json.str.inj (Option.some.inj h)
  · rename_i hother
    exact hproject (fun h => hother _ h) _ _ _ _

end Reconciliation

section Steps

/-- What an agent has reconciled so far, it has reconciled from what it read. -/
def Phase.Projects (runtime : OperationRuntime) : Phase → Prop
  | .projected projection next | .cancelling projection _ next =>
    ControlPlane.Projects runtime projection ∧ next.Projects runtime
  | .reconciling _ next | .refreshed _ next | .gathered _ _ next => next.Projects runtime
  | .stopped | .idle | .sweeping _ | .admitted | .culling _ | .assigned _ | .executed _ _
  | .released _ _ => True

def Phase.Serves (operationId : String) : Phase → Prop
  | .assigned assignment | .executed assignment _ | .released assignment _ =>
    assignment.task.operationId = operationId
  | .reconciling _ next | .refreshed _ next | .gathered _ _ next | .projected _ next
  | .cancelling _ _ next => next.Serves operationId
  | .stopped | .idle | .sweeping _ | .admitted | .culling _ => True

def Database.Serves (operationId : String) (database : Database) : Prop :=
  ∀ taskId task, database.tasks.get? taskId = some task → task.operationId = operationId

variable {database reached : Database} {operationId : String}

theorem Database.Serves.update (h : database.Serves operationId) (taskId : String)
    (change : ExecutionTaskRecord → ExecutionTaskRecord) (hkey : ∀ row, (change row).taskId = row.taskId)
    (hchange : ∀ row, (change row).operationId = row.operationId) :
    Database.Serves operationId
      { database with tasks := database.tasks.update taskId change hkey } := by
  intro other task htask
  rw [Table.get?_update] at htask
  split at htask
  · obtain ⟨row, hrow, rfl⟩ := Option.map_eq_some_iff.mp htask
    rw [hchange]
    exact h _ _ hrow
  · exact h _ _ htask

theorem Database.Serves.saveTask (h : database.Serves operationId) (task : ExecutionTaskRecord) :
    (database.saveTask task).Serves operationId := by
  refine h.update _ _ _ ?_
  exact fun _ => rfl

theorem Database.Serves.saveAssignedTask (h : database.Serves operationId)
    (task : ExecutionTaskRecord) : (database.saveAssignedTask task).Serves operationId := by
  refine h.update _ _ _ ?_
  exact fun _ => rfl

theorem Database.Serves.mem_rows (h : database.Serves operationId) {task : ExecutionTaskRecord}
    (hmem : task ∈ database.tasks.rows) : task.operationId = operationId :=
  h _ _ (Table.mem_rows.mp hmem)

structure KeepsReceipts (operationId : String) (database reached : Database) : Prop where
  serves : reached.Serves operationId
  stored : ∀ receiptId, Stored database operationId receiptId → Stored reached operationId receiptId

theorem Database.Serves.refl (h : database.Serves operationId) :
    KeepsReceipts operationId database database := ⟨h, fun _ h => h⟩

theorem expireLease_keeps {python : Python} {now : Int} {lease : TaskLeaseRecord}
    {task : ExecutionTaskRecord} (h : database.Serves operationId)
    (htask : task.operationId = operationId)
    (hexpire : expireLease python database now lease task = .ok reached) :
    KeepsReceipts operationId database reached := by
  obtain ⟨model, -, ⟨_, rfl⟩ | ⟨-, rfl⟩⟩ := expireLease_cases hexpire
  · exact ⟨Database.Serves.saveAssignedTask h _, fun _ hstored => hstored⟩
  · refine ⟨Database.Serves.saveAssignedTask h _, fun receiptId hstored => ?_⟩
    exact Stored.putReceipt hstored htask

theorem expireStaleLeases_keeps {python : Python} {locked affected : List String} {now : Int}
    (h : database.Serves operationId)
    (hexpire : expireStaleLeases python database locked now = .ok (reached, affected)) :
    KeepsReceipts operationId database reached := by
  refine foldlM_ok (p := KeepsReceipts operationId database) (expireStaleLeases_ok hexpire) h.refl
    fun entry hmem current next hcurrent hnext => ?_
  obtain ⟨-, htask⟩ := mem_dueLeases hmem
  have hkeeps := expireLease_keeps hcurrent.serves (h _ _ htask) hnext
  exact ⟨hkeeps.serves, fun receiptId hstored => hkeeps.stored _ (hcurrent.stored _ hstored)⟩

theorem cancelIfBlocked_keeps {python : Python} (h : database.Serves operationId)
    (task : ExecutionTaskRecord) (status : Option OperationStatus) (now : Int) :
    KeepsReceipts operationId database (cancelIfBlocked python database task status now) := by
  unfold cancelIfBlocked
  split
  · exact ⟨h.saveTask _, fun _ hstored => hstored⟩
  · split
    · exact ⟨h.saveTask _, fun _ hstored => hstored⟩
    · exact h.refl

theorem claim_keeps {agent : ExecutorAgentRecord} {python : Python} {locked : List String} {now : Int}
    {random nonce : String} {assignment : Assignment} (h : database.Serves operationId)
    (hclaim : claim database agent python locked now random nonce = .ok (some (reached, assignment))) :
    KeepsReceipts operationId database reached ∧ assignment.task.operationId = operationId := by
  obtain ⟨task, timeoutSeconds, hstored, -, -, -, -, rfl, rfl⟩ := claim_eq_some hclaim
  have htask := h.mem_rows (Table.mem_rows_of_get? hstored)
  exact ⟨⟨Database.Serves.saveAssignedTask h _, fun _ hstored => hstored⟩, htask⟩

end Steps

section Statements

variable {runtime : OperationRuntime} {database reached : Database} {operationId : String}

/-- A transaction that goes through comes while every receipt stored for the
operation is known to the agent that persists. -/
def upToDate (runtime : OperationRuntime) (operationId : String) (database : Database) :
    Statement → Phase → Bool
  | .persist, .cancelling projection [] _ =>
    projection.operation.operationId = operationId →
      (persistOperation runtime.python database projection.reconciled).isSome = true →
        ∀ row ∈ database.receipts.rows, row.operationId = operationId →
          Known runtime projection row.receiptId
  | _, _ => true

theorem forall_stored {p : String → Prop} :
    (∀ receiptId, Stored database operationId receiptId → p receiptId) ↔
      ∀ row ∈ database.receipts.rows, row.operationId = operationId → p row.receiptId := by
  constructor
  · intro h row hmem hrow
    exact h _ ⟨row, Table.mem_rows.mp hmem, hrow⟩
  · rintro h receiptId ⟨row, hfound, hrow⟩
    have hkey := Table.key_of_get? hfound
    rw [← hkey]
    exact h row (Table.mem_rows.mpr (by rw [hkey, hfound])) hrow

structure Outcome (runtime : OperationRuntime) (operationId : String) (database : Database)
    (statement : Statement) (phase : Phase) (reached : Database) (next : Phase) : Prop where
  serves : reached.Serves operationId
  nextServes : next.Serves operationId
  nextProjects : next.Projects runtime
  stored_iff : (∀ receiptId, Stored database operationId receiptId →
    Stored reached operationId receiptId) ↔
      upToDate runtime operationId database statement phase = true

theorem KeepsReceipts.outcome {statement : Statement} {phase next : Phase}
    (h : KeepsReceipts operationId database reached) (hserves : next.Serves operationId)
    (hprojects : next.Projects runtime)
    (hcurrent : upToDate runtime operationId database statement phase = true) :
    Outcome runtime operationId database statement phase reached next :=
  ⟨h.serves, hserves, hprojects, fun _ => hcurrent, fun _ => h.stored⟩

theorem persist_outcome {projection : Projection} {next : Phase} (hserves : database.Serves operationId)
    (hnext : next.Serves operationId) (hprojects : next.Projects runtime)
    (hprojection : Projects runtime projection)
    (h : persistOperation runtime.python database projection.reconciled = some reached) :
    Outcome runtime operationId database .persist (.cancelling projection [] next) reached next := by
  refine ⟨?_, hnext, hprojects, ?_⟩
  · obtain ⟨created, -, receipts, -, hreached⟩ := by
      simpa only [persistOperation, bind, Option.bind_eq_some_iff] using h
    cases hreached
    exact hserves
  · simp only [upToDate, decide_eq_true_eq, h, Option.isSome_some, forall_const, stored_persistOperation h,
      hprojection.operationId, hprojection.receiptIds]
    by_cases hsame : operationId = projection.operation.operationId
    · simp only [if_pos hsame]
      rw [forall_stored]
      exact ⟨fun hall _ => hall, fun hall => hall hsame.symm⟩
    · simp [hsame, Ne.symm hsame]

theorem run_outcome {agent : ExecutorAgentRecord} {statement : Statement} {phase next : Phase}
    (h : statement.run runtime database agent phase = some (reached, next))
    (hserves : database.Serves operationId) (htask : phase.Serves operationId)
    (hprojects : phase.Projects runtime) :
    Outcome runtime operationId database statement phase reached next := by
  have hstopped : ∀ statement phase, upToDate runtime operationId database statement phase = true →
      Outcome runtime operationId database statement phase database .stopped :=
    fun _ _ hcurrent => hserves.refl.outcome trivial trivial hcurrent
  unfold Statement.run at h
  split at h
  · -- expireStaleLeases
    split at h
    · rename_i hexpire
      cases h
      exact (expireStaleLeases_keeps hserves hexpire).outcome trivial trivial rfl
    · cases h
      exact hstopped _ _ rfl
  · -- nextAffected
    split at h
    · cases h
      exact hserves.refl.outcome trivial trivial rfl
    · cases h
  · -- countLeases
    cases h
    refine hserves.refl.outcome ?_ ?_ rfl
    · split <;> trivial
    · split <;> trivial
  · -- listQueued
    cases h
    exact hserves.refl.outcome trivial trivial rfl
  · -- cancelBlocked
    cases h
    exact (cancelIfBlocked_keeps hserves _ _ _).outcome trivial trivial rfl
  · -- claim
    split at h
    · rename_i hclaim
      cases h
      obtain ⟨hkeeps, hassigned⟩ := claim_keeps hserves hclaim
      exact hkeeps.outcome hassigned trivial rfl
    · cases h
      exact hserves.refl.outcome trivial trivial rfl
    · cases h
      exact hstopped _ _ rfl
  · -- execute
    rename_i answer nowIso now assignment
    obtain ⟨row, executed, success, heq, hrow, hexecuted, -⟩ :=
      executeTask_cases assignment answer nowIso now
    rw [heq] at h
    cases h
    refine KeepsReceipts.outcome ⟨hserves, fun _ hstored => ?_⟩ (hexecuted.trans htask) trivial rfl
    exact hstored.putReceipt (hrow.trans htask)
  · -- releaseLease
    cases h
    exact KeepsReceipts.outcome ⟨hserves, fun _ hstored => hstored⟩ htask trivial rfl
  · -- finishTask
    cases h
    exact KeepsReceipts.outcome ⟨hserves.saveTask _, fun _ hstored => hstored⟩ trivial trivial rfl
  · -- refreshOperation
    split at h
    · cases h
      exact hstopped _ _ rfl
    · split at h
      · cases h
        exact hserves.refl.outcome htask hprojects rfl
      · cases h
        exact hstopped _ _ rfl
  · -- readReceipts
    cases h
    exact hserves.refl.outcome htask hprojects rfl
  · -- reconcile
    rename_i trace operation receipts rest
    dsimp only at h
    have hrule := (reconcile_projects : Triple _ (runtime.reconcileExternalReceipts operation receipts
      (some (runningActionIds database operation.operationId))) _ _) trace trivial
    split at h
    · rename_i reconciled final hexec
      cases h
      rw [hexec] at hrule
      exact hserves.refl.outcome htask ⟨hrule, hprojects⟩ rfl
    · cases h
      exact hstopped _ _ rfl
  · -- listPending
    cases h
    exact hserves.refl.outcome htask hprojects rfl
  · -- cancelPending
    cases h
    exact KeepsReceipts.outcome ⟨hserves.saveTask _, fun _ hstored => hstored⟩ htask hprojects rfl
  · -- persist
    split at h
    · rename_i hpersist
      cases h
      exact persist_outcome hserves htask hprojects.2 hprojects.1 hpersist
    · rename_i hpersist
      cases h
      exact hstopped _ _ (by simp [upToDate, hpersist])
  · -- stop
    cases h
    exact hstopped _ _ rfl
  · cases h

end Statements

section Runs

variable {runtime : OperationRuntime} {operationId : String}

structure Serving (runtime : OperationRuntime) (operationId : String) (plane : Plane ι) : Prop where
  tasks : plane.database.Serves operationId
  phases : ∀ i, (plane.processes i).phase.Serves operationId
  projections : ∀ i, (plane.processes i).phase.Projects runtime

theorem Serving.start {plane : Plane ι} (htasks : plane.database.Serves operationId)
    (hstopped : ∀ i, (plane.processes i).phase = .stopped) : Serving runtime operationId plane := by
  refine ⟨htasks, fun i => ?_, fun i => ?_⟩
  · rw [hstopped i]
    trivial
  · rw [hstopped i]
    trivial

def Keeps (operationId : String) (before after : Plane ι) : Prop :=
  ∀ receiptId, Stored before.database operationId receiptId →
    Stored after.database operationId receiptId

/-- A receipt stored at any point of the run is stored at every later one. -/
def NothingLost (operationId : String) (start : Plane ι)
    (past : List (Transition (Plane ι) (ι × Statement))) : Prop :=
  (start :: past.map Transition.after).Pairwise (Keeps operationId)

/-- The step is no persisting, or it is one by an agent that knows every receipt. -/
def persistsUpToDate (runtime : OperationRuntime) (operationId : String)
    (transition : Transition (Plane ι) (ι × Statement)) : Bool :=
  upToDate runtime operationId transition.before.database transition.label.2
    (transition.before.processes transition.label.1).phase

variable [DecidableEq ι] {start reached : Plane ι}
  {past : List (Transition (Plane ι) (ι × Statement))}

theorem step_keeps {transition : Transition (Plane ι) (ι × Statement)}
    (hbefore : Serving runtime operationId transition.before)
    (h : step runtime transition.label transition.before = some transition.after) :
    Serving runtime operationId transition.after ∧
      (Keeps operationId transition.before transition.after ↔
        persistsUpToDate runtime operationId transition = true) := by
  obtain ⟨before, ⟨i, statement⟩, after⟩ := transition
  unfold persistsUpToDate
  unfold step at h
  dsimp only at h hbefore ⊢
  have hothers : ∀ (process : Process) (holds : Phase → Prop), holds process.phase →
      (∀ j, holds (before.processes j).phase) →
        ∀ j, holds ((Function.update before.processes i process) j).phase := by
    intro process holds hown hall j
    by_cases hji : j = i
    · rw [hji, Function.update_self]
      exact hown
    · rw [Function.update_of_ne hji]
      exact hall j
  split at h
  · cases h
    refine ⟨⟨hbefore.tasks, ?_, ?_⟩, fun _ => rfl, fun _ _ hstored => hstored⟩
    · exact hothers _ _ trivial hbefore.phases
    · exact hothers _ _ trivial hbefore.projections
  · obtain ⟨⟨database, next⟩, hrun, rfl⟩ := Option.map_eq_some_iff.mp h
    have hout := run_outcome hrun hbefore.tasks (hbefore.phases i) (hbefore.projections i)
    refine ⟨⟨hout.serves, ?_, ?_⟩, hout.stored_iff⟩
    · exact hothers _ _ hout.nextServes hbefore.phases
    · exact hothers _ _ hout.nextProjects hbefore.projections

theorem serving_of_run (h : Run (step runtime) start past reached)
    (hstart : ∀ i, (start.processes i).phase = .stopped)
    (htasks : start.database.Serves operationId) : Serving runtime operationId reached :=
  h.invariant (Serving.start htasks hstart) fun _ _ hstep hbefore => (step_keeps hbefore hstep).1

/-- Agents that work for one operation lose none of its receipts exactly when
each persists what is up to date. -/
theorem nothingLost_iff_persistsUpToDate (h : Run (step runtime) start past reached)
    (hstart : ∀ i, (start.processes i).phase = .stopped)
    (htasks : start.database.Serves operationId) :
    NothingLost operationId start past ↔
      ∀ transition ∈ past, persistsUpToDate runtime operationId transition = true := by
  have htrans : ∀ first second third : Plane ι, Keeps operationId first second →
      Keeps operationId second third → Keeps operationId first third :=
    fun _ _ _ hfirst hsecond receiptId hstored => hsecond receiptId (hfirst receiptId hstored)
  unfold NothingLost
  rw [h.pairwise_iff htrans]
  refine forall₂_congr fun transition hmem => ?_
  obtain ⟨earlier, hrun, -, hstep⟩ := h.step_of_mem hmem
  exact (step_keeps (serving_of_run hrun hstart htasks) hstep).2

end Runs

section Agents

open DockerFleet

namespace DockerFleet

def pair : List String := ["db", "cache"]

def execution (container : String) : Statement :=
  .execute (.ok (receipt pair container)) midnightIso midnight

theorem pair_serves : (plane pair).database.Serves (operation pair).operationId := by
  intro taskId task htask
  have hall : ((plane pair).database.tasks.rows.all fun task =>
      task.operationId = (operation pair).operationId) = true := by
    decide
  have hmem : task ∈ (plane pair).database.tasks.rows :=
    Table.mem_rows.mpr (by rw [Table.key_of_get? htask, htask])
  simpa using List.all_eq_true.mp hall task hmem

/-- Two workers start a container each, the second after the first is done. -/
def successive : List (Worker × Statement) :=
  turn .first (claiming .first 2 midnight) ++ turn .second (claiming .second 1 midnight) ++
    turn .first (execution "db" :: writingBack midnight ++ reconciliation) ++
    turn .second (execution "cache" :: writingBack midnight ++ reconciliation)

theorem successive_nothingLost :
    NothingLost (operation pair).operationId (plane pair) (performed pair successive) := by
  obtain ⟨reached, hrun, hpersists⟩ := run_performed pair successive
    (fun past => past.all (persistsUpToDate runtime (operation pair).operationId)) (by decide +kernel)
  exact (nothingLost_iff_persistsUpToDate hrun (plane_stopped pair) pair_serves).mpr
    (List.all_eq_true.mp hpersists)

/-- The second worker writes its receipt between the first one's reading of the
receipts and its persisting. -/
def overlapping : List (Worker × Statement) :=
  turn .first (claiming .first 2 midnight) ++ turn .second (claiming .second 1 midnight) ++
    turn .first (execution "db" :: writingBack midnight ++ [.refreshOperation, .readReceipts]) ++
    turn .second [execution "cache"] ++
    turn .first [.reconcile (Trace.start _), .listPending, .persist] ++
    turn .second (writingBack midnight ++ reconciliation)

/-- Both workers are done, and the receipt the second one wrote is not there. -/
theorem overlapping_loses : ∃ past reached, Run (step runtime) (plane pair) past reached ∧
    (∀ worker, (reached.processes worker).phase.isIdle = true) ∧
    (∃ transition ∈ past, Stored transition.after.database (operation pair).operationId
      (receipt pair "cache").receiptId) ∧
    ¬ Stored reached.database (operation pair).operationId (receipt pair "cache").receiptId := by
  obtain ⟨reached, hrun, hboth⟩ := run_performed pair overlapping (fun past =>
    ((plane pair :: past.map Transition.after).getLast?).map (fun plane =>
      ((plane.processes .first).phase.isIdle, (plane.processes .second).phase.isIdle,
        decide (Stored plane.database (operation pair).operationId
          (receipt pair "cache").receiptId))) = some (true, true, false) &&
    past.any fun transition => Stored transition.after.database (operation pair).operationId
      (receipt pair "cache").receiptId) (by decide +kernel)
  obtain ⟨hend, hwritten⟩ := Bool.and_eq_true_iff.mp hboth
  have hlast := of_decide_eq_true hend
  rw [hrun.getLast?_states, Option.map_some, Option.some.injEq, Prod.mk.injEq, Prod.mk.injEq,
    decide_eq_false_iff_not] at hlast
  obtain ⟨hfirst, hsecond, hlost⟩ := hlast
  obtain ⟨transition, hmem, hstored⟩ := List.any_eq_true.mp hwritten
  refine ⟨_, reached, hrun, fun worker => ?_, ⟨transition, hmem, by simpa using hstored⟩, hlost⟩
  cases worker with
  | first => exact hfirst
  | second => exact hsecond

end DockerFleet

end Agents

end KubeOps.ControlPlane
