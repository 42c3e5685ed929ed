import KubeOps.ControlPlane.WaitingFleet

/-! Dispatching an operation again: what becomes of tasks that have been handed out, of
receipts that have been recorded and of the actions under way. -/
namespace KubeOps.ControlPlane

open KubeOps.Foundation KubeOps.Models KubeOps.Policy KubeOps.Execution

/-- How far a request to dispatch an operation comes before it writes anything: it is
refused, the operation is not authorized, or its tasks are written. -/
inductive Course where
  | refused (status : Nat)
  | withheld (operation authorized : OperationRun)
  | admitted (operation authorized : OperationRun) (workspaceId : String)
      (prepared : List (ActionInstance × ActionTypeDefinition)) (trace : Trace Effect)

def taskIds (operationId : String) (prepared : List (ActionInstance × ActionTypeDefinition)) :
    List String :=
  prepared.map fun entry => s!"task:{operationId}:{entry.1.actionId}"

def planTaskIds (operationId : String) (operation : OperationRun) : List String :=
  operation.plan.actions.map fun action => s!"task:{operationId}:{action.actionId}"

section Course

variable (runtime : OperationRuntime) (request : DispatchRequest) (database : Database)

def courseAuthorized (operation authorized : OperationRun) (trace : Trace Effect) : Course :=
  match request.workspaceId with
  | none => .refused 409
  | some workspaceId =>
    match authorized.plan.actions.mapM (request.prepare runtime) with
    | .error status => .refused status
    | .ok prepared =>
      if prepared = [] then .refused 409
      else if ¬ request.governanceAllows then .refused 429
      else .admitted operation authorized workspaceId prepared trace

/-- The checks of `dispatch`. -/
def course (operationId : String) (trace : Trace Effect) : Course :=
  match database.operations.get? operationId with
  | none => .refused 404
  | some stored =>
    if ¬ request.hasSnapshot then .refused 409
    else match stored.validate runtime.python with
      | .error _ => .refused 500
      | .ok operation =>
        if request.executionMode ∉ ["live", "simulation", "dry_run"] then .refused 422
        else match (authorizeDispatch runtime request operation).exec trace with
          | (.error (.permissionError _), _) => .refused 403
          | (.error _, _) => .refused 500
          | (.ok authorized, trace) =>
            if authorized.status = .authorized then
              courseAuthorized runtime request operation authorized trace
            else .withheld operation authorized

/-- The writes of `dispatch`. -/
def Course.write (operationId : String) : Course → Except Refusal Database
  | .refused status => .error ⟨status, database⟩
  | .withheld _ authorized =>
    match persistOperation runtime.python database authorized with
    | some reached => .error ⟨409, reached⟩
    | none => .error ⟨500, database⟩
  | .admitted _ authorized workspaceId prepared trace =>
    match createTasks runtime request database operationId workspaceId prepared with
    | .error _ => .error ⟨500, database⟩
    | .ok created =>
      match (projectDispatch runtime request authorized (taskIds operationId prepared)).exec trace with
      | (.error _, _) => .error ⟨500, created⟩
      | (.ok dispatched, _) =>
        match persistOperation runtime.python created dispatched with
        | some reached => .ok reached
        | none => .error ⟨500, created⟩

variable {runtime request database} {operationId : String} {trace : Trace Effect}
  {operation authorized : OperationRun}

theorem dispatchAuthorized_eq : dispatchAuthorized runtime request database operationId authorized trace =
    (courseAuthorized runtime request operation authorized trace).write runtime request database
      operationId := by
  unfold dispatchAuthorized courseAuthorized
  cases request.workspaceId with
  | none => rfl
  | some workspaceId =>
    dsimp only
    cases authorized.plan.actions.mapM (request.prepare runtime) with
    | error status => rfl
    | ok prepared =>
      dsimp only
      by_cases hempty : prepared = []
      · rw [if_pos hempty, if_pos hempty]
        rfl
      · rw [if_neg hempty, if_neg hempty]
        by_cases hgovernance : ¬ request.governanceAllows
        · rw [if_pos hgovernance, if_pos hgovernance]
          rfl
        · rw [if_neg hgovernance, if_neg hgovernance]
          rfl

theorem dispatch_eq : dispatch runtime request database operationId trace =
    (course runtime request database operationId trace).write runtime request database operationId := by
  unfold dispatch course
  cases database.operations.get? operationId with
  | none => rfl
  | some stored =>
    dsimp only
    by_cases hsnapshot : ¬ request.hasSnapshot
    · rw [if_pos hsnapshot, if_pos hsnapshot]
      rfl
    rw [if_neg hsnapshot, if_neg hsnapshot]
    cases stored.validate runtime.python with
    | error error => rfl
    | ok operation =>
      dsimp only
      by_cases hmode : request.executionMode ∉ ["live", "simulation", "dry_run"]
      · rw [if_pos hmode, if_pos hmode]
        rfl
      rw [if_neg hmode, if_neg hmode]
      rcases (authorizeDispatch runtime request operation).exec trace with ⟨result, ended⟩
      cases result with
      | error error =>
        cases error <;> rfl
      | ok authorized =>
        dsimp only
        by_cases hauthorized : authorized.status = .authorized
        · rw [if_pos hauthorized, if_pos hauthorized]
          exact dispatchAuthorized_eq
        · rw [if_neg hauthorized, if_neg hauthorized]
          rfl

structure CarriedOver (operation authorized : OperationRun) : Prop where
  operationId : authorized.operationId = operation.operationId
  actions : SameActions operation.plan authorized
  receipts : authorized.actionReceipts = operation.actionReceipts
  metadata : authorized.metadata = operation.metadata
  current : authorized.currentActionIds = operation.currentActionIds

theorem authorizeDispatch_carriedOver {ended : Trace Effect}
    (h : (authorizeDispatch runtime request operation).exec trace = (.ok authorized, ended)) :
    CarriedOver operation authorized := by
  obtain ⟨⟨event, hextends⟩, hmetadata, hcurrent⟩ := authorizeDispatch_extends.apply h
  constructor
  · exact hextends.operationId
  · exact hextends.actions
  · rw [hextends.receipted, List.append_nil]
  · exact hmetadata
  · exact hcurrent

/-- Past its checks a dispatch has the stored operation in hand. -/
def Course.Carries (database : Database) (operationId : String) : Course → Prop
  | .refused _ => True
  | .withheld operation authorized =>
    database.operations.get? operationId = some operation ∧ CarriedOver operation authorized
  | .admitted operation authorized _ prepared _ =>
    database.operations.get? operationId = some operation ∧ CarriedOver operation authorized ∧
      prepared ≠ [] ∧ taskIds operationId prepared = planTaskIds operationId operation

theorem courseAuthorized_carries {ended : Trace Effect}
    (hstored : database.operations.get? operationId = some operation)
    (hcarried : CarriedOver operation authorized) :
    (courseAuthorized runtime request operation authorized ended).Carries database operationId := by
  unfold courseAuthorized
  split
  · trivial
  split
  · trivial
  rename_i prepared hprepared
  split
  · trivial
  rename_i hempty
  split
  · trivial
  have hids : taskIds operationId prepared = planTaskIds operationId authorized := by
    rw [planTaskIds, ← prepared_actions hprepared, List.map_map]
    rfl
  have hactions : planTaskIds operationId authorized = planTaskIds operationId operation := by
    have hunmarked :=
      congrArg (List.map fun action : ActionInstance => s!"task:{operationId}:{action.actionId}")
      hcarried.actions
    rw [List.map_map, List.map_map] at hunmarked
    exact hunmarked
  exact ⟨hstored, hcarried, hempty, hids.trans hactions⟩

theorem course_carries : (course runtime request database operationId trace).Carries database operationId := by
  unfold course
  split
  · trivial
  rename_i stored hstored
  split
  · trivial
  split
  · trivial
  rename_i operation hvalid
  obtain ⟨rfl, -⟩ := validate_eq_ok hvalid
  split
  · trivial
  split
  · trivial
  · trivial
  rename_i authorized ended hexec
  have hcarried := authorizeDispatch_carriedOver hexec
  split
  · exact courseAuthorized_carries hstored hcarried
  · exact ⟨hstored, hcarried⟩

end Course

section Tasks

variable {runtime : OperationRuntime} {request : DispatchRequest} {database created : Database}
  {operationId workspaceId : String} {prepared : List (ActionInstance × ActionTypeDefinition)}

/-- What writing the tasks does to the rows. -/
structure Recreated (ids : List String) (database created : Database) : Prop where
  operations : created.operations = database.operations
  receipts : created.receipts = database.receipts
  written : ∀ taskId ∈ ids, ∃ task, created.tasks.get? taskId = some task ∧
    task.status = .queued ∧ task.payload.fields.attempt = 1
  kept : ∀ taskId, taskId ∉ ids → created.tasks.get? taskId = database.tasks.get? taskId

theorem createTasks_recreated
    (h : createTasks runtime request database operationId workspaceId prepared = .ok created) :
    Recreated (taskIds operationId prepared) database created := by
  unfold createTasks at h
  induction prepared generalizing database with
  | nil =>
    obtain rfl := Except.ok.inj h
    exact ⟨rfl, rfl, by simp [taskIds], fun _ _ => rfl⟩
  | cons entry prepared ih =>
    rw [List.foldlM_cons] at h
    obtain ⟨between, hbetween, h⟩ := except_bind_eq_ok h
    obtain ⟨priority, now, rfl⟩ := createTask_ok hbetween
    obtain ⟨hoperations, hreceipts, hwritten, hkept⟩ := ih h
    refine ⟨hoperations, hreceipts, ?_, ?_⟩
    · intro taskId htaskId
      by_cases hlater : taskId ∈ taskIds operationId prepared
      · exact hwritten taskId hlater
      · have hfirst : taskId = s!"task:{operationId}:{entry.1.actionId}" := by
          rcases List.mem_cons.mp htaskId with hfirst | hrest
          · exact hfirst
          · exact absurd hrest hlater
        rw [hkept taskId hlater]
        exact ⟨_, (get?_putTask ..).trans (if_pos hfirst), rfl, rfl⟩
    · intro taskId htaskId
      obtain ⟨hfirst, hlater⟩ := not_or.mp (mt List.mem_cons.mpr htaskId)
      rw [hkept taskId hlater]
      exact (get?_putTask ..).trans (if_neg hfirst)

/-- The tasks can be written when the priority and the time of the request can be read. -/
def DispatchRequest.Readable (request : DispatchRequest) (python : Python) : Prop :=
  (∃ priority, request.priority.toInt python = .ok priority) ∧ ∃ now, python.parseIso request.nowIso = .ok now

theorem createTasks_ok_iff (hprepared : prepared ≠ []) :
    (∃ created, createTasks runtime request database operationId workspaceId prepared = .ok created) ↔
      request.Readable runtime.python := by
  constructor
  · rintro ⟨created, h⟩
    obtain ⟨entry, rest, rfl⟩ := List.exists_cons_of_ne_nil hprepared
    rw [createTasks, List.foldlM_cons] at h
    obtain ⟨between, hbetween, -⟩ := except_bind_eq_ok h
    obtain ⟨priority, hpriority, hbetween⟩ := except_bind_eq_ok hbetween
    obtain ⟨now, hnow, -⟩ := except_bind_eq_ok hbetween
    exact ⟨⟨priority, hpriority⟩, now, hnow⟩
  · rintro ⟨⟨priority, hpriority⟩, now, hnow⟩
    apply exists_foldlM_ok
    intro entry _ current
    rw [hpriority, hnow]
    exact ⟨_, rfl⟩

end Tasks

section Projection

variable {runtime : OperationRuntime} {request : DispatchRequest} {operation authorized : OperationRun}
  {left right : List ActionInstance}

def outcome (action : ActionInstance) : Bool × Bool :=
  (decide (action.status = .failed ∧ ¬ action.isOptional), OperationRuntime.terminalAction action.status)

theorem failedRequired_eq_nil {actions : List ActionInstance} :
    OperationRuntime.failedRequired actions = [] ↔ ∀ found ∈ actions.map outcome, found.1 = false := by
  simp [OperationRuntime.failedRequired, List.filter_eq_nil_iff, outcome]

theorem all_terminal {actions : List ActionInstance} :
    (actions.all fun action => OperationRuntime.terminalAction action.status) = true ↔
      ∀ found ∈ actions.map outcome, found.2 = true := by
  simp [outcome]

theorem reconciledStatus_congr (h : left.map outcome = right.map outcome) :
    OperationRuntime.reconciledStatus left = OperationRuntime.reconciledStatus right := by
  unfold OperationRuntime.reconciledStatus
  simp only [ne_eq, failedRequired_eq_nil, all_terminal, h]

def projectedOutcome (receipts : List ActionReceipt) (action : ActionInstance) : Bool × Bool :=
  let found := latestReceipt receipts action.actionId
  (decide ((∃ receipt ∈ found, receipt.status = .failed) ∧ ¬ action.isOptional), found.isSome)

theorem outcome_projection : (projection operation [] none).map outcome =
    (operation.plan.actions.map ActionInstance.unmarked).map
      (projectedOutcome (OperationRuntime.mergeReceipts operation.actionReceipts [])) := by
  rw [projection, List.map_map, List.map_map]
  apply List.map_congr_left
  intro action _
  apply Prod.ext
  · exact decide_eq_decide.mpr (and_congr_left' projectedStatus_eq_failed)
  · exact terminal_projectedStatus _

theorem alreadyProjected_def : AlreadyProjected runtime operation [] none ↔
    operation.metadata.get? "external_projection_hash" = some (.str
      (runtime.projectionHash (OperationRuntime.mergeReceipts operation.actionReceipts []) []
        (OperationRuntime.reconciledStatus (projection operation [] none)))) := Iff.rfl

theorem CarriedOver.alreadyProjected (h : CarriedOver operation authorized) :
    AlreadyProjected runtime authorized [] none ↔ AlreadyProjected runtime operation [] none := by
  have hstatus : OperationRuntime.reconciledStatus (projection authorized [] none) =
      OperationRuntime.reconciledStatus (projection operation [] none) := by
    apply reconciledStatus_congr
    rw [outcome_projection, outcome_projection, h.actions, h.receipts]
  rw [alreadyProjected_def, alreadyProjected_def, hstatus, h.metadata, h.receipts]

def dispatchedReceipts (runtime : OperationRuntime) (operation : OperationRun) : List ActionReceipt :=
  if AlreadyProjected runtime operation [] none then operation.actionReceipts
  else OperationRuntime.mergeReceipts operation.actionReceipts []

def dispatchedCurrent (runtime : OperationRuntime) (operation : OperationRun) : List String :=
  if AlreadyProjected runtime operation [] none then operation.currentActionIds else []

theorem reconcile_dispatched (runtime : OperationRuntime) (authorized : OperationRun)
    (trace : Trace Effect) : ∃ reconciled ended,
    (runtime.reconcileExternalReceipts authorized [] none).exec trace = (.ok reconciled, ended) ∧
      reconciled.operationId = authorized.operationId ∧
      reconciled.actionReceipts = dispatchedReceipts runtime authorized ∧
      reconciled.currentActionIds = dispatchedCurrent runtime authorized := by
  unfold OperationRuntime.reconcileExternalReceipts dispatchedReceipts dispatchedCurrent
  dsimp only
  split
  · rename_i recorded hrecorded
    split
    · rename_i hsame
      have halready : AlreadyProjected runtime authorized [] none := by
        rw [alreadyProjected_def, hrecorded, hsame]
        rfl
      exact ⟨_, _, rfl, rfl, (if_pos halready).symm, (if_pos halready).symm⟩
    · rename_i hother
      have hnot : ¬ AlreadyProjected runtime authorized [] none := by
        rw [alreadyProjected_def, hrecorded, Option.some.injEq, Json.str.injEq]
        exact hother
      exact ⟨_, _, rfl, rfl, (if_neg hnot).symm, (if_neg hnot).symm⟩
  · rename_i hunrecorded
    have hnot : ¬ AlreadyProjected runtime authorized [] none := fun h => hunrecorded _ h
    exact ⟨_, _, rfl, rfl, (if_neg hnot).symm, (if_neg hnot).symm⟩

theorem projectDispatch_total (runtime : OperationRuntime) (request : DispatchRequest)
    (authorized : OperationRun) (taskIds : List String) (trace : Trace Effect) : ∃ dispatched ended,
    (projectDispatch runtime request authorized taskIds).exec trace = (.ok dispatched, ended) ∧
      dispatched.operationId = authorized.operationId ∧
      dispatched.actionReceipts = dispatchedReceipts runtime authorized ∧
      dispatched.currentActionIds = dispatchedCurrent runtime authorized := by
  obtain ⟨reconciled, ended, hexec, hoperation, hreceipts, hcurrent⟩ :=
    reconcile_dispatched runtime authorized trace
  simp only [projectDispatch, Program.exec_bind, hexec]
  exact ⟨_, _, rfl, hoperation, hreceipts, hcurrent⟩

end Projection

def after : Except Refusal Database → Database
  | .ok reached => reached
  | .error refusal => refusal.database

/-- No task that was handed out is queued again, no attempt is forgotten, and neither are
the receipts of the operation nor its actions under way. -/
structure KeepsWork (operationId : String) (database reached : Database) : Prop where
  handedOut : ∀ taskId, ∀ task ∈ database.tasks.get? taskId, ∃ later ∈ reached.tasks.get? taskId,
    task.status ≠ .queued → later.status ≠ .queued
  attempts : ∀ taskId, ∀ task ∈ database.tasks.get? taskId, ∃ later ∈ reached.tasks.get? taskId,
    later.payload.fields.attempt = task.payload.fields.attempt
  receipts : ∀ receiptId, Stored database operationId receiptId → Stored reached operationId receiptId
  operation : ∀ operation ∈ database.operations.get? operationId,
    ∃ later ∈ reached.operations.get? operationId,
      operation.actionReceipts.map ActionReceipt.receiptId ⊆ later.actionReceipts.map ActionReceipt.receiptId ∧
        operation.currentActionIds ⊆ later.currentActionIds

/-- The receipts of an operation once they are deleted and created again from a model. -/
def rewriteReceipts (python : Python) (database : Database) (operationId : String)
    (receipts : List ActionReceipt) :
      Option (Table String ActionReceiptRecord ActionReceiptRecord.receiptId) := do
  let created ← (receipts.mapM (receiptRow python operationId)).toOption
  (database.receipts.filter fun row => row.operationId ≠ operationId).bulkCreate created

/-- Every row of a receipt is known to the document of the operation. -/
def Documented (database : Database) (operationId : String) (operation : OperationRun) : Prop :=
  ∀ receiptId, Stored database operationId receiptId →
    receiptId ∈ operation.actionReceipts.map ActionReceipt.receiptId

def Untouched (task : ExecutionTaskRecord) : Prop :=
  task.status = .queued ∧ task.payload.fields.attempt = 1

/-- Where tasks are written, all of the plan's are untouched; where the operation is written,
its document knows all receipts, and has no actions under way unless its projection without
them is the one recorded. -/
def Course.Harmless (runtime : OperationRuntime) (request : DispatchRequest) (database : Database)
    (operationId : String) : Course → Prop
  | .refused _ => True
  | .withheld operation _ =>
    (rewriteReceipts runtime.python database operationId operation.actionReceipts).isSome = true →
      Documented database operationId operation
  | .admitted operation _ _ _ _ => request.Readable runtime.python →
    (∀ taskId ∈ planTaskIds operationId operation, ∀ task ∈ database.tasks.get? taskId, Untouched task) ∧
      ((rewriteReceipts runtime.python database operationId
        (dispatchedReceipts runtime operation)).isSome = true →
        Documented database operationId operation ∧
          (operation.currentActionIds = [] ∨ AlreadyProjected runtime operation [] none))

section Keeping

variable {runtime : OperationRuntime} {request : DispatchRequest} {database created reached : Database}
  {operationId : String} {operation authorized later : OperationRun} {python : Python}

theorem KeepsWork.refl : KeepsWork operationId database database where
  handedOut := fun _ task htask => ⟨task, htask, id⟩
  attempts := fun _ task htask => ⟨task, htask, rfl⟩
  receipts := fun _ h => h
  operation := fun operation hoperation => ⟨operation, hoperation, fun _ h => h, fun _ h => h⟩

theorem persistOperation_eq : persistOperation python database later =
    (rewriteReceipts python database later.operationId later.actionReceipts).map fun receipts =>
      { database with receipts := receipts, operations := database.operations.put later } := by
  unfold persistOperation rewriteReceipts
  rw [Option.map_eq_bind]
  exact (Option.bind_assoc ..).symm

theorem persistOperation_isSome : (persistOperation python database later).isSome =
    (rewriteReceipts python database later.operationId later.actionReceipts).isSome := by
  rw [persistOperation_eq, Option.isSome_map]

theorem keepsWork_persisted (hpersist : persistOperation python created later = some reached)
    (hstored : database.operations.get? operationId = some operation) (hid : later.operationId = operationId) :
    KeepsWork operationId database reached ↔
      (∀ taskId, ∀ task ∈ database.tasks.get? taskId, ∃ kept ∈ created.tasks.get? taskId,
        task.status ≠ .queued → kept.status ≠ .queued) ∧
      (∀ taskId, ∀ task ∈ database.tasks.get? taskId, ∃ kept ∈ created.tasks.get? taskId,
        kept.payload.fields.attempt = task.payload.fields.attempt) ∧
      (∀ receiptId, Stored database operationId receiptId →
        receiptId ∈ later.actionReceipts.map ActionReceipt.receiptId) ∧
      operation.actionReceipts.map ActionReceipt.receiptId ⊆ later.actionReceipts.map ActionReceipt.receiptId ∧
      operation.currentActionIds ⊆ later.currentActionIds := by
  have hpersisted := persisted_of_persistOperation hpersist
  have hown : ∀ receiptId, Stored reached operationId receiptId ↔
      receiptId ∈ later.actionReceipts.map ActionReceipt.receiptId := by
    intro receiptId
    rw [stored_persistOperation hpersist, if_pos hid.symm]
  have hwritten : reached.operations.get? operationId = some later := by
    rw [hpersisted.operations, Table.get?_put, if_pos hid.symm]
  constructor
  · intro h
    obtain ⟨found, hfound, hsubset, hcurrent⟩ := h.operation operation hstored
    obtain rfl : later = found := Option.some.inj (hwritten.symm.trans hfound)
    refine ⟨?_, ?_, fun receiptId hrow => (hown receiptId).mp (h.receipts receiptId hrow), hsubset, hcurrent⟩
    · rw [← hpersisted.tasks]
      exact h.handedOut
    · rw [← hpersisted.tasks]
      exact h.attempts
  · rintro ⟨hhandedOut, hattempts, hrows, hsubset, hcurrent⟩
    constructor
    · rw [hpersisted.tasks]
      exact hhandedOut
    · rw [hpersisted.tasks]
      exact hattempts
    · exact fun receiptId hrow => (hown receiptId).mpr (hrows receiptId hrow)
    · intro found hfound
      obtain rfl : operation = found := Option.some.inj (hstored.symm.trans hfound)
      exact ⟨later, hwritten, hsubset, hcurrent⟩

theorem receiptIds_dispatched : ∀ receiptId,
    receiptId ∈ (dispatchedReceipts runtime operation).map ActionReceipt.receiptId ↔
      receiptId ∈ operation.actionReceipts.map ActionReceipt.receiptId := by
  intro receiptId
  unfold dispatchedReceipts
  split
  · rfl
  · rw [receiptIds_mergeReceipts]
    simp

theorem current_dispatched : operation.currentActionIds ⊆ dispatchedCurrent runtime operation ↔
    operation.currentActionIds = [] ∨ AlreadyProjected runtime operation [] none := by
  unfold dispatchedCurrent
  split
  · rename_i halready
    exact iff_of_true (fun _ h => h) (.inr halready)
  · rename_i hnot
    rw [List.subset_nil, or_iff_left hnot]

theorem untouched_iff {ids : List String} (h : Recreated ids database created) :
    ((∀ taskId, ∀ task ∈ database.tasks.get? taskId, ∃ kept ∈ created.tasks.get? taskId,
        task.status ≠ .queued → kept.status ≠ .queued) ∧
      ∀ taskId, ∀ task ∈ database.tasks.get? taskId, ∃ kept ∈ created.tasks.get? taskId,
        kept.payload.fields.attempt = task.payload.fields.attempt) ↔
    ∀ taskId ∈ ids, ∀ task ∈ database.tasks.get? taskId, Untouched task := by
  constructor
  · rintro ⟨hhandedOut, hattempts⟩ taskId htaskId task htask
    obtain ⟨written, hwritten, hqueued, hfirst⟩ := h.written taskId htaskId
    obtain ⟨kept, hkept, hstatus⟩ := hhandedOut taskId task htask
    obtain ⟨same, hsame, hattempt⟩ := hattempts taskId task htask
    obtain rfl : written = kept := Option.some.inj (hwritten.symm.trans hkept)
    obtain rfl : written = same := Option.some.inj (hwritten.symm.trans hsame)
    constructor
    · by_contra hleft
      exact hstatus hleft hqueued
    · rw [← hattempt, hfirst]
  · intro huntouched
    constructor
    · intro taskId task htask
      by_cases htaskId : taskId ∈ ids
      · obtain ⟨written, hwritten, -, -⟩ := h.written taskId htaskId
        exact ⟨written, hwritten, fun hleft => absurd (huntouched taskId htaskId task htask).1 hleft⟩
      · exact ⟨task, (h.kept taskId htaskId).trans htask, id⟩
    · intro taskId task htask
      by_cases htaskId : taskId ∈ ids
      · obtain ⟨written, hwritten, -, hfirst⟩ := h.written taskId htaskId
        exact ⟨written, hwritten, hfirst.trans (huntouched taskId htaskId task htask).2.symm⟩
      · exact ⟨task, (h.kept taskId htaskId).trans htask, rfl⟩

theorem CarriedOver.dispatchedReceipts (h : CarriedOver operation authorized) :
    dispatchedReceipts runtime authorized = dispatchedReceipts runtime operation := by
  unfold ControlPlane.dispatchedReceipts
  simp only [h.alreadyProjected, h.receipts]

theorem CarriedOver.dispatchedCurrent (h : CarriedOver operation authorized) :
    dispatchedCurrent runtime authorized = dispatchedCurrent runtime operation := by
  unfold ControlPlane.dispatchedCurrent
  simp only [h.alreadyProjected, h.current]

theorem withheld_keeps_iff (hstored : database.operations.get? operationId = some operation)
    (hcarried : CarriedOver operation authorized) :
    KeepsWork operationId database
        (after ((Course.withheld operation authorized).write runtime request database operationId)) ↔
      (Course.withheld operation authorized).Harmless runtime request database operationId := by
  have hid : operation.operationId = operationId := Table.key_of_get? hstored
  have hsome : (persistOperation runtime.python database authorized).isSome =
      (rewriteReceipts runtime.python database operationId operation.actionReceipts).isSome := by
    rw [persistOperation_isSome, hcarried.operationId, hcarried.receipts, hid]
  rw [Course.write, Course.Harmless, ← hsome]
  cases hpersist : persistOperation runtime.python database authorized with
  | none => exact iff_of_true .refl (by simp)
  | some reached =>
    dsimp only [after]
    rw [keepsWork_persisted hpersist hstored (hcarried.operationId.trans hid), hcarried.receipts,
      hcarried.current]
    constructor
    · rintro ⟨-, -, hdocumented, -, -⟩ _
      exact hdocumented
    · intro hdocumented
      exact ⟨fun _ task htask => ⟨task, htask, id⟩, fun _ task htask => ⟨task, htask, rfl⟩,
        hdocumented rfl, fun _ h => h, fun _ h => h⟩

theorem keepsWork_created {ids : List String} (h : Recreated ids database created) :
    KeepsWork operationId database created ↔
      ∀ taskId ∈ ids, ∀ task ∈ database.tasks.get? taskId, Untouched task := by
  rw [← untouched_iff h]
  constructor
  · intro hkeeps
    exact ⟨hkeeps.handedOut, hkeeps.attempts⟩
  · rintro ⟨hhandedOut, hattempts⟩
    refine ⟨hhandedOut, hattempts, ?_, ?_⟩
    · intro receiptId hrow
      rwa [Stored, h.receipts]
    · intro operation hoperation
      rw [h.operations]
      exact ⟨operation, hoperation, fun _ h => h, fun _ h => h⟩

theorem admitted_keeps_iff {workspaceId : String} {prepared : List (ActionInstance × ActionTypeDefinition)}
    {trace : Trace Effect} (hstored : database.operations.get? operationId = some operation)
    (hcarried : CarriedOver operation authorized) (hprepared : prepared ≠ [])
    (hids : taskIds operationId prepared = planTaskIds operationId operation) :
    KeepsWork operationId database (after
        ((Course.admitted operation authorized workspaceId prepared trace).write runtime request database
          operationId)) ↔
      (Course.admitted operation authorized workspaceId prepared trace).Harmless runtime request database
        operationId := by
  have hid : operation.operationId = operationId := Table.key_of_get? hstored
  have hreadable : (∃ created, createTasks runtime request database operationId workspaceId prepared =
      .ok created) ↔ request.Readable runtime.python := createTasks_ok_iff hprepared
  rw [Course.write, Course.Harmless]
  cases hcreated : createTasks runtime request database operationId workspaceId prepared with
  | error error =>
    have hunreadable : ¬ request.Readable runtime.python := by
      rw [← hreadable, hcreated]
      simp
    exact iff_of_true .refl fun h => absurd h hunreadable
  | ok created =>
    have hread : request.Readable runtime.python := hreadable.mp ⟨created, hcreated⟩
    have hrecreated := createTasks_recreated hcreated
    rw [hids] at hrecreated
    obtain ⟨dispatched, ended, hexec, hoperation, hreceipts, hcurrent⟩ :=
      projectDispatch_total runtime request authorized (taskIds operationId prepared) trace
    rw [hcarried.dispatchedReceipts] at hreceipts
    rw [hcarried.dispatchedCurrent] at hcurrent
    have hdispatched : dispatched.operationId = operationId := by
      rw [hoperation, hcarried.operationId, hid]
    have hsome : (persistOperation runtime.python created dispatched).isSome =
        (rewriteReceipts runtime.python database operationId
          (dispatchedReceipts runtime operation)).isSome := by
      rw [persistOperation_isSome, hdispatched, hreceipts, rewriteReceipts, rewriteReceipts,
        hrecreated.receipts]
    dsimp only
    rw [hexec, ← hsome]
    dsimp only
    cases hpersist : persistOperation runtime.python created dispatched with
    | none =>
      dsimp only [after]
      rw [keepsWork_created hrecreated]
      simp [hread]
    | some reached =>
      dsimp only [after]
      rw [keepsWork_persisted hpersist hstored hdispatched, ← and_assoc, untouched_iff hrecreated, hreceipts,
        hcurrent, current_dispatched]
      have hsubset : operation.actionReceipts.map ActionReceipt.receiptId ⊆
          (dispatchedReceipts runtime operation).map ActionReceipt.receiptId :=
        fun receiptId hmem => (receiptIds_dispatched receiptId).mpr hmem
      simp only [receiptIds_dispatched, hread, hsubset, true_and, forall_const, Option.isSome_some]
      rfl

end Keeping

namespace WaitingFleet

def statusOf (database : Database) (taskId : String) : Option TaskStatus :=
  (database.tasks.get? taskId).map ExecutionTaskRecord.status

def failedTaskId : String := "task:operation:local:startup:action:wait:db"

def dispatchedAgain (database : Database) : Database :=
  after (dispatch runtime request database (operation false).operationId (Trace.start _))

end WaitingFleet

end KubeOps.ControlPlane
