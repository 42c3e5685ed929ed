import KubeOps.ControlPlane.Governance
import KubeOps.Foundation.Interleaving
import KubeOps.Models.Executor
import KubeOps.Models.Operation

/-! Requests that are governed: they count what is active, are decided under the lock of
their workspace, act, and give their token of usage back by the name of its target.
Beside them run cancellations, agents that reconcile operations, and other writers of
operations and tasks. What planning, receipts and projections come to is part of the
statements. -/
namespace KubeOps.ControlPlane.Governed

open KubeOps.Foundation KubeOps.Models KubeOps.Governance

structure OperationEntry where
  operationId : String
  environmentId : String
  status : OperationStatus
deriving DecidableEq, Repr

structure TaskEntry where
  taskId : String
  workspaceId : Option String
  operationId : String
  status : TaskStatus
deriving DecidableEq, Repr

def excluded (status : OperationStatus) : Bool := status ∈ [.completed, .failed, .cancelled]

/-- The statuses in which `_reconcile_operation` gives the token of a dispatch back. -/
def released (status : OperationStatus) : Bool := status ∈ [.verifying, .failed, .completed, .cancelled]

def TaskEntry.Open (task : TaskEntry) : Prop := task.status ∈ [.queued, .leased, .running]

instance : DecidablePred TaskEntry.Open := fun task =>
  inferInstanceAs (Decidable (task.status ∈ [.queued, .leased, .running]))

structure Store where
  tables : GovernanceTables
  operations : Table String OperationEntry OperationEntry.operationId
  tasks : Table String TaskEntry TaskEntry.taskId

/-- What a governed request is for. -/
inductive Purpose where
  | create | materialize | dispatch
deriving DecidableEq, Repr

def Purpose.operation : Purpose → String
  | create | materialize => "operation.create"
  | dispatch => "operation.dispatch"

/-- A request that was let through, with the row of usage it has left. -/
structure Token where
  workspaceId : String
  operation : String
  target : String
  usageId : Option String
deriving DecidableEq, Repr

/-- How far a process is. -/
inductive Phase where
  | idle
  | counted (purpose : Purpose) (workspaceId target : String) (count : Nat)
  | allowed (purpose : Purpose) (token : Token)
  | closing (token : Token)
  | dispatched (token : Token)
  | cancelling (operationId : String)
  | cancelled (operationId : String)
  | reconciling (operationIds : List String)
  | releasing (workspaceId operationId : String) (status : OperationStatus) (later : List String)
  | persisting (operationId : String) (status : OperationStatus) (later : List String)
deriving DecidableEq, Repr

/-- The statements of governed requests, then those of cancellations and agents, then
those of all other writers. `raised` ends a process where it stands. -/
inductive Statement where
  | count (purpose : Purpose) (target : String)
  | govern (now : Int) (decisionUuid usageUuid : String)
  | create (made : Option String)
  | enqueue (taskIds : List String)
  | abort
  | project (status : OperationStatus)
  | release
  | cancel (operationId : String)
  | work (changes : List (String × TaskStatus))
  | reconcile (status : OperationStatus)
  | persist
  | raised
  | saveTask (task : TaskEntry)
  | saveOperation (entry : OperationEntry)
deriving DecidableEq, Repr

variable (workspaceOf : String → Option String)

namespace Store

variable (store : Store)

def Active (workspaceId : String) (entry : OperationEntry) : Prop :=
  workspaceOf entry.environmentId = some workspaceId ∧ excluded entry.status = false

instance (workspaceId : String) : DecidablePred (Active workspaceOf workspaceId) := fun _ =>
  inferInstanceAs (Decidable (_ ∧ _))

def activeOperations (workspaceId : String) : Nat :=
  store.operations.rows.countP fun entry => Active workspaceOf workspaceId entry

def activeTasks (workspaceId : String) : Nat :=
  store.tasks.rows.countP fun task => task.workspaceId = some workspaceId ∧ task.Open

def workspaceOfOperation (operationId : String) : Option String :=
  (store.operations.get? operationId).bind fun entry => workspaceOf entry.environmentId

/-- What a request counts before it is decided, in the workspace of its target. -/
def counts (target : String) : Purpose → Option (String × Nat)
  | .create | .materialize =>
    (workspaceOf target).map fun workspaceId => (workspaceId, store.activeOperations workspaceOf workspaceId)
  | .dispatch =>
    (store.workspaceOfOperation workspaceOf target).map fun workspaceId =>
      (workspaceId, store.activeTasks workspaceId)

def putOperation (entry : OperationEntry) : Store :=
  { store with operations := store.operations.put entry }

/-- `_persist_operation` of an operation that was read from its row. -/
def persistOperation (operationId : String) (status : OperationStatus) : Store :=
  match store.operations.get? operationId with
  | some entry => store.putOperation { entry with status }
  | none => store

def putTasks (tasks : List TaskEntry) : Store :=
  { store with tasks := tasks.foldl Table.put store.tasks }

def changed (changes : List (String × TaskStatus)) : List TaskEntry :=
  changes.filterMap fun change => (store.tasks.get? change.1).map fun task => { task with status := change.2 }

def queuedOf (operationId : String) : List TaskEntry :=
  (store.tasks.rows.filter fun task => task.operationId = operationId ∧ task.status = .queued).map
    fun task => { task with status := .cancelled }

def mark (workspaceId operation target : String) : Store :=
  { store with tables := markGovernanceUsageTerminal workspaceId operation target store.tables }

end Store

def governanceCall (purpose : Purpose) (workspaceId target : String) (count : Nat) (now : Int)
    (decisionUuid usageUuid : String) : GovernanceCall where
  workspaceId := workspaceId
  operation := purpose.operation
  activeCount := count
  targetId := some target
  now := now
  decisionUuid := decisionUuid
  usageUuid := usageUuid

/-- What comes of a call: a delayed request ends, and so does one whose row of usage would
have the id of another. -/
def Store.govern (store : Store) (purpose : Purpose) (target : String) (call : GovernanceCall) :
    Store × Phase :=
  if (call.decision store.tables).outcome ≠ .allow then (store, .idle)
  else if call.Recorded store.tables then
    if ∃ row ∈ store.tables.usage, row.usageId = s!"usage:{call.usageUuid}" then (store, .idle)
    else ({ store with tables := (call.evaluate store.tables).2 },
      .allowed purpose ⟨call.workspaceId, call.operation, target, some s!"usage:{call.usageUuid}"⟩)
  else (store, .allowed purpose ⟨call.workspaceId, call.operation, target, none⟩)

/-- The agent goes on with the operations it has still to reconcile. -/
def afterwards : List String → Phase
  | [] => .idle
  | operationIds => .reconciling operationIds

/-- `none` where the statement is not the next one of the process. -/
def Statement.run : Statement → Store → Phase → Option (Store × Phase)
  | .count purpose target, store, .idle =>
    match store.counts workspaceOf target purpose with
    | some (workspaceId, active) => some (store, .counted purpose workspaceId target active)
    | none => some (store, .idle)
  | .govern now decisionUuid usageUuid, store, .counted purpose workspaceId target active =>
    some (store.govern purpose target
      (governanceCall purpose workspaceId target active now decisionUuid usageUuid))
  | .create (some operationId), store, .allowed .create token =>
    some (store.putOperation ⟨operationId, token.target, .created⟩, .closing token)
  -- an unknown profile and an invalid plan are answered without giving the token back
  | .create none, store, .allowed .create _ => some (store, .idle)
  | .create (some operationId), store, .allowed .materialize token =>
    some (store.putOperation ⟨operationId, token.target, .created⟩, .closing token)
  | .create none, store, .allowed .materialize token => some (store, .closing token)
  | .enqueue (first :: taskIds), store, .allowed .dispatch token =>
    some (store.putTasks ((first :: taskIds).map fun taskId =>
      ⟨taskId, some token.workspaceId, token.target, .queued⟩), .dispatched token)
  | .abort, store, .allowed .dispatch token => some (store, .closing token)
  | .project status, store, .dispatched token =>
    some (store.persistOperation token.target status, .idle)
  | .release, store, .closing token =>
    some (store.mark token.workspaceId token.operation token.target, .idle)
  | .cancel operationId, store, .idle =>
    match store.operations.get? operationId with
    | some entry =>
      some (store, if entry.status ∈ [.completed, .cancelled] then .idle else .cancelling operationId)
    | none => some (store, .idle)
  | .release, store, .cancelling operationId =>
    match store.workspaceOfOperation workspaceOf operationId with
    | some workspaceId => some (store.mark workspaceId "operation.dispatch" operationId, .cancelled operationId)
    | none => some (store, .cancelled operationId)
  | .persist, store, .cancelled operationId => some (store.persistOperation operationId .cancelled, .idle)
  | .work changes, store, .idle =>
    some (store.putTasks (store.changed changes),
      afterwards ((store.changed changes).map TaskEntry.operationId).dedup)
  | .reconcile status, store, .reconciling (operationId :: later) =>
    match store.workspaceOfOperation workspaceOf operationId with
    | some workspaceId =>
      some (if status = .failed then store.putTasks (store.queuedOf operationId) else store,
        if released status then .releasing workspaceId operationId status later
        else .persisting operationId status later)
    | none => none
  | .release, store, .releasing workspaceId operationId status later =>
    some (store.mark workspaceId "operation.dispatch" operationId, .persisting operationId status later)
  | .persist, store, .persisting operationId status later =>
    some (store.persistOperation operationId status, afterwards later)
  | .raised, store, _ => some (store, .idle)
  | .saveTask task, store, .idle => some (store.putTasks [task], .idle)
  | .saveOperation entry, store, .idle => some (store.putOperation entry, .idle)
  | _, _, _ => none

/-- Any number of processes over the one database. -/
structure State (ι : Type) where
  store : Store
  phase : ι → Phase

def step {ι : Type} [DecidableEq ι] (label : ι × Statement) (state : State ι) : Option (State ι) :=
  (label.2.run workspaceOf state.store (state.phase label.1)).map fun outcome =>
    { store := outcome.1, phase := Function.update state.phase label.1 outcome.2 }

end KubeOps.ControlPlane.Governed
