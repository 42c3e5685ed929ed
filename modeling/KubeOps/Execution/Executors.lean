import KubeOps.Foundation.Program
import KubeOps.Policy.Engine

/-! What the operation runtime does to the outside: policy evaluations, executor
invocations and writes of the journal, in order. The entries that announce a
step of the runtime are observations only; nothing reads them back. The journal is
file-backed: one document per path, replaced atomically. Every executor builds its
receipt from the action, context and attempt it was given. -/
namespace KubeOps.Execution

open KubeOps.Foundation KubeOps.Models KubeOps.Policy

structure ExecutionContext where
  operationId : String
  mode : String
  environmentId : String
  executableAllowlist : List String := ["docker", "kubectl", "systemctl", "service", "kill"]
  commandTimeoutSeconds : Int := 120

inductive Effect where
  | evaluated (action : ActionInstance) (definition : ActionTypeDefinition)
      (policy : ExecutionPolicy) (context : PolicyContext) (approvals : List ApprovalRecord)
      (decision : PolicyDecision)
  | started (operation : OperationRun) (action : ActionInstance)
  | blocked (operation : OperationRun)
  | cutOff (operation : OperationRun)
  | rollingBack (operation : OperationRun) (context : ExecutionContext)
  | invoked (operation : OperationRun) (executorId : String) (action : ActionInstance)
      (context : ExecutionContext) (attempt : Nat)
  | saved (operation : OperationRun)

abbrev Log := List Effect
abbrev Runtime (α : Type) := Program PyError Effect α

def Effect.savedRun : Effect → Option OperationRun
  | .saved operation => some operation
  | _ => none

def savedRuns (log : Log) : List OperationRun := log.filterMap Effect.savedRun

theorem mem_savedRuns {log : Log} {operation : OperationRun} :
    operation ∈ savedRuns log ↔ .saved operation ∈ log := by
  rw [savedRuns, List.mem_filterMap]
  constructor
  · rintro ⟨effect, hmem, heffect⟩
    cases effect with
    | saved found =>
      obtain rfl := Option.some.inj heffect
      exact hmem
    | _ => cases heffect
  · exact fun hmem => ⟨_, hmem, rfl⟩

def latest (log : Log) : Option OperationRun := (savedRuns log).getLast?

@[simp] theorem latest_nil : latest [] = none := rfl

@[simp] theorem latest_concat_saved (log : Log) (operation : OperationRun) :
    latest (log ++ [.saved operation]) = some operation := by
  simp [latest, savedRuns, Effect.savedRun, List.filterMap_append]

theorem latest_concat_other {log : Log} {effect : Effect} (h : effect.savedRun = none) :
    latest (log ++ [effect]) = latest log := by
  simp [latest, savedRuns, List.filterMap_append, h]

namespace FileOperationStore

/-- The directory of an operation below the root. -/
def pathFor (operationId : String) : String :=
  Text.replaceChar (Text.replaceChar operationId '/' "_") ':' "_"

def content (log : Log) (path : String) : Option OperationRun :=
  (savedRuns log).reverse.find? fun operation => pathFor operation.operationId = path

theorem content_concat_saved (log : Log) (operation : OperationRun) (path : String) :
    content (log ++ [.saved operation]) path =
      if pathFor operation.operationId = path then some operation else content log path := by
  simp only [content, savedRuns, List.filterMap_append, List.reverse_append]
  by_cases hpath : pathFor operation.operationId = path
  · simp [Effect.savedRun, hpath]
  · simp [Effect.savedRun, hpath]

def save (operation : OperationRun) : Runtime Unit := Program.record (.saved operation)

def readBack (codec : JsonCodec OperationRun) (python : Python) (operation : OperationRun) :
    Except PyError OperationRun :=
  match codec.readFields (codec.modelDumpJson operation) with
  | some fields => fields.validate python
  | none => .error (.validationError "Invalid JSON")

def load (codec : JsonCodec OperationRun) (python : Python) (operationId : String) :
    Runtime OperationRun :=
  Program.consult fun trace =>
    match content trace.log (pathFor operationId) with
    | some operation => readBack codec python operation
    | none => .error .fileNotFoundError

theorem readBack_eq (codec : JsonCodec OperationRun) (python : Python) (operation : OperationRun) :
    readBack codec python operation = operation.validate python := by
  rw [readBack, codec.roundTrip]

end FileOperationStore

structure ExecutorOutcome where
  receiptId : String
  status : ReceiptStatus
  startedAtIso : String
  completedAtIso : String
  exitCode : Option Int := none
  stdout : String := ""
  stderr : String := ""
  observedEffects : List String := []
  metadata : JsonObject := ∅

/-- An executor may answer differently each time and may raise. -/
structure ActionExecutor where
  executorId : String
  execute : Trace Effect → ActionInstance → ActionTypeDefinition → ExecutionContext → Nat →
    Except PyError ExecutorOutcome

def ActionExecutor.receipt (executor : ActionExecutor) (action : ActionInstance)
    (context : ExecutionContext) (attempt : Nat) (outcome : ExecutorOutcome) : ActionReceipt where
  receiptId := outcome.receiptId
  operationId := context.operationId
  actionId := action.actionId
  actionTypeId := action.actionTypeId
  executorId := executor.executorId
  status := outcome.status
  attempt := attempt
  startedAtIso := outcome.startedAtIso
  completedAtIso := outcome.completedAtIso
  exitCode := outcome.exitCode
  stdout := outcome.stdout
  stderr := outcome.stderr
  observedEffects := outcome.observedEffects
  idempotencyKey := action.idempotencyKey
  metadata := outcome.metadata

section BuiltIn

variable (utcNowIso : Nat → String)

/-- What it does to the simulated world shows only in what the providers answer later. -/
def simulationExecutor : ActionExecutor where
  executorId := "simulation"
  execute trace action definition context attempt := .ok {
    receiptId := s!"receipt:{context.operationId}:{action.actionId}:{attempt}"
    status := .completed
    startedAtIso := utcNowIso trace.ticks
    completedAtIso := utcNowIso trace.ticks
    stdout := "simulated action completed"
    observedEffects := definition.expectedEffects
    metadata := Dict.ofList [("simulated", .bool true)] }

def dryRunExecutor : ActionExecutor where
  executorId := "dry_run"
  execute trace action definition context _ := .ok {
    receiptId := s!"receipt:{context.operationId}:{action.actionId}:dry-run"
    status := .skipped
    startedAtIso := utcNowIso trace.ticks
    completedAtIso := utcNowIso trace.ticks
    stdout := "dry run: no mutation executed"
    metadata := Dict.ofList
      [("dry_run", .bool true), ("would_execute_with", .str definition.executorId)] }

def waitExecutor : ActionExecutor where
  executorId := "builtin.wait"
  execute trace action definition context attempt :=
    let satisfied := ((action.parameters.get? "condition_satisfied").getD (.bool false)).truthy
    .ok {
      receiptId := s!"receipt:{context.operationId}:{action.actionId}:{attempt}"
      status := if satisfied then .completed else .failed
      startedAtIso := utcNowIso trace.ticks
      completedAtIso := utcNowIso trace.ticks
      stdout := if satisfied then "condition satisfied" else "condition not yet satisfied"
      observedEffects := if satisfied then definition.expectedEffects else [] }

end BuiltIn

structure ExecutorRegistry where
  items : Dict String ActionExecutor

namespace ExecutorRegistry

def register (registry : ExecutorRegistry) (python : Python) (executor : ActionExecutor) :
    Except PyError ExecutorRegistry :=
  if registry.items.contains executor.executorId then
    .error (.valueError s!"executor {python.repr (Json.str executor.executorId)} is already registered")
  else .ok ⟨registry.items.set executor.executorId executor⟩

def get (registry : ExecutorRegistry) (python : Python) (executorId : String) :
    Except PyError ActionExecutor :=
  match registry.items.get? executorId with
  | some executor => .ok executor
  | none => .error (.keyError s!"unknown executor {python.repr (Json.str executorId)}")

theorem mem_of_get {registry : ExecutorRegistry} {python : Python} {executorId : String}
    {executor : ActionExecutor} (h : registry.get python executorId = .ok executor) :
    executor ∈ registry.items.values := by
  unfold ExecutorRegistry.get at h
  split at h
  · rename_i found hfound
    obtain rfl := Except.ok.inj h
    exact Dict.mem_values_iff.mpr ⟨_, hfound⟩
  · cases h

def Registered (registry : ExecutorRegistry) : Prop :=
  ∀ executorId executor, registry.items.get? executorId = some executor →
    executor.executorId = executorId

theorem registered_empty : Registered ⟨∅⟩ := by
  intro executorId executor hfound
  rw [Dict.get?_empty] at hfound
  cases hfound

theorem Registered.register {registry reached : ExecutorRegistry} (h : registry.Registered)
    {python : Python} {executor : ActionExecutor} (hok : registry.register python executor = .ok reached) :
    reached.Registered := by
  unfold ExecutorRegistry.register at hok
  split at hok
  · cases hok
  · obtain rfl := Except.ok.inj hok
    intro executorId found hfound
    rw [Dict.get?_set] at hfound
    split at hfound
    · rename_i heq
      obtain rfl := Option.some.inj hfound
      exact heq.symm
    · exact h executorId found hfound

theorem Registered.executorId_of_get {registry : ExecutorRegistry} (h : registry.Registered)
    {python : Python} {executorId : String} {executor : ActionExecutor}
    (hget : registry.get python executorId = .ok executor) : executor.executorId = executorId := by
  unfold ExecutorRegistry.get at hget
  split at hget
  · rename_i found hfound
    obtain rfl := Except.ok.inj hget
    exact h executorId found hfound
  · cases hget

end ExecutorRegistry

end KubeOps.Execution
