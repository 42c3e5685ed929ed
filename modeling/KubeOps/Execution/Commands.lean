import Mathlib.Data.List.Infix
import KubeOps.Execution.Executors
import KubeOps.Models.JsonTree

/-! Executors that run commands. A call issues its commands in order, and the runner answers each of
them with a finished process or by running out of time; what is not handled leaves the call. -/
namespace KubeOps.Execution

open KubeOps.Foundation KubeOps.Models

structure CompletedProcess where
  returncode : Int
  stdout : String := ""
  stderr : String := ""
deriving DecidableEq, Repr

structure Command where
  argv : List String
  timeout : Int
deriving DecidableEq, Repr

/-- How `CommandRunner.run` ends: it returns, or `TimeoutExpired` is raised. -/
inductive RunnerOutcome where
  | completed (process : CompletedProcess)
  | timedOut (seconds : Int)
deriving DecidableEq, Repr

abbrev CommandRunner := List Command → RunnerOutcome

abbrev Commands (α : Type) := Program PyError Command α

/-- What the executors use of the library. `loads` gives nothing where `json.loads` raises
`JSONDecodeError`; what else it raises is passed on. -/
structure CommandLibrary where
  python : Python
  lower : String → String
  loads : String → Except PyError (Option Json)
  utcNowIso : Nat → String

section Running

variable (library : CommandLibrary) (runner : CommandRunner)

def ask (command : Command) : Commands RunnerOutcome := do
  Program.record command
  Program.observe fun trace => runner trace.log

/-- `self.runner.run(...)` outside of a `try`. -/
def runCommand (command : Command) : Commands CompletedProcess := do
  match ← ask runner command with
  | .completed process => return process
  | .timedOut seconds => Program.raise (.timeoutExpired
      s!"Command '{library.python.repr (Json.strings command.argv)}' timed out after {seconds} seconds")

/-- `min(definition.timeout_seconds, context.command_timeout_seconds)` -/
def timeoutOf (definition : ActionTypeDefinition) (context : ExecutionContext) : Int :=
  min (definition.timeoutSeconds : Int) context.commandTimeoutSeconds

/-- `Path(text).name` -/
def pathName (text : String) : String :=
  String.ofList (((text.toList.splitOn '/').filter fun part => part ≠ [] ∧ part ≠ ['.']).getLast?.getD [])

def receiptIdOf (action : ActionInstance) (context : ExecutionContext) (attempt : Nat) : String :=
  s!"receipt:{context.operationId}:{action.actionId}:{attempt}"

end Running

section Builders

variable (library : CommandLibrary)

def dockerBuilder (action : ActionInstance) : Except PyError (String × List String) := do
  let container := library.python.str (← subscript library.python action.parameters "container")
  let verb := if "start.v1".toList <:+ action.actionTypeId.toList then "start" else "stop"
  return ("docker", [verb, container])

def serviceBuilder (action : ActionInstance) : Except PyError (String × List String) := do
  let service := library.python.str (← subscript library.python action.parameters "service")
  return ("systemctl", ["restart", service])

/-- The options of `kubectl` for the context and the namespace. -/
def kubectlPrefix (action : ActionInstance) : List String :=
  let namespaceName := library.python.str ((action.parameters.get? "namespace").getD (.str "default"))
  ["kubectl"] ++ (match action.parameters.get? "context" with
    | some context => if context.truthy then ["--context", library.python.str context] else []
    | none => []) ++ ["-n", namespaceName]

def kubectlBuilder (action : ActionInstance) : Except PyError (List String) :=
  let python := library.python
  if action.actionTypeId = "kubernetes.workload.rollout_restart.v1" then do
    let kind := library.lower (python.str (← subscript python action.parameters "kind"))
    let name := python.str (← subscript python action.parameters "name")
    if kind ∉ ["deployment", "statefulset", "daemonset"] then
      .error (.valueError s!"rollout restart does not allow kind {python.repr (.str kind)}")
    else return kubectlPrefix library action ++ ["rollout", "restart", s!"{kind}/{name}"]
  else if action.actionTypeId = "kubernetes.job.delete_terminal.v1" then
    match action.parameters.get? "require_terminal" with
    | some (.bool true) => do
      let name := python.str (← subscript python action.parameters "name")
      return kubectlPrefix library action ++ ["delete", "job", name, "--ignore-not-found=true", "--wait=true"]
    | _ => .error (.valueError "terminal Job deletion requires require_terminal=true")
  else if action.actionTypeId = "argocd.application.refresh.v1" then do
    let name := python.str (← subscript python action.parameters "name")
    return kubectlPrefix library action ++
      ["annotate", "application.argoproj.io", name, "argocd.argoproj.io/refresh=normal", "--overwrite"]
  else .error (.valueError s!"unsupported kubectl action {python.repr (.str action.actionTypeId)}")

end Builders

/-- The builder gives the executable and its arguments. -/
structure SafeCommandExecutor where
  executorId : String
  builder : ActionInstance → Except PyError (String × List String)

section Execute

variable (library : CommandLibrary) (runner : CommandRunner) (action : ActionInstance)
variable (definition : ActionTypeDefinition) (context : ExecutionContext) (attempt : Nat)

def SafeCommandExecutor.execute (executor : SafeCommandExecutor) : Commands ExecutorOutcome := do
  let started ← Program.tick library.utcNowIso
  let (executable, arguments) ← Program.attempt (executor.builder action)
  let argv := executable :: arguments
  if pathName executable ∉ context.executableAllowlist then
    Program.raise (.permissionError
      s!"executable {library.python.repr (.str (pathName executable))} is outside the execution allowlist")
  else do
    let outcome ← ask runner ⟨argv, timeoutOf definition context⟩
    let ended ← Program.tick library.utcNowIso
    match outcome with
    | .completed process => return {
        receiptId := receiptIdOf action context attempt
        status := if process.returncode = 0 then .completed else .failed
        startedAtIso := started
        completedAtIso := ended
        exitCode := some process.returncode
        stdout := process.stdout
        stderr := process.stderr
        observedEffects := if process.returncode = 0 then definition.expectedEffects else []
        metadata := Dict.ofList [("argv", Json.strings argv)] }
    | .timedOut seconds => return {
        receiptId := receiptIdOf action context attempt
        status := .failed
        startedAtIso := started
        completedAtIso := ended
        stderr := s!"command timed out after {seconds}s"
        metadata := Dict.ofList [("argv", Json.strings argv)] }

/-- `item.get("type") in {"Complete", "Failed"} and str(item.get("status")).lower() == "true"` -/
def endsJob (item : Json) : Except PyError Bool := do
  let kind ← (← item.getOr "type" .null).hashed
  match kind with
  | .str text =>
    if text ∈ ["Complete", "Failed"] then do
      let status ← item.getOr "status" .null
      return library.lower (library.python.str status) = "true"
    else return false
  | _ => return false

/-- `any(...)` over the conditions. -/
def anyEndsJob : List Json → Except PyError Bool
  | [] => .ok false
  | item :: rest => do if ← endsJob library item then return true else anyEndsJob rest

def terminal (payload : Json) : Except PyError Bool := do
  let status ← payload.getOr "status" (.dict [])
  let conditions ← status.getOr "conditions" (.list [])
  let completionTime ← status.getOr "completionTime" .null
  let succeeded ← status.getOr "succeeded" .null
  let failed ← status.getOr "failed" .null
  if completionTime.truthy || succeeded.truthy || failed.truthy then return true
  else anyEndsJob library (← conditions.iterate)

/-- `"NotFound" in stderr or "not found" in stderr.lower()` -/
def saysNotFound (stderr : String) : Bool :=
  "NotFound".toList <:+: stderr.toList || "not found".toList <:+: (library.lower stderr).toList

def getJob (name : String) : Command where
  argv := kubectlPrefix library action ++ ["get", "job", name, "-o", "json"]
  timeout := timeoutOf definition context

def deleteJob (name : String) : Command where
  argv := kubectlPrefix library action ++ ["delete", "job", name, "--ignore-not-found=true", "--wait=true"]
  timeout := timeoutOf definition context

/-- The receipt of a call whose query has not come to a reply. -/
def unanswered (started ended : String) (query : Command) (current : CompletedProcess) : ExecutorOutcome :=
  let receipt : ExecutorOutcome := {
    receiptId := receiptIdOf action context attempt
    status := .failed
    startedAtIso := started
    completedAtIso := ended
    exitCode := some current.returncode
    stderr := current.stderr }
  if saysNotFound library current.stderr then
    { receipt with
      status := .alreadySatisfied
      stdout := "job is already absent"
      observedEffects := ["job_absent"]
      metadata := Dict.ofList
        [("preflight_argv", Json.strings query.argv), ("not_found_is_success", .bool true)] }
  else { receipt with metadata := Dict.ofList [("preflight_argv", Json.strings query.argv)] }

/-- The receipt where the job is not terminal. -/
def refused (started ended : String) (query : Command) : ExecutorOutcome where
  receiptId := receiptIdOf action context attempt
  status := .failed
  startedAtIso := started
  completedAtIso := ended
  stderr := "refused to delete a non-terminal Job"
  metadata := Dict.ofList [("preflight_argv", Json.strings query.argv), ("terminal", .bool false)]

def deletion (started ended : String) (query command : Command) (deleted : CompletedProcess) :
    ExecutorOutcome :=
  let ok := deleted.returncode = 0 ∨ "NotFound".toList <:+: deleted.stderr.toList
  { receiptId := receiptIdOf action context attempt
    status := if ok then .completed else .failed
    startedAtIso := started
    completedAtIso := ended
    exitCode := some deleted.returncode
    stdout := deleted.stdout
    stderr := deleted.stderr
    observedEffects := if ok then ["job_absent"] else []
    metadata := Dict.ofList [("preflight_argv", Json.strings query.argv), ("argv", Json.strings command.argv),
      ("terminal", .bool true)] }

/-- `_delete_terminal_job`, from the reply on. -/
def deleteIfTerminal (started ended : String) (query command : Command) (stdout : String) :
    Commands ExecutorOutcome := do
  let payload ← Program.attempt (library.loads stdout)
  let ends ← Program.attempt (terminal library (payload.getD (.dict [])))
  if ends then do
    let deleted ← runCommand library runner command
    let ended ← Program.tick library.utcNowIso
    return deletion action context attempt started ended query command deleted
  else return refused action context attempt started ended query

/-- `_delete_terminal_job` -/
def deleteTerminalJob (started : String) : Commands ExecutorOutcome := do
  let name ← Program.attempt (subscript library.python action.parameters "name")
  let query := getJob library action definition context (library.python.str name)
  let current ← runCommand library runner query
  let ended ← Program.tick library.utcNowIso
  if current.returncode ≠ 0 then return unanswered library action context attempt started ended query current
  else
    deleteIfTerminal library runner action context attempt started ended query
      (deleteJob library action definition context (library.python.str name)) current.stdout

/-- `KubectlSafeExecutor.execute` -/
def KubectlSafeExecutor.execute : Commands ExecutorOutcome :=
  if "kubectl" ∉ context.executableAllowlist then
    Program.raise (.permissionError "kubectl is outside the execution allowlist")
  else do
    let started ← Program.tick library.utcNowIso
    if action.actionTypeId = "kubernetes.job.delete_terminal.v1" then
      deleteTerminalJob library runner action definition context attempt started
    else do
      let argv ← Program.attempt (kubectlBuilder library action)
      let completed ← runCommand library runner ⟨argv, timeoutOf definition context⟩
      let ended ← Program.tick library.utcNowIso
      return {
        receiptId := receiptIdOf action context attempt
        status := if completed.returncode = 0 then .completed else .failed
        startedAtIso := started
        completedAtIso := ended
        exitCode := some completed.returncode
        stdout := completed.stdout
        stderr := completed.stderr
        observedEffects := if completed.returncode = 0 then definition.expectedEffects else []
        metadata := Dict.ofList [("argv", Json.strings argv)] }

end Execute

end KubeOps.Execution
