import KubeOps.Execution.Commands
import KubeOps.Foundation.Program

/-! Which replies to the query let the command go out that deletes a job: those that show a finished
job, and some that do not. -/
namespace KubeOps.Execution

open KubeOps.Foundation KubeOps.Models

section Replies

variable {library : CommandLibrary} {payload : Json}

def listItems : Option Json → List Json
  | some (.list items) => items
  | _ => []

/-- A condition of type `Complete` or `Failed` with status `True`. -/
def endedCondition (item : Json) : Bool :=
  (Json.entry? "type" item = some (.str "Complete") || Json.entry? "type" item = some (.str "Failed")) &&
    Json.entry? "status" item = some (.str "True")

/-- The reply shows a finished job: it has a completion time, or such a condition. -/
def finished (payload : Json) : Bool :=
  let status := Json.objectOr (Json.entry? "status" payload)
  (Json.entry? "completionTime" status).any Json.truthy ||
    (listItems (Json.entry? "conditions" status)).any endedCondition

/-- There are pods that have succeeded or failed, or one of the conditions, before which none stops the
loop, ends the job by a status that is `true` in small letters. -/
def countsAsEnded (library : CommandLibrary) (payload : Json) : Prop :=
  ∃ entries, payload.getOr "status" (.dict []) = .ok (.dict entries) ∧
    ((Json.entry? "succeeded" (.dict entries)).any Json.truthy = true ∨
      (Json.entry? "failed" (.dict entries)).any Json.truthy = true ∨
      ∃ conditions front item back, ((Json.entry? "conditions" (.dict entries)).getD (.list [])).iterate =
        .ok conditions ∧
        conditions = front ++ item :: back ∧ (∀ other ∈ front, endsJob library other = .ok false) ∧
        endsJob library item = .ok true)

theorem getOr_eq_ok {value default found : Json} {key : String} (h : value.getOr key default = .ok found) :
    ∃ entries, value = .dict entries ∧ found = (Json.entry? key (.dict entries)).getD default := by
  unfold Json.getOr at h
  cases value with
  | dict entries => exact ⟨entries, rfl, (Except.ok.inj h).symm⟩
  | null => cases h
  | bool value => cases h
  | int value => cases h
  | float value => cases h
  | str value => cases h
  | list items => cases h

theorem anyEndsJob_iff {items : List Json} : anyEndsJob library items = .ok true ↔
    ∃ front item back, items = front ++ item :: back ∧ (∀ other ∈ front, endsJob library other = .ok false) ∧
      endsJob library item = .ok true := by
  induction items with
  | nil => simp [anyEndsJob]
  | cons first rest ih =>
    unfold anyEndsJob
    cases hfirst : endsJob library first with
    | error failure =>
      constructor
      · intro h
        cases h
      · rintro ⟨front, item, back, hitems, hfront, hitem⟩
        cases front with
        | nil =>
          obtain rfl := (List.cons.inj hitems).1
          simp [hfirst] at hitem
        | cons other front =>
          obtain rfl := (List.cons.inj hitems).1
          simp [hfirst] at hfront
    | ok ends =>
      cases ends with
      | true => exact ⟨fun _ => ⟨[], first, rest, rfl, by simp, hfirst⟩, fun _ => rfl⟩
      | false =>
        show anyEndsJob library rest = .ok true ↔ _
        rw [ih]
        constructor
        · rintro ⟨front, item, back, rfl, hfront, hitem⟩
          exact ⟨first :: front, item, back, rfl, by simpa [hfirst] using hfront, hitem⟩
        · rintro ⟨front, item, back, hitems, hfront, hitem⟩
          cases front with
          | nil =>
            obtain rfl := (List.cons.inj hitems).1
            simp [hfirst] at hitem
          | cons other front =>
            exact ⟨front, item, back, (List.cons.inj hitems).2,
              fun later hlater => hfront later (List.mem_cons_of_mem _ hlater), hitem⟩

theorem truthy_getD (found : Option Json) : (found.getD .null).truthy = found.any Json.truthy := by
  cases found <;> rfl

theorem terminal_iff : terminal library payload = .ok true ↔
    (∃ entries, payload.getOr "status" (.dict []) = .ok (.dict entries) ∧
      (Json.entry? "completionTime" (.dict entries)).any Json.truthy = true) ∨
        countsAsEnded library payload := by
  unfold terminal countsAsEnded
  cases hstatus : payload.getOr "status" (.dict []) with
  | error failure => simp [bind, Except.bind]
  | ok status =>
    cases status with
    | dict entries =>
      simp only [bind, Except.bind, Json.getOr, truthy_getD, Except.ok.injEq, Json.dict.injEq, exists_eq_left',
        pure, Except.pure]
      by_cases hcounted : ((Json.entry? "completionTime" (.dict entries)).any Json.truthy ||
          (Json.entry? "succeeded" (.dict entries)).any Json.truthy ||
          (Json.entry? "failed" (.dict entries)).any Json.truthy) = true
      · rw [if_pos hcounted]
        simp only [Bool.or_eq_true] at hcounted
        simp only [true_iff]
        tauto
      · rw [if_neg hcounted]
        simp only [Bool.or_eq_true, not_or] at hcounted
        simp only [hcounted]
        cases hitems : ((Json.entry? "conditions" (.dict entries)).getD (.list [])).iterate with
        | error failure => simp
        | ok items => simp [anyEndsJob_iff]
    | _ => simp [bind, Except.bind, Json.getOr]

theorem finished_of_completionTime {entries : List (String × Json)}
    (hstatus : payload.getOr "status" (.dict []) = .ok (.dict entries))
    (hcompleted : (Json.entry? "completionTime" (.dict entries)).any Json.truthy = true) :
    finished payload = true := by
  obtain ⟨outer, rfl, hentries⟩ := getOr_eq_ok hstatus
  unfold finished
  cases hfound : Json.entry? "status" (.dict outer) with
  | none =>
    simp only [hfound, Option.getD_none, Json.dict.injEq] at hentries
    simp [hentries, Json.entry?] at hcompleted
  | some status =>
    simp only [hfound, Option.getD_some] at hentries
    simp [← hentries, Json.objectOr, hcompleted]

end Replies


section Issued

variable {library : CommandLibrary} {runner : CommandRunner} {action : ActionInstance}
variable {definition : ActionTypeDefinition} {context : ExecutionContext} {attempt ticks : Nat}

@[simp] theorem exec_ask (command : Command) (trace : Trace Command) :
    (ask runner command).exec trace =
      (.ok (runner (trace.log ++ [command])), ⟨trace.log ++ [command], trace.ticks⟩) := rfl

theorem exec_runCommand_completed {command : Command} {trace : Trace Command} {process : CompletedProcess}
    (h : runner (trace.log ++ [command]) = .completed process) :
    (runCommand library runner command).exec trace = (.ok process, ⟨trace.log ++ [command], trace.ticks⟩) := by
  unfold runCommand
  rw [Program.exec_bind, exec_ask]
  simp only [h]
  rfl

theorem exec_runCommand_timedOut {command : Command} {trace : Trace Command} {seconds : Int}
    (h : runner (trace.log ++ [command]) = .timedOut seconds) :
    ∃ failure, (runCommand library runner command).exec trace =
      (.error failure, ⟨trace.log ++ [command], trace.ticks⟩) := by
  unfold runCommand
  rw [Program.exec_bind, exec_ask]
  simp only [h]
  exact ⟨_, rfl⟩

def jobName (library : CommandLibrary) (action : ActionInstance) : String :=
  library.python.str ((action.parameters.get? "name").getD .null)

def issued (library : CommandLibrary) (runner : CommandRunner) (action : ActionInstance)
    (definition : ActionTypeDefinition) (context : ExecutionContext) (attempt ticks : Nat) : List Command :=
  ((KubectlSafeExecutor.execute library runner action definition context attempt).exec ⟨[], ticks⟩).2.log

/-- The call gets as far as this reply to its query. -/
structure Preflight (library : CommandLibrary) (runner : CommandRunner) (action : ActionInstance)
    (definition : ActionTypeDefinition) (context : ExecutionContext) (payload : Json) : Prop where
  allowed : "kubectl" ∈ context.executableAllowlist
  job : action.actionTypeId = "kubernetes.job.delete_terminal.v1"
  named : ∃ value, subscript library.python action.parameters "name" = .ok value
  answered : ∃ process, runner [getJob library action definition context (jobName library action)] =
    .completed process ∧
    process.returncode = 0 ∧ ∃ found, library.loads process.stdout = .ok found ∧ found.getD (.dict []) = payload

theorem get_ne_delete : getJob library action definition context
    (jobName library action) ≠ deleteJob library action definition context (jobName library action) := by
  intro h
  have hargv := congrArg Command.argv h
  simp [getJob, deleteJob] at hargv

theorem ne_deleteJob_of_builder {argv : List String} {timeout : Int}
    (hjob : action.actionTypeId ≠ "kubernetes.job.delete_terminal.v1")
    (h : kubectlBuilder library action = .ok argv) :
    (⟨argv, timeout⟩ : Command) ≠ deleteJob library action definition context (jobName library action) := by
  intro hsame
  have hargv : argv = (deleteJob library action definition context (jobName library action)).argv :=
    congrArg Command.argv hsame
  unfold kubectlBuilder at h
  simp only at h
  split at h
  · obtain ⟨kind, -, h⟩ := except_bind_eq_ok h
    obtain ⟨name, -, h⟩ := except_bind_eq_ok h
    split at h
    · cases h
    · rw [← Except.ok.inj h] at hargv
      simp [deleteJob] at hargv
  · split at h
    · obtain ⟨name, -, h⟩ := except_bind_eq_ok h
      rw [← Except.ok.inj h] at hargv
      simp [deleteJob] at hargv
    · cases h

theorem log_runCommand (command : Command) (trace : Trace Command) :
    ((runCommand library runner command).exec trace).2.log = trace.log ++ [command] := by
  cases hanswer : runner (trace.log ++ [command]) with
  | completed process => rw [exec_runCommand_completed hanswer]
  | timedOut seconds =>
    obtain ⟨failure, hexec⟩ := @exec_runCommand_timedOut library runner command trace seconds hanswer
    rw [hexec]

theorem log_deleteIfTerminal {started ended stdout : String} {query command : Command} {trace : Trace Command} :
    command ∈ ((deleteIfTerminal library runner action context attempt started ended query command stdout).exec
        trace).2.log ↔
      command ∈ trace.log ∨ ∃ found, library.loads stdout = .ok found ∧
        terminal library (found.getD (.dict [])) = .ok true := by
  unfold deleteIfTerminal
  simp only [Program.exec_bind, Program.exec_attempt]
  cases hloads : library.loads stdout with
  | error failure => simp
  | ok found =>
    cases hterminal : terminal library (found.getD (.dict [])) with
    | error failure => simp [hterminal]
    | ok ends =>
      cases ends with
      | false => simp [hterminal]
      | true =>
        have hlog := @log_runCommand library runner command trace
        simp only [hterminal, if_true]
        rw [Program.exec_bind]
        rcases hexec : (runCommand library runner command).exec trace with ⟨result, reached⟩
        rw [hexec] at hlog
        simp only at hlog
        cases result with
        | error failure => simp [hlog, hterminal]
        | ok deleted =>
          have hissued : command ∈ reached.log := by simp [hlog]
          exact ⟨fun _ => Or.inr ⟨found, rfl, hterminal⟩, fun _ => hissued⟩

theorem deleteTerminalJob_issues (started : String) :
    deleteJob library action definition context (jobName library action) ∈
        ((deleteTerminalJob library runner action definition context attempt started).exec ⟨[], ticks⟩).2.log ↔
      (∃ value, subscript library.python action.parameters "name" = .ok value) ∧
        ∃ process, runner [getJob library action definition context (jobName library action)] =
          .completed process ∧
          process.returncode = 0 ∧ ∃ found, library.loads process.stdout = .ok found ∧
            terminal library (found.getD (.dict [])) = .ok true := by
  unfold deleteTerminalJob
  rw [Program.exec_bind, Program.exec_attempt]
  cases hname : subscript library.python action.parameters "name" with
  | error failure => simp
  | ok value =>
    have hvalue : library.python.str value = jobName library action := by
      rw [jobName, getD_of_subscript hname]
    simp only [hvalue, Program.exec_bind]
    cases hanswer : runner [getJob library action definition context (jobName library action)] with
    | timedOut seconds =>
      obtain ⟨failure, hexec⟩ := @exec_runCommand_timedOut library runner
        (getJob library action definition context (jobName library action)) ⟨[], ticks⟩ seconds hanswer
      rw [hexec]
      simp [get_ne_delete.symm]
    | completed process =>
      rw [@exec_runCommand_completed library runner _ ⟨[], ticks⟩ process hanswer]
      by_cases hcode : process.returncode = 0
      · simp only [Program.exec_tick, hcode, ne_eq, not_true_eq_false, if_false]
        rw [log_deleteIfTerminal]
        simp [get_ne_delete.symm, hcode]
      · simp [hcode, get_ne_delete.symm]

theorem deleteJob_issued_iff :
    deleteJob library action definition context (jobName library action) ∈
        issued library runner action definition context attempt ticks ↔
      ∃ payload, Preflight library runner action definition context payload ∧
        terminal library payload = .ok true := by
  unfold issued KubectlSafeExecutor.execute
  by_cases hallowed : "kubectl" ∈ context.executableAllowlist
  · rw [if_neg (not_not.mpr hallowed), Program.exec_bind, Program.exec_tick]
    by_cases hjob : action.actionTypeId = "kubernetes.job.delete_terminal.v1"
    · simp only [hjob, if_true]
      rw [deleteTerminalJob_issues]
      constructor
      · rintro ⟨hnamed, process, hanswer, hcode, found, hloads, hterminal⟩
        exact ⟨_, ⟨hallowed, hjob, hnamed, process, hanswer, hcode, found, hloads, rfl⟩, hterminal⟩
      · rintro ⟨payload, hpreflight, hterminal⟩
        obtain ⟨process, hanswer, hcode, found, hloads, rfl⟩ := hpreflight.answered
        exact ⟨hpreflight.named, process, hanswer, hcode, found, hloads, hterminal⟩
    · simp only [if_neg hjob]
      have hnone : ¬ ∃ payload, Preflight library runner action definition context payload ∧
          terminal library payload = .ok true := by
        rintro ⟨payload, hpreflight, -⟩
        exact hjob hpreflight.job
      rw [iff_false_right hnone, Program.exec_bind, Program.exec_attempt]
      cases hbuilder : kubectlBuilder library action with
      | error failure => simp
      | ok argv =>
        have hne := @ne_deleteJob_of_builder library action definition context argv
          (timeoutOf definition context) hjob hbuilder
        have hlog := @log_runCommand library runner ⟨argv, timeoutOf definition context⟩ ⟨[], ticks + 1⟩
        simp only [Program.exec_bind]
        rcases hexec : (runCommand library runner ⟨argv, timeoutOf definition context⟩).exec
          ⟨[], ticks + 1⟩ with
          ⟨result, reached⟩
        rw [hexec] at hlog
        simp only [List.nil_append] at hlog
        cases result with
        | error failure => simp [hlog, hne.symm]
        | ok completed => simp [hlog, hne.symm]
  · rw [if_pos hallowed]
    simp only [Program.exec_raise, List.not_mem_nil, false_iff]
    rintro ⟨payload, hpreflight, -⟩
    exact hallowed hpreflight.allowed

/-- A job is deleted only when the reply shows that it is finished. -/
def DeletesFinished (library : CommandLibrary) (runner : CommandRunner) (action : ActionInstance)
    (definition : ActionTypeDefinition) (context : ExecutionContext) (attempt ticks : Nat) : Prop :=
  deleteJob library action definition context (jobName library action) ∈
      issued library runner action definition context attempt ticks →
    ∃ payload, Preflight library runner action definition context payload ∧ finished payload = true

theorem Preflight.unique {one two : Json} (hone : Preflight library runner action definition context one)
    (htwo : Preflight library runner action definition context two) : one = two := by
  obtain ⟨process, hanswer, -, found, hloads, rfl⟩ := hone.answered
  obtain ⟨other, hother, -, value, hvalue, rfl⟩ := htwo.answered
  obtain rfl : process = other := RunnerOutcome.completed.inj (hanswer.symm.trans hother)
  obtain rfl : found = value := Except.ok.inj (hloads.symm.trans hvalue)
  rfl

/-- That is so exactly when no reply that shows an unfinished job counts pods that have succeeded or failed, or
ends the job by another spelling of the status. -/
theorem deletesFinished_iff (library : CommandLibrary) (runner : CommandRunner) (action : ActionInstance)
    (definition : ActionTypeDefinition) (context : ExecutionContext) (attempt ticks : Nat) :
    DeletesFinished library runner action definition context attempt ticks ↔
      ∀ payload, Preflight library runner action definition context payload → countsAsEnded library payload →
        finished payload = true := by
  unfold DeletesFinished
  rw [deleteJob_issued_iff]
  constructor
  · intro h payload hpreflight hcounts
    obtain ⟨found, hfound, hfinished⟩ := h ⟨payload, hpreflight, terminal_iff.mpr (Or.inr hcounts)⟩
    rwa [hpreflight.unique hfound]
  · rintro h ⟨payload, hpreflight, hterminal⟩
    refine ⟨payload, hpreflight, ?_⟩
    rcases terminal_iff.mp hterminal with ⟨entries, hstatus, hcompleted⟩ | hcounts
    · exact finished_of_completionTime hstatus hcompleted
    · exact h payload hpreflight hcounts

end Issued

section ActiveJob

def deleteWorker : ActionInstance where
  actionId := "cleanup"
  actionTypeId := "kubernetes.job.delete_terminal.v1"
  parameters := Dict.ofList [("name", .str "worker-1"), ("namespace", .str "builder"),
    ("require_terminal", .bool true)]

def deleteTerminal : ActionTypeDefinition where
  actionTypeId := "kubernetes.job.delete_terminal.v1"
  parameterSchema := {
    required := ["name", "namespace"]
    properties := Dict.ofList [("require_terminal", { const := some (.bool true) })] }
  expectedEffects := ["job_absent"]
  requiredCapabilities := ["kubernetes.job.delete_terminal"]
  supportedModes := [.simulation, .live]
  executorId := "kubectl.safe"
  defaultRisk := { riskClass := .r1 }

def liveExecution : ExecutionContext where
  operationId := "op"
  mode := "live"
  environmentId := "dev"

def decoding (text : String) (payload : Json) : CommandLibrary where
  python := Python.plain
  lower := String.toLower
  loads found := .ok (if found = text then some payload else none)
  utcNowIso _ := "2026-01-01T00:00:00Z"

/-- One pod of the job is running and one has failed. -/
def retryingJob : Json := .dict [("status", .dict [("active", .int 1), ("failed", .int 1)])]

def retryingText : String := "\x7b\"status\":\x7b\"active\":1,\"failed\":1\x7d\x7d"

theorem retryingJob_deleted :
    finished retryingJob = false ∧
    issued (decoding retryingText retryingJob) (fun _ => .completed ⟨0, retryingText, ""⟩) deleteWorker
      deleteTerminal
        liveExecution 1 0 =
      [⟨["kubectl", "-n", "builder", "get", "job", "worker-1", "-o", "json"], 120⟩,
        ⟨["kubectl", "-n", "builder", "delete", "job", "worker-1", "--ignore-not-found=true",
          "--wait=true"], 120⟩] := by
  decide

end ActiveJob

end KubeOps.Execution
