import KubeOps.Execution.Aborts
import KubeOps.Execution.DockerHost
import KubeOps.Execution.JobDeletion

/-! Whether a call of a command executor comes back with a receipt, and what becomes of a run in which
one does not: nothing handles what an executor raises, so that the run ends where it was called. -/
namespace KubeOps.Execution

open KubeOps.Foundation KubeOps.Models KubeOps.Policy KubeOps.Actions

section Calls

def TimedOut (runner : CommandRunner) (commands : List Command) : Prop :=
  ∃ front command, front ++ [command] <+: commands ∧
    ∃ seconds, runner (front ++ [command]) = .timedOut seconds

def Reports (runner : CommandRunner) (ticks : Nat) (unusable : Prop) (call : Commands ExecutorOutcome) : Prop :=
  ∃ outcome reached, call.exec ⟨[], ticks⟩ = (.ok outcome, reached) ∧
    (TimedOut runner reached.log ∨ unusable → outcome.status = .failed)

variable {library : CommandLibrary} {runner : CommandRunner} {action : ActionInstance}
variable {definition : ActionTypeDefinition} {context : ExecutionContext} {attempt ticks : Nat}

theorem timedOut_singleton {command : Command} :
    TimedOut runner [command] ↔ ∃ seconds, runner [command] = .timedOut seconds := by
  constructor
  · rintro ⟨front, found, hfront, hseconds⟩
    have hlength := hfront.length_le
    obtain rfl : front = [] := by
      cases front with
      | nil => rfl
      | cons first front => simp at hlength
    obtain rfl : found = command := by simpa using hfront
    exact hseconds
  · rintro ⟨seconds, hseconds⟩
    exact ⟨[], command, List.prefix_rfl, seconds, hseconds⟩

theorem timedOut_pair {one two : Command} : TimedOut runner [one, two] ↔
    (∃ seconds, runner [one] = .timedOut seconds) ∨ ∃ seconds, runner [one, two] = .timedOut seconds := by
  constructor
  · rintro ⟨front, command, hfront, seconds, hseconds⟩
    match front with
    | [] =>
      obtain rfl : command = one := by simpa using hfront
      exact Or.inl ⟨seconds, hseconds⟩
    | [first] =>
      obtain ⟨rfl, rfl⟩ : first = one ∧ command = two := by simpa using hfront
      exact Or.inr ⟨seconds, hseconds⟩
    | first :: second :: front =>
      have hlength := hfront.length_le
      simp at hlength
  · rintro (⟨seconds, hseconds⟩ | ⟨seconds, hseconds⟩)
    · exact ⟨[], one, ⟨[two], rfl⟩, seconds, hseconds⟩
    · exact ⟨[one], two, List.prefix_rfl, seconds, hseconds⟩

theorem safeCommand_reports_iff {executor : SafeCommandExecutor} {executable : String} {arguments : List String}
    (hbuilder : executor.builder action = .ok (executable, arguments)) :
    Reports runner ticks False (executor.execute library runner action definition context attempt) ↔
      pathName executable ∈ context.executableAllowlist := by
  unfold Reports SafeCommandExecutor.execute
  simp only [Program.exec_bind, Program.exec_tick, Program.exec_attempt, hbuilder, or_false]
  by_cases hallowed : pathName executable ∈ context.executableAllowlist
  · rw [if_neg (not_not.mpr hallowed), Program.exec_bind, exec_ask, List.nil_append]
    simp only [hallowed, iff_true, Program.exec_bind, Program.exec_tick]
    cases hanswer : runner [⟨executable :: arguments, timeoutOf definition context⟩] with
    | completed process =>
      refine ⟨_, _, rfl, ?_⟩
      rw [timedOut_singleton, hanswer]
      rintro ⟨seconds, hseconds⟩
      cases hseconds
    | timedOut seconds => exact ⟨_, _, rfl, fun _ => rfl⟩
  · rw [if_pos hallowed]
    simp [hallowed]

/-- The condition of a reply has a type that can be looked up. -/
def ReadableCondition (item : Json) : Prop :=
  ∃ entries, item = .dict entries ∧ ∀ kind, Json.entry? "type" item = some kind →
    (∀ items, kind ≠ .list items) ∧ ∀ fields, kind ≠ .dict fields

/-- No condition stops the loop with an exception. -/
def ReadableConditions (library : CommandLibrary) (items : List Json) : Prop :=
  ∀ front item back, items = front ++ item :: back →
    (∀ other ∈ front, endsJob library other = .ok false) → ReadableCondition item

/-- The status of the reply, if there is one, can be read, up to where it is decided. -/
def ReadableReply (library : CommandLibrary) (payload : Json) : Prop :=
  ∃ entries, payload.getOr "status" (.dict []) = .ok (.dict entries) ∧
    ((Json.entry? "completionTime" (.dict entries)).any Json.truthy = true ∨
      (Json.entry? "succeeded" (.dict entries)).any Json.truthy = true ∨
      (Json.entry? "failed" (.dict entries)).any Json.truthy = true ∨
      ∃ items, ((Json.entry? "conditions" (.dict entries)).getD (.list [])).iterate = .ok items ∧
        ReadableConditions library items)

theorem exists_endsJob_iff {item : Json} :
    (∃ ends, endsJob library item = .ok ends) ↔ ReadableCondition item := by
  unfold endsJob ReadableCondition
  cases item with
  | dict entries =>
    simp only [Json.getOr, bind, Except.bind]
    cases hkind : Json.entry? "type" (.dict entries) with
    | none => simp [Json.hashed, pure, Except.pure]
    | some kind =>
      cases kind with
      | str text =>
        simp only [Option.getD_some, Json.hashed]
        split <;> simp [pure, Except.pure]
      | _ => simp [Json.hashed, pure, Except.pure]
  | _ => simp [Json.getOr, bind, Except.bind]

theorem readableConditions_nil : ReadableConditions library [] := by
  intro front item back h
  simp at h

theorem readableConditions_cons {first : Json} {rest : List Json} :
    ReadableConditions library (first :: rest) ↔ ReadableCondition first ∧
      (endsJob library first = .ok false → ReadableConditions library rest) := by
  constructor
  · intro h
    refine ⟨h [] first rest rfl (by simp), fun hfirst front item back hitems hfront => ?_⟩
    refine h (first :: front) item back (by rw [hitems, List.cons_append]) ?_
    simpa [hfirst] using hfront
  · rintro ⟨hcondition, hrest⟩ front item back hitems hfront
    cases front with
    | nil => rwa [← (List.cons.inj hitems).1]
    | cons other front =>
      obtain ⟨rfl, htail⟩ := List.cons.inj hitems
      exact hrest (hfront first List.mem_cons_self) front item back htail
        fun later hlater => hfront later (List.mem_cons_of_mem _ hlater)

theorem exists_anyEndsJob_iff {items : List Json} :
    (∃ ends, anyEndsJob library items = .ok ends) ↔ ReadableConditions library items := by
  induction items with
  | nil => simp [anyEndsJob, readableConditions_nil]
  | cons first rest ih =>
    rw [readableConditions_cons, ← @exists_endsJob_iff library first]
    unfold anyEndsJob
    cases hfirst : endsJob library first with
    | error failure => simp [bind, Except.bind]
    | ok ends =>
      cases ends with
      | true => simp [bind, Except.bind, pure, Except.pure]
      | false =>
        change (∃ ends, anyEndsJob library rest = .ok ends) ↔ _
        simpa using ih

theorem exists_terminal_iff {payload : Json} :
    (∃ ends, terminal library payload = .ok ends) ↔ ReadableReply library payload := by
  unfold terminal ReadableReply
  cases hstatus : payload.getOr "status" (.dict []) with
  | error failure => simp [bind, Except.bind]
  | ok status =>
    cases status with
    | dict entries =>
      simp only [bind, Except.bind, Json.getOr, truthy_getD, Except.ok.injEq, Json.dict.injEq, exists_eq_left',
        pure, Except.pure]
      by_cases hcounted : ((Json.entry? "completionTime" (.dict entries)).any Json.truthy ||
          (Json.entry? "succeeded" (.dict entries)).any Json.truthy ||
          (Json.entry? "failed" (.dict entries)).any Json.truthy) = true
      · rw [if_pos hcounted]
        simp only [Bool.or_eq_true] at hcounted
        simp only [Except.ok.injEq, exists_eq', true_iff]
        tauto
      · rw [if_neg hcounted]
        simp only [Bool.or_eq_true, not_or] at hcounted
        simp only [hcounted]
        cases hitems : ((Json.entry? "conditions" (.dict entries)).getD (.list [])).iterate with
        | error failure => simp
        | ok items => simpa using @exists_anyEndsJob_iff library items
    | _ => simp [bind, Except.bind, Json.getOr]

/-- The reply passes the terminal test. -/
def ShowsTerminal (library : CommandLibrary) (payload : Json) : Prop :=
  (∃ entries, payload.getOr "status" (.dict []) = .ok (.dict entries) ∧
    (Json.entry? "completionTime" (.dict entries)).any Json.truthy = true) ∨ countsAsEnded library payload

def AnswersQuery (library : CommandLibrary) (process : CompletedProcess) (payload : Json) : Prop :=
  process.returncode = 0 ∧
    ∃ found, library.loads process.stdout = .ok found ∧ found.getD (.dict []) = payload

def Unusable (library : CommandLibrary) (process : CompletedProcess) : Prop :=
  process.returncode = 0 ∧
    ¬ ∃ payload, library.loads process.stdout = .ok (some payload) ∧ ReadableReply library payload

section Deletion

variable (library : CommandLibrary) (runner : CommandRunner) (action : ActionInstance)
variable (definition : ActionTypeDefinition) (context : ExecutionContext)

/-- The query for the job comes back with a reply that cannot be used. -/
def UnusableReply : Prop :=
  action.actionTypeId = "kubernetes.job.delete_terminal.v1" ∧
    ∃ process,
      runner [getJob library action definition context (jobName library action)] = .completed process ∧
        Unusable library process

/-- The query comes back in time, with a document that can be read if it has ended well, and so does the
deletion if it follows. -/
def AnsweredDeletion : Prop :=
  ∃ process,
    runner [getJob library action definition context (jobName library action)] = .completed process ∧
      (process.returncode = 0 →
        ∃ payload, AnswersQuery library process payload ∧ ReadableReply library payload ∧
          (ShowsTerminal library payload → ∃ deleted,
            runner [getJob library action definition context (jobName library action),
              deleteJob library action definition context (jobName library action)] = .completed deleted))

/-- What has to hold of a call for it to come back with a receipt. -/
structure Answered (argv : List String) : Prop where
  allowed : "kubectl" ∈ context.executableAllowlist
  command : action.actionTypeId ≠ "kubernetes.job.delete_terminal.v1" →
    ∃ process, runner [⟨argv, timeoutOf definition context⟩] = .completed process
  deletion : action.actionTypeId = "kubernetes.job.delete_terminal.v1" →
    AnsweredDeletion library runner action definition context

end Deletion

section Kubectl

variable {argv : List String}

theorem terminal_iff_shows {payload : Json} :
    terminal library payload = .ok true ↔ ShowsTerminal library payload := terminal_iff

theorem named_of_builder (hjob : action.actionTypeId = "kubernetes.job.delete_terminal.v1")
    (hbuilder : kubectlBuilder library action = .ok argv) :
    ∃ value, subscript library.python action.parameters "name" = .ok value := by
  unfold kubectlBuilder at hbuilder
  simp only [hjob] at hbuilder
  split at hbuilder
  · rename_i hother
    simp at hother
  · split at hbuilder
    · split at hbuilder
      · obtain ⟨value, hvalue, -⟩ := except_bind_eq_ok hbuilder
        exact ⟨value, hvalue⟩
      · cases hbuilder
    · rename_i hnone
      simp at hnone

theorem deleteIfTerminal_reports {started ended : String} {query command : Command} {process : CompletedProcess}
    (hanswer : runner [query] = .completed process) (hcode : process.returncode = 0) :
    (∃ outcome reached, (deleteIfTerminal library runner action context attempt started ended query command
        process.stdout).exec ⟨[query], ticks⟩ = (.ok outcome, reached) ∧
        (TimedOut runner reached.log ∨ Unusable library process → outcome.status = .failed)) ↔
      ∃ payload, AnswersQuery library process payload ∧ ReadableReply library payload ∧
        (ShowsTerminal library payload → ∃ deleted, runner [query, command] = .completed deleted) := by
  have hquery : ¬ ∃ seconds, runner [query] = .timedOut seconds := by simp [hanswer]
  unfold deleteIfTerminal AnswersQuery
  simp only [Program.exec_bind, Program.exec_attempt, hcode, true_and]
  cases hloads : library.loads process.stdout with
  | error failure => simp
  | ok found =>
    simp only [Except.ok.injEq, exists_eq_left']
    cases hterminal : terminal library (found.getD (.dict [])) with
    | error failure =>
      have hunread : ¬ ReadableReply library (found.getD (.dict [])) := by
        rw [← exists_terminal_iff]
        simp [hterminal]
      simp [hunread]
    | ok ends =>
      have hread : ReadableReply library (found.getD (.dict [])) := exists_terminal_iff.mp ⟨ends, hterminal⟩
      simp only [hread, true_and]
      cases ends with
      | false =>
        have hshows : ¬ ShowsTerminal library (found.getD (.dict [])) := by
          rw [← terminal_iff_shows, hterminal]
          simp
        simp only [hshows, false_imp_iff, iff_true]
        exact ⟨_, _, rfl, fun _ => rfl⟩
      | true =>
        have hshows : ShowsTerminal library (found.getD (.dict [])) := terminal_iff_shows.mp hterminal
        simp only [hshows, true_imp_iff, if_true, Program.exec_bind]
        cases hdeleted : runner [query, command] with
        | timedOut seconds =>
          obtain ⟨failure, hexec⟩ :=
            @exec_runCommand_timedOut library runner command ⟨[query], ticks⟩ seconds hdeleted
          rw [hexec]
          simp
        | completed deleted =>
          rw [@exec_runCommand_completed library runner command ⟨[query], ticks⟩ deleted hdeleted]
          simp only [RunnerOutcome.completed.injEq, exists_eq', iff_true]
          refine ⟨_, _, rfl, ?_⟩
          rintro (htimedOut | hunusable)
          · rw [List.cons_append, List.nil_append, timedOut_pair, hdeleted] at htimedOut
            simp [hquery] at htimedOut
          · -- without a document there is no status, and nothing is deleted
            cases found with
            | none => cases hterminal
            | some payload => exact absurd ⟨payload, hloads, hread⟩ hunusable.2

theorem deleteTerminalJob_reports (hjob : action.actionTypeId = "kubernetes.job.delete_terminal.v1")
    (hbuilder : kubectlBuilder library action = .ok argv) (started : String) :
    Reports runner ticks (UnusableReply library runner action definition context)
        (deleteTerminalJob library runner action definition context attempt started) ↔
      AnsweredDeletion library runner action definition context := by
  obtain ⟨value, hname⟩ := named_of_builder hjob hbuilder
  have hvalue : library.python.str value = jobName library action := by
    rw [jobName, getD_of_subscript hname]
  unfold Reports deleteTerminalJob AnsweredDeletion UnusableReply
  simp only [Program.exec_bind, Program.exec_attempt, hname, hvalue, hjob, true_and]
  cases hanswer : runner [getJob library action definition context (jobName library action)] with
  | timedOut seconds =>
    obtain ⟨failure, hexec⟩ := @exec_runCommand_timedOut library runner
      (getJob library action definition context (jobName library action)) ⟨[], ticks⟩ seconds hanswer
    rw [hexec]
    simp
  | completed process =>
    rw [@exec_runCommand_completed library runner _ ⟨[], ticks⟩ process hanswer]
    simp only [Program.exec_tick, List.nil_append, RunnerOutcome.completed.injEq, exists_eq_left']
    by_cases hcode : process.returncode = 0
    · simp only [hcode, ne_eq, not_true_eq_false, if_false, true_imp_iff]
      have hreports := @deleteIfTerminal_reports library runner action context attempt (ticks + 1) started
        (library.utcNowIso ticks) (getJob library action definition context (jobName library action))
        (deleteJob library action definition context (jobName library action)) process hanswer hcode
      exact hreports
    · simp only [hcode, ne_eq, not_false_eq_true, if_true, false_imp_iff, iff_true]
      refine ⟨_, _, rfl, ?_⟩
      rw [timedOut_singleton, hanswer]
      rintro (⟨seconds, hseconds⟩ | hunusable)
      · cases hseconds
      · exact absurd hunusable.1 hcode

theorem kubectl_reports_iff (hbuilder : kubectlBuilder library action = .ok argv) :
    Reports runner ticks (UnusableReply library runner action definition context)
        (KubectlSafeExecutor.execute library runner action definition context attempt) ↔
      Answered library runner action definition context argv := by
  by_cases hallowed : "kubectl" ∈ context.executableAllowlist
  · unfold KubectlSafeExecutor.execute
    rw [if_neg (not_not.mpr hallowed)]
    by_cases hjob : action.actionTypeId = "kubernetes.job.delete_terminal.v1"
    · have hreports := @deleteTerminalJob_reports library runner action definition context attempt (ticks + 1)
        argv hjob hbuilder (library.utcNowIso ticks)
      unfold Reports at hreports ⊢
      simp only [if_pos hjob, Program.exec_bind, Program.exec_tick]
      constructor
      · intro h
        exact ⟨hallowed, fun hother => absurd hjob hother, fun _ => hreports.mp h⟩
      · exact fun h => hreports.mpr (h.deletion hjob)
    · have hunusable : ¬ UnusableReply library runner action definition context := fun h => hjob h.1
      simp only [if_neg hjob, Reports, hunusable, or_false, Program.exec_bind, Program.exec_tick,
        Program.exec_attempt, hbuilder]
      cases hanswer : runner [⟨argv, timeoutOf definition context⟩] with
      | timedOut seconds =>
        obtain ⟨failure, hexec⟩ := @exec_runCommand_timedOut library runner
          ⟨argv, timeoutOf definition context⟩ ⟨[], ticks + 1⟩ seconds hanswer
        rw [hexec]
        constructor
        · rintro ⟨outcome, reached, h, -⟩
          cases h
        · intro h
          obtain ⟨process, hprocess⟩ := h.command hjob
          cases hanswer.symm.trans hprocess
      | completed process =>
        rw [@exec_runCommand_completed library runner _ ⟨[], ticks + 1⟩ process hanswer]
        constructor
        · exact fun _ => ⟨hallowed, fun _ => ⟨process, hanswer⟩, fun h => absurd h hjob⟩
        · intro _
          refine ⟨_, _, rfl, ?_⟩
          rw [List.nil_append, timedOut_singleton, hanswer]
          rintro ⟨seconds, hseconds⟩
          cases hseconds
  · unfold KubectlSafeExecutor.execute Reports
    rw [if_pos hallowed]
    constructor
    · rintro ⟨outcome, reached, h, -⟩
      cases h
    · exact fun h => absurd h.allowed hallowed

end Kubectl

end Calls

inductive CommandExecutor where
  | safe (executor : SafeCommandExecutor)
  | kubectl

namespace CommandExecutor

section Definitions

variable (library : CommandLibrary)

def executorId : CommandExecutor → String
  | .safe executor => executor.executorId
  | .kubectl => "kubectl.safe"

def build (action : ActionInstance) : CommandExecutor → Except PyError (List String)
  | .safe executor => (executor.builder action).map fun command => command.1 :: command.2
  | .kubectl => kubectlBuilder library action

def execute (runner : CommandRunner) (action : ActionInstance) (definition : ActionTypeDefinition)
    (context : ExecutionContext) (attempt : Nat) : CommandExecutor → Commands ExecutorOutcome
  | .safe executor => executor.execute library runner action definition context attempt
  | .kubectl => KubectlSafeExecutor.execute library runner action definition context attempt

/-- The executor as the registry holds it. Its runner may answer differently each time that it is called. -/
def registered (runner : Log → CommandRunner) (executor : CommandExecutor) : ActionExecutor where
  executorId := executor.executorId
  execute trace action definition context attempt :=
    ((executor.execute library (runner trace.log) action definition context attempt).exec ⟨[], trace.ticks⟩).1

def unusable (runner : CommandRunner) (action : ActionInstance) (definition : ActionTypeDefinition)
    (context : ExecutionContext) : CommandExecutor → Prop
  | .safe _ => False
  | .kubectl => UnusableReply library runner action definition context

/-- What has to hold of a call for it to come back with a receipt. -/
def answered (runner : CommandRunner) (action : ActionInstance) (definition : ActionTypeDefinition)
    (context : ExecutionContext) (argv : List String) : CommandExecutor → Prop
  | .safe _ => ∃ executable,
      argv.head? = some executable ∧ pathName executable ∈ context.executableAllowlist
  | .kubectl => Answered library runner action definition context argv

end Definitions

variable {library : CommandLibrary} {action : ActionInstance} {definition : ActionTypeDefinition}
variable {context : ExecutionContext} {attempt ticks : Nat} {executor : CommandExecutor} {argv : List String}

theorem reports_iff {runner : CommandRunner} (hbuild : executor.build library action = .ok argv) :
    Reports runner ticks (executor.unusable library runner action definition context)
        (executor.execute library runner action definition context attempt) ↔
      executor.answered library runner action definition context argv := by
  cases executor with
  | kubectl => exact kubectl_reports_iff hbuild
  | safe executor =>
    unfold build at hbuild
    cases hbuilder : executor.builder action with
    | error failure =>
      simp only [hbuilder] at hbuild
      cases hbuild
    | ok command =>
      simp only [hbuilder] at hbuild
      obtain rfl := Except.ok.inj hbuild
      have hreports := @safeCommand_reports_iff library runner action definition context attempt ticks executor
        command.1 command.2 hbuilder
      simpa [answered, unusable, execute] using hreports

end CommandExecutor

section Runs

variable {library : CommandLibrary} {calls : Log → CommandRunner} {runtime : OperationRuntime}

/-- The call of an executor comes back: one that runs commands has been answered, any other does not raise. -/
inductive Returning (library : CommandLibrary) (calls : Log → CommandRunner) (log : Log)
    (action : ActionInstance) (definition : ActionTypeDefinition) (context : ExecutionContext) :
      ActionExecutor → Prop where
  | command (executor : CommandExecutor) {argv : List String} (built : executor.build library action = .ok argv)
      (answered : executor.answered library (calls log) action definition context argv) :
      Returning library calls log action definition context (executor.registered library calls)
  | other (executor : ActionExecutor)
      (different : ∀ command : CommandExecutor, executor ≠ command.registered library calls)
      (returns : ∀ ticks attempt, ∃ outcome,
        executor.execute ⟨log, ticks⟩ action definition context attempt = .ok outcome) :
      Returning library calls log action definition context executor

/-- Every executor that the run calls comes back. -/
def CallsReturn (library : CommandLibrary) (calls : Log → CommandRunner) (runtime : OperationRuntime)
    (base segment : Log) : Prop :=
  ∀ before after operation executorId action context attempt,
    segment = before ++ .invoked operation executorId action context attempt :: after →
    ∀ executor ∈ runtime.executors.items.values, executor.executorId = executorId →
      ∀ definition, runtime.actions.validateInstance runtime.python action = .ok definition →
        Returning library calls
          (base ++ (before ++ [.invoked operation executorId action context attempt])) action definition
          context executor

theorem Returning.exists_outcome {log : Log} {action : ActionInstance} {definition : ActionTypeDefinition}
    {context : ExecutionContext} {executor : ActionExecutor} {ticks attempt : Nat}
    (h : Returning library calls log action definition context executor) :
    ∃ outcome, executor.execute ⟨log, ticks⟩ action definition context attempt = .ok outcome := by
  cases h with
  | command executor hbuilt hanswered =>
    obtain ⟨outcome, reached, hexec, -⟩ := (@CommandExecutor.reports_iff library action definition
      context attempt ticks executor _ (calls log) hbuilt).mpr hanswered
    refine ⟨outcome, ?_⟩
    unfold CommandExecutor.registered
    simp only [hexec]
  | other executor _ hreturns => exact hreturns ticks attempt

theorem quiet_of_callsReturn {base segment : Log} {failure : PyError}
    (hraised : Raised runtime base failure segment)
    (hreturn : CallsReturn library calls runtime base segment) : Quiet segment := by
  intro effect hlast
  obtain ⟨before, rfl⟩ := List.getLast?_eq_some_iff.mp hlast
  cases effect with
  | invoked operation executorId action context attempt =>
    obtain ⟨executor, hmem, hid, definition, hdefinition, ticks, hraise⟩ := hraised _ _ _ _ _ _ rfl
    have hcall := hreturn before [] operation executorId action context attempt rfl executor hmem hid
      definition hdefinition
    obtain ⟨outcome, houtcome⟩ := @Returning.exists_outcome library calls _ _ _ _ _ ticks attempt hcall
    cases houtcome.symm.trans hraise
  | _ => rfl

/-- An executor that runs commands reports exactly when its commands are answered in time with replies
that it can read, and a run whose calls all come back is not left at one of them. -/
theorem commandExecutor_reports (executor : CommandExecutor) (action : ActionInstance) (argv : List String)
    (hbuild : executor.build library action = .ok argv) :
    (∀ runner definition context attempt ticks,
      Reports runner ticks (executor.unusable library runner action definition context)
          (executor.execute library runner action definition context attempt) ↔
        executor.answered library runner action definition context argv) ∧
    ∀ calls (runtime : OperationRuntime) operation policy context conditions rollbackOnFailure base ticks
        failure reached,
      (runtime.run operation policy context conditions rollbackOnFailure).exec ⟨base, ticks⟩ =
          (.error failure, reached) →
        ∃ segment, reached.log = base ++ segment ∧
          (CallsReturn library calls runtime base segment → Quiet segment) := by
  refine ⟨fun runner definition context attempt ticks => CommandExecutor.reports_iff hbuild, ?_⟩
  intro calls runtime operation policy context conditions rollbackOnFailure base ticks failure reached hrun
  obtain ⟨segment, hlog, hraised⟩ := raised_of_run hrun
  exact ⟨segment, hlog, quiet_of_callsReturn hraised⟩

/-- The call that deletes a job that is retried. -/
theorem retryingJob_reports :
    Reports (fun _ => .completed ⟨0, retryingText, ""⟩) 0
      (CommandExecutor.kubectl.unusable (decoding retryingText retryingJob)
        (fun _ => .completed ⟨0, retryingText, ""⟩) deleteWorker deleteTerminal liveExecution)
      (CommandExecutor.kubectl.execute (decoding retryingText retryingJob)
        (fun _ => .completed ⟨0, retryingText, ""⟩) deleteWorker deleteTerminal liveExecution 1) := by
  refine ((commandExecutor_reports .kubectl deleteWorker
    ["kubectl", "-n", "builder", "delete", "job", "worker-1", "--ignore-not-found=true", "--wait=true"]
    (by decide)).1 _ deleteTerminal liveExecution 1 0).mpr ⟨by decide, fun h => absurd rfl h, fun _ => ?_⟩
  refine ⟨_, rfl, fun _ => ⟨retryingJob, ⟨rfl, some retryingJob, rfl, rfl⟩, ?_, fun _ => ⟨_, rfl⟩⟩⟩
  exact ⟨_, rfl, Or.inr (Or.inr (Or.inl (by decide)))⟩

end Runs

section DeletionRun

def nullStatus : Json := .dict [("status", .null)]

def nullStatusText : String := "\x7b\"status\":null\x7d"

def jobRuntime (answer : RunnerOutcome) : OperationRuntime :=
  { DockerHost.runtime with
    actions := ⟨Dict.ofList [(deleteTerminal.actionTypeId, deleteTerminal)]⟩
    executors := ⟨Dict.ofList
      [("kubectl.safe",
        CommandExecutor.kubectl.registered (decoding nullStatusText nullStatus) fun _ _ => answer)]⟩ }

def jobContext : RuntimeContext :=
  { DockerHost.context with
    policyContext := { DockerHost.context.policyContext with
      capabilities := ["kubernetes.job.delete_terminal"] }
    executionContext := { DockerHost.context.executionContext with mode := "live" } }

def deletionRun (answer : RunnerOutcome) : Runtime OperationRun :=
  (jobRuntime answer).run (DockerHost.createdRun [deleteWorker]) DockerHost.policy jobContext none true

def AbortsRunning (program : Runtime OperationRun) (failure : PyError) : Bool :=
  match program.exec (Trace.start Effect) with
  | (.error raised, reached) => raised = failure && (latest reached.log).map OperationRun.status = some .running
  | (.ok _, _) => false

/-- A query that is not answered in time and a reply without a status both leave the operation running. -/
theorem deletionRun_aborts :
    CommandExecutor.kubectl.build (decoding nullStatusText nullStatus) deleteWorker = .ok
        ["kubectl", "-n", "builder", "delete", "job", "worker-1", "--ignore-not-found=true", "--wait=true"] ∧
      AbortsRunning (deletionRun (.timedOut 120))
        (.timeoutExpired "Command '' timed out after 120 seconds") = true ∧
      AbortsRunning (deletionRun (.completed ⟨0, nullStatusText, ""⟩))
        (.attributeError "'NoneType' object has no attribute 'get'") = true := by
  decide +kernel

end DeletionRun

end KubeOps.Execution
