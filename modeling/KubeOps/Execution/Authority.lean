import KubeOps.Execution.DockerHost

/-! Who let an action reach an executor. Forward actions are invoked only after
the engine allowed them; a rollback invokes compensations nobody evaluated. -/
namespace KubeOps.Execution

open KubeOps.Foundation KubeOps.Models KubeOps.Policy KubeOps.Actions
open OperationRuntime (Creation)

/-- What is done for `operation` in `context` is not a dry run. -/
def Mutating (operation : OperationRun) (context : ExecutionContext) : Prop :=
  operation.mode ≠ .dryRun ∧ context.mode ≠ "dry_run"

instance (operation : OperationRun) (context : ExecutionContext) :
    Decidable (Mutating operation context) := by
  unfold Mutating
  infer_instance

/-- Under the policy and context of `call` and the approvals of `operation` the
engine has allowed `action` before. It was evaluated with the mark it had then,
and the engine says the same of the instance that is invoked. -/
def AuthorizedBy (runtime : OperationRuntime) (call : Call) (before : Log)
    (operation : OperationRun) (action : ActionInstance) : Prop :=
  ∃ policy context evaluated definition decision,
    call.authority = some (policy, context) ∧
    .evaluated evaluated definition policy (policyContextFor operation context) operation.approvals
      decision ∈ before ∧
    evaluated.unmarked = action.unmarked ∧ decision.outcome = .allow ∧
    ∃ now evaluatedAtIso, evaluate runtime.python now action definition policy
      (policyContextFor operation context) operation.approvals evaluatedAtIso = .ok decision

/-- Every invocation outside a dry run was authorized before by the call that makes it. -/
def Guarded (runtime : OperationRuntime) (creation : Creation) (calls : List Call) : Prop :=
  ∀ done call rest, calls = done ++ call :: rest → ∀ segment,
    (runtime.session creation (done ++ [call])).log =
      (runtime.session creation done).log ++ segment →
    ∀ before operation executorId action context attempt after,
      segment = before ++ .invoked operation executorId action context attempt :: after →
      Mutating operation context → AuthorizedBy runtime call before operation action

/-- No rollback outside a dry run finds anything to compensate. -/
def NothingToCompensate (catalog : ActionCatalog) (log : Log) : Prop :=
  ∀ operation context, .rollingBack operation context ∈ log → Mutating operation context →
    ∀ action, ¬ Compensates catalog operation action

section Guards

variable {runtime : OperationRuntime} {given operation : OperationRun} {policy : ExecutionPolicy}
  {context : RuntimeContext} {base segment before after : Log} {action : ActionInstance}
  {creation : Creation}

theorem evaluate_unmarked (python : Python) (now : Int) (left right : ActionInstance)
    (definition : ActionTypeDefinition) (policy : ExecutionPolicy) (context : PolicyContext)
    (approvals : List ApprovalRecord) (evaluatedAtIso : String)
    (h : left.unmarked = right.unmarked) :
    evaluate python now left definition policy context approvals evaluatedAtIso =
      evaluate python now right definition policy context approvals evaluatedAtIso := by
  change evaluate python now left.unmarked definition policy context approvals evaluatedAtIso =
    evaluate python now right.unmarked definition policy context approvals evaluatedAtIso
  rw [h]

theorem not_compensating {executionContext : ExecutionContext} {permits : Log → Effect → Prop}
    (hinert : NothingToCompensate runtime.actions segment) (hmonitored : Monitored permits segment)
    (hrolling : ∀ before found usedContext, permits before (.rollingBack found usedContext) →
      found.mode = operation.mode)
    (hcontext : executionContext = context.executionContext)
    (hmutating : Mutating operation executionContext) (hbefore : before ⊆ segment) :
    ¬ Compensating runtime context before action := by
  rintro ⟨found, hfound, hcompensates⟩
  obtain ⟨earlier, -, hpermits⟩ := hmonitored.permits_of_mem (hbefore hfound)
  refine hinert found _ (hbefore hfound) ⟨?_, hcontext ▸ hmutating.2⟩ action hcompensates
  rw [hrolling _ _ _ hpermits]
  exact hmutating.1

theorem Progress.mode (h : Progress runtime given context base before operation) :
    operation.mode = given.mode := by
  obtain ⟨⟨receipts, events, hextends, -⟩, -⟩ := h
  exact hextends.mode

theorem Progress.approvals (h : Progress runtime given context base before operation) :
    operation.approvals = given.approvals := by
  obtain ⟨⟨receipts, events, hextends, -⟩, -⟩ := h
  exact hextends.approvals

theorem authorizedBy_of_runPermits {call : Call} {executorId : String}
    {executionContext : ExecutionContext} {attempt : Nat}
    (hmonitored : Monitored (RunPermits runtime given policy context base) segment)
    (hauthority : call.authority = some (policy, context))
    (hinert : NothingToCompensate runtime.actions segment)
    (hsegment : segment =
      before ++ .invoked operation executorId action executionContext attempt :: after)
    (hmutating : Mutating operation executionContext) :
    AuthorizedBy runtime call before operation action := by
  have hbefore : before ⊆ segment := hsegment ▸ List.subset_append_left _ _
  obtain ⟨hcontext, hprogress, hforward | hcompensating⟩ := hmonitored before _ after hsegment
  · obtain ⟨⟨evaluated, definition, decision, hentry, hsame, houtcome⟩, -⟩ := hforward
    obtain ⟨earlier, -, hevaluated⟩ := hmonitored.permits_of_mem (hbefore hentry)
    obtain ⟨-, now, evaluatedAtIso, hdecision⟩ := hevaluated.2.2.2.2
    have hpolicyContext : policyContextFor operation context = policyContextFor given context := by
      rw [policyContextFor, policyContextFor, effectiveMode, effectiveMode, hprogress.mode]
    refine ⟨policy, context, evaluated, definition, decision, hauthority, ?_, hsame, houtcome, now,
      evaluatedAtIso, ?_⟩
    · rw [hpolicyContext, hprogress.approvals]
      exact hentry
    · rw [hpolicyContext, hprogress.approvals, ← hdecision]
      exact evaluate_unmarked _ _ _ _ _ _ _ _ _ hsame.symm
  · refine absurd hcompensating (not_compensating hinert hmonitored ?_ hcontext hmutating hbefore)
    exact fun earlier found usedContext hpermits => hpermits.2.mode.trans hprogress.mode.symm

theorem AuthorizedBy.mono {call : Call} {later : Log}
    (h : AuthorizedBy runtime call before operation action) (hsubset : before ⊆ later) :
    AuthorizedBy runtime call later operation action := by
  obtain ⟨policy, context, evaluated, definition, decision, hauthority, hentry, hrest⟩ := h
  exact ⟨policy, context, evaluated, definition, decision, hauthority, hsubset hentry, hrest⟩

theorem CallSegment.authorizedBy {call : Call} {executorId : String}
    {executionContext : ExecutionContext} {attempt : Nat}
    (h : CallSegment runtime base given call segment)
    (hinert : NothingToCompensate runtime.actions segment)
    (hsegment : segment =
      before ++ .invoked operation executorId action executionContext attempt :: after)
    (hmutating : Mutating operation executionContext) :
    AuthorizedBy runtime call before operation action := by
  have hmem : .invoked operation executorId action executionContext attempt ∈ segment := by
    simp [hsegment]
  cases h with
  | idle => cases hmem
  | updates => simp at hmem
  | reconciles => simp at hmem
  | runs _ policy context _ hauthority hmonitored =>
    exact authorizedBy_of_runPermits hmonitored hauthority hinert hsegment hmutating
  | resumes policy context conditions started event rest hstarted hmonitored =>
    cases before with
    | nil => simp at hsegment
    | cons first before =>
      rw [List.cons_append, List.cons.injEq] at hsegment
      have hrest : NothingToCompensate runtime.actions rest := fun found usedContext hfound =>
        hinert found usedContext (List.mem_cons_of_mem _ hfound)
      exact (authorizedBy_of_runPermits hmonitored rfl hrest hsegment.2 hmutating).mono
        (List.subset_cons_self _ _)
  | rollsBack context _ hmonitored =>
    obtain ⟨hcontext, hprogress, hcompensating⟩ := hmonitored before _ after hsegment
    have hbefore : before ⊆ segment := hsegment ▸ List.subset_append_left _ _
    refine absurd hcompensating (not_compensating hinert hmonitored ?_ hcontext hmutating hbefore)
    exact fun earlier found usedContext hpermits => hpermits.2.mode.trans hprogress.mode.symm

/-- As long as no rollback finds anything to compensate, whatever reaches an
executor has been allowed by the engine. -/
theorem guarded_of_nothingToCompensate (hplan : creation.plan.Accepted runtime.python)
    {calls : List Call}
    (hinert : NothingToCompensate runtime.actions (runtime.session creation calls).log) :
    Guarded runtime creation calls := by
  intro done call rest hcalls segment hlog before operation executorId action context attempt after
    hsegment hmutating
  obtain ⟨found, hfound, hadvances⟩ := session_advances hplan done call
  obtain rfl : found = segment := List.append_cancel_left (hfound.symm.trans hlog)
  have hlater : (runtime.session creation (done ++ [call])).log <+:
      (runtime.session creation (done ++ [call] ++ rest)).log := session_prefix hplan _ rest
  rw [List.append_assoc, List.singleton_append, ← hcalls, hlog] at hlater
  rcases hadvances with rfl | ⟨given, -, -, hcall⟩
  · simp at hsegment
  · refine hcall.authorizedBy (fun found usedContext hmem => ?_) hsegment hmutating
    exact hinert found usedContext (hlater.subset (List.mem_append_right _ hmem))

end Guards

section Examples

open DockerHost

def Effect.isMutation : Effect → Bool
  | .invoked operation _ _ context _ => Mutating operation context
  | _ => false

/-- Starting a container has nothing to roll back. -/
theorem started_guarded :
    Guarded runtime (creation [startContainer "db"]) [.run policy context none true] :=
  guarded_of_nothingToCompensate (by decide) fun operation context hmem =>
    absurd hmem (not_mem_of_unreversed started_unreversed operation context)

/-- The compensation that stops the container is never evaluated. -/
theorem rolledBack_not_guarded : ¬ Guarded runtime (creation [startContainer "db"])
    [.run policy context none true, .rollback context] := by
  intro h
  have hplan : (creation [startContainer "db"]).plan.Accepted runtime.python := by decide
  obtain ⟨segment, hlog, -⟩ := session_advances hplan [.run policy context none true]
    (.rollback context)
  have hinvoked : (rolledBack.log.drop started.log.length).any Effect.isMutation = true := by
    decide +kernel
  have hdrop : rolledBack.log.drop started.log.length = segment := by
    rw [show rolledBack.log = started.log ++ segment from hlog, List.drop_left]
  rw [hdrop, List.any_eq_true] at hinvoked
  obtain ⟨effect, hmem, hmutation⟩ := hinvoked
  cases effect with
  | invoked operation executorId action executionContext attempt =>
    obtain ⟨before, after, hsegment⟩ := List.append_of_mem hmem
    obtain ⟨policy, context, -, -, -, hauthority, -⟩ := h [.run policy context none true]
      (.rollback context) [] rfl segment hlog before operation executorId action executionContext
      attempt after hsegment (of_decide_eq_true hmutation)
    cases hauthority
  | _ => cases hmutation

end Examples

section Budget

/-- The actions a run of `operation` would start from. -/
def pendingActions (operation : OperationRun) : List ActionInstance :=
  operation.plan.actions.filter (·.actionId ∉ successfulIds operation.actionReceipts)

/-- Each action of an authorized operation fits into the budget by itself. -/
theorem authorize_within_budget {runtime : OperationRuntime} {given operation : OperationRun}
    {policy : ExecutionPolicy} {context : RuntimeContext} {trace reached : Trace Effect}
    {budget : Nat}
    (h : (runtime.authorize given policy context).exec trace = (.ok operation, reached))
    (hstatus : operation.status = .authorized) (hbudget : policy.mutationBudget = some budget)
    (hpending : pendingActions operation ≠ []) :
    context.policyContext.mutationCount + 1 ≤ budget := by
  have hout := authorize_rule runtime given policy context trace.log trace rfl
  rw [h] at hout
  obtain ⟨segment, -, hauthorized⟩ := hout
  obtain ⟨action, hmem⟩ := List.exists_mem_of_ne_nil _ hpending
  obtain ⟨evaluated, definition, decision, hentry, -, houtcome⟩ :=
    hauthorized.allowed hstatus action (List.mem_filter.mp hmem).1
  obtain ⟨before, -, hpermits⟩ := hauthorized.monitored.permits_of_mem hentry
  obtain ⟨-, now, evaluatedAtIso, hdecision⟩ := hpermits.2.2.2.2
  rw [eq_issue_of_evaluate _ _ _ _ _ _ _ _ hdecision] at houtcome
  have hgates := (judge_allow_iff.mp houtcome).1
  have hcount : ¬ (budget : Int) ≤ context.policyContext.mutationCount :=
    fun hexhausted => hgates (.budget budget hbudget hexhausted)
  omega

open DockerHost

def budgetPolicy : ExecutionPolicy := { policy with mutationBudget := some 1 }

def authorizes (actions : List ActionInstance) (check : OperationRun → Bool) : Bool :=
  let created := runtime.created (creation actions)
  (latest created.log).any fun given =>
    (runtime.authorize given budgetPolicy context).returns created fun operation =>
      operation.status = .authorized ∧ check operation

theorem exists_of_authorizes (actions : List ActionInstance) (check : OperationRun → Bool)
    (h : authorizes actions check = true) : ∃ given operation reached,
      (runtime.authorize given budgetPolicy context).exec (runtime.created (creation actions)) =
        (.ok operation, reached) ∧ operation.status = .authorized ∧ check operation = true := by
  obtain ⟨given, -, hreturns⟩ := (Option.any_eq_true _ _).mp h
  obtain ⟨operation, reached, hexec, hcheck⟩ := Program.exists_of_returns hreturns
  rw [decide_eq_true_eq] at hcheck
  exact ⟨given, operation, reached, hexec, hcheck⟩

theorem authorize_within_budget_single : context.policyContext.mutationCount + 1 ≤ 1 := by
  obtain ⟨given, operation, reached, hexec, hstatus, hpending⟩ := exists_of_authorizes
    [startContainer "db"] (fun operation => pendingActions operation ≠ []) (by decide)
  exact authorize_within_budget hexec hstatus rfl (of_decide_eq_true hpending)

/-- Two actions are authorized against a budget of one mutation. -/
theorem authorize_exceeds_budget : ∃ given operation trace reached,
    (runtime.authorize given budgetPolicy context).exec trace = (.ok operation, reached) ∧
      operation.status = .authorized ∧ budgetPolicy.mutationBudget = some 1 ∧
      ¬ context.policyContext.mutationCount + (pendingActions operation).length ≤ 1 := by
  obtain ⟨given, operation, reached, hexec, hstatus, hpending⟩ := exists_of_authorizes
    [startContainer "db", startContainer "cache"]
    (fun operation => (pendingActions operation).length = 2) (by decide)
  refine ⟨given, operation, _, reached, hexec, hstatus, rfl, ?_⟩
  rw [of_decide_eq_true hpending]
  decide

end Budget

end KubeOps.Execution
