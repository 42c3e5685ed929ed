import KubeOps.Execution.Permits
import KubeOps.Policy.Decision

/-! Authorization evaluates every action of the plan, and leaves the operation
`authorized` only when every decision is `allow`. -/
namespace KubeOps.Execution

open KubeOps.Foundation KubeOps.Models KubeOps.Policy KubeOps.Actions

theorem markAction_ok {decisionByAction : Dict String PolicyDecision} {action marked : ActionInstance}
    (h : OperationRuntime.markAction decisionByAction action = .ok marked) :
    marked.unmarked = action.unmarked ∧ marked.status ≠ .rolledBack := by
  unfold OperationRuntime.markAction at h
  split at h
  · rename_i decision _
    obtain rfl := Except.ok.inj h
    refine ⟨rfl, ?_⟩
    dsimp only
    cases decision.outcome <;> nofun
  · cases h

theorem mapM_markAction_unmarked {decisionByAction : Dict String PolicyDecision}
    {actions marked : List ActionInstance}
    (h : actions.mapM (OperationRuntime.markAction decisionByAction) = .ok marked) :
    marked.map ActionInstance.unmarked = actions.map ActionInstance.unmarked := by
  exact map_eq_of_mapM h fun _ _ hmarked => (markAction_ok hmarked).1

theorem authorizationStatus_eq_authorized {decisions : List PolicyDecision}
    (h : OperationRuntime.authorizationStatus
      (decisions.filter fun decision => decision.outcome = .deny)
      (decisions.filter fun decision => decision.outcome = .approvalRequired) = .authorized) :
    ∀ decision ∈ decisions, decision.outcome = .allow := by
  unfold OperationRuntime.authorizationStatus at h
  split at h
  · cases h
  · rename_i hdenied
    split at h
    · cases h
    · rename_i hpending
      rw [ne_eq, not_not, List.filter_eq_nil_iff] at hdenied hpending
      intro decision hmem
      have hdeny := hdenied decision hmem
      have hpend := hpending decision hmem
      cases houtcome : decision.outcome <;> simp [houtcome] at hdeny hpend ⊢

section Rules

variable {runtime : OperationRuntime} {given : OperationRun} {policy : ExecutionPolicy}
  {context : RuntimeContext} {base : Log}

/-- The evaluations made so far, for the actions `done`. -/
structure Evaluating (runtime : OperationRuntime) (given : OperationRun) (policy : ExecutionPolicy)
    (context : RuntimeContext) (base : Log) (done : List ActionInstance)
    (results : List PolicyDecision) (segment : Log) : Prop where
  monitored : Monitored (RunPermits runtime given policy context base) segment
  unstarted : startedIds segment = []
  progress : Progress runtime given context base segment given
  evaluated : ∀ action ∈ done, ∃ definition decision,
    .evaluated action definition policy (policyContextFor given context) given.approvals decision
      ∈ segment ∧ decision ∈ results

theorem decide_rule {done : List ActionInstance} {action : ActionInstance}
    {results : List PolicyDecision} (hplanned : action ∈ given.plan.actions) :
    Triple (After base (Evaluating runtime given policy context base done results))
      (runtime.decide given policy (policyContextFor given context) action)
      (fun decision => After base
        (Evaluating runtime given policy context base (done ++ [action]) (results ++ [decision])))
      (fun _ => After base (Monitored (RunPermits runtime given policy context base))) := by
  have hfailed : ∀ (_ : PyError) log,
      After base (Evaluating runtime given policy context base done results) log →
        After base (Monitored (RunPermits runtime given policy context base)) log :=
    fun _ _ h => h.mono fun _ => Evaluating.monitored
  unfold OperationRuntime.decide OperationRuntime.validateInstance OperationRuntime.utcNowIso
  refine Triple.bind_attempt (fun definition hdefinition => ?_) fun error _ => hfailed error
  refine Triple.bind_tick fun now => Triple.bind_tick fun evaluatedAtIso => ?_
  refine Triple.bind_attempt (fun decision hdecision => ?_) fun error _ => hfailed error
  refine Triple.bind_record (m := After base _) (fun log h => h.concat fun segment hsegment => ?_)
    (Triple.pure fun log h => h)
  exact {
    monitored := hsegment.monitored.concat
      ⟨hplanned, rfl, rfl, rfl, hdefinition, now, evaluatedAtIso, hdecision⟩
    unstarted := (startedIds_concat_other rfl).trans hsegment.unstarted
    progress := hsegment.progress.concat (Or.inl rfl)
    evaluated := by
      intro candidate hmem
      rcases List.mem_append.mp hmem with hold | hnew
      · obtain ⟨found, decided, hentry, hresult⟩ := hsegment.evaluated candidate hold
        exact ⟨found, decided, List.mem_append_left _ hentry, List.mem_append_left _ hresult⟩
      · rw [List.mem_singleton.mp hnew]
        exact ⟨definition, decision, List.mem_append_right _ (List.mem_singleton_self _),
          List.mem_append_right _ (List.mem_singleton_self _)⟩ }

/-- What a run finds when `authorize` has returned. -/
structure Authorized (runtime : OperationRuntime) (given : OperationRun) (policy : ExecutionPolicy)
    (context : RuntimeContext) (base : Log) (operation : OperationRun) (segment : Log) : Prop where
  monitored : Monitored (RunPermits runtime given policy context base) segment
  unstarted : startedIds segment = []
  continues : ∃ event, Extends given operation [] [event]
  current : latest (base ++ segment) = some operation
  allowed : operation.status = .authorized → ∀ action ∈ operation.plan.actions,
    Allowed given policy context segment action

variable (runtime given policy context base) in
theorem authorize_rule :
    Triple (fun log => log = base) (runtime.authorize given policy context)
      (fun operation => After base (Authorized runtime given policy context base operation))
      (fun _ => After base (Monitored (RunPermits runtime given policy context base))) := by
  unfold OperationRuntime.authorize
  refine Triple.bind (m := fun decisions => After base
    (Evaluating runtime given policy context base given.plan.actions decisions)) ?_ fun decisions => ?_
  · refine Triple.weaken (Triple.mapM
      (i := fun done results => After base
        (Evaluating runtime given policy context base done results))
      (f := fun _ => After base (Monitored (RunPermits runtime given policy context base)))
      fun done action results hdone => decide_rule (hdone.subset (by simp)))
      ?_ (fun _ _ h => h) (fun _ _ h => h)
    rintro log rfl
    exact After.start
      ⟨Monitored.nil, rfl, Progress.refl, fun action hmem => absurd hmem List.not_mem_nil⟩
  · refine Triple.bind_attempt (fun marked hmarked => ?_)
      (fun error _ log h => h.mono fun _ => Evaluating.monitored)
    have hunmarked := mapM_markAction_unmarked hmarked
    refine OperationRuntime.bind_noted fun noted event hnoted _ _ =>
      OperationRuntime.saved_rule fun log h => h.concat fun segment hsegment => ?_
    have hextends : Extends given { noted with plan := { noted.plan with actions := marked } } []
        [event] := { hnoted with actions := hunmarked }
    refine ⟨hsegment.monitored.concat (hsegment.progress.quiet (?_ : Extends given _ [] [event])),
      (startedIds_concat_other rfl).trans hsegment.unstarted, ⟨event, ?_⟩, ?_, ?_⟩
    · exact { hextends with }
    · exact { hextends with }
    · rw [← List.append_assoc, latest_concat_saved]
    · intro hstatus action hmem
      obtain ⟨original, horiginal, hsame⟩ := hextends.mem_actions hmem
      obtain ⟨definition, decision, hentry, hresult⟩ := hsegment.evaluated original horiginal
      exact ⟨original, definition, decision, List.mem_append_left _ hentry, hsame,
        authorizationStatus_eq_authorized hstatus decision hresult⟩

end Rules

end KubeOps.Execution
