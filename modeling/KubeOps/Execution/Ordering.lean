import KubeOps.Execution.DockerHost

/-! The order in which a run starts its actions, and what restarts preserve:
an action is started after its dependencies and succeeds at most once. -/
namespace KubeOps.Execution

open KubeOps.Foundation KubeOps.Models KubeOps.Policy KubeOps.Actions
open OperationRuntime (Creation)

/-- How one call of `run` given `given` works through the plan. A `cutOff` entry
would say that the loop did not end by itself, a `blocked` entry that no pending
action was ready. -/
structure DependencyOrdered (given : OperationRun) (segment : Log) : Prop where
  once : (startedIds segment).Nodup
  pending : ∀ actionId ∈ startedIds segment,
    actionId ∈ given.plan.actionIds ∧ actionId ∉ successfulIds given.actionReceipts
  settled : ∀ before operation action after,
    segment = before ++ .started operation action :: after →
    (∃ original ∈ given.plan.actions, original.unmarked = action.unmarked) ∧
      ∀ dependency ∈ action.dependsOnActionIds, Settled given operation dependency
  invoked : ∀ before operation executorId action context attempt after,
    segment = before ++ .invoked operation executorId action context attempt :: after →
    (startedIds before).getLast? = some action.actionId ∨
      ∃ found usedContext, .rollingBack found usedContext ∈ before
  ends : ∀ operation, .cutOff operation ∉ segment
  unblocked : ∀ operation, .blocked operation ∉ segment

section Runs

variable {runtime : OperationRuntime} {given operation : OperationRun} {policy : ExecutionPolicy}
  {context : RuntimeContext} {base segment : Log}

theorem dependencyOrdered_of_runPermits
    (h : Monitored (RunPermits runtime given policy context base) segment) :
    DependencyOrdered given segment where
  once := startedIds_nodup h
  pending := fun _ hmem => mem_startedIds h hmem
  settled := by
    intro before operation action after hsegment
    obtain ⟨-, hplanned, -, -, hsettled⟩ := h before _ after hsegment
    exact ⟨hplanned, hsettled⟩
  invoked := by
    intro before operation executorId action context attempt after hsegment
    obtain ⟨-, -, ⟨-, hlast, -⟩ | ⟨found, hfound, -⟩⟩ := h before _ after hsegment
    · exact Or.inl hlast
    · exact Or.inr ⟨found, _, hfound⟩
  ends := fun operation hmem => (h.permits_of_mem hmem).choose_spec.2
  unblocked := fun operation hmem => (h.permits_of_mem hmem).choose_spec.2

/-- One call of `run` on an accepted plan, however it ends. -/
theorem run_dependencyOrdered (hplan : given.plan.Accepted runtime.python)
    (conditions : Option (List VerificationCondition)) (rollbackOnFailure : Bool)
    (trace : Trace Effect) :
    ∃ segment, ((runtime.run given policy context conditions rollbackOnFailure).exec trace).2.log =
      trace.log ++ segment ∧ DependencyOrdered given segment := by
  obtain ⟨order, horder⟩ := hplan.exists_order
  have hout := run_rule runtime policy context trace.log horder conditions rollbackOnFailure trace rfl
  revert hout
  rcases (runtime.run given policy context conditions rollbackOnFailure).exec trace with
    ⟨result, reached⟩
  cases result with
  | ok value =>
    exact fun ⟨segment, hlog, h⟩ => ⟨segment, hlog, dependencyOrdered_of_runPermits h⟩
  | error error =>
    exact fun ⟨segment, hlog, h⟩ => ⟨segment, hlog, dependencyOrdered_of_runPermits h⟩

/-- Two containers in a run, the second after the first. -/
theorem run_dependencyOrdered_stack : ∃ segment,
    ((DockerHost.runtime.run (DockerHost.createdRun [DockerHost.startAfter "api" "db",
      DockerHost.startContainer "db"]) DockerHost.policy DockerHost.context none true).exec
        (Trace.start Effect)).2.log = [] ++ segment ∧
      DependencyOrdered (DockerHost.createdRun [DockerHost.startAfter "api" "db",
        DockerHost.startContainer "db"]) segment :=
  run_dependencyOrdered (by decide) none true (Trace.start Effect)

end Runs

section Restarts

variable {runtime : OperationRuntime} {creation : Creation} {given operation : OperationRun}
  {policy : ExecutionPolicy} {context : RuntimeContext} {base segment log : Log}

def Call.restarts : Call → Bool
  | .run .. | .pause _ | .resume .. => true
  | _ => false

/-- No run written before has a successful receipt for an action that is invoked. -/
def Fresh (before : Log) : Effect → Prop
  | .invoked _ _ action _ _ => ∀ earlier, .saved earlier ∈ before →
    action.actionId ∉ successfulIds earlier.actionReceipts
  | _ => True

/-- No action that has succeeded is invoked again, and none succeeds twice. -/
def ExactlyOnce (log : Log) : Prop :=
  Monitored Fresh log ∧ ∀ operation, .saved operation ∈ log →
    (successfulIds operation.actionReceipts).Nodup

/-- The run written last has every receipt that was ever written, and no two
successes of one action. -/
def Journaled (log : Log) : Prop :=
  ∀ last, latest log = some last → (successfulIds last.actionReceipts).Nodup ∧
    ∀ earlier, .saved earlier ∈ log → earlier.actionReceipts <+: last.actionReceipts

def NoRollback (log : Log) : Prop := ∀ operation context, .rollingBack operation context ∉ log

theorem successfulIds_isPrefix {receipts more : List ActionReceipt} (h : receipts <+: more) :
    successfulIds receipts <+: successfulIds more := by
  obtain ⟨rest, rfl⟩ := h
  rw [successfulIds_append]
  exact List.prefix_append _ _

theorem Journaled.other (h : Journaled log) {effect : Effect} (heffect : effect.savedRun = none) :
    Journaled (log ++ [effect]) := by
  intro last hlast
  rw [latest_concat_other heffect] at hlast
  refine ⟨(h last hlast).1, fun earlier hmem => ?_⟩
  rcases List.mem_append.mp hmem with hold | hnew
  · exact (h last hlast).2 earlier hold
  · rw [← List.mem_singleton.mp hnew] at heffect
    cases heffect

theorem exists_latest_of_mem (h : .saved operation ∈ log) : ∃ last, latest log = some last := by
  rw [← Option.isSome_iff_exists, latest, List.getLast?_isSome]
  exact List.ne_nil_of_mem (List.mem_filterMap.mpr ⟨_, h, rfl⟩)

theorem Journaled.saved (h : Journaled log) (hgrown : Grown log operation)
    (hnodup : (successfulIds operation.actionReceipts).Nodup) :
    Journaled (log ++ [.saved operation]) := by
  intro last hlast
  rw [latest_concat_saved, Option.some.injEq] at hlast
  subst hlast
  refine ⟨hnodup, fun earlier hmem => ?_⟩
  rcases List.mem_append.mp hmem with hold | hnew
  · obtain ⟨previous, hprevious⟩ := exists_latest_of_mem hold
    exact ((h previous hprevious).2 earlier hold).trans (hgrown previous hprevious)
  · rw [Effect.saved.inj (List.mem_singleton.mp hnew)]

theorem Progress.successfulIds_nodup
    (hmonitored : Monitored (RunPermits runtime given policy context base) segment)
    (hgiven : (successfulIds given.actionReceipts).Nodup)
    (h : Progress runtime given context base segment operation) :
    (successfulIds operation.actionReceipts).Nodup := by
  obtain ⟨⟨receipts, events, hextends, hsublist, -⟩, -⟩ := h
  rw [hextends.receipted, successfulIds_append, List.nodup_append]
  refine ⟨hgiven, (startedIds_nodup hmonitored).sublist hsublist, ?_⟩
  intro left hleft right hright heq
  exact (mem_startedIds hmonitored (hsublist.subset hright)).2 (heq ▸ hleft)

theorem Journaled.run (h : Journaled base) (hlatest : latest base = some given)
    (hmonitored : Monitored (RunPermits runtime given policy context base) segment) :
    Journaled (base ++ segment) := by
  induction segment using List.reverseRecOn with
  | nil => rwa [List.append_nil]
  | append_singleton segment effect ih =>
    obtain ⟨hsegment, hpermits⟩ := Monitored.concat_iff.mp hmonitored
    rw [← List.append_assoc]
    cases effect with
    | saved operation =>
      have hprogress : Progress runtime given context base segment operation := hpermits
      refine (ih hsegment).saved ?_ (hprogress.successfulIds_nodup hsegment (h given hlatest).1)
      exact hprogress.2 (Grown.of_latest hlatest List.prefix_rfl)
    | _ => exact (ih hsegment).other rfl

theorem Journaled.fresh (h : Journaled base) (hlatest : latest base = some given)
    (hmonitored : Monitored (RunPermits runtime given policy context base) segment)
    (hrollback : NoRollback segment) :
    Monitored (fun before => Fresh (base ++ before)) segment := by
  intro before effect after hsegment
  cases effect with
  | invoked operation executorId action usedContext attempt =>
    intro earlier hearlier hsuccess
    obtain ⟨-, -, ⟨-, -, hunsuccessful, hcurrent⟩ | ⟨found, hfound, -⟩⟩ :=
      hmonitored before _ after hsegment
    · have hbefore := h.run hlatest (hsegment ▸ hmonitored).of_append
      have hreceipts := (hbefore operation hcurrent).2 earlier hearlier
      exact hunsuccessful ((successfulIds_isPrefix hreceipts).subset hsuccess)
    · exact hrollback found _ (hsegment ▸ List.mem_append_left _ hfound)
  | _ => trivial

theorem CallSegment.exactlyOnce {call : Call} (h : CallSegment runtime base given call segment)
    (hlatest : latest base = some given) (hrestarts : call.restarts = true)
    (hrollback : NoRollback segment) (hjournaled : Journaled base) :
    Journaled (base ++ segment) ∧ Monitored (fun before => Fresh (base ++ before)) segment := by
  have hgrown : ∀ later, later.actionReceipts = given.actionReceipts →
      Journaled (base ++ [.saved later]) := by
    intro later hreceipts
    refine hjournaled.saved (Grown.of_latest hlatest ⟨[], by rw [hreceipts, List.append_nil]⟩) ?_
    rw [hreceipts]
    exact (hjournaled given hlatest).1
  cases h with
  | idle =>
    rw [List.append_nil]
    exact ⟨hjournaled, Monitored.nil⟩
  | updates _ later hauthority hupdates =>
    refine ⟨hgrown later hupdates.receipted, ?_⟩
    exact Monitored.singleton trivial
  | reconciles => cases hrestarts
  | runs _ policy context _ hauthority hmonitored =>
    exact ⟨hjournaled.run hlatest hmonitored, hjournaled.fresh hlatest hmonitored hrollback⟩
  | resumes policy context conditions started event rest hstarted hmonitored =>
    have hstart := hgrown started hstarted.updates.receipted
    have hcurrent := latest_concat_saved base started
    have hquiet : NoRollback rest := fun found usedContext hmem =>
      hrollback found usedContext (List.mem_cons_of_mem _ hmem)
    refine ⟨?_, ?_⟩
    · rw [List.append_cons]
      exact hstart.run hcurrent hmonitored
    · rw [← List.singleton_append]
      refine Monitored.append (Monitored.singleton trivial) ?_
      simp only [← List.append_assoc]
      exact hstart.fresh hcurrent hmonitored hquiet
  | rollsBack => cases hrestarts

theorem session_journaled (hplan : creation.plan.Accepted runtime.python) (calls : List Call)
    (hcalls : ∀ call ∈ calls, call.restarts = true)
    (hrollback : NoRollback (runtime.session creation calls).log) :
    Journaled (runtime.session creation calls).log ∧
      Monitored Fresh (runtime.session creation calls).log := by
  induction calls using List.reverseRecOn with
  | nil =>
    change Journaled (runtime.created creation).log ∧ Monitored Fresh (runtime.created creation).log
    rcases created_log runtime creation with hlog | ⟨begun, hbegun, hlog⟩ <;> rw [hlog]
    · refine ⟨fun last hlast => ?_, Monitored.nil⟩
      cases hlast
    · have hempty : Journaled [] := fun last hlast => by cases hlast
      refine ⟨hempty.saved (fun last hlast => ?_) ?_, Monitored.singleton trivial⟩
      · cases hlast
      · rw [hbegun.unreceipted]
        exact List.nodup_nil
  | append_singleton calls call ih =>
    obtain ⟨segment, hlog, hsegment⟩ := session_advances hplan calls call
    rw [hlog] at hrollback ⊢
    obtain ⟨hjournaled, hfresh⟩ := ih (fun call hmem => hcalls call (List.mem_append_left _ hmem))
      fun found usedContext hmem => hrollback found usedContext (List.mem_append_left _ hmem)
    rcases hsegment with rfl | ⟨given, hlatest, -, hcall⟩
    · rw [List.append_nil]
      exact ⟨hjournaled, hfresh⟩
    · obtain ⟨hnext, hadded⟩ := hcall.exactlyOnce hlatest
        (hcalls call (List.mem_append_right _ (List.mem_singleton_self _)))
        (fun found usedContext hmem => hrollback found usedContext (List.mem_append_right _ hmem))
        hjournaled
      exact ⟨hnext, hfresh.append hadded⟩

/-- Runs, pauses and resumptions execute nothing again that has succeeded. -/
theorem session_exactlyOnce (hplan : creation.plan.Accepted runtime.python) {calls : List Call}
    (hcalls : ∀ call ∈ calls, call.restarts = true)
    (hrollback : NoRollback (runtime.session creation calls).log) :
    ExactlyOnce (runtime.session creation calls).log := by
  obtain ⟨hjournaled, hfresh⟩ := session_journaled hplan calls hcalls hrollback
  refine ⟨hfresh, fun operation hmem => ?_⟩
  obtain ⟨last, hlast⟩ := exists_latest_of_mem hmem
  obtain ⟨hnodup, hreceipts⟩ := hjournaled last hlast
  exact hnodup.sublist (successfulIds_isPrefix (hreceipts operation hmem)).sublist

/-- A second run of a completed operation starts nothing. -/
theorem session_exactlyOnce_twice : ExactlyOnce
    (DockerHost.runtime.session (DockerHost.creation [DockerHost.startContainer "db"])
      [.run DockerHost.policy DockerHost.context none true,
        .run DockerHost.policy DockerHost.context none true]).log :=
  session_exactlyOnce (by decide)
    (fun call hmem => by
      simp only [List.mem_cons, List.not_mem_nil, or_false, or_self] at hmem
      rw [hmem]
      rfl)
    (DockerHost.not_mem_of_unreversed (by decide +kernel))

end Restarts

end KubeOps.Execution
