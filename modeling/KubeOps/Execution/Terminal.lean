import KubeOps.Execution.DockerHost

/-! Completed and cancelled operations. Pausing, cancelling and resuming refuse
them and a reconciliation seen before changes nothing; the other calls do not
look at the status they start from. -/
namespace KubeOps.Execution

open KubeOps.Foundation KubeOps.Models KubeOps.Policy KubeOps.Actions
open OperationRuntime (Creation)

def Terminal (operation : OperationRun) : Prop :=
  operation.status = .completed ∨ operation.status = .cancelled

instance (operation : OperationRun) : Decidable (Terminal operation) := by
  unfold Terminal
  infer_instance

/-- Once the calls in `done` have ended in a terminal status, the calls in `rest`
keep that status and invoke no executor. -/
def Absorbing (runtime : OperationRuntime) (creation : Creation) (done rest : List Call) : Prop :=
  ∀ operation, latest (runtime.session creation done).log = some operation → Terminal operation →
    ∀ middle, middle <+: rest → ∀ segment,
      (runtime.session creation (done ++ middle)).log =
        (runtime.session creation done).log ++ segment →
      (∀ later, .saved later ∈ segment → later.status = operation.status) ∧
        ∀ run executorId action context attempt,
          .invoked run executorId action context attempt ∉ segment

def Call.Guards (runtime : OperationRuntime) (operation : OperationRun) : Call → Prop
  | .cancel _ | .pause _ | .resume .. => True
  | .reconcileExternalReceipts receipts currentActionIds =>
    AlreadyProjected runtime operation receipts currentActionIds
  | _ => False

section Rules

variable {runtime : OperationRuntime} {creation : Creation} {operation : OperationRun} {base : Log}
  {done rest : List Call} {call : Call}

theorem refused_rule {error : PyError} :
    Triple (fun log => log = base) (Program.raise error : Runtime OperationRun)
      (fun _ log => log = base) (fun _ log => log = base) :=
  Triple.raise fun _ h => h

theorem guarded_rule (hlatest : latest base = some operation) (hterminal : Terminal operation)
    (hguards : call.Guards runtime operation) :
    Triple (fun log => log = base) (call.perform runtime operation) (fun _ log => log = base)
      (fun _ log => log = base) := by
  cases call with
  | cancel reason =>
    simp only [Call.perform, OperationRuntime.cancel]
    exact Triple.ite (fun _ => refused_rule) fun hopen => absurd hterminal hopen
  | pause reason =>
    simp only [Call.perform, OperationRuntime.pause]
    refine Triple.ite (fun _ => refused_rule) fun hopen => absurd ?_ hopen
    rcases hterminal with hstatus | hstatus <;> simp [hstatus]
  | resume policy context conditions =>
    simp only [Call.perform, OperationRuntime.resume]
    refine Triple.bind (load_rule hlatest) fun loaded => ?_
    refine Triple.assuming (fun _ h => h.1) fun hloaded => ?_
    subst hloaded
    refine Triple.ite (fun _ => Triple.raise fun _ h => h.2) fun hopen => absurd ?_ hopen
    rcases hterminal with hstatus | hstatus <;> simp [hstatus, OperationRuntime.resumable]
  | reconcileExternalReceipts receipts currentActionIds =>
    simp only [Call.perform, OperationRuntime.reconcileExternalReceipts]
    rw [show operation.metadata.get? "external_projection_hash" = some _ from hguards]
    simp only [↓reduceIte]
    exact Triple.pure fun _ h => h
  | _ => exact hguards.elim

theorem step_guarded {trace : Trace Effect} (hlatest : latest trace.log = some operation)
    (hterminal : Terminal operation) (hguards : call.Guards runtime operation) :
    (runtime.step trace call).log = trace.log := by
  have hout := guarded_rule hlatest hterminal hguards trace rfl
  rw [OperationRuntime.step, hlatest]
  dsimp only
  revert hout
  rcases (call.perform runtime operation).exec trace with ⟨result, reached⟩
  cases result with
  | ok value => exact fun hout => hout
  | error error => exact fun hout => hout

theorem session_guarded (hlatest : latest (runtime.session creation done).log = some operation)
    (hterminal : Terminal operation) (hguards : ∀ call ∈ rest, call.Guards runtime operation) :
    (runtime.session creation (done ++ rest)).log = (runtime.session creation done).log := by
  induction rest using List.reverseRecOn with
  | nil => rw [List.append_nil]
  | append_singleton rest call ih =>
    have hsame := ih fun call hmem => hguards call (List.mem_append_left _ hmem)
    rw [← List.append_assoc, session_concat, ← hsame]
    refine step_guarded (hsame ▸ hlatest) hterminal (hguards call ?_)
    exact List.mem_append_right _ (List.mem_singleton_self _)

/-- A terminal status is final for the calls that check it. -/
theorem absorbing_of_guards
    (hguards : ∀ operation, latest (runtime.session creation done).log = some operation →
      Terminal operation → ∀ call ∈ rest, call.Guards runtime operation) :
    Absorbing runtime creation done rest := by
  intro operation hlatest hterminal middle hmiddle segment hlog
  have hsame := session_guarded hlatest hterminal fun call hmem =>
    hguards operation hlatest hterminal call (hmiddle.subset hmem)
  obtain rfl : segment = [] := List.self_eq_append_right.mp (hsame.symm.trans hlog)
  exact ⟨fun _ hmem => absurd hmem List.not_mem_nil, fun _ _ _ _ _ => List.not_mem_nil⟩

end Rules

section Examples

open DockerHost

theorem cancelled_absorbing : Absorbing runtime (creation [startContainer "db"])
    [.cancel "not needed"] [.resume policy context none, .pause "later", .cancel "again"] :=
  absorbing_of_guards fun _ _ _ call hmem => by
    simp only [List.mem_cons, List.not_mem_nil, or_false] at hmem
    rcases hmem with rfl | rfl | rfl <;> trivial

def Effect.isInvocation : Effect → Bool
  | .invoked .. => true
  | _ => false

/-- `run` starts a cancelled operation again. -/
theorem cancelled_not_absorbing : ¬ Absorbing runtime (creation [startContainer "db"])
    [.cancel "not needed"] [.run policy context none true] := by
  intro h
  have hcancelled : (latest (runtime.session (creation [startContainer "db"])
      [.cancel "not needed"]).log).any (fun operation => Terminal operation) = true := by
    decide
  obtain ⟨operation, hlatest, hterminal⟩ := (Option.any_eq_true _ _).mp hcancelled
  have hplan : (creation [startContainer "db"]).plan.Accepted runtime.python := by decide
  obtain ⟨segment, hlog, -⟩ := session_advances hplan [.cancel "not needed"]
    (.run policy context none true)
  have hinvoked : ((runtime.session (creation [startContainer "db"])
      [.cancel "not needed", .run policy context none true]).log.drop
        (runtime.session (creation [startContainer "db"]) [.cancel "not needed"]).log.length).any
      Effect.isInvocation = true := by decide +kernel
  rw [show (runtime.session (creation [startContainer "db"])
    [.cancel "not needed", .run policy context none true]).log = _ from hlog, List.drop_left,
    List.any_eq_true] at hinvoked
  obtain ⟨effect, hmem, heffect⟩ := hinvoked
  cases effect with
  | invoked run executorId action executionContext attempt =>
    exact (h operation hlatest (of_decide_eq_true hterminal) _ (List.prefix_rfl) segment hlog).2
      run executorId action executionContext attempt hmem
  | _ => cases heffect

end Examples

end KubeOps.Execution
