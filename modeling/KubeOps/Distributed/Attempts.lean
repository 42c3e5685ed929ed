import KubeOps.Distributed.LeaseFencing

/-! The attempts of a task: every lease uses one up, and none is left for a
task that is settled. What is completed is completed once. -/
namespace KubeOps.Distributed

open KubeOps.Foundation KubeOps.Models

namespace DistributedDispatcher

variable {python : Python} {now : Int} {dispatcher reached : DistributedDispatcher}
  {taskId : String} {task later : ExecutionTask} {item : Option TaskLease}

section Task

inductive Advances (taskId : String) (task : ExecutionTask) : Option TaskLease → ExecutionTask → Prop where
  | kept {item : Option TaskLease} (hothers : ∀ lease ∈ item, lease.taskId ≠ taskId) :
    Advances taskId task item task
  | lapsed (hqueued : task.status = .queued) (updatedAtIso : String) :
    Advances taskId task none (marked task .expired updatedAtIso)
  | granted (hqueued : task.status = .queued) {lease : TaskLease} (hlease : lease.taskId = taskId)
      (agentId updatedAtIso : String) :
    Advances taskId task (some lease) (assigned task agentId updatedAtIso)
  | requeued (hleased : task.status = .leased) (updatedAtIso : String) :
    Advances taskId task none (requeued task updatedAtIso)
  | finished (hleased : task.status = .leased) (success : Bool) (updatedAtIso : String) :
    Advances taskId task none (marked task (if success then .completed else .failed) updatedAtIso)

theorem advances_of_ended (h : Sound dispatcher) (htask : dispatcher.tasks.get? taskId = some task)
    {leaseId : String} {lease : TaskLease} {stored : ExecutionTask} (ended : ExecutionTask → ExecutionTask)
    (hlease : dispatcher.leases.get? leaseId = some lease) (hactive : lease.status = .active)
    (hstored : dispatcher.tasks.get? lease.taskId = some stored)
    (hended : task.status = .leased → Advances taskId task none (ended task)) :
    ∃ later, (dispatcher.tasks.set stored.taskId (ended stored)).get? taskId = some later ∧
      Advances taskId task none later := by
  have hkey := h.tasks _ _ hstored
  rw [Dict.get?_set]
  split
  · rename_i heq
    rw [heq, hkey, hstored] at htask
    cases htask
    obtain ⟨leased, hleased, hstatus⟩ := h.leased leaseId lease hlease hactive
    rw [hstored] at hleased
    cases hleased
    exact ⟨_, rfl, hended hstatus⟩
  · exact ⟨task, htask, .kept (by simp)⟩

theorem Change.advances (h : Sound dispatcher) (hchange : Change python now dispatcher item reached)
    (htask : dispatcher.tasks.get? taskId = some task) :
    ∃ later, reached.tasks.get? taskId = some later ∧ Advances taskId task item later := by
  cases hchange with
  | enqueued hnew =>
    simp only [Dict.get?_set]
    split
    · rename_i heq
      rw [← heq, htask] at hnew
      cases hnew
    · exact ⟨task, htask, .kept (by simp)⟩
  | lapsed hstored hqueued =>
    simp only [Dict.get?_set]
    split
    · rename_i heq
      rw [← heq, htask] at hstored
      cases hstored
      exact ⟨_, rfl, .lapsed hqueued _⟩
    · exact ⟨task, htask, .kept (by simp)⟩
  | granted generated hstored hqueued hagent hcompatible hcapacity =>
    simp only [Dict.get?_set]
    split
    · rename_i heq
      rw [← heq, htask] at hstored
      cases hstored
      exact ⟨_, rfl, .granted hqueued heq.symm _ _⟩
    · rename_i hne
      refine ⟨task, htask, .kept fun lease hlease => ?_⟩
      cases hlease
      exact Ne.symm hne
  | expired hexpires =>
    cases hexpires with
    | mk hlease hactive hdue hstored =>
      exact advances_of_ended h htask (requeued · (python.isoFormat now)) hlease hactive hstored
        fun hleased => .requeued hleased _
  | renewed ttlSeconds hlease hactive hlive => exact ⟨task, htask, .kept (by simp)⟩
  | completed success hlease hactive hstored =>
    let status : TaskStatus := if success then .completed else .failed
    exact advances_of_ended h htask (marked · status (python.isoFormat now)) hlease hactive hstored
      fun hleased => .finished hleased success _

theorem Evolves.advances (h : Sound dispatcher) (hevolves : Evolves python dispatcher item reached)
    (htask : dispatcher.tasks.get? taskId = some task) :
    ∃ later, reached.tasks.get? taskId = some later ∧ Advances taskId task item later := by
  cases hevolves with
  | stored agent => exact ⟨task, htask, .kept (by simp)⟩
  | changed hchange => exact hchange.advances h htask

end Task

section Bound

def attemptsUsed (task : ExecutionTask) : Nat := task.attempt + if task.status = .queued then 0 else 1

def Names (taskId : String) (lease : TaskLease) : Bool := lease.taskId = taskId

theorem attemptsUsed_le (task : ExecutionTask) : attemptsUsed task ≤ task.maxAttempts + 1 := by
  have hle := task.attempt_le
  unfold attemptsUsed
  split <;> omega

theorem Advances.maxAttempts (h : Advances taskId task item later) :
    later.maxAttempts = task.maxAttempts := by
  cases h <;> rfl

theorem Advances.attemptsUsed_le (h : Advances taskId task item later) :
    attemptsUsed task + item.toList.countP (Names taskId) ≤ attemptsUsed later := by
  cases h with
  | kept hothers =>
    have hnone : item.toList.countP (Names taskId) = 0 := by
      rw [List.countP_eq_zero]
      intro lease hlease
      simp [Names, hothers lease (Option.mem_toList.mp hlease)]
    omega
  | lapsed hqueued updatedAtIso => simp [attemptsUsed, marked, hqueued]
  | granted hqueued hlease agentId updatedAtIso =>
    simp [attemptsUsed, assigned, hqueued, Names, hlease]
  | requeued hleased updatedAtIso =>
    have hle := task.attempt_le
    by_cases hleft : task.attempt < task.maxAttempts
    · have hmin : min task.maxAttempts (task.attempt + 1) = task.attempt + 1 := by omega
      simp [attemptsUsed, DistributedDispatcher.requeued, hleased, hleft, hmin]
    · have hmin : min task.maxAttempts (task.attempt + 1) = task.attempt := by omega
      simp [attemptsUsed, DistributedDispatcher.requeued, hleased, hleft, hmin]
  | finished hleased success updatedAtIso =>
    cases success <;> simp [attemptsUsed, marked, hleased]

def Settled (task : ExecutionTask) : Prop :=
  task.status = .completed ∨ task.status = .failed ∨ task.status = .expired

theorem Advances.of_settled (h : Advances taskId task item later) (hsettled : Settled task) :
    later = task ∧ ∀ lease ∈ item, lease.taskId ≠ taskId := by
  cases h with
  | kept hothers => exact ⟨rfl, hothers⟩
  | lapsed hqueued updatedAtIso => simp [Settled, hqueued] at hsettled
  | granted hqueued hlease agentId updatedAtIso => simp [Settled, hqueued] at hsettled
  | requeued hleased updatedAtIso => simp [Settled, hleased] at hsettled
  | finished hleased success updatedAtIso => simp [Settled, hleased] at hsettled

variable {leases : List TaskLease}

theorem countP_names_le (h : Sound dispatcher) (htask : dispatcher.tasks.get? taskId = some task)
    (hrun : Emits (Evolves python) dispatcher leases reached) :
    (∃ later, reached.tasks.get? taskId = some later ∧ later.maxAttempts = task.maxAttempts) ∧
      attemptsUsed task + leases.countP (Names taskId) ≤ task.maxAttempts + 1 := by
  let inv (state : DistributedDispatcher) : Prop :=
    Sound state ∧ ∃ later, state.tasks.get? taskId = some later ∧ later.maxAttempts = task.maxAttempts
  let used (state : DistributedDispatcher) : Nat := ((state.tasks.get? taskId).map attemptsUsed).getD 0
  have hkeeps {before after item} (hinv : inv before) (hstep : Evolves python before item after) :
      inv after := by
    obtain ⟨hsound, stored, hstored, hmax⟩ := hinv
    refine ⟨hsound.evolves hstep, ?_⟩
    obtain ⟨later, hlater, hadvances⟩ := hstep.advances hsound hstored
    exact ⟨later, hlater, hadvances.maxAttempts.trans hmax⟩
  have hgrows {before after item} (hinv : inv before) (hstep : Evolves python before item after) :
      used before + item.toList.countP (Names taskId) ≤ used after := by
    obtain ⟨hsound, stored, hstored, -⟩ := hinv
    obtain ⟨later, hlater, hadvances⟩ := hstep.advances hsound hstored
    simpa [used, hstored, hlater] using hadvances.attemptsUsed_le
  have hstart : inv dispatcher := ⟨h, task, htask, rfl⟩
  obtain ⟨-, later, hlater, hmax⟩ := hrun.invariant hkeeps hstart
  refine ⟨⟨later, hlater, hmax⟩, ?_⟩
  have hcount := hrun.count_le hkeeps hgrows hstart
  have hbound := attemptsUsed_le later
  simp only [used, htask, hlater, Option.map_some, Option.getD_some] at hcount
  omega

theorem forall_ne_of_settled (h : Sound dispatcher)
    (htask : dispatcher.tasks.get? taskId = some task) (hsettled : Settled task)
    (hrun : Emits (Evolves python) dispatcher leases reached) :
    ∀ lease ∈ leases, lease.taskId ≠ taskId := by
  let inv (state : DistributedDispatcher) : Prop :=
    Sound state ∧ state.tasks.get? taskId = some task
  have hkeeps {before after item} (hinv : inv before) (hstep : Evolves python before item after) :
      inv after := by
    obtain ⟨hsound, hstored⟩ := hinv
    refine ⟨hsound.evolves hstep, ?_⟩
    obtain ⟨later, hlater, hadvances⟩ := hstep.advances hsound hstored
    rw [hlater, (hadvances.of_settled hsettled).1]
  have hgives {before after lease} (hinv : inv before)
      (hstep : Evolves python before (some lease) after) : lease.taskId ≠ taskId := by
    obtain ⟨hsound, hstored⟩ := hinv
    obtain ⟨later, hlater, hadvances⟩ := hstep.advances hsound hstored
    exact (hadvances.of_settled hsettled).2 lease rfl
  exact hrun.forall_mem hkeeps hgives ⟨h, htask⟩

theorem stored_of_mem_leases (h : Sound dispatcher)
    (hrun : Emits (Evolves python) dispatcher leases reached) :
    ∀ lease ∈ leases, ∃ task, reached.tasks.get? lease.taskId = some task := by
  induction hrun with
  | refl => simp
  | @tail leases before after item hrun hstep ih =>
    intro lease hlease
    rcases List.mem_append.mp hlease with hpast | hnew
    · obtain ⟨task, htask⟩ := ih lease hpast
      obtain ⟨later, hlater, -⟩ := hstep.advances (h.run hrun) htask
      exact ⟨later, hlater⟩
    · rw [Option.mem_toList] at hnew
      cases hnew
      cases hstep with
      | changed hchange =>
        cases hchange with
        | granted generated hstored hqueued hagent hcompatible hcapacity =>
          exact ⟨_, Dict.get?_set_self _ _ _⟩

end Bound

section Runs

/-- However the dispatcher is called, the leases granted for a task enqueued as
queued are bounded by its attempts, and there are none once it is settled. -/
theorem attempts_bounded (python : Python) (before later : List Call) {task : ExecutionTask}
    (hqueued : task.status = .queued)
    (hnew : (after python before).tasks.get? task.taskId = none) :
    (grants python .empty (before ++ .enqueue task :: later)).countP (Names task.taskId) ≤
        task.maxAttempts - task.attempt + 1 ∧
      ∃ stored, (after python (before ++ .enqueue task :: later)).tasks.get? task.taskId = some stored ∧
        stored.maxAttempts = task.maxAttempts ∧ stored.attempt ≤ stored.maxAttempts ∧
        (Settled stored → ∀ further, ∀ lease ∈
          grants python (after python (before ++ .enqueue task :: later)) further,
            lease.taskId ≠ task.taskId) := by
  have hbefore := sound_after python before
  have hunseen : (grants python .empty before).countP (Names task.taskId) = 0 := by
    rw [List.countP_eq_zero]
    intro lease hlease hnames
    obtain ⟨found, hfound⟩ := stored_of_mem_leases .empty (emits_grants python .empty before) lease hlease
    rw [of_decide_eq_true hnames] at hfound
    exact absurd (hfound.symm.trans hnew) (by simp)
  let enqueued := perform python (after python before) (.enqueue task)
  have hsound : Sound enqueued := hbefore.perform python _
  have hstored : enqueued.tasks.get? task.taskId = some task := by
    simp [enqueued, perform, enqueue, hnew]
  have hgrants : grants python .empty (before ++ .enqueue task :: later) =
      grants python .empty before ++ grants python enqueued later := by
    rw [grants_append]
    rfl
  have hafter : after python (before ++ .enqueue task :: later) =
      later.foldl (perform python) enqueued := by
    simp [after, enqueued]
  have hrun := emits_grants python hsound later
  obtain ⟨⟨found, hfound, hmax⟩, hcount⟩ := countP_names_le hsound hstored hrun
  have hle := task.attempt_le
  simp only [attemptsUsed, hqueued, if_true] at hcount
  rw [hgrants, List.countP_append, hunseen, hafter]
  refine ⟨by omega, found, hfound, hmax, found.attempt_le, fun hsettled further => ?_⟩
  have hreached := hsound.run hrun
  exact forall_ne_of_settled hreached hfound hsettled (emits_grants python hreached further)

/-- The first lease runs out, and the second one is completed. -/
def retried : List Call :=
  [.dispatch ⟨"1", "1", "1"⟩ "task:1" 0, .expire 60000000, .dispatch ⟨"2", "2", "2"⟩ "task:1" 60000000,
    .complete "lease:2" "2" true 60000001]

theorem retried_bounded :
    (grants .plain .empty ([.registerAgent executor] ++ .enqueue restart :: retried)).countP
        (Names "task:1") = 2 ∧ 2 ≤ restart.maxAttempts - restart.attempt + 1 ∧
      ∀ further, ∀ lease ∈ grants .plain (after .plain ([.registerAgent executor] ++
        .enqueue restart :: retried)) further, lease.taskId ≠ "task:1" := by
  have hnew : (after .plain [.registerAgent executor]).tasks.get? restart.taskId = none := by decide
  have htwo : (grants .plain .empty ([.registerAgent executor] ++ .enqueue restart :: retried)).countP
      (Names "task:1") = 2 := by decide
  have hcompleted : ((after .plain ([.registerAgent executor] ++ .enqueue restart :: retried)).tasks.get?
      "task:1").map ExecutionTask.status = some .completed := by decide
  obtain ⟨hbound, stored, hstored, -, -, hlast⟩ :=
    attempts_bounded .plain [.registerAgent executor] retried rfl hnew
  refine ⟨htwo, htwo ▸ hbound, hlast (.inl ?_)⟩
  change (after .plain _).tasks.get? "task:1" = some stored at hstored
  rw [hstored] at hcompleted
  exact Option.some.inj hcompleted

end Runs

section Completions

def Ended (task : ExecutionTask) : Prop := task.status = .completed ∨ task.status = .failed

theorem Ended.settled (h : Ended task) : Settled task := h.imp_right .inl

variable (python dispatcher) in
def finished : Call → Option ExecutionTask
  | .complete leaseId nonce success now => (dispatcher.complete python leaseId nonce success now).1.toOption
  | _ => none

/-- The tasks that calls of `complete` answer with, one after the other. -/
def completions (python : Python) : DistributedDispatcher → List Call → List ExecutionTask
  | _, [] => []
  | dispatcher, call :: calls =>
    (finished python dispatcher call).toList ++ completions python (perform python dispatcher call) calls

theorem completions_concat (calls : List Call) (call : Call) :
    completions python dispatcher (calls ++ [call]) = completions python dispatcher calls ++
      (finished python (calls.foldl (perform python) dispatcher) call).toList := by
  induction calls generalizing dispatcher with
  | nil => exact List.append_nil _
  | cons first calls ih => rw [List.cons_append, completions, ih, completions, List.foldl_cons, List.append_assoc]

variable {call : Call}

theorem finished_spec (h : Sound dispatcher) (hfinished : finished python dispatcher call = some task) :
    (∃ before, dispatcher.tasks.get? task.taskId = some before ∧ before.status = .leased) ∧ Ended task ∧
      (perform python dispatcher call).tasks = dispatcher.tasks.set task.taskId task := by
  cases call with
  | complete leaseId nonce success now =>
    change (dispatcher.complete python leaseId nonce success now).1.toOption = _ at hfinished
    change _ ∧ _ ∧ (dispatcher.complete python leaseId nonce success now).2.tasks = _
    cases hlease : dispatcher.leases.get? leaseId with
    | none =>
      rw [complete, activeLease_none hlease] at hfinished
      cases hfinished
    | some lease =>
      rcases complete_presented python h hlease nonce success now with
        ⟨hpresented, before, answer, hbefore, hanswer, hcomplete⟩ | ⟨error, reached, -, hcomplete, -, -⟩
      · rw [hcomplete] at hfinished ⊢
        obtain rfl : answer = task := Option.some.inj hfinished
        obtain ⟨stored, hstored, hleased⟩ := h.leased leaseId lease hlease hpresented.1
        obtain rfl : stored = before := Option.some.inj (hstored.symm.trans hbefore)
        rw [← h.tasks _ _ hbefore] at hbefore
        rw [hanswer]
        refine ⟨⟨stored, hbefore, hleased⟩, ?_, rfl⟩
        cases success with
        | true => exact .inl rfl
        | false => exact .inr rfl
      · rw [hcomplete] at hfinished
        cases hfinished
  | _ => cases hfinished

theorem settled_perform (h : Sound dispatcher) (call : Call) (hsettled : Settled task)
    (hstored : dispatcher.tasks.get? taskId = some task) :
    (perform python dispatcher call).tasks.get? taskId = some task := by
  have hkeeps {before after item} (hinv : Sound before ∧ before.tasks.get? taskId = some task)
      (hstep : Evolves python before item after) : Sound after ∧ after.tasks.get? taskId = some task := by
    obtain ⟨later, hlater, hadvances⟩ := hstep.advances hinv.1 hinv.2
    rw [(hadvances.of_settled hsettled).1] at hlater
    exact ⟨hinv.1.evolves hstep, hlater⟩
  exact ((perform_evolves python h call).invariant hkeeps ⟨h, hstored⟩).2

variable (python dispatcher now) in
theorem dispatch_tasks (generated : Generated) (dispatchedId : String) :
    (dispatcher.dispatch python generated dispatchedId now).2.tasks = dispatcher.tasks ∨
      ∃ changed : ExecutionTask, (changed.status = .expired ∨ changed.status = .leased) ∧
        (dispatcher.dispatch python generated dispatchedId now).2.tasks =
          dispatcher.tasks.set dispatchedId changed := by
  unfold dispatch
  dsimp only
  repeat' split
  all_goals first
    | exact .inl rfl
    | exact .inr ⟨_, .inl rfl, rfl⟩
    | exact .inr ⟨_, .inr rfl, rfl⟩

theorem Sweeps.ended (h : Sweeps python now dispatcher reached) (hended : Ended task)
    (hstored : reached.tasks.get? taskId = some task) : dispatcher.tasks.get? taskId = some task :=
  h.spares.finished taskId task hstored hended

/-- Only `complete` makes a task end, unless it was enqueued like that. -/
theorem ended_perform (h : Sound dispatcher) (call : Call) (hended : Ended task)
    (hstored : (perform python dispatcher call).tasks.get? taskId = some task) :
    dispatcher.tasks.get? taskId = some task ∨ finished python dispatcher call = some task ∨
      call = .enqueue task := by
  cases call with
  | registerAgent agent =>
    left
    rcases registerAgent_cases python dispatcher agent with hsame | hsame
    · rwa [perform, hsame] at hstored
    · rwa [perform, hsame] at hstored
  | heartbeat beat =>
    left
    rcases heartbeat_cases python dispatcher beat with hsame | ⟨agent, updated, -, hsame, -⟩
    · rwa [perform, hsame] at hstored
    · rwa [perform, hsame] at hstored
  | enqueue queued =>
    change (dispatcher.enqueue python queued).2.tasks.get? taskId = _ at hstored
    unfold enqueue at hstored
    split at hstored
    · split at hstored
      · exact .inl hstored
      · exact .inl hstored
    · rw [Dict.get?_set] at hstored
      split at hstored
      · exact .inr (.inr (congrArg Call.enqueue (Option.some.inj hstored)))
      · exact .inl hstored
  | dispatch generated dispatchedId now =>
    left
    change (dispatcher.dispatch python generated dispatchedId now).2.tasks.get? taskId = _ at hstored
    rcases dispatch_tasks python now dispatcher generated dispatchedId with hsame | ⟨changed, hstatus, hsame⟩
    · rwa [hsame] at hstored
    · rw [hsame, Dict.get?_set] at hstored
      split at hstored
      · obtain rfl := Option.some.inj hstored
        rcases hstatus with hstatus | hstatus
        · simp [Ended, hstatus] at hended
        · simp [Ended, hstatus] at hended
      · exact hstored
  | renew leaseId nonce now =>
    left
    change (dispatcher.renew python leaseId nonce now).2.tasks.get? taskId = _ at hstored
    cases hlease : dispatcher.leases.get? leaseId with
    | none => rwa [renew, activeLease_none hlease] at hstored
    | some lease =>
      rcases renew_presented python h hlease nonce now with
        ⟨-, agent, renewed, -, -, hrenew⟩ | ⟨error, reached, -, hrenew, hsweeps, -⟩
      · rwa [hrenew] at hstored
      · rw [hrenew] at hstored
        exact hsweeps.ended hended hstored
  | complete leaseId nonce success now =>
    change (dispatcher.complete python leaseId nonce success now).2.tasks.get? taskId = _ at hstored
    cases hlease : dispatcher.leases.get? leaseId with
    | none =>
      left
      rwa [complete, activeLease_none hlease] at hstored
    | some lease =>
      rcases complete_presented python h hlease nonce success now with
        ⟨-, before, answer, -, -, hcomplete⟩ | ⟨error, reached, -, hcomplete, hsweeps, -⟩
      · rw [hcomplete, Dict.get?_set] at hstored
        split at hstored
        · obtain rfl := Option.some.inj hstored
          right
          left
          change (dispatcher.complete python leaseId nonce success now).1.toOption = _
          rw [hcomplete]
          rfl
        · exact .inl hstored
      · rw [hcomplete] at hstored
        exact .inl (hsweeps.ended hended hstored)
  | expire now =>
    obtain ⟨ids, reached, hexpire, hsweeps⟩ := expire_sweeps python h now
    rw [perform, hexpire] at hstored
    exact .inl (hsweeps.ended hended hstored)

/-- However the dispatcher is called, no task is completed twice, and one that is stays as `complete`
answered it. A stored task that has ended is one of these or was enqueued like that. -/
theorem completed_once (python : Python) (calls : List Call) :
    ((completions python .empty calls).map ExecutionTask.taskId).Nodup ∧
      (∀ task ∈ completions python .empty calls,
        Ended task ∧ (after python calls).tasks.get? task.taskId = some task) ∧
      ∀ taskId task, (after python calls).tasks.get? taskId = some task → Ended task →
        task ∈ completions python .empty calls ∨ .enqueue task ∈ calls := by
  induction calls using List.reverseRecOn with
  | nil => exact ⟨List.nodup_nil, by simp [completions], fun taskId task hstored => by cases hstored⟩
  | append_singleton calls call ih =>
    obtain ⟨hnodup, hkept, hfrom⟩ := ih
    have hsound := sound_after python calls
    rw [completions_concat, after_concat]
    change (List.map _ (_ ++ (finished python (after python calls) call).toList)).Nodup ∧
      (∀ task ∈ _ ++ (finished python (after python calls) call).toList, _) ∧
      ∀ taskId task, _ → _ → task ∈ _ ++ (finished python (after python calls) call).toList ∨ _
    refine ⟨?_, ?_, ?_⟩
    · rw [List.map_append, List.nodup_append]
      refine ⟨hnodup, ?_, ?_⟩
      · cases finished python (after python calls) call with
        | none => exact List.nodup_nil
        | some task => exact List.nodup_singleton _
      · intro taskId hpast other hnew heq
        obtain ⟨task, hmem, rfl⟩ := List.mem_map.mp hpast
        obtain ⟨answer, hanswer, rfl⟩ := List.mem_map.mp hnew
        obtain ⟨⟨before, hbefore, hleased⟩, -⟩ := finished_spec hsound (Option.mem_toList.mp hanswer)
        obtain ⟨hended, hstored⟩ := hkept task hmem
        rw [heq, hbefore] at hstored
        obtain rfl := Option.some.inj hstored
        simp [Ended, hleased] at hended
    · intro task hmem
      rcases List.mem_append.mp hmem with hpast | hnew
      · obtain ⟨hended, hstored⟩ := hkept task hpast
        exact ⟨hended, settled_perform hsound call hended.settled hstored⟩
      · obtain ⟨-, hended, htasks⟩ := finished_spec hsound (Option.mem_toList.mp hnew)
        rw [htasks]
        exact ⟨hended, Dict.get?_set_self _ _ _⟩
    · intro taskId task hstored hended
      rcases ended_perform hsound call hended hstored with hold | hnew | rfl
      · exact (hfrom taskId task hold hended).imp (List.mem_append_left _) (List.mem_append_left _)
      · exact .inl (List.mem_append_right _ (Option.mem_toList.mpr hnew))
      · exact .inr (List.mem_append_right _ List.mem_cons_self)

end Completions

end DistributedDispatcher

end KubeOps.Distributed
