import KubeOps.Distributed.Changes

/-! Lease fencing. Only the holder of a live lease can renew or complete it; a
call that fails sweeps leases that are over, and nothing else. -/
namespace KubeOps.Distributed

open KubeOps.Foundation KubeOps.Models

namespace DistributedDispatcher

variable {python : Python} {now : Int} {dispatcher reached : DistributedDispatcher}
  {leaseId : String} {lease : TaskLease}

section Sweeps

/-- What a sweep leaves alone: live leases, and tasks that have ended. -/
structure Spares (now : Int) (dispatcher reached : DistributedDispatcher) : Prop where
  agents : reached.agents = dispatcher.agents
  finished : ∀ taskId task, reached.tasks.get? taskId = some task →
    task.status = .completed ∨ task.status = .failed → dispatcher.tasks.get? taskId = some task
  unexpired : ∀ leaseId lease, dispatcher.leases.get? leaseId = some lease → now < lease.expiresAt →
    reached.leases.get? leaseId = some lease

theorem Expires.spares (h : Expires python now dispatcher reached) : Spares now dispatcher reached := by
  cases h with
  | @mk expiredId expired task hlease hactive hdue htask =>
    constructor
    · rfl
    · intro taskId found hfound hended
      simp only [Dict.get?_set] at hfound
      split at hfound
      · cases hfound
        rcases hended with hcompleted | hfailed
        · simp only [requeued] at hcompleted
          split at hcompleted <;> cases hcompleted
        · simp only [requeued] at hfailed
          split at hfailed <;> cases hfailed
      · exact hfound
    · intro leaseId lease hfound hlive
      simp only [Dict.get?_set]
      split
      · rename_i heq
        rw [heq, hlease] at hfound
        cases hfound
        omega
      · exact hfound

theorem Sweeps.spares (h : Sweeps python now dispatcher reached) : Spares now dispatcher reached := by
  induction h with
  | refl => exact ⟨rfl, fun _ _ hfound _ => hfound, fun _ _ hfound _ => hfound⟩
  | tail _ hlast ih =>
    have hspares := hlast.spares
    constructor
    · rw [hspares.agents, ih.agents]
    · intro taskId task htask hended
      exact ih.finished taskId task (hspares.finished taskId task htask hended) hended
    · intro leaseId lease hlease hlive
      exact hspares.unexpired leaseId lease (ih.unexpired leaseId lease hlease hlive) hlive

end Sweeps

section Fencing

structure Fenced (dispatcher : DistributedDispatcher) (leaseId : String) (lease : TaskLease)
    (nonce : String) (now : Int) (succeeded : Bool) (reached : DistributedDispatcher) : Prop where
  succeeds : succeeded = true ↔
    lease.status = .active ∧ lease.nonce = nonce ∧ now < lease.expiresAt
  agents : reached.agents = dispatcher.agents
  otherLeases : succeeded = true → ∀ other, other ≠ leaseId →
    reached.leases.get? other = dispatcher.leases.get? other
  otherTasks : succeeded = true → ∀ taskId, taskId ≠ lease.taskId →
    reached.tasks.get? taskId = dispatcher.tasks.get? taskId
  failure : succeeded = false → Spares now dispatcher reached

theorem Fenced.refused {nonce : String} (hrefused : ¬ Presented lease nonce now)
    (hspares : Spares now dispatcher reached) : Fenced dispatcher leaseId lease nonce now false reached where
  succeeds := ⟨fun h => (Bool.false_ne_true h).elim, fun h => (hrefused h).elim⟩
  agents := hspares.agents
  otherLeases h := (Bool.false_ne_true h).elim
  otherTasks h := (Bool.false_ne_true h).elim
  failure _ := hspares

variable (python)

theorem renew_fenced (h : Sound dispatcher) (hlease : dispatcher.leases.get? leaseId = some lease)
    (nonce : String) (now : Int) :
    Fenced dispatcher leaseId lease nonce now (dispatcher.renew python leaseId nonce now).1.isOk
      (dispatcher.renew python leaseId nonce now).2 := by
  rcases renew_presented python h hlease nonce now with
    ⟨hpresented, agent, renewed, -, -, hrenew⟩ | ⟨error, reached, hrefused, hrenew, hsweeps, -⟩
  · rw [hrenew]
    constructor
    · exact ⟨fun _ => hpresented, fun _ => rfl⟩
    · rfl
    · exact fun _ other hne => Dict.get?_set_ne _ _ hne
    · exact fun _ _ _ => rfl
    · intro hfailed
      cases hfailed
  · rw [hrenew]
    exact .refused hrefused hsweeps.spares

theorem complete_fenced (h : Sound dispatcher) (hlease : dispatcher.leases.get? leaseId = some lease)
    (nonce : String) (success : Bool) (now : Int) :
    Fenced dispatcher leaseId lease nonce now
      (dispatcher.complete python leaseId nonce success now).1.isOk
      (dispatcher.complete python leaseId nonce success now).2 := by
  rcases complete_presented python h hlease nonce success now with
    ⟨hpresented, task, finished, htask, -, hcomplete⟩ | ⟨error, reached, hrefused, hcomplete, hsweeps, -⟩
  · rw [hcomplete]
    constructor
    · exact ⟨fun _ => hpresented, fun _ => rfl⟩
    · rfl
    · exact fun _ other hne => Dict.get?_set_ne _ _ hne
    · intro _ taskId hne
      rw [← h.tasks _ _ htask] at hne
      exact Dict.get?_set_ne _ _ hne
    · intro hfailed
      cases hfailed
  · rw [hcomplete]
    exact .refused hrefused hsweeps.spares

theorem inactive_idle (h : Sound dispatcher) (hlease : dispatcher.leases.get? leaseId = some lease)
    (hinactive : lease.status ≠ .active) (nonce : String) (now : Int) :
    (dispatcher.renew python leaseId nonce now).2 = dispatcher ∧
      ∀ success, (dispatcher.complete python leaseId nonce success now).2 = dispatcher := by
  constructor
  · rcases renew_presented python h hlease nonce now with
      ⟨hpresented, -⟩ | ⟨error, reached, -, hrenew, -, hsame⟩
    · exact absurd hpresented.1 hinactive
    · rw [hrenew]
      exact hsame hinactive
  · intro success
    rcases complete_presented python h hlease nonce success now with
      ⟨hpresented, -⟩ | ⟨error, reached, -, hcomplete, -, hsame⟩
    · exact absurd hpresented.1 hinactive
    · rw [hcomplete]
      exact hsame hinactive

end Fencing

section Succession

variable {leases : List TaskLease} {item : Option TaskLease}

theorem Evolves.inactive (hevolves : Evolves python dispatcher item reached)
    (hlease : dispatcher.leases.get? leaseId = some lease) (hinactive : lease.status ≠ .active)
    (hother : ∀ granted ∈ item, granted.leaseId ≠ leaseId) :
    reached.leases.get? leaseId = some lease := by
  have hset {changed : String} {old new : TaskLease} (hold : dispatcher.leases.get? changed = some old)
      (hactive : old.status = .active) : (dispatcher.leases.set changed new).get? leaseId = some lease := by
    rw [Dict.get?_set_ne, hlease]
    intro heq
    rw [heq, hold] at hlease
    cases hlease
    exact hinactive hactive
  cases hevolves with
  | stored agent => exact hlease
  | changed hchange =>
    cases hchange with
    | enqueued hnew => exact hlease
    | lapsed htask hqueued => exact hlease
    | granted generated htask hqueued hagent hcompatible hcapacity =>
      have hne := hother _ rfl
      exact (Dict.get?_set_ne _ _ (Ne.symm hne)).trans hlease
    | expired hexpires =>
      cases hexpires with
      | mk hold hactive hdue htask => exact hset hold hactive
    | renewed ttlSeconds hold hactive hlive => exact hset hold hactive
    | completed success hold hactive htask => exact hset hold hactive

theorem inactive_run (hrun : Emits (Evolves python) dispatcher leases reached)
    (hlease : dispatcher.leases.get? leaseId = some lease) (hinactive : lease.status ≠ .active)
    (hother : ∀ granted ∈ leases, granted.leaseId ≠ leaseId) :
    reached.leases.get? leaseId = some lease := by
  induction hrun with
  | refl => exact hlease
  | tail _ hstep ih =>
    rw [List.forall_mem_append] at hother
    refine hstep.inactive (ih hother.1) hinactive fun granted hgranted => ?_
    exact hother.2 granted (Option.mem_toList.mpr hgranted)

theorem inactive_of_granted (h : Sound dispatcher) {call : Call} {successor : TaskLease}
    (hsuccessor : granted python dispatcher call = some successor)
    (hlease : dispatcher.leases.get? leaseId = some lease) (hsame : lease.taskId = successor.taskId) :
    lease.status ≠ .active := by
  intro hactive
  obtain ⟨task, htask, hleased⟩ := h.leased leaseId lease hlease hactive
  obtain ⟨now, hchange⟩ := change_of_granted hsuccessor
  generalize perform python dispatcher call = reached at hchange
  cases hchange with
  | granted generated hstored hqueued hagent hcompatible hcapacity =>
    rw [hsame] at htask
    exact not_leased_of_queued hstored hqueued task htask hleased

theorem superseded_idle (before later : List Call) {call : Call} {successor : TaskLease}
    (hsuccessor : granted python (after python before) call = some successor)
    (hlease : (after python before).leases.get? leaseId = some lease)
    (hsame : lease.taskId = successor.taskId)
    (hother : ∀ granted ∈ grants python (after python before) (call :: later), granted.leaseId ≠ leaseId)
    (nonce : String) (now : Int) :
    ((after python (before ++ call :: later)).renew python leaseId nonce now).2 =
        after python (before ++ call :: later) ∧
      ∀ success, ((after python (before ++ call :: later)).complete python leaseId nonce success now).2 =
        after python (before ++ call :: later) := by
  have hsound := sound_after python before
  have hinactive := inactive_of_granted hsound hsuccessor hlease hsame
  have hrun := emits_grants python hsound (call :: later)
  have hafter : after python (before ++ call :: later) =
      (call :: later).foldl (perform python) (after python before) := by
    simp [after]
  rw [hafter]
  exact inactive_idle python (hsound.run hrun) (inactive_run hrun hlease hinactive hother) hinactive
    nonce now

end Succession

section Runs

/-- In every state calls lead to, presenting a lease is fenced. Presenting one whose
task another active lease names, or whose task has been let since under another id,
leaves the dispatcher as it is. -/
theorem presenting_fenced (python : Python) (calls : List Call) (leaseId : String) (nonce : String)
    (now : Int) :
    (∀ lease, (after python calls).leases.get? leaseId = some lease →
      Fenced (after python calls) leaseId lease nonce now
          ((after python calls).renew python leaseId nonce now).1.isOk
          ((after python calls).renew python leaseId nonce now).2 ∧
        ∀ success, Fenced (after python calls) leaseId lease nonce now
          ((after python calls).complete python leaseId nonce success now).1.isOk
          ((after python calls).complete python leaseId nonce success now).2) ∧
    (∀ lease other successor, (after python calls).leases.get? leaseId = some lease →
      (after python calls).leases.get? other = some successor → successor.status = .active →
      lease.taskId = successor.taskId → leaseId ≠ other →
      ((after python calls).renew python leaseId nonce now).2 = after python calls ∧
        ∀ success, ((after python calls).complete python leaseId nonce success now).2 =
          after python calls) ∧
    ∀ before call later, calls = before ++ call :: later →
      ∀ lease successor, (after python before).leases.get? leaseId = some lease →
        granted python (after python before) call = some successor →
        lease.taskId = successor.taskId →
        (∀ granted ∈ grants python (after python before) (call :: later),
          granted.leaseId ≠ leaseId) →
        ((after python calls).renew python leaseId nonce now).2 = after python calls ∧
          ∀ success, ((after python calls).complete python leaseId nonce success now).2 =
            after python calls := by
  have hsound := sound_after python calls
  refine ⟨fun lease hlease => ?_, fun lease other successor hlease hsuccessor hactive hsame hne => ?_, ?_⟩
  · exact ⟨renew_fenced python hsound hlease nonce now,
      fun success => complete_fenced python hsound hlease nonce success now⟩
  · refine inactive_idle python hsound hlease (fun hlive => hne ?_) nonce now
    exact hsound.alone leaseId other lease successor hlease hsuccessor hlive hactive hsame
  · rintro before call later rfl lease successor hlease hsuccessor hsame hother
    exact superseded_idle before later hsuccessor hlease hsame hother nonce now

end Runs

end DistributedDispatcher

end KubeOps.Distributed
