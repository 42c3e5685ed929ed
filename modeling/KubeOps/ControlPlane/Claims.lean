import KubeOps.ControlPlane.Requests
import KubeOps.Distributed.Capacity

/-! Which claims are granted. A claim decides with a dispatcher made for it, of one agent
and one task, that knows of no lease. -/
namespace KubeOps.ControlPlane

open KubeOps.Foundation KubeOps.Models KubeOps.Distributed
open KubeOps.Distributed.DistributedDispatcher (Generated Due availableCapacity compatible newLease assigned
  leaseOf)

section Leasing

variable {python : Python} {agent : ExecutorAgentDefinition} {task : ExecutionTask} {now : Int}
  {dispatcher : DistributedDispatcher}

structure Leasable (python : Python) (agent : ExecutorAgentDefinition) (task : ExecutionTask) (now : Int) :
    Prop where
  queued : task.status = .queued
  due : Due python task now
  compatible : compatible task agent = true
  capacity : ∃ capacity, DistributedDispatcher.empty.availableCapacity python agent now = .ok capacity ∧
    0 < capacity

def claimDispatcher (agent : ExecutorAgentDefinition) (task : ExecutionTask) : DistributedDispatcher where
  agents := Dict.set ∅ agent.agentId agent
  tasks := Dict.set ∅ task.taskId task
  leases := ∅

theorem availableCapacity_claimDispatcher :
    (claimDispatcher agent task).availableCapacity python agent now =
      DistributedDispatcher.empty.availableCapacity python agent now := rfl

theorem candidates_claimDispatcher (hleasable : Leasable python agent task now) :
    (claimDispatcher agent task).candidates python task now = .ok [agent] := by
  obtain ⟨capacity, hcapacity, hpos⟩ := hleasable.capacity
  let test (candidate : ExecutorAgentDefinition) : Except PyError Bool :=
    if compatible task candidate then do
      let capacity ← (claimDispatcher agent task).availableCapacity python candidate now
      return decide (0 < capacity)
    else return false
  have htest : test agent = .ok true := by
    simp only [test]
    rw [if_pos hleasable.compatible, availableCapacity_claimDispatcher, hcapacity]
    exact congrArg Except.ok (decide_eq_true hpos)
  have hvalues : (claimDispatcher agent task).agents.values = [agent] := rfl
  unfold DistributedDispatcher.candidates
  rw [hvalues]
  change ([agent].filterM test >>= fun found => pure (found.insertionSort _)) = _
  rw [filterM_singleton htest]
  rfl

theorem leasable_of_candidates {chosen : ExecutorAgentDefinition} {others : List ExecutorAgentDefinition}
    (hqueued : task.status = .queued) (hdue : Due python task now)
    (h : (claimDispatcher agent task).candidates python task now = .ok (chosen :: others)) :
    chosen = agent ∧ Leasable python agent task now := by
  obtain ⟨kept, hkept, hsorted⟩ := except_bind_eq_ok h
  have hmem : chosen ∈ chosen :: others := List.mem_cons_self
  rw [← Except.ok.inj hsorted, List.mem_insertionSort] at hmem
  obtain ⟨hagent, htest⟩ := mem_of_filterM hkept hmem
  have hvalues : (claimDispatcher agent task).agents.values = [agent] := rfl
  rw [hvalues, List.mem_singleton] at hagent
  subst hagent
  split at htest
  · rename_i hcompatible
    obtain ⟨capacity, hcapacity, hpos⟩ := except_bind_eq_ok htest
    exact ⟨rfl, hqueued, hdue, hcompatible, capacity, hcapacity, of_decide_eq_true (Except.ok.inj hpos)⟩
  · cases htest

theorem dispatch_candidate (generated : Generated) {taskId : String} {others : List ExecutorAgentDefinition}
    (htask : dispatcher.tasks.get? taskId = some task) (hqueued : task.status = .queued)
    (hdue : Due python task now) (hfound : dispatcher.candidates python task now = .ok (agent :: others)) :
    ∃ decision, dispatcher.dispatch python generated taskId now =
      (.ok (decision, some (newLease python generated taskId agent now)),
        { dispatcher with
          leases := dispatcher.leases.set generated.leaseId (newLease python generated taskId agent now)
          tasks := dispatcher.tasks.set taskId (assigned task agent.agentId (python.isoFormat now)) }) := by
  obtain ⟨notBefore, hbefore, hcome⟩ := hdue.notBefore
  obtain ⟨deadline, hdeadline, hleft⟩ := hdue.deadline
  have hearly : ¬ notBefore.any (now < ·) = true := by simpa [Option.any_eq_true] using hcome
  have hlate : ¬ deadline.any (· ≤ now) = true := by simpa [Option.any_eq_true] using hleft
  unfold DistributedDispatcher.dispatch
  simp only [htask, hqueued, ne_eq, not_true, if_false, hbefore, hdeadline, if_neg hearly, if_neg hlate,
    hfound]
  exact ⟨_, rfl⟩

end Leasing

section Decisions

variable {python : Python} {agent : AgentRow} {task : ExecutionTaskRecord} {now : Int}
  {generated : Generated}

structure Decided (python : Python) (agent : AgentRow) (task : ExecutionTaskRecord) (now : Int) : Prop where
  agentValid : agent.payload.extra.keys = []
  taskValid : task.payload.extra.keys = []
  named : task.payload.fields.taskId = task.taskId
  leasable : Leasable python agent.payload.fields task.payload.fields now

theorem decideClaim_eq (hagent : agent.payload.extra.keys = []) (htask : task.payload.extra.keys = []) :
    decideClaim python agent task generated now =
      match (claimDispatcher agent.payload.fields task.payload.fields).dispatch python generated
        task.taskId now with
      | (.error error, _) => throw error
      | (.ok (decision, none), _) => return (decision, none)
      | (.ok (decision, some lease), dispatcher) =>
        match dispatcher.tasks.get? task.taskId with
        | some leased => return (decision, some (lease, leased))
        | none => throw (DistributedDispatcher.keyError python task.taskId) := by
  unfold decideClaim AgentPayload.modelValidate TaskPayload.modelValidate
  rw [if_pos hagent, if_pos htask]
  rfl

theorem decideClaim_decided (generated : Generated) (h : Decided python agent task now) : ∃ decision,
    decideClaim python agent task generated now = .ok (decision, some
      (newLease python generated task.taskId agent.payload.fields now,
        assigned task.payload.fields agent.payload.fields.agentId (python.isoFormat now))) := by
  have hstored : (claimDispatcher agent.payload.fields task.payload.fields).tasks.get? task.taskId =
      some task.payload.fields := by
    rw [← h.named]
    exact Dict.get?_set_self ..
  obtain ⟨decision, hdispatch⟩ := dispatch_candidate generated hstored h.leasable.queued h.leasable.due
    (candidates_claimDispatcher h.leasable)
  refine ⟨decision, ?_⟩
  rw [decideClaim_eq h.agentValid h.taskValid, hdispatch]
  simp only [Dict.get?_set_self]
  rfl

theorem decided_of_decideClaim {decision : DispatchDecision} {lease : TaskLease} {leased : ExecutionTask}
    (h : decideClaim python agent task generated now = .ok (decision, some (lease, leased))) :
    Decided python agent task now ∧
      lease = newLease python generated task.taskId agent.payload.fields now := by
  have hvalid : agent.payload.extra.keys = [] ∧ task.payload.extra.keys = [] := by
    unfold decideClaim at h
    obtain ⟨definition, hagent, h⟩ := except_bind_eq_ok h
    obtain ⟨model, htask, -⟩ := except_bind_eq_ok h
    exact ⟨agent.payload.validates_iff.mp ⟨_, hagent⟩, task.payload.validates_iff.mp ⟨_, htask⟩⟩
  rw [decideClaim_eq hvalid.1 hvalid.2] at h
  split at h
  · cases h
  · cases h
  · rename_i found dispatcher houtcome
    have hgranted : leaseOf ((claimDispatcher agent.payload.fields task.payload.fields).dispatch python
        generated task.taskId now) = some found := by
      rw [houtcome]
      rfl
    have hnamed : task.taskId = task.payload.fields.taskId := by
      by_contra hne
      have hnone : (claimDispatcher agent.payload.fields task.payload.fields).tasks.get? task.taskId =
          none := Dict.get?_set_ne _ _ hne
      unfold DistributedDispatcher.dispatch at houtcome
      simp only [hnone] at houtcome
      cases houtcome
    have hstored : (claimDispatcher agent.payload.fields task.payload.fields).tasks.get? task.taskId =
        some task.payload.fields := by
      rw [hnamed]
      exact Dict.get?_set_self ..
    obtain ⟨hqueued, hdue, chosen, others, hfound, hlease⟩ :=
      (DistributedDispatcher.leaseOf_dispatch hstored generated).mp hgranted
    obtain ⟨rfl, hleasable⟩ := leasable_of_candidates hqueued hdue hfound
    refine ⟨⟨hvalid.1, hvalid.2, hnamed.symm, hleasable⟩, ?_⟩
    rw [← hlease]
    split at h
    · cases h
      rfl
    · cases h

end Decisions

section Claims

variable {python : Python} {database reached : Database} {agents : AgentTable} {request : ClaimRequest}
  {generated : Generated} {now : Int} {agent : AgentRow} {task : ExecutionTaskRecord}

variable (python database agents request generated now) in
structure Grantable (agent : AgentRow) (task : ExecutionTaskRecord) : Prop where
  given : request.agentId python ≠ ""
  stored : database.tasks.get? request.taskId = some task
  organization : task.payload.fields.organizationId = request.organizationId
  workspace : task.payload.fields.workspaceId = request.workspaceId
  free : activeLeases database request.taskId = []
  registered : agents.get? (request.agentId python) = some agent
  sameOrganization : agent.organizationId = task.payload.fields.organizationId
  sameWorkspace : agent.workspaceId = task.payload.fields.workspaceId
  decided : Decided python agent task now
  dated : ∃ instant, python.parseIso (python.isoFormat now) = .ok instant
  fresh : database.leases.get? generated.leaseId = none

structure Granted (agent : AgentRow) (task : ExecutionTaskRecord) (now : Int)
    (database reached : Database) (row : TaskLeaseRecord) : Prop where
  claimed : ∃ leased updatedAt, leased.status = .leased ∧
    Claimed database task row (leasedTask task agent.agentId leased updatedAt) reached
  agentId : row.agentId = agent.agentId
  expiresAt : row.expiresAt = now + agent.payload.fields.leaseTtlSeconds * 1000000

namespace Granted

variable {row : TaskLeaseRecord} (h : Granted agent task now database reached row)
include h

theorem active : row.status = .active := by
  obtain ⟨leased, updatedAt, -, hclaimed⟩ := h.claimed
  exact hclaimed.active

theorem leases : reached.leases = database.leases.put row := by
  obtain ⟨leased, updatedAt, -, hclaimed⟩ := h.claimed
  exact hclaimed.leases

theorem fresh : database.leases.get? row.leaseId = none := by
  obtain ⟨leased, updatedAt, -, hclaimed⟩ := h.claimed
  exact hclaimed.fresh

end Granted

theorem writeClaim_granted (agent : AgentRow) {leased : ExecutionTask}
    (hstored : database.tasks.get? task.taskId = some task)
    (hdated : ∃ instant, python.parseIso (python.isoFormat now) = .ok instant)
    (hfresh : database.leases.get? generated.leaseId = none) (hleased : leased.status = .leased)
    (hupdated : leased.updatedAtIso = python.isoFormat now) :
    ∃ reached row, writeClaim python database task agent.agentId
        (newLease python generated task.taskId agent.payload.fields now) leased = .ok reached ∧
      Granted agent task now database reached row := by
  obtain ⟨instant, hinstant⟩ := hdated
  let row := leaseRecord python task.taskId agent.agentId
    (newLease python generated task.taskId agent.payload.fields now) instant instant
  let saved := database.saveAssignedTask (leasedTask task agent.agentId leased instant)
  refine ⟨{ saved with leases := saved.leases.put row }, row, ?_, ?_, rfl, rfl⟩
  · have hnew : (database.saveAssignedTask (leasedTask task agent.agentId leased instant)).leases.get?
        generated.leaseId = none := hfresh
    unfold writeClaim
    rw [hupdated, newLease, hinstant]
    simp only [bind, Except.bind, leaseRecord, hnew]
    rfl
  · exact ⟨leased, instant, hleased, hstored, hfresh, rfl, rfl, rfl, rfl, rfl⟩

theorem writeClaim_ok {lease : TaskLease} {leased : ExecutionTask} {agentId : String}
    (h : writeClaim python database task agentId lease leased = .ok reached) :
    (∃ instant, python.parseIso lease.acquiredAtIso = .ok instant) ∧
      database.leases.get? lease.leaseId = none := by
  unfold writeClaim at h
  obtain ⟨updatedAt, -, h⟩ := except_bind_eq_ok h
  obtain ⟨acquiredAt, hacquired, h⟩ := except_bind_eq_ok h
  obtain ⟨heartbeatAt, -, h⟩ := except_bind_eq_ok h
  dsimp only at h
  split at h
  · cases h
  · rename_i hfresh
    exact ⟨⟨acquiredAt, hacquired⟩, hfresh⟩

theorem Grantable.task_stored (h : Grantable python database agents request generated now agent task) :
    database.tasks.get? task.taskId = some task := by
  rw [Table.key_of_get? h.stored]
  exact h.stored

theorem post_of_grantable (h : Grantable python database agents request generated now agent task) :
    ∃ row, Granted agent task now database
      (request.post python database agents generated now).2 row := by
  obtain ⟨decision, hdecided⟩ := decideClaim_decided generated h.decided
  let leased := assigned task.payload.fields agent.payload.fields.agentId (python.isoFormat now)
  have hleased : leased.status = .leased := rfl
  obtain ⟨reached, row, hwritten, hgranted⟩ :=
    writeClaim_granted agent h.task_stored h.dated h.fresh hleased rfl
  refine ⟨row, ?_⟩
  have hagent : (agents.get? (request.agentId python)).filter (fun agent =>
      agent.organizationId = task.payload.fields.organizationId ∧
        agent.workspaceId = task.payload.fields.workspaceId) = some agent := by
    rw [h.registered, Option.filter_some, if_pos]
    exact decide_eq_true ⟨h.sameOrganization, h.sameWorkspace⟩
  have hscope : ¬ (task.payload.fields.organizationId ≠ request.organizationId ∨
      task.payload.fields.workspaceId ≠ request.workspaceId) := by
    simp [h.organization, h.workspace]
  unfold ClaimRequest.post
  dsimp only
  rw [if_neg h.given, h.stored]
  dsimp only
  rw [if_neg hscope, if_neg (not_not.mpr h.free), hagent]
  dsimp only
  rw [hdecided]
  dsimp only
  rw [hwritten]
  exact hgranted

theorem post_eq_or_grantable (python : Python) (database : Database) (agents : AgentTable)
    (request : ClaimRequest) (generated : Generated) (now : Int) :
    (request.post python database agents generated now).2 = database ∨
      ∃ agent task, Grantable python database agents request generated now agent task := by
  unfold ClaimRequest.post
  dsimp only
  split
  · exact .inl rfl
  · rename_i hgiven
    split
    · exact .inl rfl
    · rename_i task hstored
      split
      · exact .inl rfl
      · rename_i hscope
        split
        · exact .inl rfl
        · rename_i hfree
          split
          · exact .inl rfl
          · rename_i agent hagent
            split
            · exact .inl rfl
            · exact .inl rfl
            · rename_i hdecision
              split
              · exact .inl rfl
              · rename_i hwritten
                right
                obtain ⟨hregistered, htenant⟩ := Option.filter_eq_some_iff.mp hagent
                obtain ⟨horganization, hworkspace⟩ := of_decide_eq_true htenant
                obtain ⟨hdecided, rfl⟩ := decided_of_decideClaim hdecision
                obtain ⟨hdated, hfresh⟩ := writeClaim_ok hwritten
                obtain ⟨hsame, hsameWorkspace⟩ := not_or.mp hscope
                exact ⟨agent, task, hgiven, hstored, not_ne_iff.mp hsame, not_ne_iff.mp hsameWorkspace,
                  not_ne_iff.mp hfree, hregistered, horganization, hworkspace, hdecided, hdated, hfresh⟩

theorem ClaimRequest.post_cases (request : ClaimRequest) (generated : Generated) (now : Int) :
    (request.post python database agents generated now).2 = database ∨
      ∃ task agentId leased row updatedAt, activeLeases database task.taskId = [] ∧
        leased.status = .leased ∧
        Claimed database task row (leasedTask task agentId leased updatedAt)
          (request.post python database agents generated now).2 := by
  rcases post_eq_or_grantable python database agents request generated now with
    hsame | ⟨agent, task, hgrantable⟩
  · exact .inl hsame
  · obtain ⟨row, hgranted⟩ := post_of_grantable hgrantable
    obtain ⟨leased, updatedAt, hleased, hclaimed⟩ := hgranted.claimed
    have hfree : activeLeases database task.taskId = [] := by
      rw [Table.key_of_get? hgrantable.stored]
      exact hgrantable.free
    exact .inr ⟨task, agent.agentId, leased, row, updatedAt, hfree, hleased, hclaimed⟩

end Claims

end KubeOps.ControlPlane
