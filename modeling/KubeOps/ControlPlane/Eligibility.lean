import KubeOps.ControlPlane.Records
import KubeOps.ControlPlane.DockerFleet
import KubeOps.Distributed.Capacity
import Mathlib.Data.Set.Finite.Basic

/-! The polling agent and the dispatcher. An agent claims tasks from the rows, by
checks of its own; what it may claim is compared with what the dispatcher would
let it have, with the same tasks, leases and agent. -/
namespace KubeOps.ControlPlane

open KubeOps.Foundation KubeOps.Models KubeOps.Distributed KubeOps.Distributed.DistributedDispatcher

section Abstraction

def abstractTask (task : ExecutionTaskRecord) : ExecutionTask :=
  { task.payload.fields with
    taskId := task.taskId
    executorId := task.executorId
    status := task.status }

def abstractLease (python : Python) (lease : TaskLeaseRecord) : TaskLease where
  leaseId := lease.leaseId
  taskId := lease.taskId
  agentId := lease.agentId
  status := lease.status
  acquiredAtIso := python.isoFormat lease.acquiredAt
  expiresAt := lease.expiresAt
  heartbeatAtIso := python.isoFormat lease.heartbeatAt
  nonce := lease.nonceHash

def dispatcherOf (python : Python) (database : Database) (agent : ExecutorAgentDefinition) :
    DistributedDispatcher where
  agents := Dict.set ∅ agent.agentId agent
  tasks := database.tasks.stored.mapValues abstractTask
  leases := database.leases.stored.mapValues (abstractLease python)

variable {python : Python} {database : Database} {agent : ExecutorAgentDefinition} {now : Int}
  {task : ExecutionTaskRecord}

theorem get?_dispatcherOf (htask : database.tasks.get? task.taskId = some task) :
    (dispatcherOf python database agent).tasks.get? task.taskId = some (abstractTask task) := by
  rw [dispatcherOf, Dict.get?_mapValues]
  change (database.tasks.get? task.taskId).map abstractTask = _
  rw [htask, Option.map_some]

theorem activeCount_dispatcherOf_le (record : ExecutorAgentRecord) (now : Int) :
    (dispatcherOf python database agent).activeCount record.agentId now ≤ activeCount database record := by
  unfold DistributedDispatcher.activeCount activeCount dispatcherOf Table.rows
  dsimp only
  rw [Dict.values_mapValues, List.filter_map, List.length_map]
  apply List.Sublist.length_le
  apply List.monotone_filter_right
  intro lease hlease
  have hcounts := of_decide_eq_true hlease
  exact decide_eq_true ⟨hcounts.1, hcounts.2.1⟩

end Abstraction

section Dispatching

def Assignable (python : Python) (database : Database) (agent : ExecutorAgentDefinition) (now : Int)
    (task : ExecutionTaskRecord) : Prop :=
  ∃ generated lease, leaseOf ((dispatcherOf python database agent).dispatch python generated task.taskId
    now) = some lease ∧ lease.agentId = agent.agentId

variable {python : Python} {database : Database} {agent : ExecutorAgentDefinition} {now : Int}
  {task : ExecutionTaskRecord}

theorem availableCapacity_eq {dispatcher : DistributedDispatcher}
    (hcapacity : agent.metadata.get? "available_capacity" = none) :
    dispatcher.availableCapacity python agent now =
      .ok (max 0 (min agent.maxConcurrency
        (max 0 (agent.maxConcurrency - dispatcher.activeCount agent.agentId now)))) := by
  rw [availableCapacity, hcapacity]
  rfl

theorem candidates_dispatcherOf (model : ExecutionTask)
    (hcapacity : agent.metadata.get? "available_capacity" = none) :
    (dispatcherOf python database agent).candidates python model now = .ok
      (if compatible model agent = true ∧
          (dispatcherOf python database agent).activeCount agent.agentId now < agent.maxConcurrency
        then [agent] else []) := by
  have hvalues : (dispatcherOf python database agent).agents.values = [agent] := rfl
  let test (candidate : ExecutorAgentDefinition) : Except PyError Bool :=
    if compatible model candidate then do
      let capacity ← (dispatcherOf python database agent).availableCapacity python candidate now
      return decide (0 < capacity)
    else return false
  have htest : test agent = .ok (decide (compatible model agent = true ∧
      (dispatcherOf python database agent).activeCount agent.agentId now < agent.maxConcurrency)) := by
    simp only [test, availableCapacity_eq hcapacity]
    split
    · rename_i hcompatible
      refine congrArg Except.ok (decide_eq_decide.mpr ?_)
      simp only [hcompatible, true_and]
      omega
    · rename_i hcompatible
      simp [hcompatible, pure, Except.pure]
  unfold candidates
  rw [hvalues]
  change ([agent].filterM test >>= fun found => pure (found.insertionSort _)) = _
  rw [filterM_singleton htest]
  simp only [decide_eq_true_eq]
  split <;> rfl

theorem assignable_iff (htask : database.tasks.get? task.taskId = some task)
    (honline : agent.status = .online)
    (hcapacity : agent.metadata.get? "available_capacity" = none) :
    Assignable python database agent now task ↔
      task.status = .queued ∧ Due python (abstractTask task) now ∧ Serves agent (abstractTask task) ∧
        (dispatcherOf python database agent).activeCount agent.agentId now < agent.maxConcurrency := by
  have hserves : compatible (abstractTask task) agent = true ↔ Serves agent (abstractTask task) := by
    refine ⟨serves_of_compatible, fun hserves => decide_eq_true ⟨honline, ?_⟩⟩
    exact ⟨⟨hserves.workspace, hserves.organization⟩, hserves.environment, hserves.executor,
      hserves.capabilities⟩
  simp only [Assignable, leaseOf_dispatch (get?_dispatcherOf htask), candidates_dispatcherOf _ hcapacity]
  constructor
  · rintro ⟨generated, lease, ⟨hqueued, hdue, chosen, others, hcandidates, rfl⟩, -⟩
    have hfound := Except.ok.inj hcandidates
    split at hfound
    · rename_i hfit
      exact ⟨hqueued, hdue, hserves.mp hfit.1, hfit.2⟩
    · cases hfound
  · rintro ⟨hqueued, hdue, hfit⟩
    refine ⟨⟨"", "", ""⟩, _, ⟨hqueued, hdue, agent, [], ?_, rfl⟩, rfl⟩
    exact congrArg Except.ok (if_pos ⟨hserves.mpr hfit.1, hfit.2⟩)

end Dispatching

section Polling

variable (python : Python) (database : Database) (agent : ExecutorAgentRecord) (now : Int)

/-- `_process_one` goes on to look for a task. -/
def Admitted : Prop := activeCount database agent < agent.maxConcurrency

def Claimable (task : ExecutionTaskRecord) : Prop :=
  Admitted database agent ∧ ∃ locked random nonce reached assignment,
    claim database agent python locked now random nonce = .ok (some (reached, assignment)) ∧
      assignment.task.taskId = task.taskId

variable {python database agent now} {task : ExecutionTaskRecord}

theorem exists_fresh_lease (database : Database) (taskId : String) :
    ∃ random : String, database.leases.get? s!"lease:{taskId}:{random}" = none := by
  let leaseId (random : String) : String := s!"lease:{taskId}:{random}"
  have hinjective : Function.Injective leaseId := by
    intro left right h
    have hlist := congrArg String.toList h
    simp only [leaseId, String.toList_append] at hlist
    exact String.toList_injective (List.append_cancel_left hlist)
  obtain ⟨found, ⟨random, rfl⟩, hfresh⟩ :=
    (Set.infinite_range_of_injective hinjective).exists_notMem_finset database.leases.stored.keys.toFinset
  refine ⟨random, Dict.get?_eq_none.mpr fun hmem => hfresh (List.mem_toFinset.mpr hmem)⟩

theorem claimable_iff (htask : database.tasks.get? task.taskId = some task) :
    Claimable python database agent now task ↔
      Admitted database agent ∧ task.status = .queued ∧ matchesTask database agent task = true ∧
        ∃ timeoutSeconds, commandTimeoutSeconds python task = .ok timeoutSeconds := by
  unfold Claimable
  refine and_congr_right fun _ => ⟨?_, ?_⟩
  · rintro ⟨locked, random, nonce, reached, assignment, hclaim, hsame⟩
    obtain ⟨found, timeoutSeconds, hstored, hqueued, hmatches, htimeout, -, rfl, -⟩ := claim_eq_some hclaim
    change found.taskId = task.taskId at hsame
    rw [hsame, htask] at hstored
    cases hstored
    exact ⟨hqueued, hmatches, timeoutSeconds, htimeout⟩
  · rintro ⟨hqueued, hmatches, timeoutSeconds, htimeout⟩
    -- Every other row is locked.
    let locked := (database.tasks.rows.map ExecutionTaskRecord.taskId).filter (· ≠ task.taskId)
    obtain ⟨random, hfresh⟩ := exists_fresh_lease database task.taskId
    have hmem : task ∈ claimable database locked := mem_claimable.mpr ⟨htask, hqueued, by simp [locked]⟩
    have hfound : (claimable database locked).find? (matchesTask database agent) = some task := by
      cases hfind : (claimable database locked).find? (matchesTask database agent) with
      | none => exact absurd hmatches (List.find?_eq_none.mp hfind task hmem)
      | some other =>
        obtain ⟨hstored, -, hfree⟩ := mem_claimable.mp (List.mem_of_find?_eq_some hfind)
        have hsame : other.taskId = task.taskId := by
          by_contra hne
          apply hfree
          refine List.mem_filter.mpr ⟨List.mem_map_of_mem (Table.mem_rows_of_get? hstored), ?_⟩
          exact decide_eq_true hne
        rw [hsame, htask] at hstored
        exact hstored.symm
    let lease := leaseFor agent python task timeoutSeconds now random ""
    have hlease : database.leases.get? lease.leaseId = none := hfresh
    let claimed := runningTask agent python task now
    let written := { database with leases := database.leases.put lease }
    refine ⟨locked, random, "", written.saveAssignedTask claimed, ⟨claimed, lease, ""⟩, ?_, rfl⟩
    simp only [claim, hfound, htimeout, bind, Except.bind]
    rw [hlease]
    rfl

theorem matchesTask_iff : matchesTask database agent task = true ↔
    agent.environmentIds = [] ∧ task.executorId ∈ agent.supportedExecutorIds ∧
      (∀ capability ∈ task.payload.fields.requiredCapabilities, capability ∈ agent.capabilities) ∧
      ∀ actionId ∈ dependencies task, actionId ∈ completedActionIds database task.operationId := by
  have hnever : (agent.environmentIds.any fun text =>
      (Json.str text).pyEq (.int task.environmentId)) = false := by
    simp [Json.pyEq, Json.number?]
  simp only [matchesTask, hnever, decide_eq_true_eq, Bool.false_eq_true, or_false]
  constructor
  · rintro ⟨hexecutor, henvironment, hrest⟩
    exact ⟨henvironment, hexecutor, hrest⟩
  · rintro ⟨henvironment, hexecutor, hrest⟩
    exact ⟨hexecutor, henvironment, hrest⟩

end Polling

section Refinement

variable (python : Python) (database : Database) (options : AgentOptions) (now : Int)

structure Suitable (task : ExecutionTaskRecord) : Prop where
  queued : task.status = .queued
  executor : task.executorId ∈ options.executors
  capabilities : ∀ capability ∈ task.payload.fields.requiredCapabilities, capability ∈ options.capabilities
  dependencies : ∀ actionId ∈ dependencies task, actionId ∈ completedActionIds database task.operationId
  timeout : ∃ timeoutSeconds, commandTimeoutSeconds python task = .ok timeoutSeconds

/-- What it does not check: the tenant of the task, and whether the task is due. -/
structure Offered (task : ExecutionTaskRecord) : Prop where
  organization : task.payload.fields.organizationId = options.organizationId
  workspace : task.payload.fields.workspaceId = options.workspaceId
  due : Due python (abstractTask task) now

def registered (nowIso : String) : ExecutorAgentRecord := (options.row nowIso now).record

/-- Every task the agent can claim is one the dispatcher could let it have, and an
agent with room that names its environments can claim the tasks it could be let. -/
structure Refines (nowIso : String) : Prop where
  assignable : ∀ task ∈ database.tasks.rows,
    Claimable python database (registered options now nowIso) now task →
      Assignable python database (options.definition nowIso) now task
  claimable : options.environments ≠ [] → Admitted database (registered options now nowIso) →
    ∀ task ∈ database.tasks.rows, Assignable python database (options.definition nowIso) now task →
      Suitable python database options task →
        Claimable python database (registered options now nowIso) now task

/-- Suitable tasks are offered to an agent without environments, and none is offered
to an agent in one of its environments. -/
def Aligned (nowIso : String) : Prop :=
  Admitted database (registered options now nowIso) →
    ∀ task ∈ database.tasks.rows, Suitable python database options task →
      if options.environments = [] then Offered python options now task
      else Offered python options now task → task.payload.fields.environmentId ∉ options.environments

variable {python database options now} {task : ExecutionTaskRecord} {nowIso : String}

theorem claimable_registered (htask : task ∈ database.tasks.rows) :
    Claimable python database (registered options now nowIso) now task ↔
      Admitted database (registered options now nowIso) ∧ options.environments = [] ∧
        Suitable python database options task := by
  rw [claimable_iff (Table.mem_rows.mp htask), matchesTask_iff]
  simp only [registered, AgentOptions.row, AgentRow.ofDefinition, AgentRow.record,
    AgentOptions.definition, mem_sortedSet, sortedSet_eq_nil]
  refine and_congr_right fun _ => ⟨?_, ?_⟩
  · rintro ⟨hqueued, ⟨henvironments, hexecutor, hcapabilities, hdependencies⟩, htimeout⟩
    exact ⟨henvironments, hqueued, hexecutor, hcapabilities, hdependencies, htimeout⟩
  · rintro ⟨henvironments, hsuitable⟩
    exact ⟨hsuitable.queued, ⟨henvironments, hsuitable.executor, hsuitable.capabilities,
      hsuitable.dependencies⟩, hsuitable.timeout⟩

theorem assignable_of_suitable (htask : task ∈ database.tasks.rows)
    (hadmitted : Admitted database (registered options now nowIso))
    (hsuitable : Suitable python database options task) :
    Assignable python database (options.definition nowIso) now task ↔
      Offered python options now task ∧
        (options.environments = [] ∨ task.payload.fields.environmentId ∈ options.environments) := by
  rw [assignable_iff (Table.mem_rows.mp htask) rfl rfl]
  constructor
  · rintro ⟨-, hdue, hserves, -⟩
    exact ⟨⟨hserves.organization, hserves.workspace, hdue⟩, hserves.environment⟩
  · rintro ⟨hoffered, henvironment⟩
    refine ⟨hsuitable.queued, hoffered.due, ?_, ?_⟩
    · exact ⟨hoffered.organization, hoffered.workspace, hsuitable.executor, henvironment,
        hsuitable.capabilities⟩
    · exact lt_of_le_of_lt (activeCount_dispatcherOf_le (registered options now nowIso) now) hadmitted

/-- The polling agent refines the dispatcher exactly when the two are aligned. -/
theorem refines_iff_aligned (python : Python) (database : Database) (options : AgentOptions) (now : Int)
    (nowIso : String) :
    Refines python database options now nowIso ↔ Aligned python database options now nowIso := by
  constructor
  · intro hrefines hadmitted task htask hsuitable
    have hassignable := assignable_of_suitable htask hadmitted hsuitable
    split
    · rename_i hnone
      have hclaimable := (claimable_registered htask).mpr ⟨hadmitted, hnone, hsuitable⟩
      exact (hassignable.mp (hrefines.assignable task htask hclaimable)).1
    · rename_i hsome
      intro hoffered henvironment
      have hlet := hassignable.mpr ⟨hoffered, .inr henvironment⟩
      have hclaimable := hrefines.claimable hsome hadmitted task htask hlet hsuitable
      exact hsome ((claimable_registered htask).mp hclaimable).2.1
  · intro haligned
    constructor
    · intro task htask hclaimable
      obtain ⟨hadmitted, hnone, hsuitable⟩ := (claimable_registered htask).mp hclaimable
      have hoffered := haligned hadmitted task htask hsuitable
      rw [if_pos hnone] at hoffered
      exact (assignable_of_suitable htask hadmitted hsuitable).mpr ⟨hoffered, .inl hnone⟩
    · intro hsome hadmitted task htask hassignable hsuitable
      have hnotOffered := haligned hadmitted task htask hsuitable
      rw [if_neg hsome] at hnotOffered
      obtain ⟨hoffered, hnone | henvironment⟩ :=
        (assignable_of_suitable htask hadmitted hsuitable).mp hassignable
      · exact absurd hnone hsome
      · exact absurd henvironment (hnotOffered hoffered)

end Refinement

section Samples

open DockerFleet

def foreign : AgentOptions where
  agentId := "executor-1"
  organizationId := "default"
  workspaceId := "other"
  executors := ["simulation"]

def dedicated : AgentOptions where
  agentId := "executor-1"
  organizationId := "default"
  workspaceId := "default"
  executors := ["simulation"]
  environments := ["local"]

theorem task_mem_rows : task ["db"] "db" ∈ (plane ["db"]).database.tasks.rows := Table.mem_rows.mpr rfl

theorem foreign_suitable : Suitable python (plane ["db"]).database foreign (task ["db"] "db") where
  queued := rfl
  executor := by decide
  capabilities := by decide
  dependencies := by decide
  timeout := ⟨120, rfl⟩

theorem dedicated_suitable : Suitable python (plane ["db"]).database dedicated (task ["db"] "db") where
  queued := rfl
  executor := by decide
  capabilities := by decide
  dependencies := by decide
  timeout := ⟨120, rfl⟩

/-- The agent of another workspace claims the task, and the agent of the task's own
environment never does. -/
theorem foreign_and_dedicated_unrefined :
    ¬ Refines python (plane ["db"]).database foreign midnight midnightIso ∧
      ¬ Refines python (plane ["db"]).database dedicated midnight midnightIso := by
  constructor
  · intro hrefines
    have hadmitted : Admitted (plane ["db"]).database (registered foreign midnight midnightIso) :=
      Nat.one_pos
    have hclaimable := (claimable_registered task_mem_rows).mpr ⟨hadmitted, rfl, foreign_suitable⟩
    have hassignable := hrefines.assignable _ task_mem_rows hclaimable
    have hoffered := ((assignable_of_suitable task_mem_rows hadmitted foreign_suitable).mp hassignable).1
    exact absurd hoffered.workspace (by decide)
  · intro hrefines
    have hadmitted : Admitted (plane ["db"]).database (registered dedicated midnight midnightIso) :=
      Nat.one_pos
    have hdue : Due python (abstractTask (task ["db"] "db")) midnight :=
      ⟨⟨none, rfl, by simp⟩, ⟨none, rfl, by simp⟩⟩
    have hassignable := (assignable_of_suitable task_mem_rows hadmitted dedicated_suitable).mpr
      ⟨⟨rfl, rfl, hdue⟩, .inr (by decide)⟩
    have hclaimable := hrefines.claimable (by decide) hadmitted _ task_mem_rows hassignable
      dedicated_suitable
    exact absurd ((claimable_registered task_mem_rows).mp hclaimable).2.1 (by decide)

end Samples

end KubeOps.ControlPlane
