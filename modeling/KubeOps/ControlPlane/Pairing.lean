import KubeOps.ControlPlane.Deployment
import KubeOps.Foundation.Leasing

/-! No task is orphaned: as long as leases end together with the work on their
tasks, a task in hand has exactly one active lease, and a sweep takes it back once
that lease is over. -/
namespace KubeOps.ControlPlane

open KubeOps.Foundation KubeOps.Models KubeOps.Execution

section Leasing

def InHand (status : TaskStatus) : Prop := status = .leased ∨ status = .running

instance (status : TaskStatus) : Decidable (InHand status) :=
  inferInstanceAs (Decidable (status = .leased ∨ status = .running))

/-- The rows as a leasing: active leases hold tasks, and tasks are in hand or not. -/
def Database.leasing (database : Database) : Leasing String String Unit where
  holds leaseId := (database.leases.get? leaseId).bind fun lease =>
    if lease.status = .active then some (lease.taskId, ()) else none
  tenant taskId := (database.tasks.get? taskId).bind fun task =>
    if InHand task.status then some () else none

variable {database reached : Database} {leaseId taskId : String}

theorem leasing_holds {item : String × Unit} : database.leasing.holds leaseId = some item ↔
    ∃ lease, database.leases.get? leaseId = some lease ∧ lease.status = .active ∧ lease.taskId = item.1 := by
  simp only [Database.leasing, Option.bind_eq_some_iff, Option.ite_none_right_eq_some, Option.some.injEq,
    Prod.ext_iff, and_true]

theorem leasing_tenant : database.leasing.tenant taskId = some () ↔
    ∃ task, database.tasks.get? taskId = some task ∧ InHand task.status := by
  simp only [Database.leasing, Option.bind_eq_some_iff, Option.ite_none_right_eq_some, and_true]

theorem tenant_eq_none : database.leasing.tenant taskId = none ↔
    ∀ task, database.tasks.get? taskId = some task → ¬ InHand task.status := by
  rw [Option.eq_none_iff_forall_ne_some]
  constructor
  · intro h task htask hhand
    exact h () (leasing_tenant.mpr ⟨task, htask, hhand⟩)
  · rintro h ⟨⟩ hsome
    obtain ⟨task, htask, hhand⟩ := leasing_tenant.mp hsome
    exact h task htask hhand

theorem holds_eq_none : database.leasing.holds leaseId = none ↔
    ∀ lease, database.leases.get? leaseId = some lease → lease.status ≠ .active := by
  rw [Option.eq_none_iff_forall_ne_some]
  constructor
  · intro h lease hlease hactive
    exact h (lease.taskId, ()) (leasing_holds.mpr ⟨lease, hlease, hactive, rfl⟩)
  · intro h item hsome
    obtain ⟨lease, hlease, hactive, -⟩ := leasing_holds.mp hsome
    exact h lease hlease hactive

theorem tenant_of_activeLeases (h : database.leasing.Exclusive) (hnone : activeLeases database taskId = []) :
    database.leasing.tenant taskId = none := by
  rw [Option.eq_none_iff_forall_ne_some]
  rintro ⟨⟩ htenant
  obtain ⟨task, htask, -⟩ := leasing_tenant.mp htenant
  obtain ⟨leaseId, hholds⟩ := h.held htenant
  obtain ⟨lease, hlease, hactive, hnamed⟩ := leasing_holds.mp hholds
  have hmem : (lease, task) ∈ activeLeases database taskId := by
    apply mem_activeLeases.mpr
    refine ⟨⟨?_, hnamed, hactive⟩, ?_⟩
    · rw [Table.key_of_get? hlease, hlease]
    · rw [hnamed, htask]
  rw [hnone] at hmem
  cases hmem

/-- The lease is not active any more, and the other leases are as they were. -/
structure LeaseEnds (database : Database) (leaseId : String) (reached : Database) : Prop where
  ended : ∀ lease, reached.leases.get? leaseId = some lease → lease.status ≠ .active
  others : ∀ other, other ≠ leaseId → reached.leases.get? other = database.leases.get? other

structure TaskEnds (database : Database) (taskId : String) (reached : Database) : Prop where
  ended : ∀ task, reached.tasks.get? taskId = some task → ¬ InHand task.status
  others : ∀ other, other ≠ taskId → reached.tasks.get? other = database.tasks.get? other

theorem LeaseEnds.holds (h : LeaseEnds database leaseId reached) :
    reached.leasing.holds = Function.update database.leasing.holds leaseId none := by
  funext other
  by_cases heq : other = leaseId
  · subst heq
    rw [Function.update_self]
    exact holds_eq_none.mpr h.ended
  · rw [Function.update_of_ne heq]
    simp only [Database.leasing, h.others other heq]

theorem TaskEnds.tenant (h : TaskEnds database taskId reached) :
    reached.leasing.tenant = Function.update database.leasing.tenant taskId none := by
  funext other
  by_cases heq : other = taskId
  · subst heq
    rw [Function.update_self]
    exact tenant_eq_none.mpr h.ended
  · rw [Function.update_of_ne heq]
    simp only [Database.leasing, h.others other heq]

theorem leasing_released (hlease : LeaseEnds database leaseId reached)
    (htask : TaskEnds database taskId reached) :
    reached.leasing = database.leasing.release leaseId taskId := by
  rw [Leasing.release, ← hlease.holds, ← htask.tenant]

theorem leasing_kept (hleases : reached.leases = database.leases)
    (htask : TaskEnds database taskId reached) (hvacant : database.leasing.tenant taskId = none) :
    reached.leasing = database.leasing := by
  have htenant : reached.leasing.tenant = database.leasing.tenant := by
    rw [htask.tenant, Function.update_eq_self_iff, hvacant]
  have hholds : reached.leasing.holds = database.leasing.holds := by
    simp only [Database.leasing, hleases]
  exact congrArg₂ Leasing.mk hholds htenant

theorem leasing_congr (htasks : reached.tasks = database.tasks) (hleases : reached.leases = database.leases) :
    reached.leasing = database.leasing := by
  simp only [Database.leasing, htasks, hleases]

theorem leasing_claimed {task leased : ExecutionTaskRecord} {lease : TaskLeaseRecord}
    (h : Claimed database task lease leased reached) (hhand : InHand leased.status) :
    reached.leasing = database.leasing.acquire lease.leaseId task.taskId () := by
  have hholds : reached.leasing.holds =
      Function.update database.leasing.holds lease.leaseId (some (task.taskId, ())) := by
    funext other
    by_cases heq : other = lease.leaseId
    · subst heq
      simp [Database.leasing, h.leases, Table.get?_put, h.active, h.named]
    · simp [Database.leasing, h.leases, Table.get?_put, heq]
  have htenant : reached.leasing.tenant =
      Function.update database.leasing.tenant task.taskId (some ()) := by
    funext other
    by_cases heq : other = task.taskId
    · subst heq
      simp [Database.leasing, h.tasks, get?_saveAssignedTask, h.same, h.stored, hhand]
    · simp [Database.leasing, h.tasks, get?_saveAssignedTask, h.same, heq]
  rw [Leasing.acquire, ← hholds, ← htenant]

end Leasing

section Pairing

/-- Tasks and leases are paired, and the tasks that may still be leased or requeued can be read. -/
structure Paired (database : Database) : Prop where
  exclusive : database.leasing.Exclusive
  readable : ∀ taskId task, database.tasks.get? taskId = some task →
    task.status = .queued ∨ InHand task.status → task.payload.extra.keys = []

variable {python : Python} {database reached : Database} {leaseId taskId : String}

theorem Paired.congr (h : Paired database) (htasks : reached.tasks = database.tasks)
    (hleases : reached.leases = database.leases) : Paired reached where
  exclusive := by rw [leasing_congr htasks hleases]; exact h.exclusive
  readable taskId task htask := by
    rw [htasks] at htask
    exact h.readable taskId task htask

theorem Paired.readable_ended (h : Paired database) (htask : TaskEnds database taskId reached)
    (hqueued : ∀ task, reached.tasks.get? taskId = some task → task.status = .queued →
      task.payload.extra.keys = []) :
    ∀ other task, reached.tasks.get? other = some task →
      task.status = .queued ∨ InHand task.status → task.payload.extra.keys = [] := by
  intro other task hother hopen
  by_cases heq : other = taskId
  · subst heq
    rcases hopen with hstatus | hhand
    · exact hqueued task hother hstatus
    · exact absurd hhand (htask.ended task hother)
  · rw [htask.others other heq] at hother
    exact h.readable other task hother hopen

theorem Paired.released (h : Paired database) (hlease : LeaseEnds database leaseId reached)
    (htask : TaskEnds database taskId reached)
    (hqueued : ∀ task, reached.tasks.get? taskId = some task → task.status = .queued →
      task.payload.extra.keys = [])
    (hpair : database.leasing.holds leaseId = some (taskId, ()) ∨
      (database.leasing.holds leaseId = none ∧ database.leasing.tenant taskId = none)) :
    Paired reached where
  exclusive := by
    rw [leasing_released hlease htask]
    rcases hpair with hholds | ⟨hnone, hvacant⟩
    · exact h.exclusive.release hholds
    · rw [Leasing.release_vacant hnone hvacant]
      exact h.exclusive
  readable := h.readable_ended htask hqueued

theorem Paired.lapsed (h : Paired database) (htasks : reached.tasks = database.tasks)
    (hlease : LeaseEnds database leaseId reached) (hnone : database.leasing.holds leaseId = none) :
    Paired reached where
  exclusive := by
    have hholds : reached.leasing.holds = database.leasing.holds := by
      rw [hlease.holds, Function.update_eq_self_iff, hnone]
    have htenant : reached.leasing.tenant = database.leasing.tenant := by
      simp only [Database.leasing, htasks]
    have hsame : reached.leasing = database.leasing := congrArg₂ Leasing.mk hholds htenant
    rw [hsame]
    exact h.exclusive
  readable := by
    rw [htasks]
    exact h.readable

theorem Paired.claimed {task leased : ExecutionTaskRecord} {lease : TaskLeaseRecord} (h : Paired database)
    (hclaimed : Claimed database task lease leased reached) (hhand : InHand leased.status)
    (hclean : leased.payload.extra.keys = []) (hvacant : database.leasing.tenant task.taskId = none) :
    Paired reached where
  exclusive := by
    rw [leasing_claimed hclaimed hhand]
    refine h.exclusive.acquire () (holds_eq_none.mpr ?_) hvacant
    intro found hfound
    rw [hclaimed.fresh] at hfound
    cases hfound
  readable := by
    intro other found hfound hopen
    rw [hclaimed.tasks, get?_saveAssignedTask] at hfound
    split at hfound
    · obtain ⟨row, -, rfl⟩ := Option.map_eq_some_iff.mp hfound
      exact hclean
    · exact h.readable other found hfound hopen

theorem leaseEnds_of_saved {lease : TaskLeaseRecord}
    (hleases : reached.leases = (database.saveLease lease).leases) (hended : lease.status ≠ .active) :
    LeaseEnds database lease.leaseId reached where
  ended := by
    intro row hrow
    rw [hleases, get?_saveLease, if_pos rfl] at hrow
    obtain ⟨stored, -, rfl⟩ := Option.map_eq_some_iff.mp hrow
    exact hended
  others := by
    intro other hne
    rw [hleases, get?_saveLease, if_neg hne]

theorem taskEnds_of_saved {task : ExecutionTaskRecord}
    (htasks : reached.tasks = (database.saveTask task).tasks) (hended : ¬ InHand task.status) :
    TaskEnds database task.taskId reached where
  ended := by
    intro row hrow
    rw [(saved_eq htasks hrow).1]
    exact hended
  others := by
    intro other hne
    rw [htasks, get?_saveTask, if_neg hne]

theorem taskEnds_of_assigned {task : ExecutionTaskRecord}
    (htasks : reached.tasks = (database.saveAssignedTask task).tasks) (hended : ¬ InHand task.status) :
    TaskEnds database task.taskId reached where
  ended := by
    intro row hrow
    rw [(assigned_eq htasks hrow).1]
    exact hended
  others := by
    intro other hne
    rw [htasks, get?_saveAssignedTask, if_neg hne]

def Over (status : TaskStatus) : Prop := status ≠ .queued ∧ ¬ InHand status

instance (status : TaskStatus) : Decidable (Over status) :=
  inferInstanceAs (Decidable (status ≠ .queued ∧ ¬ InHand status))

theorem over_cancelled : Over .cancelled := by decide

theorem over_outcome (success : Bool) : Over (if success then .completed else .failed) := by
  cases success <;> decide

theorem Paired.writeOff (h : Paired database) {task : ExecutionTaskRecord} (hover : Over task.status)
    (hvacant : database.leasing.tenant task.taskId = none) : Paired (database.saveTask task) where
  exclusive := by
    have hsame : (database.saveTask task).leasing = database.leasing :=
      leasing_kept rfl (taskEnds_of_saved rfl hover.2) hvacant
    rw [hsame]
    exact h.exclusive
  readable := by
    refine h.readable_ended (taskEnds_of_saved rfl hover.2) fun row hrow hqueued => ?_
    rw [(saved_eq rfl hrow).1] at hqueued
    exact absurd hqueued hover.1

theorem Paired.writeBack (h : Paired database) {lease : TaskLeaseRecord} {task : ExecutionTaskRecord}
    (hended : lease.status ≠ .active) (hover : Over task.status)
    (hpair : database.leasing.holds lease.leaseId = some (task.taskId, ()) ∨
      (database.leasing.holds lease.leaseId = none ∧ database.leasing.tenant task.taskId = none)) :
    Paired ((database.saveLease lease).saveTask task) := by
  have htasks : ((database.saveLease lease).saveTask task).tasks = (database.saveTask task).tasks := rfl
  refine h.released (leaseEnds_of_saved rfl hended) (taskEnds_of_saved htasks hover.2) ?_ hpair
  intro row hrow hqueued
  rw [(saved_eq htasks hrow).1] at hqueued
  exact absurd hqueued hover.1

end Pairing

section Sweep

variable {python : Python} {database reached : Database} {now : Int}

def Recovered (database : Database) (taskId : String) : Prop :=
  ∃ task, database.tasks.get? taskId = some task ∧ (task.status = .queued ∨ task.status = .failed)

structure Current (database : Database) (entry : TaskLeaseRecord × ExecutionTaskRecord) : Prop where
  lease : database.leases.get? entry.1.leaseId = some entry.1
  active : entry.1.status = .active
  task : database.tasks.get? entry.1.taskId = some entry.2

theorem Current.holds {entry : TaskLeaseRecord × ExecutionTaskRecord} (h : Current database entry) :
    database.leasing.holds entry.1.leaseId = some (entry.1.taskId, ()) :=
  leasing_holds.mpr ⟨entry.1, h.lease, h.active, rfl⟩

theorem Current.taskId {entry : TaskLeaseRecord × ExecutionTaskRecord} (h : Current database entry) :
    entry.2.taskId = entry.1.taskId := Table.key_of_get? h.task

def expiredAt (now : Int) (lease : TaskLeaseRecord) : TaskLeaseRecord :=
  { lease with status := .expired, heartbeatAt := now }

theorem expireLease_writes (python : Python) (database : Database) (now : Int) (lease : TaskLeaseRecord)
    {task : ExecutionTaskRecord} {model : ExecutionTask} (hmodel : task.payload.modelValidate = .ok model) :
    ∃ next written, expireLease python database now lease task = .ok next ∧
      next.leases = (database.saveLease (expiredAt now lease)).leases ∧
      next.tasks = (database.saveAssignedTask written).tasks ∧ written.taskId = task.taskId ∧
      (written.status = .queued ∨ written.status = .failed) ∧ written.payload.extra.keys = [] := by
  unfold expireLease
  simp only [hmodel, bind, Except.bind]
  split
  · exact ⟨_, requeuedTask python task model _ now, rfl, rfl, rfl, rfl, .inl rfl, rfl⟩
  · exact ⟨_, exhaustedTask python task model now, rfl, rfl, rfl, rfl, .inr rfl, rfl⟩

theorem not_inHand {status : TaskStatus} (h : status = .queued ∨ status = .failed) : ¬ InHand status := by
  rcases h with rfl | rfl
  · decide
  · decide

theorem expireLease_recovers (python : Python) (now : Int)
    {entry : TaskLeaseRecord × ExecutionTaskRecord} (h : Paired database)
    (hcurrent : Current database entry) :
    ∃ next, expireLease python database now entry.1 entry.2 = .ok next ∧
      LeaseEnds database entry.1.leaseId next ∧ TaskEnds database entry.2.taskId next ∧
      Recovered next entry.2.taskId ∧ Paired next := by
  obtain ⟨found, hfound, hhand⟩ := leasing_tenant.mp (h.exclusive.recorded hcurrent.holds)
  obtain rfl : entry.2 = found := Option.some.inj (hcurrent.task.symm.trans hfound)
  obtain ⟨model, hmodel⟩ := entry.2.payload.validates_iff.mpr (h.readable _ _ hfound (.inr hhand))
  obtain ⟨next, written, hresult, hleases, htasks, hid, hstatus, hclean⟩ :=
    expireLease_writes python database now entry.1 hmodel
  have hexpired : (expiredAt now entry.1).status ≠ .active := by simp [expiredAt]
  have hended : LeaseEnds database (expiredAt now entry.1).leaseId next :=
    leaseEnds_of_saved hleases hexpired
  have hout : TaskEnds database entry.2.taskId next := hid ▸ taskEnds_of_assigned htasks (not_inHand hstatus)
  refine ⟨next, hresult, hended, hout, ?_, ?_⟩
  · refine ⟨{ entry.2 with
      status := written.status, assignedAgent := written.assignedAgent, payload := written.payload
      updatedAt := written.updatedAt }, ?_, hstatus⟩
    rw [htasks, get?_saveAssignedTask, if_pos hid.symm, hid, hcurrent.taskId, hfound]
    rfl
  · refine h.released hended hout ?_ (.inl ?_)
    · intro row hrow _
      rw [← hid] at hrow
      rw [(assigned_eq htasks hrow).2]
      exact hclean
    · rw [hcurrent.taskId]
      exact hcurrent.holds

theorem Current.kept {entry other : TaskLeaseRecord × ExecutionTaskRecord} {next : Database}
    (h : Paired database) (hentry : Current database entry) (hother : Current database other)
    (hne : other.1.leaseId ≠ entry.1.leaseId) (hlease : LeaseEnds database entry.1.leaseId next)
    (htask : TaskEnds database entry.2.taskId next) : Current next other where
  lease := by rw [hlease.others _ hne, hother.lease]
  active := hother.active
  task := by
    rw [htask.others, hother.task]
    intro hsame
    rw [hentry.taskId] at hsame
    have hholds := hother.holds
    rw [hsame] at hholds
    exact hne (h.exclusive.unique hholds hentry.holds)

theorem expireEach_recovers (python : Python) (now : Int) {due : List (TaskLeaseRecord × ExecutionTaskRecord)}
    (h : Paired database)
    (hnodup : (due.map fun entry => entry.1.leaseId).Nodup)
    (hcurrent : ∀ entry ∈ due, Current database entry) :
    ∃ reached, due.foldlM (fun database entry => expireLease python database now entry.1 entry.2)
        database = .ok reached ∧ Paired reached ∧
      (∀ entry ∈ due, Recovered reached entry.2.taskId) ∧
      ∀ taskId, Recovered database taskId → Recovered reached taskId := by
  induction due generalizing database with
  | nil => exact ⟨database, rfl, h, by simp, fun taskId hrecovered => hrecovered⟩
  | cons entry due ih =>
    rw [List.map_cons, List.nodup_cons] at hnodup
    rw [List.forall_mem_cons] at hcurrent
    obtain ⟨next, hresult, hlease, htask, hrecovered, hnext⟩ :=
      expireLease_recovers python now h hcurrent.1
    have hothers : ∀ other ∈ due, Current next other := by
      intro other hother
      refine (hcurrent.1).kept h (hcurrent.2 other hother) ?_ hlease htask
      rintro heq
      exact hnodup.1 (heq ▸ List.mem_map_of_mem hother)
    obtain ⟨reached, hrest, hreached, hall, hkept⟩ := ih hnext hnodup.2 hothers
    refine ⟨reached, ?_, hreached, ?_, ?_⟩
    · rw [List.foldlM_cons, hresult]
      exact hrest
    · rw [List.forall_mem_cons]
      exact ⟨hkept _ hrecovered, hall⟩
    · intro taskId hbefore
      apply hkept
      by_cases heq : taskId = entry.2.taskId
      · rwa [heq]
      · obtain ⟨task, hstored, hstatus⟩ := hbefore
        exact ⟨task, (htask.others taskId heq).trans hstored, hstatus⟩

theorem current_of_due {locked : List String} {entry : TaskLeaseRecord × ExecutionTaskRecord}
    (h : entry ∈ dueLeases database locked now) : Current database entry := by
  obtain ⟨⟨hlease, hactive⟩, htask⟩ := mem_dueLeases h
  exact ⟨hlease, hactive, htask⟩

theorem nodup_dueLeases (database : Database) (locked : List String) (now : Int) :
    ((dueLeases database locked now).map fun entry => entry.1.leaseId).Nodup := by
  let due (lease : TaskLeaseRecord) : Bool :=
    lease.status = .active ∧ lease.expiresAt ≤ now ∧ lease.leaseId ∉ locked
  let latest (left right : TaskLeaseRecord) : Prop := right.acquiredAt ≤ left.acquiredAt
  have hrows : (database.leases.rows.filter due).Pairwise fun left right =>
      left.leaseId ≠ right.leaseId :=
    (List.pairwise_map.mp database.leases.nodup_rows).sublist List.filter_sublist
  have hsorted : ((database.leases.rows.filter due).insertionSort latest).Pairwise fun left right =>
      left.leaseId ≠ right.leaseId :=
    ((List.perm_insertionSort latest _).pairwise_iff fun hne => hne.symm).mpr hrows
  apply List.pairwise_map.mpr
  unfold dueLeases
  rw [List.pairwise_filterMap]
  refine hsorted.imp fun hne entry hentry other hother => ?_
  obtain ⟨task, -, rfl⟩ := Option.map_eq_some_iff.mp hentry
  obtain ⟨another, -, rfl⟩ := Option.map_eq_some_iff.mp hother
  exact hne

theorem expireStaleLeases_recovers (python : Python) (h : Paired database) (locked : List String)
    (now : Int) :
    ∃ reached affected, expireStaleLeases python database locked now = .ok (reached, affected) ∧
      Paired reached ∧ ∀ entry ∈ dueLeases database locked now, Recovered reached entry.2.taskId := by
  obtain ⟨reached, hresult, hpaired, hall, -⟩ := expireEach_recovers python now h
    (nodup_dueLeases database locked now) fun entry => current_of_due
  let affected := ((dueLeases database locked now).map fun entry => entry.2.operationId).dedup
  have hexpire : expireStaleLeases python database locked now = .ok (reached, affected) := by
    rw [expireStaleLeases, hresult]
    rfl
  exact ⟨reached, affected, hexpire, hpaired, hall⟩

theorem mem_dueLeases_of {locked : List String} {lease : TaskLeaseRecord} {task : ExecutionTaskRecord}
    (hlease : lease ∈ database.leases.rows) (hactive : lease.status = .active)
    (hdue : lease.expiresAt ≤ now) (hfree : lease.leaseId ∉ locked)
    (htask : database.tasks.get? lease.taskId = some task) :
    (lease, task) ∈ dueLeases database locked now := by
  refine List.mem_filterMap.mpr ⟨lease, ?_, by rw [htask, Option.map_some]⟩
  rw [List.mem_insertionSort, List.mem_filter, decide_eq_true_eq]
  exact ⟨hlease, hactive, hdue, hfree⟩

end Sweep

section Recovery

variable {python : Python} {database reached : Database}

/-- Every task in hand has exactly one active lease, and a sweep that finds the lease
over and not locked takes the task back. -/
structure Recoverable (python : Python) (database : Database) : Prop where
  leased : ∀ task ∈ database.tasks.rows, InHand task.status →
    ∃! lease, lease ∈ database.leases.rows ∧ lease.taskId = task.taskId ∧ lease.status = .active
  swept : ∀ task ∈ database.tasks.rows, InHand task.status → ∀ locked now,
    (∀ lease ∈ database.leases.rows, lease.taskId = task.taskId → lease.status = .active →
      lease.expiresAt ≤ now ∧ lease.leaseId ∉ locked) →
    ∃ reached affected, expireStaleLeases python database locked now = .ok (reached, affected) ∧
      Recovered reached task.taskId

theorem Paired.exists_lease (h : Paired database) {task : ExecutionTaskRecord}
    (htask : task ∈ database.tasks.rows) (hhand : InHand task.status) :
    ∃ lease ∈ database.leases.rows, lease.taskId = task.taskId ∧ lease.status = .active := by
  obtain ⟨leaseId, hholds⟩ := h.exclusive.held
    (leasing_tenant.mpr ⟨task, Table.mem_rows.mp htask, hhand⟩)
  obtain ⟨lease, hlease, hactive, hnamed⟩ := leasing_holds.mp hholds
  exact ⟨lease, Table.mem_rows_of_get? hlease, hnamed, hactive⟩

theorem Paired.recoverable (h : Paired database) : Recoverable python database where
  leased := by
    intro task htask hhand
    obtain ⟨lease, hlease, hnamed, hactive⟩ := h.exists_lease htask hhand
    refine ⟨lease, ⟨hlease, hnamed, hactive⟩, ?_⟩
    rintro other ⟨hother, hsame, hlive⟩
    have hfirst := Table.mem_rows.mp hlease
    have hsecond := Table.mem_rows.mp hother
    have hown : database.leasing.holds lease.leaseId = some (task.taskId, ()) :=
      leasing_holds.mpr ⟨lease, hfirst, hactive, hnamed⟩
    have hholds : database.leasing.holds other.leaseId = some (task.taskId, ()) :=
      leasing_holds.mpr ⟨other, hsecond, hlive, hsame⟩
    have hid : other.leaseId = lease.leaseId := h.exclusive.unique hholds hown
    rw [hid, hfirst] at hsecond
    exact (Option.some.inj hsecond).symm
  swept := by
    intro task htask hhand locked now hover
    obtain ⟨lease, hlease, hnamed, hactive⟩ := h.exists_lease htask hhand
    obtain ⟨hdue, hfree⟩ := hover lease hlease hnamed hactive
    have hstored : database.tasks.get? lease.taskId = some task := by
      rw [hnamed]
      exact Table.mem_rows.mp htask
    obtain ⟨reached, affected, hresult, -, hall⟩ := expireStaleLeases_recovers python h locked now
    exact ⟨reached, affected, hresult, hall (lease, task) (mem_dueLeases_of hlease hactive hdue hfree hstored)⟩

end Recovery

section Steps

variable {ι : Type} {runtime : OperationRuntime} {database reached : Database} {statement : Statement}
  {phase next : Phase} {leaseId taskId : String}

def Names (database : Database) (leaseId taskId : String) : Prop :=
  ∃ lease, database.leases.get? leaseId = some lease ∧ lease.taskId = taskId

/-- The lease an agent works under is of its task. -/
def BoundIn (database : Database) (phase : Phase) : Prop :=
  ∀ pair ∈ phase.bound, Names database pair.1 pair.2

theorem Names.saveLease {lease : TaskLeaseRecord} (h : Names database leaseId taskId)
    (hleases : reached.leases = (database.saveLease lease).leases) : Names reached leaseId taskId := by
  obtain ⟨stored, hstored, hnamed⟩ := h
  unfold Names
  rw [hleases, get?_saveLease]
  split
  · rename_i heq
    exact ⟨{ stored with status := lease.status, heartbeatAt := lease.heartbeatAt },
      by rw [← heq, hstored, Option.map_some], hnamed⟩
  · exact ⟨stored, hstored, hnamed⟩

theorem Names.claimed {task leased : ExecutionTaskRecord} {lease : TaskLeaseRecord}
    (h : Names database leaseId taskId) (hclaimed : Claimed database task lease leased reached) :
    Names reached leaseId taskId := by
  obtain ⟨stored, hstored, hnamed⟩ := h
  refine ⟨stored, ?_, hnamed⟩
  rw [hclaimed.leases, Table.get?_put, if_neg, hstored]
  rintro rfl
  rw [hclaimed.fresh] at hstored
  cases hstored

theorem Names.swept {python : Python} {locked affected : List String} {now : Int}
    (h : Names database leaseId taskId)
    (hexpire : expireStaleLeases python database locked now = .ok (reached, affected)) :
    Names reached leaseId taskId :=
  foldlM_ok (p := fun current => Names current leaseId taskId) (expireStaleLeases_ok hexpire) h
    fun _ _ _ _ hcurrent hnext => hcurrent.saveLease (expireLease_leases hnext)

theorem Acts.names {python : Python} (h : Acts python statement database phase reached next)
    (hnames : Names database leaseId taskId) : Names reached leaseId taskId := by
  cases h with
  | quiet htasks hleases =>
    unfold Names
    rw [hleases]
    exact hnames
  | swept hexpire => exact hnames.swept hexpire
  | cancelled now reason hcancels hreached =>
    rw [hreached]
    exact hnames
  | claimed hqueued hrunning hextra hclaimed => exact hnames.claimed hclaimed
  | released hphase hstatement hreached =>
    rw [hreached]
    exact hnames.saveLease rfl
  | finished hphase hstatement hreached =>
    rw [hreached]
    exact hnames

end Steps

section Orderly

variable {ι : Type}

/-- A statement by itself leaves an active lease to be ended with its task, and
writes no task off that has an active lease. -/
def Statement.orderly (database : Database) : Statement → Phase → Bool
  | .releaseLease _, .executed assignment _ =>
    (database.leases.get? assignment.lease.leaseId).map TaskLeaseRecord.status ≠ some .active
  | .finishTask _, .released assignment _ => activeLeases database assignment.task.taskId = []
  | statement, phase =>
    (cancels database statement phase).all fun task => activeLeases database task.taskId = []

/-- Completions are in time, and nobody else has a task that is written back. -/
def Event.orderly (python : Python) : Event ι → Deployment ι → Bool
  | .work i statement, deployment =>
    statement.orderly deployment.plane.database (deployment.plane.processes i).phase
  | .writeBack i _, deployment =>
    match (deployment.plane.processes i).phase with
    | .executed assignment _ =>
      (activeLeases deployment.plane.database assignment.task.taskId).all fun entry =>
        entry.1.leaseId = assignment.lease.leaseId
    | _ => true
  | .postCompletion taskId data now, deployment =>
    match (activeLeases deployment.plane.database taskId).head?, nonceOf data with
    | some (lease, _), some nonce => python.sha256 nonce ≠ lease.nonceHash ∨ now < lease.expiresAt
    | _, _ => true
  | _, _ => true

/-- No command is running, no lease is active, and nobody has a task; queued tasks can be read. -/
structure Deployment.Fresh (deployment : Deployment ι) : Prop where
  stopped : ∀ i, (deployment.plane.processes i).phase = .stopped
  unleased : ∀ lease ∈ deployment.plane.database.leases.rows, lease.status ≠ .active
  free : ∀ task ∈ deployment.plane.database.tasks.rows, ¬ InHand task.status
  readable : ∀ task ∈ deployment.plane.database.tasks.rows, task.status = .queued →
    ∃ model, task.payload.modelValidate = .ok model

/-- The rows are paired, and agents work under leases of their tasks. -/
structure Attended (plane : Plane ι) : Prop where
  paired : Paired plane.database
  bound : ∀ i, BoundIn plane.database (plane.processes i).phase

theorem Deployment.Fresh.attended {deployment : Deployment ι} (h : deployment.Fresh) :
    Attended deployment.plane where
  paired := {
    exclusive := by
      have hvacant : deployment.plane.database.leasing = Leasing.vacant := by
        refine congrArg₂ Leasing.mk (funext fun leaseId => ?_) (funext fun taskId => ?_)
        · exact holds_eq_none.mpr fun lease hlease => h.unleased lease (Table.mem_rows_of_get? hlease)
        · exact tenant_eq_none.mpr fun task htask => h.free task (Table.mem_rows_of_get? htask)
      rw [hvacant]
      exact Leasing.Exclusive.vacant
    readable := by
      intro taskId task htask hopen
      have hrow := Table.mem_rows_of_get? htask
      rcases hopen with hqueued | hhand
      · exact task.payload.validates_iff.mp (h.readable task hrow hqueued)
      · exact absurd hhand (h.free task hrow) }
  bound := by
    intro i pair hpair
    rw [h.stopped i] at hpair
    cases hpair

variable {python : Python} {database reached : Database} {statement : Statement} {phase next : Phase}

theorem orderly_cancels {task : ExecutionTaskRecord} (h : statement.orderly database phase = true)
    (hcancels : cancels database statement phase = some task) :
    activeLeases database task.taskId = [] := by
  unfold Statement.orderly at h
  split at h
  · cases hcancels
  · cases hcancels
  · rw [hcancels] at h
    exact of_decide_eq_true h

theorem Paired.acts (h : Paired database) (hacts : Acts python statement database phase reached next)
    (horderly : statement.orderly database phase = true) : Paired reached := by
  cases hacts with
  | quiet htasks hleases => exact h.congr htasks hleases
  | @swept locked affected now hexpire =>
    obtain ⟨found, ids, hresult, hpaired, -⟩ := expireStaleLeases_recovers python h locked now
    rw [hexpire] at hresult
    cases hresult
    exact hpaired
  | @cancelled task now reason hcancels hreached =>
    subst hreached
    have hvacant : database.leasing.tenant task.taskId = none :=
      tenant_of_activeLeases h.exclusive (orderly_cancels horderly hcancels)
    exact h.writeOff over_cancelled hvacant
  | @claimed task running lease hqueued hrunning hextra hclaimed =>
    apply h.claimed hclaimed (.inr hrunning)
    · rw [hextra]
      exact h.readable _ _ hclaimed.stored (.inl hqueued)
    · apply tenant_eq_none.mpr
      intro found hfound
      rw [hclaimed.stored] at hfound
      cases hfound
      rw [hqueued]
      decide
  | @released assignment success now hphase hstatement hreached =>
    subst hphase hstatement hreached
    refine h.lapsed rfl (leaseEnds_of_saved rfl ?_) (holds_eq_none.mpr fun lease hlease hactive => ?_)
    · simp
    · have hnot := of_decide_eq_true horderly
      rw [hlease, Option.map_some, hactive] at hnot
      exact hnot rfl
  | @finished assignment success now hphase hstatement hreached =>
    subst hphase hstatement hreached
    have hnone : activeLeases database assignment.task.taskId = [] := of_decide_eq_true horderly
    exact h.writeOff (over_outcome success) (tenant_of_activeLeases h.exclusive hnone)

theorem Acts.bound (h : Acts python statement database phase reached next)
    (hbound : BoundIn database phase) : BoundIn reached next := by
  have hkept : next.bound = phase.bound ∨ next.bound = none → BoundIn reached next := by
    rintro (hsame | hnone) pair hpair
    · rw [hsame] at hpair
      exact h.names (hbound pair hpair)
    · rw [hnone] at hpair
      cases hpair
  cases h with
  | quiet _ _ hnext => exact hkept hnext
  | swept _ hnext => exact hkept (.inr hnext)
  | cancelled _ _ _ _ hnext => exact hkept hnext
  | claimed _ _ _ hclaimed hnext =>
    intro pair hpair
    rw [hnext] at hpair
    cases hpair
    refine ⟨_, ?_, hclaimed.named⟩
    rw [hclaimed.leases, Table.get?_put, if_pos rfl]
  | released hphase _ _ hnext =>
    subst hphase hnext
    exact hkept (.inl rfl)
  | finished _ _ _ hnext => exact hkept (.inr hnext)

end Orderly

section Runs

variable {ι : Type} [DecidableEq ι] {runtime : OperationRuntime} {before after : Deployment ι}

theorem Deployment.bound_perform {i : ι} {statement : Statement}
    (hbound : ∀ j, BoundIn before.plane.database (before.plane.processes j).phase)
    (h : before.perform runtime i statement = some after) :
    ∀ j, BoundIn after.plane.database (after.plane.processes j).phase := by
  rcases Deployment.perform_cases h with ⟨agent, -, hplane⟩ | ⟨database, next, hacts, hplane⟩
  · rw [hplane]
    apply forall_phase_update _ hbound
    intro pair hpair
    cases hpair
  · rw [hplane]
    apply forall_phase_update
    · exact hacts.bound (hbound i)
    · intro j pair hpair
      exact hacts.names (hbound j pair hpair)

theorem Attended.perform (h : Attended before.plane) {i : ι} {statement : Statement}
    (horderly : statement.orderly before.plane.database (before.plane.processes i).phase = true)
    (hperform : before.perform runtime i statement = some after) : Attended after.plane where
  paired := by
    rcases Deployment.perform_cases hperform with ⟨agent, -, hplane⟩ | ⟨database, next, hacts, hplane⟩
    · rw [hplane]
      exact h.paired
    · rw [hplane]
      exact h.paired.acts hacts horderly
  bound := Deployment.bound_perform h.bound hperform

theorem Attended.writeBack (h : Attended before.plane) {i : ι} {now : Int} {released : Deployment ι}
    (horderly : (Event.writeBack i now).orderly runtime.python before = true)
    (hrelease : before.perform runtime i (.releaseLease now) = some released)
    (hfinish : released.perform runtime i (.finishTask now) = some after) : Attended after.plane where
  paired := by
    obtain ⟨assignment, success, hphase, hdatabase⟩ := Deployment.writeBack_cases hrelease hfinish
    rw [hdatabase]
    refine h.paired.writeBack ?_ (over_outcome success) ?_
    · simp [releasedAt]
    -- The lease is the agent's own, and where it is not active nobody has the task.
    · obtain ⟨lease, hlease, hnamed⟩ := h.bound i (assignment.lease.leaseId, assignment.task.taskId)
        (by rw [hphase]; rfl)
      by_cases hactive : lease.status = .active
      · exact .inl (leasing_holds.mpr ⟨lease, hlease, hactive, hnamed⟩)
      · have hnotHeld : ∀ found, before.plane.database.leases.get? assignment.lease.leaseId = some found →
            found.status ≠ .active := by
          intro found hfound
          rw [hlease] at hfound
          cases hfound
          exact hactive
        refine .inr ⟨holds_eq_none.mpr hnotHeld, ?_⟩
        apply tenant_of_activeLeases h.paired.exclusive
        apply List.eq_nil_iff_forall_not_mem.mpr
        intro entry hentry
        simp only [Event.orderly, hphase, List.all_eq_true, decide_eq_true_eq] at horderly
        obtain ⟨⟨hstored, -, hlive⟩, -⟩ := mem_activeLeases.mp hentry
        rw [horderly entry hentry] at hstored
        exact hnotHeld entry.1 hstored hlive
  bound := Deployment.bound_perform (Deployment.bound_perform h.bound hrelease) hfinish

omit [DecidableEq ι] in
theorem Attended.request {plane : Plane ι} (h : Attended plane) {database : Database}
    (hpaired : Paired database)
    (hnames : ∀ leaseId taskId, Names plane.database leaseId taskId → Names database leaseId taskId) :
    Attended { plane with database := database } where
  paired := hpaired
  bound i pair hpair := hnames _ _ (h.bound i pair hpair)

omit [DecidableEq ι] in
theorem Attended.postClaim (h : Attended before.plane) (python : Python) (request : ClaimRequest)
    (generated : Distributed.DistributedDispatcher.Generated) (now : Int) :
    Attended (before.withDatabase
      (request.post python before.plane.database before.agents generated now).2).plane := by
  rcases request.post_cases generated now with
    hsame | ⟨task, agentId, leased, row, updatedAt, hnone, hleased, hclaimed⟩
  · rw [Deployment.withDatabase, hsame]
    exact h
  · refine h.request ?_ fun leaseId taskId hnames => hnames.claimed hclaimed
    exact h.paired.claimed hclaimed (.inl hleased) rfl (tenant_of_activeLeases h.paired.exclusive hnone)

omit [DecidableEq ι] in
theorem Attended.postCompletion (h : Attended before.plane) {python : Python} {taskId : String}
    {data : JsonObject} {now : Int}
    (horderly : (Event.postCompletion taskId data now).orderly python before = true) :
    Attended (before.withDatabase
      (ControlPlane.postCompletion python before.plane.database taskId data now).2).plane := by
  rcases postCompletion_cases taskId data now with
    hsame | ⟨lease, task, nonce, hhead, hnonce, hhash, hover | hintime⟩
  · rw [Deployment.withDatabase, hsame]
    exact h
  · simp only [Event.orderly, Option.mem_def.mp hhead, hnonce, decide_eq_true_eq] at horderly
    rcases horderly with hwrong | hlive
    · exact absurd hhash hwrong
    · exact absurd hover.1 (not_le.mpr hlive)
  · obtain ⟨-, success, hreached⟩ := hintime
    obtain ⟨⟨hlease, -, hactive⟩, htask⟩ := mem_activeLeases.mp (List.mem_of_mem_head? hhead)
    have hkey : task.taskId = lease.taskId := Table.key_of_get? htask
    rw [Deployment.withDatabase, hreached]
    refine h.request ?_ fun leaseId taskId hnames => hnames.saveLease rfl
    refine h.paired.writeBack ?_ (over_outcome success) (.inl ?_)
    · simp
    · exact leasing_holds.mpr ⟨lease, hlease, hactive, hkey.symm⟩

theorem Attended.step {event : Event ι} (h : Attended before.plane)
    (hstep : Deployment.step runtime event before = some after)
    (horderly : event.orderly runtime.python before = true) : Attended after.plane := by
  cases Deployment.step_occurs hstep with
  | refused => exact h
  | @started i _ _ _ row agents _ hregister hperform =>
    have hkept : Attended ({ before with agents := agents }.keep i row).plane := h
    exact hkept.perform rfl hperform
  | beaten => exact h
  | worked _ hperform => exact h.perform horderly hperform
  | writtenBack hrelease hfinish => exact h.writeBack horderly hrelease hfinish
  | @ended i nowIso now row _ hrow hperform =>
    let saved := { before with agents := before.agents.save (row.offline nowIso now) }
    have hkept : Attended (saved.keep i (row.offline nowIso now)).plane := h
    exact hkept.perform rfl hperform
  | agentPosted => exact h
  | heartbeatPosted => exact h
  | claimPosted request generated now => exact h.postClaim runtime.python request generated now
  | completionPosted taskId data now => exact h.postCompletion horderly

/-- In every run of orderly events a task in hand has one active lease, and it can
be recovered once that lease is over. -/
theorem recoverable_of_orderly {start reached : Deployment ι}
    {past : List (Transition (Deployment ι) (Event ι))} (hstart : start.Fresh)
    (h : Run (Deployment.step runtime) start past reached)
    (horderly : ∀ transition ∈ past,
      transition.label.orderly runtime.python transition.before = true) :
    Recoverable runtime.python reached.plane.database := by
  have hattended : (Attended ∘ Deployment.plane) reached :=
    h.invariant hstart.attended fun transition hmem hstep hbefore =>
      Attended.step hbefore hstep (horderly transition hmem)
  exact hattended.paired.recoverable

end Runs

section Agents

namespace DockerFleet

/-- Timestamps that are read back as they were written, at midnight. -/
def clockRuntime : OperationRuntime :=
  { runtime with python := { python with
      isoFormat := fun instant =>
        if instant = midnight then "2026-01-01T00:00:00+00:00" else s!"{instant}" } }

/-- The task of the container, before any agent is there. -/
def deployment : Deployment Worker where
  plane := plane ["db"]
  agents := .empty
  kept _ := none

theorem deployment_fresh : deployment.Fresh where
  stopped := plane_stopped ["db"]
  unleased := by decide
  free := by decide
  readable := by
    intro task htask _
    have hall : ∀ task ∈ deployment.plane.database.tasks.rows, task.payload.extra.keys = [] := by decide
    exact task.payload.validates_iff.mpr (hall task htask)

def options : AgentOptions where
  agentId := "executor-1"
  organizationId := "default"
  workspaceId := "default"
  executors := ["simulation"]

def occurred (events : List (Event Worker)) : List (Transition (Deployment Worker) (Event Worker)) :=
  (history (Deployment.step clockRuntime) deployment events).getD []

theorem run_occurred (events : List (Event Worker))
    (check : List (Transition (Deployment Worker) (Event Worker)) → Bool)
    (h : (history (Deployment.step clockRuntime) deployment events).any check = true) :
    ∃ reached, Run (Deployment.step clockRuntime) deployment (occurred events) reached ∧
      check (occurred events) = true :=
  Run.of_any h

/-- What the agent does between its heartbeat and the end of the execution. -/
def working : List Statement :=
  [.countLeases, .listQueued, .cancelBlocked midnight, .claim [] midnight "executor-1" "executor-1"] ++
    reconciliation ++ [.execute (.ok (receipt ["db"] "db")) midnightIso midnight]

/-- An agent registers, claims the task and writes it back with its lease. -/
def attended : List (Event Worker) :=
  [.start .first options midnightIso midnight, .work .first (.expireStaleLeases [] midnight),
    .heartbeat .first midnight] ++ working.map (Event.work .first) ++ [.writeBack .first midnight]

theorem attended_recoverable : ∃ reached,
    Run (Deployment.step clockRuntime) deployment (occurred attended) reached ∧
      Recoverable clockRuntime.python reached.plane.database := by
  obtain ⟨reached, hrun, horderly⟩ := run_occurred attended (fun past => past.all fun transition =>
    transition.label.orderly clockRuntime.python transition.before) (by decide)
  exact ⟨reached, hrun, recoverable_of_orderly deployment_fresh hrun (List.all_eq_true.mp horderly)⟩

/-- An agent claims the task and completes it after its lease is over. -/
def belated : List (Event Worker) :=
  [.postAgent ⟨{ options.definition midnightIso with agentId := "executor-2" }, "default", "default",
      false, true, false⟩,
    .postClaim ⟨"task:db", Dict.ofList [("agent_id", .str "executor-2")], "default", "default"⟩
      ⟨"decision", "lease", "nonce"⟩ midnight,
    .postCompletion "task:db" (Dict.ofList [("nonce", .str "nonce"), ("success", .bool true)])
      (midnight + 61000000)]

/-- The lease is expired alone, and nobody is left to take the task back. -/
theorem belated_orphans : ¬ ∀ past reached,
    Run (Deployment.step clockRuntime) deployment past reached →
      Recoverable clockRuntime.python reached.plane.database := by
  intro hall
  let orphaned (deployment : Deployment Worker) : Bool :=
    (deployment.plane.database.tasks.rows.any fun task => InHand task.status) &&
      deployment.plane.database.leases.rows.all fun lease => lease.status ≠ .active
  obtain ⟨reached, hrun, hlast⟩ := run_occurred belated (fun past =>
    (deployment :: past.map Transition.after).getLast?.all orphaned) (by decide)
  rw [hrun.getLast?_states, Option.all_some, Bool.and_eq_true] at hlast
  obtain ⟨task, htask, hhand⟩ := List.any_eq_true.mp hlast.1
  obtain ⟨lease, ⟨hlease, -, hactive⟩, -⟩ := (hall _ _ hrun).leased task htask (of_decide_eq_true hhand)
  exact of_decide_eq_true (List.all_eq_true.mp hlast.2 lease hlease) hactive

end DockerFleet

end Agents

end KubeOps.ControlPlane
