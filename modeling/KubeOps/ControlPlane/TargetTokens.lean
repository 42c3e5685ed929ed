import KubeOps.ControlPlane.ActiveLimits

/-! The tokens of usage that serialize requests by their target: who still accounts for a
row that is not terminal. Requests and agents give tokens back by the name of the target,
each on some of its ways out. -/
namespace KubeOps.ControlPlane.Governed

open KubeOps.Foundation KubeOps.Models KubeOps.Governance

variable {ι : Type} {workspaceOf : String → Option String}

section Accounting

def Phase.token : Phase → Option Token
  | .allowed _ token | .closing token | .dispatched token => some token
  | _ => none

def Phase.Recorded (row : GovernanceUsageRecord) (phase : Phase) : Prop :=
  ∃ token ∈ phase.token, token.usageId = some row.usageId

/-- The agent has still to reconcile the operation, or is at it. -/
def Phase.Attends (operationId : String) : Phase → Prop
  | .reconciling operationIds => operationId ∈ operationIds
  | .releasing _ current _ later | .persisting current _ later =>
    operationId = current ∨ operationId ∈ later
  | _ => False

def DispatchOf (row : GovernanceUsageRecord) (operationId : String) : Prop :=
  row.operation = "operation.dispatch" ∧ row.targetId = some operationId

def Phase.Accounts (row : GovernanceUsageRecord) (phase : Phase) : Prop :=
  phase.Recorded row ∨ ∃ operationId, DispatchOf row operationId ∧ phase.Attends operationId

def HasOpen (tasks : Table String TaskEntry TaskEntry.taskId) (operationId : String) : Prop :=
  ∃ task ∈ tasks.rows, task.operationId = operationId ∧ task.Open

/-- The row of usage was left by a dispatch whose tasks are not all over. -/
def Store.Unfinished (store : Store) (row : GovernanceUsageRecord) : Prop :=
  ∃ operationId, DispatchOf row operationId ∧ HasOpen store.tasks operationId

namespace State

variable (state : State ι)

/-- The request that left the row is in progress, or the work it dispatched is unfinished:
a task is open, or an agent has still to reconcile the operation. -/
def Accounted (row : GovernanceUsageRecord) : Prop :=
  (∃ i, (state.phase i).Accounts row) ∨ state.store.Unfinished row

def NothingLeaked : Prop :=
  ∀ row ∈ state.store.tables.usage, row.terminal = false → state.Accounted row

/-- The row is accounted for without this process. -/
def Otherwise (i : ι) (row : GovernanceUsageRecord) : Prop :=
  (∃ j ≠ i, (state.phase j).Accounts row) ∨ state.store.Unfinished row

end State

/-- What the process no longer accounts for after the statement, though it has not given
it back: a creation that fails, the end of a dispatch, the end of a reconciliation, and
the end of the process. -/
def Statement.Drops (row : GovernanceUsageRecord) : Statement → Phase → Prop
  | .create none, .allowed .create token | .project _, .dispatched token =>
    token.usageId = some row.usageId
  | .persist, .persisting operationId _ later => DispatchOf row operationId ∧ operationId ∉ later
  | .raised, phase => phase.Accounts row
  | _, _ => False

def Statement.saved : Statement → Phase → List TaskEntry
  | .saveTask task, .idle => [task]
  | .enqueue taskIds, .allowed .dispatch token =>
    taskIds.map fun taskId => ⟨taskId, some token.workspaceId, token.target, .queued⟩
  | _, _ => []

/-- No row of usage that is not terminal loses the last who accounts for it. -/
def Careful (transition : Transition (State ι) (ι × Statement)) : Prop :=
  ∀ row ∈ transition.before.store.tables.usage, row.terminal = false →
    (transition.label.2.Drops row (transition.before.phase transition.label.1) →
      transition.before.Otherwise transition.label.1 row) ∧
    (transition.before.store.Unfinished row →
      ¬ (transition.before.store.putTasks
          (transition.label.2.saved (transition.before.phase transition.label.1))).Unfinished row →
        ∃ j, (transition.before.phase j).Accounts row)

/-- A token stands for its row of usage, and for no other. -/
def Named (tables : GovernanceTables) (token : Token) : Prop :=
  ∀ usageId ∈ token.usageId, (∃ row ∈ tables.usage, row.usageId = usageId) ∧
    ∀ row ∈ tables.usage, row.usageId = usageId →
      row.workspaceId = token.workspaceId ∧ row.operation = token.operation ∧
        row.targetId = some token.target

def State.TokensNamed (state : State ι) : Prop :=
  ∀ i, ∀ token ∈ (state.phase i).token, Named state.store.tables token

end Accounting

section Tables

variable {store : Store} {row : GovernanceUsageRecord} {token : Token}

theorem mem_mark {workspaceId operation target : String}
    (hmem : row ∈ (store.mark workspaceId operation target).tables.usage) (hopen : row.terminal = false) :
    row ∈ store.tables.usage ∧ ¬ GovernanceTables.Holds workspaceId operation target row := by
  obtain ⟨old, hold, rfl⟩ := List.mem_map.mp hmem
  split at hopen
  · cases hopen
  · rename_i hother
    rw [if_neg hother]
    exact ⟨hold, hother⟩

theorem Named.mark (h : Named store.tables token) (workspaceId operation target : String) :
    Named (store.mark workspaceId operation target).tables token := by
  intro usageId husage
  obtain ⟨⟨found, hfound, hid⟩, hnamed⟩ := h usageId husage
  constructor
  · refine ⟨_, List.mem_map_of_mem hfound, ?_⟩
    split <;> exact hid
  · intro row hrow hrowId
    obtain ⟨old, hold, rfl⟩ := List.mem_map.mp hrow
    split at hrowId
    · rename_i hholds
      rw [if_pos hholds]
      exact hnamed old hold hrowId
    · rename_i hother
      rw [if_neg hother]
      exact hnamed old hold hrowId

theorem Named.append {added : GovernanceUsageRecord} (h : Named store.tables token)
    (hfresh : ∀ row ∈ store.tables.usage, row.usageId ≠ added.usageId) :
    Named { store.tables with usage := store.tables.usage ++ [added] } token := by
  intro usageId husage
  obtain ⟨⟨found, hfound, hid⟩, hnamed⟩ := h usageId husage
  refine ⟨⟨found, List.mem_append_left _ hfound, hid⟩, fun row hrow hrowId => ?_⟩
  rcases List.mem_append.mp hrow with hold | hnew
  · exact hnamed row hold hrowId
  · rw [List.mem_singleton.mp hnew, ← hid] at hrowId
    exact absurd hrowId.symm (hfresh found hfound)

theorem named_added {added : GovernanceUsageRecord}
    (hfresh : ∀ row ∈ store.tables.usage, row.usageId ≠ added.usageId)
    (husage : token.usageId = some added.usageId) (hworkspace : added.workspaceId = token.workspaceId)
    (hoperation : added.operation = token.operation) (htarget : added.targetId = some token.target) :
    Named { store.tables with usage := store.tables.usage ++ [added] } token := by
  intro usageId hid
  obtain rfl : added.usageId = usageId := Option.some.inj (husage.symm.trans hid)
  refine ⟨⟨added, by simp, rfl⟩, fun row hrow hrowId => ?_⟩
  rcases List.mem_append.mp hrow with hold | hnew
  · exact absurd hrowId (hfresh row hold)
  · rw [List.mem_singleton.mp hnew]
    exact ⟨hworkspace, hoperation, htarget⟩

theorem govern_cases (purpose : Purpose) (workspaceId target : String) (active : Nat) (now : Int)
    (decisionUuid usageUuid : String) :
    let outcome := store.govern purpose target
      (governanceCall purpose workspaceId target active now decisionUuid usageUuid)
    outcome = (store, .idle) ∨
    outcome = (store, .allowed purpose ⟨workspaceId, purpose.operation, target, none⟩) ∨
    (∀ row ∈ store.tables.usage, row.usageId ≠ s!"usage:{usageUuid}") ∧
      ∃ added : GovernanceUsageRecord, added.usageId = s!"usage:{usageUuid}" ∧
        added.workspaceId = workspaceId ∧ added.operation = purpose.operation ∧
        added.targetId = some target ∧
        outcome = ({ store with tables := { store.tables with usage := store.tables.usage ++ [added] } },
          .allowed purpose ⟨workspaceId, purpose.operation, target, some s!"usage:{usageUuid}"⟩) := by
  intro outcome
  by_cases hallow : ((governanceCall purpose workspaceId target active now decisionUuid usageUuid).decision
      store.tables).outcome = .allow
  · by_cases hrecorded : (governanceCall purpose workspaceId target active now decisionUuid
        usageUuid).Recorded store.tables
    · by_cases htaken : ∃ row ∈ store.tables.usage, row.usageId = s!"usage:{usageUuid}"
      · left
        simp only [outcome, Store.govern, hallow, hrecorded, ne_eq, not_true_eq_false, if_false, if_true]
        exact if_pos htaken
      · right; right
        refine ⟨fun row hrow hid => htaken ⟨row, hrow, hid⟩,
          (governanceCall purpose workspaceId target active now decisionUuid usageUuid).usageRow store.tables,
          rfl, rfl, rfl, rfl, ?_⟩
        · simp only [outcome, Store.govern, hallow, hrecorded, ne_eq, not_true_eq_false, if_false, if_true,
            GovernanceCall.evaluate]
          exact if_neg htaken
    · right; left
      simp only [outcome, Store.govern, hallow, hrecorded, ne_eq, not_true_eq_false, if_false]
      rfl
  · left
    simp only [outcome, Store.govern, ne_eq, hallow, not_false_eq_true, if_true]

def Changes (store : Store) (written : List TaskEntry) : Prop :=
  ∀ entry ∈ written, ∃ task, store.tasks.get? entry.taskId = some task ∧
    entry.operationId = task.operationId

theorem changes_changed (store : Store) (changes : List (String × TaskStatus)) :
    Changes store (store.changed changes) := by
  intro entry hentry
  obtain ⟨change, -, hchange⟩ := List.mem_filterMap.mp hentry
  obtain ⟨task, htask, rfl⟩ := Option.map_eq_some_iff.mp hchange
  exact ⟨task, (Table.key_of_get? htask).symm ▸ htask, rfl⟩

theorem hasOpen_putTasks {written : List TaskEntry} {operationId : String}
    (hchanges : Changes store written) (h : HasOpen store.tasks operationId) :
    HasOpen (store.putTasks written).tasks operationId ∨
      operationId ∈ written.map TaskEntry.operationId := by
  obtain ⟨task, htask, hoperation, hopen⟩ := h
  by_cases hwritten : ∃ entry ∈ written, entry.taskId = task.taskId
  · obtain ⟨entry, hentry, hid⟩ := hwritten
    obtain ⟨found, hfound, hsame⟩ := hchanges entry hentry
    rw [hid, Table.mem_rows.mp htask] at hfound
    right
    rw [← hoperation, Option.some.inj hfound, ← hsame]
    exact List.mem_map_of_mem hentry
  · have hother : ∀ entry ∈ written, entry.taskId ≠ task.taskId :=
      fun entry hentry hid => hwritten ⟨entry, hentry, hid⟩
    exact .inl ⟨task, Table.mem_rows_foldl_put htask hother, hoperation, hopen⟩

theorem changes_queued (store : Store) (operationId : String) :
    Changes store (store.queuedOf operationId) := by
  intro entry hentry
  obtain ⟨task, htask, rfl⟩ := List.mem_map.mp hentry
  exact ⟨task, Table.mem_rows.mp (List.mem_filter.mp htask).1, rfl⟩

theorem operation_of_queued {operationId other : String}
    (h : other ∈ (store.queuedOf operationId).map TaskEntry.operationId) : other = operationId := by
  rw [Store.queuedOf, List.map_map] at h
  obtain ⟨task, htask, rfl⟩ := List.mem_map.mp h
  exact (of_decide_eq_true (List.mem_filter.mp htask).2).1

end Tables

section Steps

variable {before after : State ι} {i : ι} {row : GovernanceUsageRecord}

theorem nothingLeaked_of_kept (hothers : ∀ j ≠ i, after.phase j = before.phase j)
    (hbefore : before.NothingLeaked)
    (hrows : ∀ row ∈ after.store.tables.usage, row.terminal = false → (after.phase i).Accounts row ∨
      row ∈ before.store.tables.usage ∧ ((before.phase i).Accounts row → (after.phase i).Accounts row))
    (htasks : ∀ row, before.store.Unfinished row → after.Accounted row) : after.NothingLeaked := by
  intro row hrow hopen
  rcases hrows row hrow hopen with hacting | ⟨hold, hkept⟩
  · exact .inl ⟨i, hacting⟩
  · rcases hbefore row hold hopen with ⟨j, haccounts⟩ | hunfinished
    · by_cases hj : j = i
      · exact .inl ⟨i, hkept (hj ▸ haccounts)⟩
      · exact .inl ⟨j, hothers j hj ▸ haccounts⟩
    · exact htasks row hunfinished

theorem nothingLeaked_iff_of_moved {drops : GovernanceUsageRecord → Prop}
    (hothers : ∀ j ≠ i, after.phase j = before.phase j)
    (htables : after.store.tables = before.store.tables) (htasks : after.store.tasks = before.store.tasks)
    (hdrops : ∀ row, drops row ↔ (before.phase i).Accounts row ∧ ¬ (after.phase i).Accounts row)
    (hbefore : before.NothingLeaked) :
    after.NothingLeaked ↔
      ∀ row ∈ before.store.tables.usage, row.terminal = false → drops row → before.Otherwise i row := by
  have hunfinished (row : GovernanceUsageRecord) : after.store.Unfinished row ↔
    before.store.Unfinished row := by
    rw [Store.Unfinished, htasks, Store.Unfinished]
  rw [State.NothingLeaked, htables]
  constructor
  · intro hafter row hrow hopen hdropped
    rcases hafter row hrow hopen with ⟨j, haccounts⟩ | hwork
    · by_cases hj : j = i
      · exact absurd (hj ▸ haccounts) ((hdrops row).mp hdropped).2
      · exact .inl ⟨j, hj, hothers j hj ▸ haccounts⟩
    · exact .inr ((hunfinished row).mp hwork)
  · intro hspared row hrow hopen
    have hother (h : before.Otherwise i row) : after.Accounted row := by
      rcases h with ⟨j, hj, haccounts⟩ | hwork
      · exact .inl ⟨j, (hothers j hj).symm ▸ haccounts⟩
      · exact .inr ((hunfinished row).mpr hwork)
    rcases hbefore row hrow hopen with ⟨j, haccounts⟩ | hwork
    · by_cases hj : j = i
      · by_cases hkept : (after.phase i).Accounts row
        · exact .inl ⟨i, hkept⟩
        · exact hother (hspared row hrow hopen ((hdrops row).mpr ⟨hj ▸ haccounts, hkept⟩))
      · exact hother (.inl ⟨j, hj, haccounts⟩)
    · exact hother (.inr hwork)

theorem nothingLeaked_iff_of_saved {written : List TaskEntry}
    (hphase : ∀ j row, (after.phase j).Accounts row ↔ (before.phase j).Accounts row)
    (hstore : after.store = before.store.putTasks written) (hbefore : before.NothingLeaked) :
    after.NothingLeaked ↔ ∀ row ∈ before.store.tables.usage, row.terminal = false →
      before.store.Unfinished row → ¬ (before.store.putTasks written).Unfinished row →
        ∃ j, (before.phase j).Accounts row := by
  have htables : after.store.tables = before.store.tables := by rw [hstore]; rfl
  rw [State.NothingLeaked, htables]
  constructor
  · intro hafter row hrow hopen _ hfinished
    rcases hafter row hrow hopen with ⟨j, haccounts⟩ | hwork
    · exact ⟨j, (hphase j row).mp haccounts⟩
    · rw [hstore] at hwork
      exact absurd hwork hfinished
  · intro hsaved row hrow hopen
    rcases hbefore row hrow hopen with ⟨j, haccounts⟩ | hwork
    · exact .inl ⟨j, (hphase j row).mpr haccounts⟩
    · by_cases hleft : (before.store.putTasks written).Unfinished row
      · exact .inr (hstore ▸ hleft)
      · obtain ⟨j, haccounts⟩ := hsaved row hrow hopen hwork hleft
        exact .inl ⟨j, (hphase j row).mpr haccounts⟩

theorem nothingLeaked_of_same (hothers : ∀ j ≠ i, after.phase j = before.phase j)
    (htables : after.store.tables = before.store.tables) (htasks : after.store.tasks = before.store.tasks)
    (haccounts : ∀ row, (before.phase i).Accounts row → (after.phase i).Accounts row)
    (hbefore : before.NothingLeaked) : after.NothingLeaked := by
  apply nothingLeaked_of_kept hothers hbefore
  · intro row hrow _
    rw [htables] at hrow
    exact .inr ⟨hrow, haccounts row⟩
  · intro row hwork
    right
    rwa [Store.Unfinished, htasks]

variable {statement : Statement} {phase : Phase}

theorem careful_iff_dropped (hphase : before.phase i = phase) (hsaved : statement.saved phase = []) :
    Careful ⟨before, (i, statement), after⟩ ↔ ∀ row ∈ before.store.tables.usage, row.terminal = false →
      statement.Drops row phase → before.Otherwise i row := by
  simp only [Careful, hphase, hsaved]
  apply forall₃_congr
  intro row _ _
  rw [and_iff_left_iff_imp]
  intro _ hwork hfinished
  exact absurd hwork hfinished

theorem careful_of_kept (hphase : before.phase i = phase) (hsaved : statement.saved phase = [])
    (hdrops : ∀ row, ¬ statement.Drops row phase) : Careful ⟨before, (i, statement), after⟩ :=
  (careful_iff_dropped hphase hsaved).mpr fun row _ _ hdropped => absurd hdropped (hdrops row)

theorem careful_iff_saved (hphase : before.phase i = phase) (hdrops : ∀ row, ¬ statement.Drops row phase) :
    Careful ⟨before, (i, statement), after⟩ ↔ ∀ row ∈ before.store.tables.usage, row.terminal = false →
      before.store.Unfinished row → ¬ (before.store.putTasks (statement.saved phase)).Unfinished row →
        ∃ j, (before.phase j).Accounts row := by
  simp only [Careful, hphase]
  apply forall₃_congr
  intro row _ _
  rw [and_iff_right_iff_imp]
  intro _ hdropped
  exact absurd hdropped (hdrops row)

theorem accounts_of_token {token : Token} (htoken : phase.token = some token)
    (hattends : ∀ operationId, ¬ phase.Attends operationId) :
    phase.Accounts row ↔ token.usageId = some row.usageId := by
  rw [Phase.Accounts, Phase.Recorded, htoken, or_iff_left]
  · exact ⟨fun ⟨_, hfound, hid⟩ => Option.some.inj hfound ▸ hid, fun hid => ⟨token, rfl, hid⟩⟩
  · exact fun ⟨operationId, _, hmem⟩ => hattends operationId hmem

theorem not_accounts (htoken : phase.token = none) (hattends : ∀ operationId, ¬ phase.Attends operationId) :
    ¬ phase.Accounts row := by
  rw [Phase.Accounts, Phase.Recorded, htoken]
  rintro (⟨token, hnone, -⟩ | ⟨operationId, -, hmem⟩)
  · cases hnone
  · exact hattends operationId hmem

@[simp] theorem accounts_allowed (purpose : Purpose) (token : Token) :
    (Phase.allowed purpose token).Accounts row ↔ token.usageId = some row.usageId :=
  accounts_of_token rfl fun _ => id

@[simp] theorem accounts_closing (token : Token) :
    (Phase.closing token).Accounts row ↔ token.usageId = some row.usageId := accounts_of_token rfl fun _ => id

@[simp] theorem accounts_dispatched (token : Token) :
    (Phase.dispatched token).Accounts row ↔ token.usageId = some row.usageId := accounts_of_token rfl fun _ => id

@[simp] theorem not_accounts_idle : ¬ Phase.idle.Accounts row := not_accounts rfl fun _ => id

@[simp] theorem not_accounts_counted (purpose : Purpose) (workspaceId target : String) (active : Nat) :
    ¬ (Phase.counted purpose workspaceId target active).Accounts row := not_accounts rfl fun _ => id

@[simp] theorem not_accounts_cancelling (operationId : String) :
    ¬ (Phase.cancelling operationId).Accounts row := not_accounts rfl fun _ => id

@[simp] theorem not_accounts_cancelled (operationId : String) :
    ¬ (Phase.cancelled operationId).Accounts row := not_accounts rfl fun _ => id

theorem accounts_attends (h : phase.token = none) :
    phase.Accounts row ↔ ∃ operationId, DispatchOf row operationId ∧ phase.Attends operationId := by
  rw [Phase.Accounts, Phase.Recorded, h, or_iff_right]
  rintro ⟨token, hnone, -⟩
  cases hnone

theorem attends_afterwards {operationIds : List String} {operationId : String} :
    (afterwards operationIds).Attends operationId ↔ operationId ∈ operationIds := by
  cases operationIds with
  | nil => exact iff_of_false id List.not_mem_nil
  | cons first later => exact Iff.rfl

theorem token_afterwards (operationIds : List String) : (afterwards operationIds).token = none := by
  cases operationIds <;> rfl

theorem nothingLeaked_of_release {token : Token} (hothers : ∀ j ≠ i, after.phase j = before.phase j)
    (hphase : before.phase i = .closing token)
    (hstore : after.store = before.store.mark token.workspaceId token.operation token.target)
    (hnamed : before.TokensNamed) (hbefore : before.NothingLeaked) : after.NothingLeaked := by
  apply nothingLeaked_of_kept hothers hbefore
  · intro row hrow hopen
    rw [hstore] at hrow
    obtain ⟨hold, hother⟩ := mem_mark hrow hopen
    refine .inr ⟨hold, fun haccounts => ?_⟩
    rw [hphase] at haccounts
    have hid : token.usageId = some row.usageId := (accounts_closing token).mp haccounts
    have htoken : token ∈ (before.phase i).token := by
      rw [hphase]
      rfl
    obtain ⟨hworkspace, hoperation, htarget⟩ := (hnamed i token htoken row.usageId hid).2 row hold rfl
    exact absurd ⟨hworkspace, hoperation, htarget, hopen⟩ hother
  · intro row hwork
    right
    rw [hstore]
    exact hwork

theorem nothingLeaked_of_mark {workspaceId operation target : String}
    (hothers : ∀ j ≠ i, after.phase j = before.phase j)
    (hstore : after.store = before.store.mark workspaceId operation target)
    (haccounts : ∀ row, (before.phase i).Accounts row → (after.phase i).Accounts row)
    (hbefore : before.NothingLeaked) : after.NothingLeaked := by
  apply nothingLeaked_of_kept hothers hbefore
  · intro row hrow hopen
    rw [hstore] at hrow
    exact .inr ⟨(mem_mark hrow hopen).1, haccounts row⟩
  · intro row hwork
    right
    rw [hstore]
    exact hwork

theorem nothingLeaked_of_work {written : List TaskEntry} (hothers : ∀ j ≠ i, after.phase j = before.phase j)
    (hstore : after.store = before.store.putTasks written) (hchanges : Changes before.store written)
    (hattends : ∀ operationId ∈ written.map TaskEntry.operationId, (after.phase i).Attends operationId)
    (haccounts : ∀ row, (before.phase i).Accounts row → (after.phase i).Accounts row)
    (hbefore : before.NothingLeaked) : after.NothingLeaked := by
  apply nothingLeaked_of_kept hothers hbefore
  · intro row hrow _
    rw [hstore] at hrow
    exact .inr ⟨hrow, haccounts row⟩
  · intro row hwork
    obtain ⟨operationId, hdispatch, hleft⟩ := hwork
    rcases hasOpen_putTasks hchanges hleft with hleft | hwritten
    · exact .inr ⟨operationId, hdispatch, hstore ▸ hleft⟩
    · exact .inl ⟨i, .inr ⟨operationId, hdispatch, hattends operationId hwritten⟩⟩

theorem persistOperation_same (store : Store) (operationId : String) (status : OperationStatus) :
    (store.persistOperation operationId status).tables = store.tables ∧
      (store.persistOperation operationId status).tasks = store.tasks := by
  unfold Store.persistOperation
  cases store.operations.get? operationId with
  | none => exact ⟨rfl, rfl⟩
  | some entry => exact ⟨rfl, rfl⟩

theorem attends_persisting {operationId other : String} {status : OperationStatus} {later : List String} :
    (Phase.persisting operationId status later).Attends other ↔ other = operationId ∨ other ∈ later := Iff.rfl

theorem accounts_persisting {operationId : String} {status : OperationStatus} {later : List String} :
    DispatchOf row operationId ∧ operationId ∉ later ↔
      (Phase.persisting operationId status later).Accounts row ∧ ¬ (afterwards later).Accounts row := by
  rw [accounts_attends rfl, accounts_attends (token_afterwards later)]
  simp only [attends_afterwards, attends_persisting]
  constructor
  · intro h
    refine ⟨⟨operationId, h.1, .inl rfl⟩, fun hlater => ?_⟩
    obtain ⟨other, hother, hmem⟩ := hlater
    have hsame : other = operationId := Option.some.inj (hother.2.symm.trans h.1.2)
    exact h.2 (hsame ▸ hmem)
  · intro h
    obtain ⟨⟨other, hother, rfl | hmem⟩, hnone⟩ := h
    · exact ⟨hother, fun hlater => hnone ⟨other, hother, hlater⟩⟩
    · exact absurd ⟨other, hother, hmem⟩ hnone

theorem accounts_reconciling {workspaceId operationId : String} {status : OperationStatus}
    {later : List String} (h : (Phase.reconciling (operationId :: later)).Accounts row) :
    (if released status then Phase.releasing workspaceId operationId status later
      else .persisting operationId status later).Accounts row := by
  rw [accounts_attends rfl] at h
  obtain ⟨other, hdispatch, hmem⟩ := h
  split
  · exact .inr ⟨other, hdispatch, List.mem_cons.mp hmem⟩
  · exact .inr ⟨other, hdispatch, List.mem_cons.mp hmem⟩

theorem attends_reconciled {workspaceId operationId : String} {status : OperationStatus}
    {later : List String} :
    (if released status then Phase.releasing workspaceId operationId status later
      else .persisting operationId status later).Attends operationId := by
  split
  · exact .inl rfl
  · exact .inl rfl

theorem run_leaks {store reached : Store} {left : Phase}
    (h : statement.run workspaceOf store phase = some (reached, left))
    (hstore : before.store = store) (hphase : before.phase i = phase) (hreached : after.store = reached)
    (hleft : after.phase i = left) (hothers : ∀ j ≠ i, after.phase j = before.phase j)
    (hnamed : before.TokensNamed) (hbefore : before.NothingLeaked) :
    after.NothingLeaked ↔ Careful ⟨before, (i, statement), after⟩ := by
  have hstays (hsame : reached.tables = store.tables ∧ reached.tasks = store.tasks)
      (hkept : ∀ row, phase.Accounts row → left.Accounts row) : after.NothingLeaked := by
    apply nothingLeaked_of_same hothers _ _ _ hbefore
    · rw [hreached, hstore, hsame.1]
    · rw [hreached, hstore, hsame.2]
    · rwa [hphase, hleft]
  have hmoves (hsame : reached.tables = store.tables ∧ reached.tasks = store.tasks)
      (hsaved : statement.saved phase = [])
      (hdrops : ∀ row, statement.Drops row phase ↔ phase.Accounts row ∧ ¬ left.Accounts row) :
      after.NothingLeaked ↔ Careful ⟨before, (i, statement), after⟩ := by
    rw [careful_iff_dropped hphase hsaved]
    apply nothingLeaked_iff_of_moved hothers _ _ _ hbefore
    · rw [hreached, hstore, hsame.1]
    · rw [hreached, hstore, hsame.2]
    · rwa [hphase, hleft]
  unfold Statement.run at h
  split at h
  case h_1 =>
    apply iff_of_true _ (careful_of_kept hphase rfl fun _ => id)
    split at h
    · cases h
      exact hstays ⟨rfl, rfl⟩ (by simp)
    · cases h
      exact hstays ⟨rfl, rfl⟩ (by simp)
  case h_2 now decisionUuid usageUuid purpose workspaceId target active =>
    apply iff_of_true _ (careful_of_kept hphase rfl fun _ => id)
    have hgovern := Option.some.inj h
    rcases govern_cases purpose workspaceId target active now decisionUuid usageUuid with
      hrefused | hunrecorded | ⟨-, added, hid, -, -, -, hrecorded⟩
    · cases hrefused.symm.trans hgovern
      exact hstays ⟨rfl, rfl⟩ (by simp)
    · cases hunrecorded.symm.trans hgovern
      exact hstays ⟨rfl, rfl⟩ (by simp)
    · cases hrecorded.symm.trans hgovern
      apply nothingLeaked_of_kept hothers hbefore
      · intro row hrow _
        rw [hreached] at hrow
        rcases List.mem_append.mp hrow with hold | hnew
        · right
          rw [hstore, hphase]
          exact ⟨hold, by simp⟩
        · left
          rw [hleft, accounts_allowed, List.mem_singleton.mp hnew, hid]
      · intro row hwork
        right
        rw [hreached]
        rwa [hstore] at hwork
  case h_3 =>
    cases h
    exact iff_of_true (hstays ⟨rfl, rfl⟩ (by simp)) (careful_of_kept hphase rfl fun _ => id)
  case h_4 =>
    cases h
    exact hmoves ⟨rfl, rfl⟩ rfl (by simp [Statement.Drops])
  case h_5 =>
    cases h
    exact iff_of_true (hstays ⟨rfl, rfl⟩ (by simp)) (careful_of_kept hphase rfl fun _ => id)
  case h_6 =>
    cases h
    exact iff_of_true (hstays ⟨rfl, rfl⟩ (by simp)) (careful_of_kept hphase rfl fun _ => id)
  case h_7 =>
    cases h
    rw [careful_iff_saved hphase fun _ => id]
    apply nothingLeaked_iff_of_saved _ (by rw [hreached, hstore]; rfl) hbefore
    intro j row
    by_cases hj : j = i
    · rw [hj, hleft, hphase, accounts_dispatched, accounts_allowed]
    · rw [hothers j hj]
  case h_8 =>
    cases h
    exact iff_of_true (hstays ⟨rfl, rfl⟩ (by simp)) (careful_of_kept hphase rfl fun _ => id)
  case h_9 status token =>
    cases h
    exact hmoves (persistOperation_same store token.target status) rfl (by simp [Statement.Drops])
  case h_10 =>
    cases h
    apply iff_of_true _ (careful_of_kept hphase rfl fun _ => id)
    exact nothingLeaked_of_release hothers hphase (by rw [hreached, hstore]) hnamed hbefore
  case h_11 =>
    apply iff_of_true _ (careful_of_kept hphase rfl fun _ => id)
    split at h
    · cases h
      exact hstays ⟨rfl, rfl⟩ (by simp)
    · cases h
      exact hstays ⟨rfl, rfl⟩ (by simp)
  case h_12 =>
    apply iff_of_true _ (careful_of_kept hphase rfl fun _ => id)
    split at h
    · cases h
      apply nothingLeaked_of_mark hothers (by rw [hreached, hstore]) _ hbefore
      rw [hphase]
      simp
    · cases h
      exact hstays ⟨rfl, rfl⟩ (by simp)
  case h_13 operationId =>
    cases h
    apply iff_of_true _ (careful_of_kept hphase rfl fun _ => id)
    exact hstays (persistOperation_same store operationId .cancelled) (by simp)
  case h_14 changes =>
    cases h
    apply iff_of_true _ (careful_of_kept hphase rfl fun _ => id)
    have hchanges : Changes before.store (store.changed changes) := hstore.symm ▸ changes_changed store changes
    apply nothingLeaked_of_work hothers (by rw [hreached, hstore]) hchanges _ _ hbefore
    · intro operationId hmem
      rw [hleft, attends_afterwards, List.mem_dedup]
      exact hmem
    · rw [hphase]
      simp
  case h_15 status operationId later =>
    apply iff_of_true _ (careful_of_kept hphase rfl fun _ => id)
    split at h
    · cases h
      have haccounts : ∀ row, (before.phase i).Accounts row → (after.phase i).Accounts row := by
        rw [hphase, hleft]
        exact fun row => accounts_reconciling
      by_cases hfailed : status = .failed
      · rw [if_pos hfailed] at hreached
        apply nothingLeaked_of_work hothers (by rw [hreached, hstore])
          (hstore ▸ changes_queued store operationId)
          _ haccounts hbefore
        intro other hmem
        rw [hleft, operation_of_queued hmem]
        exact attends_reconciled
      · rw [if_neg hfailed] at hreached
        exact nothingLeaked_of_same hothers (by rw [hreached, hstore])
          (by rw [hreached, hstore]) haccounts hbefore
    · cases h
  case h_16 =>
    cases h
    apply iff_of_true _ (careful_of_kept hphase rfl fun _ => id)
    apply nothingLeaked_of_mark hothers (by rw [hreached, hstore]) _ hbefore
    rw [hphase, hleft]
    intro row haccounts
    rw [accounts_attends rfl] at haccounts ⊢
    exact haccounts
  case h_17 =>
    cases h
    exact hmoves (persistOperation_same _ _ _) rfl fun row => accounts_persisting
  case h_18 =>
    cases h
    exact hmoves ⟨rfl, rfl⟩ rfl (by simp [Statement.Drops])
  case h_19 =>
    cases h
    rw [careful_iff_saved hphase fun _ => id]
    apply nothingLeaked_iff_of_saved _ (by rw [hreached, hstore]; rfl) hbefore
    intro j row
    by_cases hj : j = i
    · rw [hj, hleft, hphase]
    · rw [hothers j hj]
  case h_20 =>
    cases h
    exact iff_of_true (hstays ⟨rfl, rfl⟩ (by simp)) (careful_of_kept hphase rfl fun _ => id)
  case h_21 => cases h

def Statement.quiet : Statement → Bool
  | .create none | .enqueue _ | .project _ | .persist | .raised | .saveTask _ => false
  | _ => true

theorem careful_of_quiet {transition : Transition (State ι) (ι × Statement)}
    (h : transition.label.2.quiet = true) : Careful transition := by
  obtain ⟨before, ⟨i, statement⟩, after⟩ := transition
  have hsaved (phase : Phase) : statement.saved phase = [] := by
    cases statement with
    | enqueue => cases h
    | saveTask => cases h
    | _ => rfl
  have hdrops (phase : Phase) (row : GovernanceUsageRecord) : ¬ statement.Drops row phase := by
    cases statement with
    | create made =>
      cases made with
      | none => cases h
      | some operationId => exact id
    | project => cases h
    | persist => cases h
    | raised => cases h
    | _ => exact id
  exact careful_of_kept rfl (hsaved _) (hdrops _)

theorem run_named {store reached : Store} {left : Phase}
    (h : statement.run workspaceOf store phase = some (reached, left)) :
    (∀ token, Named store.tables token → Named reached.tables token) ∧
      ∀ token ∈ left.token, token ∈ phase.token ∨ Named reached.tables token := by
  have hsame (htables : reached.tables = store.tables) (htoken : left.token = phase.token ∨ left.token = none) :
      (∀ token, Named store.tables token → Named reached.tables token) ∧
        ∀ token ∈ left.token, token ∈ phase.token ∨ Named reached.tables token := by
    refine ⟨fun token hnamed => htables ▸ hnamed, fun token hmem => ?_⟩
    rcases htoken with hkept | hnone
    · exact .inl (hkept ▸ hmem)
    · rw [hnone] at hmem
      cases hmem
  unfold Statement.run at h
  split at h
  case h_1 =>
    split at h
    · cases h
      exact hsame rfl (.inr rfl)
    · cases h
      exact hsame rfl (.inr rfl)
  case h_2 now decisionUuid usageUuid purpose workspaceId target active =>
    have hgovern := Option.some.inj h
    rcases govern_cases purpose workspaceId target active now decisionUuid usageUuid with
      hrefused | hunrecorded | ⟨hfresh, added, hid, hworkspace, hoperation, htarget, hrecorded⟩
    · cases hrefused.symm.trans hgovern
      exact hsame rfl (.inr rfl)
    · cases hunrecorded.symm.trans hgovern
      refine ⟨fun token hnamed => hnamed, fun token hmem => .inr ?_⟩
      cases hmem
      exact nofun
    · cases hrecorded.symm.trans hgovern
      rw [← hid] at hfresh
      refine ⟨fun token hnamed => hnamed.append hfresh, fun token hmem => .inr ?_⟩
      cases hmem
      exact named_added hfresh (congrArg some hid.symm) hworkspace hoperation htarget
  case h_9 status token =>
    cases h
    exact hsame (persistOperation_same store token.target status).1 (.inr rfl)
  case h_10 =>
    cases h
    exact ⟨fun token hnamed => hnamed.mark _ _ _, nofun⟩
  case h_11 =>
    split at h
    · cases h
      refine hsame rfl (.inr ?_)
      split <;> rfl
    · cases h
      exact hsame rfl (.inr rfl)
  case h_12 =>
    split at h
    · cases h
      exact ⟨fun token hnamed => hnamed.mark _ _ _, nofun⟩
    · cases h
      exact hsame rfl (.inr rfl)
  case h_13 operationId =>
    cases h
    exact hsame (persistOperation_same store operationId .cancelled).1 (.inr rfl)
  case h_14 =>
    cases h
    exact hsame rfl (.inr (token_afterwards _))
  case h_15 =>
    split at h
    · cases h
      apply hsame
      · split <;> rfl
      · right
        split <;> rfl
    · cases h
  case h_16 =>
    cases h
    exact ⟨fun token hnamed => hnamed.mark _ _ _, nofun⟩
  case h_17 =>
    cases h
    exact hsame (persistOperation_same _ _ _).1 (.inr (token_afterwards _))
  case h_21 => cases h
  -- the other statements keep the tables, and the token of the process if any
  all_goals
    cases h
    first
      | exact hsame rfl (.inl rfl)
      | exact hsame rfl (.inr rfl)

theorem State.TokensNamed.step [DecidableEq ι] {label : ι × Statement}
    (hnamed : before.TokensNamed) (h : step workspaceOf label before = some after) : after.TokensNamed := by
  obtain ⟨hrun, hothers⟩ := step_outcome h
  obtain ⟨hkept, hnew⟩ := run_named hrun
  intro j token htoken
  by_cases hj : j = label.1
  · rw [hj] at htoken
    rcases hnew token htoken with hold | hfound
    · exact hkept token (hnamed label.1 token hold)
    · exact hfound
  · rw [hothers j hj] at htoken
    exact hkept token (hnamed j token htoken)

theorem not_serialized_of_nothingLeaked (hnamed : before.TokensNamed) (hbefore : before.NothingLeaked)
    {call : GovernanceCall} {target : String} (htarget : call.targetId = some target)
    (hended : ∀ j, ∀ token ∈ (before.phase j).token,
      (token.workspaceId, token.operation, token.target) ≠ (call.workspaceId, call.operation, target))
    (hover : call.operation = "operation.dispatch" →
      ¬ HasOpen before.store.tasks target ∧ ∀ j, ¬ (before.phase j).Attends target) :
    ¬ call.Serialized before.store.tables := by
  rintro ⟨found, hfound, -, row, hrow, hworkspace, hoperation, hheld, hopen⟩
  obtain rfl : found = target := Option.some.inj (hfound.symm.trans htarget)
  have hdispatch {operationId : String} (h : DispatchOf row operationId) :
      call.operation = "operation.dispatch" ∧ operationId = found :=
    ⟨hoperation.symm.trans h.1, Option.some.inj (h.2.symm.trans hheld)⟩
  rcases hbefore row hrow hopen with ⟨j, ⟨token, htoken, hid⟩ | ⟨operationId, hof, hattends⟩⟩ |
    ⟨operationId, hof, hwork⟩
  · obtain ⟨hw, ho, ht⟩ := (hnamed j token htoken row.usageId hid).2 row hrow rfl
    have hsame : token.target = found := Option.some.inj (ht.symm.trans hheld)
    exact hended j token htoken (by rw [← hw, ← ho, hsame, hworkspace, hoperation])
  · obtain ⟨hcall, rfl⟩ := hdispatch hof
    exact (hover hcall).2 j hattends
  · obtain ⟨hcall, rfl⟩ := hdispatch hof
    exact (hover hcall).1 hwork

end Steps

section Runs

variable [DecidableEq ι] {start reached : State ι} {past : List (Transition (State ι) (ι × Statement))}

/-- Nothing is leaked, and no request is refused for what has ended. -/
def State.TokensReturned (state : State ι) : Prop :=
  state.NothingLeaked ∧
    ∀ (call : GovernanceCall) (target : String), call.targetId = some target →
      (∀ j, ∀ token ∈ (state.phase j).token,
        (token.workspaceId, token.operation, token.target) ≠ (call.workspaceId, call.operation, target)) →
      (call.operation = "operation.dispatch" →
        ¬ HasOpen state.store.tasks target ∧ ∀ j, ¬ (state.phase j).Attends target) →
      ¬ call.Serialized state.store.tables

/-- Tokens are returned in every state of a run exactly when every statement of it is
careful. -/
theorem tokens_returned_iff (hrun : Run (step workspaceOf) start past reached)
    (hnamed : start.TokensNamed) (hstart : start.NothingLeaked) :
    (∀ transition ∈ past, transition.after.TokensReturned) ↔ ∀ transition ∈ past, Careful transition := by
  have hkeeps : ∀ transition ∈ past,
      step workspaceOf transition.label transition.before = some transition.after →
        transition.before.TokensNamed → transition.after.TokensNamed :=
    fun transition _ hstep hbefore => hbefore.step hstep
  have hleaks : (∀ transition ∈ past, transition.after.NothingLeaked) ↔
      ∀ transition ∈ past, Careful transition := by
    apply hrun.forall_after_iff_of hnamed hstart hkeeps
    intro transition _ hstep hbefore hnothing
    obtain ⟨houtcome, hothers⟩ := step_outcome hstep
    exact run_leaks houtcome rfl rfl rfl rfl hothers hbefore hnothing
  rw [← hleaks]
  constructor
  · intro hreturned transition hmem
    exact (hreturned transition hmem).1
  · intro hnothing transition hmem
    obtain ⟨earlier, hearlier, hsubset, hstep⟩ := hrun.step_of_mem hmem
    have hbefore : transition.before.TokensNamed :=
      hearlier.invariant hnamed fun passed hpassed => hkeeps passed (hsubset hpassed)
    refine ⟨hnothing transition hmem, fun call target htarget hended hover => ?_⟩
    exact not_serialized_of_nothingLeaked (hbefore.step hstep) (hnothing transition hmem) htarget hended hover

end Runs

/-! Creations in workspace `w1` are serialized by their environment. -/
namespace CreateFleet

theorem start_named : start.TokensNamed := nofun

theorem start_nothingLeaked : start.NothingLeaked := nofun

theorem inTurn_returned : (transitions inTurn).length = 6 ∧
    ∀ transition ∈ transitions inTurn, transition.after.TokensReturned := by
  obtain ⟨reached, hrun⟩ : ∃ reached, Run (step environments) start (transitions inTurn) reached :=
    Run.of_isSome (by decide)
  refine ⟨by decide, (tokens_returned_iff hrun start_named start_nothingLeaked).mpr ?_⟩
  have hquiet : ∀ transition ∈ transitions inTurn, transition.label.2.quiet = true := by decide
  exact fun transition htransition => careful_of_quiet (hquiet transition htransition)

def unknownProfile : List (Bool × Statement) := [
  (false, .count .create "local"), (false, .govern 0 "1" "1"), (false, .create none)]

/-- The request has ended, nothing was created, and the next request for the environment is
refused for its sake. -/
theorem unknownProfile_leaks :
    (∃ reached, Run (step environments) start (transitions unknownProfile) reached) ∧
      start.TokensNamed ∧ start.NothingLeaked ∧
      ∃ transition ∈ transitions unknownProfile, (∀ j, transition.after.phase j = .idle) ∧
        transition.after.store.activeOperations environments "w1" = 0 ∧
        ¬ transition.after.TokensReturned ∧
        ((governanceCall .create "w1" "local" 0 1 "2" "2").decision transition.after.store.tables).reasons =
          ["target serialization required by active"] := by
  refine ⟨Run.of_isSome (by decide), start_named, start_nothingLeaked, ?_⟩
  have hlast : ((transitions unknownProfile)[2]?).map (fun transition =>
      (transition.after.phase false, transition.after.phase true,
        transition.after.store.activeOperations environments "w1",
        ((governanceCall .create "w1" "local" 0 1 "2" "2").decision transition.after.store.tables).reasons,
        decide ((governanceCall .create "w1" "local" 0 1 "2" "2").Serialized transition.after.store.tables))) =
      some (.idle, .idle, 0, ["target serialization required by active"], true) := by decide
  obtain ⟨transition, htransition, hfacts⟩ := Option.map_eq_some_iff.mp hlast
  simp only [Prod.mk.injEq, decide_eq_true_eq] at hfacts
  obtain ⟨hfirst, hsecond, hnone, hreasons, hserialized⟩ := hfacts
  have hidle (j : Bool) : transition.after.phase j = .idle := by
    cases j with
    | false => exact hfirst
    | true => exact hsecond
  refine ⟨transition, List.mem_of_getElem? htransition, hidle, hnone, fun hreturned => ?_, hreasons⟩
  apply hreturned.2 (governanceCall .create "w1" "local" 0 1 "2" "2") "local" rfl _ nofun hserialized
  intro j token htoken
  rw [hidle j] at htoken
  cases htoken

end CreateFleet

end KubeOps.ControlPlane.Governed
