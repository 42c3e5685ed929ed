import KubeOps.ControlPlane.GovernedRequests

/-! The number of active operations of a workspace under the interleavings of governed
requests. A request is decided by a count that it has taken earlier, and it creates its
operation after it has given the lock back. -/
namespace KubeOps.ControlPlane.Governed

open KubeOps.Foundation KubeOps.Models KubeOps.Governance

variable {ι : Type} {workspaceOf : String → Option String}

section Writes

def Statement.written : Statement → Store → Phase → Option OperationEntry
  | .create made, _, .allowed .create token | .create made, _, .allowed .materialize token =>
    made.map fun operationId => ⟨operationId, token.target, .created⟩
  | .project status, store, .dispatched token =>
    (store.operations.get? token.target).map fun entry => { entry with status }
  | .persist, store, .cancelled operationId =>
    (store.operations.get? operationId).map fun entry => { entry with status := .cancelled }
  | .persist, store, .persisting operationId status _ =>
    (store.operations.get? operationId).map fun entry => { entry with status }
  | .saveOperation entry, _, .idle => some entry
  | _, _, _ => none

def Store.afterWrite (store : Store) : Option OperationEntry →
    Table String OperationEntry OperationEntry.operationId
  | some entry => store.operations.put entry
  | none => store.operations

/-- Nothing but the row it writes changes among the operations, and no rule changes. -/
structure Writes (store reached : Store) (written : Option OperationEntry) : Prop where
  operations : reached.operations = store.afterWrite written
  rules : reached.tables.concurrencyRules = store.tables.concurrencyRules

variable {store : Store}

theorem Writes.put (entry : OperationEntry) : Writes store (store.putOperation entry) (some entry) :=
  ⟨rfl, rfl⟩

theorem Writes.persist (operationId : String) (status : OperationStatus) :
    Writes store (store.persistOperation operationId status)
      ((store.operations.get? operationId).map fun entry => { entry with status }) := by
  unfold Store.persistOperation
  cases store.operations.get? operationId with
  | none => exact ⟨rfl, rfl⟩
  | some entry => exact Writes.put _

theorem Writes.govern (purpose : Purpose) (target : String) (call : GovernanceCall) :
    Writes store (store.govern purpose target call).1 none := by
  unfold Store.govern
  split
  · exact ⟨rfl, rfl⟩
  · split
    · split
      · exact ⟨rfl, rfl⟩
      · rename_i hrecorded _
        refine ⟨rfl, ?_⟩
        simp only [GovernanceCall.evaluate, if_pos hrecorded]
    · exact ⟨rfl, rfl⟩

theorem Statement.writes {statement : Statement} {phase : Phase} {outcome : Store × Phase}
    (h : statement.run workspaceOf store phase = some outcome) :
    Writes store outcome.1 (statement.written store phase) := by
  unfold Statement.run at h
  split at h
  · split at h <;> cases h <;> exact ⟨rfl, rfl⟩
  · cases h
    exact Writes.govern _ _ _
  · cases h
    exact Writes.put _
  · cases h
    exact ⟨rfl, rfl⟩
  · cases h
    exact Writes.put _
  · cases h
    exact ⟨rfl, rfl⟩
  · cases h
    exact ⟨rfl, rfl⟩
  · cases h
    exact ⟨rfl, rfl⟩
  · cases h
    exact Writes.persist _ _
  · cases h
    exact ⟨rfl, rfl⟩
  · split at h <;> cases h <;> exact ⟨rfl, rfl⟩
  · split at h <;> cases h <;> exact ⟨rfl, rfl⟩
  · cases h
    exact Writes.persist _ _
  · cases h
    exact ⟨rfl, rfl⟩
  · split at h
    · cases h
      dsimp only
      split <;> exact ⟨rfl, rfl⟩
    · cases h
  · cases h
    exact ⟨rfl, rfl⟩
  · cases h
    exact Writes.persist _ _
  · cases h
    exact ⟨rfl, rfl⟩
  · cases h
    exact ⟨rfl, rfl⟩
  · cases h
    exact Writes.put _
  · cases h

end Writes

section Counting

variable {store reached : Store} {workspaceId : String} {entry : OperationEntry}

theorem activeOperations_put (workspaceOf : String → Option String) (workspaceId : String)
    (h : reached.operations = store.operations.put entry) :
    reached.activeOperations workspaceOf workspaceId +
        (if ∃ old ∈ store.operations.get? entry.operationId, Store.Active workspaceOf workspaceId old
          then 1 else 0) =
      store.activeOperations workspaceOf workspaceId +
        if Store.Active workspaceOf workspaceId entry then 1 else 0 := by
  have hcount := Table.countP_rows_put store.operations entry fun entry =>
    Store.Active workspaceOf workspaceId entry
  rw [Store.activeOperations, Store.activeOperations, h]
  cases hold : store.operations.get? entry.operationId with
  | none => simpa [hold, List.countP_cons] using hcount
  | some old => simpa [hold, List.countP_cons] using hcount

/-- No rule on creations has more active operations in its workspace than it permits. -/
def Store.WithinLimits (workspaceOf : String → Option String) (store : Store) : Prop :=
  ∀ workspaceId, ∀ rule ∈ store.tables.enabledConcurrencyRules workspaceId,
    Names rule.operationType "operation.create" →
      store.activeOperations workspaceOf workspaceId ≤ rule.maximumActive

def State.WithinLimits (workspaceOf : String → Option String) (state : State ι) : Prop :=
  state.store.WithinLimits workspaceOf

/-- A row that becomes active finds fewer active operations than each rule permits. -/
def Store.Room (workspaceOf : String → Option String) (store : Store) (entry : OperationEntry) : Prop :=
  ∀ workspaceId, Store.Active workspaceOf workspaceId entry →
    (∀ old ∈ store.operations.get? entry.operationId, ¬ Store.Active workspaceOf workspaceId old) →
      ∀ rule ∈ store.tables.enabledConcurrencyRules workspaceId,
        Names rule.operationType "operation.create" →
          store.activeOperations workspaceOf workspaceId < rule.maximumActive

theorem Writes.enabled {written : Option OperationEntry} (h : Writes store reached written)
    (workspaceId : String) : reached.tables.enabledConcurrencyRules workspaceId =
      store.tables.enabledConcurrencyRules workspaceId := by
  rw [GovernanceTables.enabledConcurrencyRules, h.rules, GovernanceTables.enabledConcurrencyRules]

theorem Writes.withinLimits_iff {written : Option OperationEntry} (h : Writes store reached written)
    (hwithin : store.WithinLimits workspaceOf) :
    reached.WithinLimits workspaceOf ↔ ∀ entry ∈ written, store.Room workspaceOf entry := by
  cases written with
  | none =>
    have hsame : reached.WithinLimits workspaceOf := by
      intro workspaceId rule hrule hnames
      rw [h.enabled] at hrule
      rw [Store.activeOperations, show reached.operations = store.operations from h.operations]
      exact hwithin workspaceId rule hrule hnames
    exact iff_of_true hsame nofun
  | some entry =>
    have hcount (workspaceId : String) := activeOperations_put workspaceOf workspaceId h.operations
    simp only [Option.mem_def, Option.some.injEq, forall_eq']
    constructor
    · intro hreached workspaceId hactive hold rule hrule hnames
      have hle := hreached workspaceId rule (h.enabled workspaceId ▸ hrule) hnames
      have hplus := hcount workspaceId
      rw [if_pos hactive, if_neg (by simpa using hold)] at hplus
      omega
    · intro hroom workspaceId rule hrule hnames
      rw [h.enabled] at hrule
      have hle := hwithin workspaceId rule hrule hnames
      have hplus := hcount workspaceId
      by_cases hactive : Store.Active workspaceOf workspaceId entry
      · by_cases hold : ∃ old ∈ store.operations.get? entry.operationId,
          Store.Active workspaceOf workspaceId old
        · rw [if_pos hactive, if_pos hold] at hplus
          omega
        · have hless := hroom workspaceId hactive (by simpa using hold) rule hrule hnames
          rw [if_pos hactive, if_neg hold] at hplus
          omega
      · rw [if_neg hactive] at hplus
        omega

end Counting

section Runs

variable [DecidableEq ι] {start reached : State ι}
  {past : List (Transition (State ι) (ι × Statement))}

def Roomy (workspaceOf : String → Option String) (transition : Transition (State ι) (ι × Statement)) :
    Prop :=
  ∀ entry ∈ transition.label.2.written transition.before.store
      (transition.before.phase transition.label.1),
    transition.before.store.Room workspaceOf entry

theorem step_outcome {label : ι × Statement} {before after : State ι}
    (h : step workspaceOf label before = some after) :
    label.2.run workspaceOf before.store (before.phase label.1) =
      some (after.store, after.phase label.1) ∧
      ∀ other ≠ label.1, after.phase other = before.phase other := by
  obtain ⟨outcome, hrun, rfl⟩ := Option.map_eq_some_iff.mp h
  refine ⟨?_, fun other hne => Function.update_of_ne hne _ _⟩
  rw [hrun]
  simp

end Runs

/-! Workspace `w1` permits one active operation; two environments belong to it. -/
namespace CreateFleet

def environments (environmentId : String) : Option String :=
  if environmentId = "local" ∨ environmentId = "stage" then some "w1" else none

def oneOperation : ConcurrencyRule :=
  { ruleId := "active", scopeType := "workspace", scopeId := "w1", operationType := "operation.create",
    maximumActive := 1, valid_maximum := CreateLimits.valid_one }

def start : State Bool where
  store := {
    tables := { rateRules := Table.empty, concurrencyRules := Table.empty.put ⟨"w1", oneOperation⟩ }
    operations := Table.empty
    tasks := Table.empty }
  phase _ := .idle

/-- The first request is through before the second counts, which is then delayed. -/
def inTurn : List (Bool × Statement) := [
  (false, .count .create "local"), (false, .govern 0 "1" "1"), (false, .create (some "operation:local:1")),
  (false, .release), (true, .count .create "stage"), (true, .govern 1 "2" "2")]

/-- Both requests have counted before the first creates its operation. -/
def overtaken : List (Bool × Statement) := [
  (false, .count .create "local"), (true, .count .create "stage"),
  (false, .govern 0 "1" "1"), (false, .create (some "operation:local:1")), (false, .release),
  (true, .govern 1 "2" "2"), (true, .create (some "operation:stage:2"))]

def transitions (labels : List (Bool × Statement)) : List (Transition (State Bool) (Bool × Statement)) :=
  (history (step environments) start labels).getD []

theorem start_within : start.WithinLimits environments := fun _ _ _ _ => Nat.zero_le _

theorem room_of_none {store : Store} {entry : OperationEntry} {workspaceId : String}
    (henvironment : environments entry.environmentId = some workspaceId)
    (hnone : store.activeOperations environments workspaceId = 0) : store.Room environments entry := by
  intro other hactive _ rule _ _
  obtain rfl : workspaceId = other := Option.some.inj (henvironment.symm.trans hactive.1)
  rw [hnone]
  exact rule.valid_maximum

end CreateFleet

end KubeOps.ControlPlane.Governed
