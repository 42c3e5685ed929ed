import KubeOps.Execution.DockerHost
import KubeOps.Foundation.Interleaving
import KubeOps.Scheduling.Materialization

/-! The life of one schedule: requests that post, evaluate, materialize and cancel it,
and passes of the scheduler. Views read the row and write it later from what they
read; a pass holds the row locked while its transaction lasts, and one that raises
marks the schedule as blocked in statements of their own. -/
namespace KubeOps.Scheduling

open KubeOps.Foundation KubeOps.Models

variable {ι : Type}

section Statements

/-- The row of the schedule, and what has been created for it. -/
structure Store where
  row : Option ScheduleRow
  created : List Materialization
deriving DecidableEq

/-- What a view does after it has read the row. -/
inductive Request where
  | evaluate | materialize | cancel
deriving DecidableEq, Repr

/-- How far a process is, with the record it holds. -/
inductive Phase where
  | idle
  | evaluating (materializes : Bool) (record : ScheduleRow)
  | materializing (record : ScheduleRow)
  | recording (record : ScheduleRow) (operationId : String)
  | cancelling (record : ScheduleRow)
  | listed
  | failed
  | marked
  | noting (record : ScheduleRow)
deriving DecidableEq

/-- The statements of the views, then those of a pass. A view that is refused before it
reads or writes the row takes no statement. -/
inductive Statement where
  | post (body : ScheduleFields) (status : Option ScheduleStatus)
  | read (request : Request)
  | evaluate (windows : List MaintenanceWindow) (now : Int)
  | materialize (target : Target)
  | recordOperation
  | cancel
  | list
  | skipLocked
  | runOnce (turn : Pass)
  | rollback
  | markBlocked
  | readBlocked
  | noteError

def Store.save (store : Store) (record : ScheduleRow) : Store := { store with row := some record }

def Store.create (store : Store) (product : Materialization) : Store :=
  { store with created := store.created ++ [product] }

/-- The schedule a request posts; its status is `pending` unless the body says otherwise. -/
def posted (body : ScheduleFields) (status : Option ScheduleStatus) : ScheduleFields :=
  body.withStatus (status.getD .pending)

def ScheduleStatus.listed (status : ScheduleStatus) : Bool := status ∈ [pending, delayed, ready, blocked]

variable (services : Services)

def Request.next (row : ScheduleRow) : Request → Phase
  | evaluate => .evaluating false row
  | materialize => .evaluating true row
  | cancel =>
    match row.payload.validate with
    | .error _ => .idle
    | .ok () => if row.payload.status = .materialized then .idle else .cancelling row

/-- `none` where the statement is not the next one of the process. -/
def Statement.run : Statement → Store → Phase → Option (Store × Phase)
  | .post body status, store, .idle =>
    match (posted body status).validate with
    | .error _ => some (store, .idle)
    | .ok () => some (store.save (.of (posted body status)), .evaluating false (.of (posted body status)))
  | .read request, store, .idle => some (store, (store.row.map request.next).getD .idle)
  | .evaluate windows now, store, .evaluating materializes record =>
    match evaluateScheduleRecord services.python windows now record with
    | .error _ => some (store, .idle)
    | .ok (record, decision) => some (store.save record,
      if materializes ∧ decision.outcome = .ready then .materializing record else .idle)
  | .materialize target, store, .materializing record =>
    match services.attempt record.payload target with
    | .raised => some (store, .idle)
    | .refused status => some (store.save (.of (record.payload.withStatus status)), .idle)
    | .made (.fleetPlan planId) =>
      some ((store.save (.of (record.payload.materialized (.fleetPlan planId)))).create (.fleetPlan planId),
        .idle)
    | .made (.operation operationId) =>
      some (store.create (.operation operationId), .recording record operationId)
  | .recordOperation, store, .recording record operationId =>
    some (store.save (.of (record.payload.materialized (.operation operationId))), .idle)
  | .cancel, store, .cancelling record => some (store.save (.of (record.payload.withStatus .cancelled)), .idle)
  | .list, store, .idle => some (store, if store.row.any (·.status.listed) then .listed else .idle)
  | .skipLocked, store, .listed => some (store, .idle)
  | .runOnce turn, store, .listed =>
    match store.row with
    | none => some (store, .idle)
    | some row =>
      match services.runOnce turn row with
      | none => some (store, .failed)
      | some (record, product) => some (⟨some record, store.created ++ product.toList⟩, .idle)
  | .rollback, store, .listed => some (store, .failed)
  | .markBlocked, store, .failed =>
    some ({ store with row := store.row.map fun row => { row with status := .blocked } }, .marked)
  | .readBlocked, store, .marked => some (store, (store.row.map .noting).getD .idle)
  | .noteError, store, .noting record =>
    some ({ store with row := store.row.map fun row =>
      { row with payload := record.payload.withStatus .blocked } }, .idle)
  | _, _, _ => none

/-- Any number of requests and passes, over the one row. -/
structure Schedules (ι : Type) where
  store : Store
  phase : ι → Phase

def step [DecidableEq ι] (label : ι × Statement) (schedules : Schedules ι) : Option (Schedules ι) :=
  (label.2.run services schedules.store (schedules.phase label.1)).map fun outcome =>
    { store := outcome.1, phase := Function.update schedules.phase label.1 outcome.2 }

end Statements

section Evaluations

variable {python : Python} {services : Services} {windows : List MaintenanceWindow} {now : Int}
  {record updated row : ScheduleRow} {decision : ScheduleDecision} {turn : Pass}

theorem evaluate_ok (h : evaluateScheduleRecord python windows now record = .ok (updated, decision)) :
    record.payload.validate = .ok () ∧
      decision.outcome = (SchedulingService.verdict record.payload.toScheduledOperation windows now).outcome ∧
      updated = .of (record.payload.withStatus (decision.outcome.nextStatus record.payload.status)) := by
  obtain ⟨found, hvalid, h⟩ := except_bind_eq_ok h
  cases h
  exact ⟨hvalid, rfl, rfl⟩

theorem nextStatus_of_terminal {schedule : ScheduledOperation} (h : schedule.status.terminal = true) :
    (SchedulingService.verdict schedule windows now).outcome.nextStatus schedule.status =
      schedule.status := by
  rw [SchedulingService.verdict, if_pos h]
  rfl

@[mk_iff]
structure Services.Creates (services : Services) (turn : Pass) (row : ScheduleRow) : Prop where
  automatic : row.payload.materializeAutomatically = true
  ready : (SchedulingService.verdict row.payload.toScheduledOperation turn.windows turn.now).outcome = .ready
  stillReady : (SchedulingService.verdict (row.payload.withStatus .ready).toScheduledOperation
    turn.laterWindows turn.later).outcome = .ready
  made : (services.attempt row.payload turn.target).product.isSome = true

theorem runOnce_cases {product : Option Materialization}
    (h : services.runOnce turn row = some (record, product)) :
    (product = none ∧ ∃ schedule : ScheduleFields, record = .of schedule ∧
      (row.payload.status.terminal = true → schedule.status = row.payload.status)) ∨
    ∃ made, product = some made ∧ services.Creates turn row ∧ row.payload.status.terminal = false ∧
      ∃ schedule : ScheduleFields, record = .of schedule ∧ schedule.status = .materialized := by
  unfold Services.runOnce at h
  split at h
  · cases h
  · rename_i first decision hfirst
    obtain ⟨-, houtcome, rfl⟩ := evaluate_ok hfirst
    split at h
    · rename_i hready
      obtain ⟨hready, hautomatic⟩ := hready
      have hopen : row.payload.status.terminal = false := by
        rw [houtcome] at hready
        exact (SchedulingService.timely_of_ready hready).1
      have hclosed {status : ScheduleStatus} (hterminal : row.payload.status.terminal = true) :
          status = row.payload.status := by
        rw [hopen] at hterminal
        cases hterminal
      rw [hready] at h
      split at h
      · cases h
      · rename_i second later hsecond
        obtain ⟨-, hlater, rfl⟩ := evaluate_ok hsecond
        split at h
        · cases h
          exact .inl ⟨rfl, _, rfl, hclosed⟩
        · rename_i hstill
          have hstill := not_ne_iff.mp hstill
          split at h
          · cases h
          · cases h
            exact .inl ⟨rfl, _, rfl, hclosed⟩
          · rename_i made hmade
            cases h
            refine .inr ⟨made, rfl, ⟨hautomatic, houtcome ▸ hready, hlater ▸ hstill, ?_⟩, hopen, _, rfl, ?_⟩
            · rw [show services.attempt row.payload turn.target = .made made from hmade]
              rfl
            · cases made with
              | operation => rfl
              | fleetPlan => rfl
    · cases h
      refine .inl ⟨rfl, _, rfl, fun hterminal => ?_⟩
      rw [houtcome]
      exact nextStatus_of_terminal hterminal

end Evaluations

section Conditions

/-- The schedule is not there yet, or its status is not terminal. -/
def Store.Open (store : Store) : Prop := ∀ row ∈ store.row, row.payload.status.terminal = false

/-- Neither the column nor the document has another status once it is terminal. -/
def Store.Keeps (before after : Store) : Prop :=
  ∀ row ∈ before.row, ∃ later ∈ after.row,
    (row.status.terminal = true → later.status = row.status) ∧
      (row.payload.status.terminal = true → later.payload.status = row.payload.status)

def Store.Admits (store : Store) (status : ScheduleStatus) : Prop :=
  ∀ row ∈ store.row, row.payload.status.terminal = true → status = row.payload.status

/-- An operation has been created that the process has still to write to the row. -/
def Phase.isRecording : Phase → Bool
  | .recording _ _ => true
  | _ => false

def Schedules.Recording (schedules : Schedules ι) : Prop := ∃ i, (schedules.phase i).isRecording = true

/-- The statement is not overtaken by what has become of the schedule since the process
has read it: a write that could take a terminal status away finds the schedule open, and
nothing is created beside an operation that has still to be recorded. -/
def Careful (services : Services) (label : ι × Statement) (schedules : Schedules ι) : Prop :=
  let store := schedules.store
  match label.2, schedules.phase label.1 with
  | .post body status, .idle =>
    (posted body status).validate = .ok () → store.Admits (posted body status).status
  | .evaluate windows now, .evaluating _ record =>
    record.payload.validate = .ok () → ∀ row ∈ store.row, row.payload.status.terminal = true →
      record.payload.status = row.payload.status ∨ (row.payload.status = .expired ∧
        (SchedulingService.verdict record.payload.toScheduledOperation windows now).outcome = .expired)
  | .materialize target, .materializing record =>
    match services.attempt record.payload target with
    | .raised => True
    | .refused _ => store.Open
    | .made (.fleetPlan _) => store.Open ∧ ¬ schedules.Recording
    | .made (.operation _) =>
      (∀ row ∈ store.row, row.payload.status ≠ .materialized) ∧ ¬ schedules.Recording
  | .recordOperation, .recording _ _ => store.Admits .materialized
  | .cancel, .cancelling _ => store.Admits .cancelled
  | .runOnce turn, .listed => ∀ row ∈ store.row, services.Creates turn row → ¬ schedules.Recording
  | .markBlocked, .failed => store.Open
  | .noteError, .noting _ => store.Open
  | _, _ => True

instance (services : Services) (turn : Pass) (row : ScheduleRow) : Decidable (services.Creates turn row) :=
  decidable_of_iff _ (services.creates_iff turn row).symm

instance [Fintype ι] (services : Services) (label : ι × Statement) (schedules : Schedules ι) :
    Decidable (Careful services label schedules) := by
  unfold Careful Store.Admits Store.Open Schedules.Recording
  dsimp only
  split
  case h_3 =>
    split
    · infer_instance
    · infer_instance
    · infer_instance
    · infer_instance
  all_goals infer_instance

end Conditions

section Changes

/-- What a careful statement of a process does, and where it leaves the process. -/
inductive Change (schedules : Schedules ι) (i : ι) : Store → Phase → Prop where
  | stays {next : Phase} (hphase : (schedules.phase i).isRecording = false)
      (hnext : next.isRecording = false) : Change schedules i schedules.store next
  | saves {schedule : ScheduleFields} {next : Phase} (hphase : (schedules.phase i).isRecording = false)
      (hnext : next.isRecording = false) (hadmits : schedules.store.Admits schedule.status) :
    Change schedules i (schedules.store.save (.of schedule)) next
  | creates {record : ScheduleRow} {operationId : String} (hnone : ¬ schedules.Recording)
      (hrow : ∀ row ∈ schedules.store.row, row.payload.status ≠ .materialized) :
    Change schedules i (schedules.store.create (.operation operationId)) (.recording record operationId)
  | records {schedule : ScheduleFields} (hstatus : schedule.status = .materialized)
      (hadmits : schedules.store.Admits schedule.status) :
    Change schedules i (schedules.store.save (.of schedule)) .idle
  | materializes {schedule : ScheduleFields} {product : Materialization} (hnone : ¬ schedules.Recording)
      (hopen : schedules.store.Open) (hstatus : schedule.status = .materialized) :
    Change schedules i ((schedules.store.save (.of schedule)).create product) .idle
  | marks {change : ScheduleRow → ScheduleRow} {next : Phase}
      (hphase : (schedules.phase i).isRecording = false) (hnext : next.isRecording = false)
      (hopen : schedules.store.Open)
      (hchange : ∀ row : ScheduleRow, row.status.terminal = false → row.payload.status.terminal = false →
        (change row).status.terminal = false ∧ (change row).payload.status.terminal = false) :
    Change schedules i { schedules.store with row := schedules.store.row.map change } next

variable {services : Services} {schedules : Schedules ι} {i : ι} {statement : Statement}
  {reached : Store} {next : Phase}

theorem Store.Open.admits {store : Store} (h : store.Open) (status : ScheduleStatus) :
    store.Admits status := by
  intro row hrow hterminal
  rw [h row hrow] at hterminal
  cases hterminal

theorem Request.next_isRecording (row : ScheduleRow) (request : Request) :
    (request.next row).isRecording = false := by
  cases request with
  | evaluate => rfl
  | materialize => rfl
  | cancel =>
    simp only [Request.next]
    split
    · rfl
    · split <;> rfl

theorem run_change (h : statement.run services schedules.store (schedules.phase i) = some (reached, next))
    (hcareful : Careful services (i, statement) schedules) : Change schedules i reached next := by
  unfold Careful at hcareful
  unfold Statement.run at h
  generalize hphase : schedules.phase i = phase at h hcareful
  have hprocess {recording : Bool} (heq : phase.isRecording = recording) :
      (schedules.phase i).isRecording = recording := by
    rw [hphase]
    exact heq
  split at h
  · -- post
    split at h
    · cases h
      exact .stays (hprocess rfl) rfl
    · rename_i hvalid
      cases h
      exact .saves (hprocess rfl) rfl (hcareful hvalid)
  · -- read
    cases h
    refine .stays (hprocess rfl) ?_
    cases schedules.store.row with
    | none => rfl
    | some row => exact Request.next_isRecording row _
  · -- evaluate
    rename_i windows now materializes record
    split at h
    · cases h
      exact .stays (hprocess rfl) rfl
    · rename_i decision hevaluated
      obtain ⟨hvalid, houtcome, rfl⟩ := evaluate_ok hevaluated
      cases h
      refine .saves (hprocess rfl) (by split <;> rfl) fun row hrow hterminal => ?_
      change decision.outcome.nextStatus record.payload.status = row.payload.status
      rw [houtcome]
      rcases hcareful hvalid row hrow hterminal with hsame | ⟨hexpired, hoverdue⟩
      · rw [← hsame] at hterminal
        exact (nextStatus_of_terminal hterminal).trans hsame
      · rw [hoverdue, hexpired]
        rfl
  · -- materialize
    rename_i target record
    dsimp only at hcareful
    generalize services.attempt record.payload target = attempt at h hcareful
    cases attempt with
    | raised =>
      cases h
      exact .stays (hprocess rfl) rfl
    | refused status =>
      cases h
      exact .saves (hprocess rfl) rfl (hcareful.admits _)
    | made product =>
      cases product with
      | fleetPlan planId =>
        cases h
        exact .materializes hcareful.2 hcareful.1 rfl
      | operation operationId =>
        cases h
        exact .creates hcareful.2 hcareful.1
  · -- recordOperation
    cases h
    exact .records rfl hcareful
  · -- cancel
    cases h
    exact .saves (hprocess rfl) rfl hcareful
  · -- list
    cases h
    exact .stays (hprocess rfl) (by split <;> rfl)
  · -- skipLocked
    cases h
    exact .stays (hprocess rfl) rfl
  · -- runOnce
    split at h
    · cases h
      exact .stays (hprocess rfl) rfl
    · rename_i row hrow
      split at h
      · cases h
        exact .stays (hprocess rfl) rfl
      · rename_i record product hcommitted
        cases h
        rcases runOnce_cases hcommitted with
          ⟨rfl, schedule, rfl, hkept⟩ | ⟨made, rfl, hcreates, hopen, schedule, rfl, hstatus⟩
        · rw [Option.toList_none, List.append_nil]
          refine .saves (hprocess rfl) rfl fun found hfound hterminal => ?_
          rw [hrow, Option.mem_some_iff] at hfound
          subst hfound
          exact hkept hterminal
        · refine .materializes (hcareful row hrow hcreates) (fun found hfound => ?_) hstatus
          rw [hrow, Option.mem_some_iff] at hfound
          subst hfound
          exact hopen
  · -- rollback
    cases h
    exact .stays (hprocess rfl) rfl
  · -- markBlocked
    cases h
    exact .marks (hprocess rfl) rfl hcareful fun row _ hpayload => ⟨rfl, hpayload⟩
  · -- readBlocked
    cases h
    refine .stays (hprocess rfl) ?_
    cases schedules.store.row <;> rfl
  · -- noteError
    cases h
    exact .marks (hprocess rfl) rfl hcareful fun row hstatus _ => ⟨hstatus, rfl⟩
  · cases h

end Changes

section Soundness

variable {services : Services} {before after : Schedules ι} {i : ι} {reached : Store} {next : Phase}

/-- A status that is terminal is the same in the column and in the document. -/
def Store.Agrees (store : Store) : Prop :=
  ∀ row ∈ store.row, row.status.terminal = true ∨ row.payload.status.terminal = true →
    row.status = row.payload.status

/-- One thing at most has been created, which the row or a process knows of. -/
structure Schedules.Sound (schedules : Schedules ι) : Prop where
  agrees : schedules.store.Agrees
  once : schedules.store.created.length ≤ 1
  accounted : schedules.store.created ≠ [] →
    schedules.Recording ∨ ∃ row ∈ schedules.store.row, row.payload.status = .materialized

/-- No request is under way and nothing has been created. -/
structure Schedules.Initial (schedules : Schedules ι) : Prop where
  idle : ∀ i, schedules.phase i = .idle
  agrees : schedules.store.Agrees
  created : schedules.store.created = []

theorem Schedules.Initial.sound {schedules : Schedules ι} (h : schedules.Initial) : schedules.Sound where
  agrees := h.agrees
  once := by simp [h.created]
  accounted hcreated := absurd h.created hcreated

theorem Store.Keeps.refl (store : Store) : store.Keeps store :=
  fun row hrow => ⟨row, hrow, fun _ => rfl, fun _ => rfl⟩

theorem Store.Keeps.trans {first second third : Store} (h : first.Keeps second) (hnext : second.Keeps third) :
    first.Keeps third := by
  intro row hrow
  obtain ⟨later, hlater, hstatus, hpayload⟩ := h row hrow
  obtain ⟨last, hlast, hstatus', hpayload'⟩ := hnext later hlater
  refine ⟨last, hlast, fun hterminal => ?_, fun hterminal => ?_⟩
  · rw [hstatus' (by rwa [hstatus hterminal]), hstatus hterminal]
  · rw [hpayload' (by rwa [hpayload hterminal]), hpayload hterminal]

theorem Store.Agrees.closed {store : Store} (h : store.Agrees) {row : ScheduleRow} (hrow : row ∈ store.row)
    (hopen : row.payload.status.terminal = false) : row.status.terminal = false := by
  by_contra hclosed
  have hterminal : row.status.terminal = true := by simpa using hclosed
  rw [h row hrow (.inl hterminal), hopen] at hterminal
  cases hterminal

theorem Store.Agrees.save_keeps {store : Store} (h : store.Agrees) {schedule : ScheduleFields}
    (hadmits : store.Admits schedule.status) : store.Keeps (store.save (.of schedule)) := by
  intro row hrow
  refine ⟨.of schedule, rfl, fun hterminal => ?_, hadmits row hrow⟩
  have hsame := h row hrow (.inl hterminal)
  rw [hsame] at hterminal ⊢
  exact hadmits row hrow hterminal

theorem Store.save_agrees (store : Store) (schedule : ScheduleFields) :
    (store.save (.of schedule)).Agrees := by
  intro row hrow _
  cases hrow
  rfl

theorem Store.Agrees.marks {store : Store} (h : store.Agrees) (hopen : store.Open)
    {change : ScheduleRow → ScheduleRow}
    (hchange : ∀ row : ScheduleRow, row.status.terminal = false → row.payload.status.terminal = false →
      (change row).status.terminal = false ∧ (change row).payload.status.terminal = false) :
    store.Keeps { store with row := store.row.map change } ∧
      Store.Agrees { store with row := store.row.map change } := by
  constructor
  · intro row hrow
    refine ⟨change row, Option.mem_map_of_mem change hrow, fun hterminal => ?_, fun hterminal => ?_⟩
    · rw [h.closed hrow (hopen row hrow)] at hterminal
      cases hterminal
    · rw [hopen row hrow] at hterminal
      cases hterminal
  · intro row hrow hterminal
    obtain ⟨found, hfound, rfl⟩ := Option.mem_map.mp hrow
    obtain ⟨hstatus, hpayload⟩ := hchange found (h.closed hfound (hopen found hfound)) (hopen found hfound)
    rw [hstatus, hpayload] at hterminal
    simp at hterminal

theorem Schedules.Sound.created_eq_nil (h : before.Sound) (hnone : ¬ before.Recording)
    (hrow : ∀ row ∈ before.store.row, row.payload.status ≠ .materialized) : before.store.created = [] := by
  by_contra hcreated
  rcases h.accounted hcreated with hrecording | ⟨row, hmem, hstatus⟩
  · exact hnone hrecording
  · exact hrow row hmem hstatus

theorem Store.Open.not_materialized {store : Store} (h : store.Open) :
    ∀ row ∈ store.row, row.payload.status ≠ .materialized := by
  intro row hrow hstatus
  have hopen := h row hrow
  rw [hstatus] at hopen
  cases hopen

theorem Change.keeps (h : Change before i reached next) (hsound : before.Sound) :
    before.store.Keeps reached := by
  cases h with
  | stays => exact .refl _
  | saves hphase hnext hadmits => exact hsound.agrees.save_keeps hadmits
  | creates => exact .refl _
  | records hstatus hadmits => exact hsound.agrees.save_keeps hadmits
  | materializes hnone hopen hstatus => exact hsound.agrees.save_keeps (hopen.admits _)
  | marks hphase hnext hopen hchange => exact (hsound.agrees.marks hopen hchange).1

theorem Change.agrees (h : Change before i reached next) (hsound : before.Sound) : reached.Agrees := by
  cases h with
  | stays => exact hsound.agrees
  | saves => exact Store.save_agrees _ _
  | creates => exact hsound.agrees
  | records => exact Store.save_agrees _ _
  | @materializes schedule => exact Store.save_agrees before.store schedule
  | marks hphase hnext hopen hchange => exact (hsound.agrees.marks hopen hchange).2

theorem Change.once (h : Change before i reached next) (hsound : before.Sound) :
    reached.created.length ≤ 1 := by
  cases h with
  | stays => exact hsound.once
  | saves => exact hsound.once
  | creates hnone hrow =>
    rw [Store.create, hsound.created_eq_nil hnone hrow]
    exact le_refl 1
  | records => exact hsound.once
  | materializes hnone hopen =>
    rw [Store.create, Store.save, hsound.created_eq_nil hnone hopen.not_materialized]
    exact le_refl 1
  | marks => exact hsound.once

variable [DecidableEq ι]

theorem Schedules.Recording.update (h : before.Recording) (hphase : (before.phase i).isRecording = false) :
    Schedules.Recording ⟨reached, Function.update before.phase i next⟩ := by
  obtain ⟨j, hj⟩ := h
  refine ⟨j, ?_⟩
  have hne : j ≠ i := by
    rintro rfl
    rw [hphase] at hj
    cases hj
  simpa [Function.update_of_ne hne] using hj

theorem Change.accounted (h : Change before i reached next) (hsound : before.Sound)
    (hcreated : reached.created ≠ []) :
    Schedules.Recording ⟨reached, Function.update before.phase i next⟩ ∨
      ∃ row ∈ reached.row, row.payload.status = .materialized := by
  cases h with
  | stays hphase =>
    rcases hsound.accounted hcreated with hrecording | hrow
    · exact .inl (hrecording.update hphase)
    · exact .inr hrow
  | @saves schedule _ hphase hnext hadmits =>
    rcases hsound.accounted hcreated with hrecording | ⟨row, hrow, hstatus⟩
    · exact .inl (hrecording.update hphase)
    · have hsame := hadmits row hrow (by rw [hstatus]; rfl)
      exact .inr ⟨.of schedule, rfl, hsame.trans hstatus⟩
  | creates => exact .inl ⟨i, by simp [Phase.isRecording]⟩
  | @records schedule hstatus => exact .inr ⟨.of schedule, rfl, hstatus⟩
  | @materializes schedule _ _ _ hstatus => exact .inr ⟨.of schedule, rfl, hstatus⟩
  | marks hphase hnext hopen =>
    rcases hsound.accounted hcreated with hrecording | ⟨row, hrow, hstatus⟩
    · exact .inl (hrecording.update hphase)
    · exact absurd hstatus (hopen.not_materialized row hrow)

theorem step_change {label : ι × Statement} (hstep : step services label before = some after)
    (hcareful : Careful services label before) :
    ∃ reached next, Change before label.1 reached next ∧
      after = ⟨reached, Function.update before.phase label.1 next⟩ := by
  obtain ⟨⟨reached, next⟩, hrun, rfl⟩ := Option.map_eq_some_iff.mp hstep
  exact ⟨reached, next, run_change hrun hcareful, rfl⟩

theorem Schedules.Sound.step {label : ι × Statement} (hsound : before.Sound)
    (hstep : Scheduling.step services label before = some after)
    (hcareful : Careful services label before) : after.Sound ∧ before.store.Keeps after.store := by
  obtain ⟨reached, next, hchange, rfl⟩ := step_change hstep hcareful
  exact ⟨⟨hchange.agrees hsound, hchange.once hsound, hchange.accounted hsound⟩, hchange.keeps hsound⟩

end Soundness

section Runs

variable [DecidableEq ι] {services : Services} {start reached : Schedules ι}
  {past : List (Transition (Schedules ι) (ι × Statement))}

/-- Over a run of careful statements one operation or plan at most is created, and no
status that is terminal becomes another one. -/
theorem materialized_once (hrun : Run (step services) start past reached) (hstart : start.Initial)
    (hcareful : ∀ transition ∈ past, Careful services transition.label transition.before) :
    (∀ transition ∈ past, transition.after.store.created.length ≤ 1) ∧
      (start :: past.map Transition.after).Pairwise fun earlier later => earlier.store.Keeps later.store := by
  have hsteps : ∀ transition ∈ past, transition.after.Sound ∧
      transition.before.store.Keeps transition.after.store := by
    intro transition hmem
    obtain ⟨earlier, hearlier, hsubset, hstep⟩ := hrun.step_of_mem hmem
    have hsound : transition.before.Sound := by
      apply hearlier.invariant hstart.sound
      intro passed hpassed hpassedStep hbefore
      exact (hbefore.step hpassedStep (hcareful passed (hsubset hpassed))).1
    exact hsound.step hstep (hcareful transition hmem)
  refine ⟨fun transition hmem => (hsteps transition hmem).1.once, ?_⟩
  apply (hrun.pairwise_iff fun _ _ _ hfirst hsecond => hfirst.trans hsecond).mpr
  exact fun transition hmem => (hsteps transition hmem).2

end Runs

section Fleets

namespace FleetSchedule

def services : Services where
  python := Python.plain
  profiles := ∅
  planner := Lifecycle.LocalDevelopment.planner
  runtime := Execution.DockerHost.runtime

/-- A startup of the fleet that nobody has to wait for. -/
def startup : ScheduleFields where
  scheduleId := "schedule:1"
  organizationId := "default"
  workspaceId := "default"
  targetType := .fleet
  targetId := "f1"
  operationType := "startup"

def target (planUuid : String) : Target where
  fleet := some Fleet.FleetService.threeTier
  planUuid := planUuid
  createdAtIso := "2026-07-23T00:00:00+00:00"

def start : Schedules (Fin 3) := ⟨⟨none, []⟩, fun _ => .idle⟩

theorem start_initial : start.Initial where
  idle _ := rfl
  agrees := by
    intro row hrow
    cases hrow
  created := rfl

def performed (labels : List (Fin 3 × Statement)) :
    List (Transition (Schedules (Fin 3)) (Fin 3 × Statement)) :=
  (history (step services) start labels).getD []

theorem run_performed (labels : List (Fin 3 × Statement))
    (check : List (Transition (Schedules (Fin 3)) (Fin 3 × Statement)) → Bool)
    (h : (history (step services) start labels).any check = true) :
    ∃ reached, Run (step services) start (performed labels) reached ∧ check (performed labels) = true :=
  Run.of_any h

/-- One request after the other: posted, materialized, evaluated and not cancelled. -/
def inTurn : List (Fin 3 × Statement) :=
  [(0, .post startup none), (0, .evaluate [] 0), (1, .read .materialize), (1, .evaluate [] 1),
    (1, .materialize (target "1")), (2, .read .evaluate), (2, .evaluate [] 2), (2, .read .cancel)]

theorem inTurn_once : (performed inTurn).length = 8 ∧
    (∀ transition ∈ performed inTurn, transition.after.store.created.length ≤ 1) ∧
    (start :: (performed inTurn).map Transition.after).Pairwise
      fun earlier later => earlier.store.Keeps later.store := by
  obtain ⟨reached, hrun, hcareful⟩ := run_performed inTurn (fun past => past.all fun transition =>
    Careful services transition.label transition.before) (by decide)
  refine ⟨by decide, materialized_once hrun start_initial fun transition hmem => ?_⟩
  exact of_decide_eq_true (List.all_eq_true.mp hcareful transition hmem)

/-- Two requests materialize the schedule, which both have read before either writes; a
third one has read it too and evaluates it at the end. -/
def overtaken : List (Fin 3 × Statement) :=
  [(0, .post startup none), (0, .evaluate [] 0), (0, .read .materialize), (1, .read .materialize),
    (2, .read .evaluate), (0, .evaluate [] 1), (1, .evaluate [] 1), (0, .materialize (target "1")),
    (1, .materialize (target "2")), (2, .evaluate [] 2)]

/-- Two plans are made of the schedule, which is ready again after it was materialized. -/
theorem overtaken_twice :
    (∃ reached, Run (step services) start (performed overtaken) reached) ∧ start.Initial ∧
      (∃ transition ∈ performed overtaken,
        transition.after.store.created = [.fleetPlan "fleet-plan:1", .fleetPlan "fleet-plan:2"]) ∧
      ¬ (start :: (performed overtaken).map Transition.after).Pairwise
        fun earlier later => earlier.store.Keeps later.store := by
  obtain ⟨reached, hrun, hboth⟩ := run_performed overtaken (fun past =>
    (past.any fun transition => transition.after.store.created =
      [.fleetPlan "fleet-plan:1", .fleetPlan "fleet-plan:2"]) &&
    past.any fun transition => transition.before.store.row.map ScheduleRow.status = some .materialized ∧
      transition.after.store.row.map ScheduleRow.status = some .ready) (by decide)
  obtain ⟨htwice, hreopened⟩ := Bool.and_eq_true_iff.mp hboth
  obtain ⟨planned, hplanned, hcreated⟩ := List.any_eq_true.mp htwice
  refine ⟨⟨reached, hrun⟩, start_initial, ⟨planned, hplanned, of_decide_eq_true hcreated⟩, fun hkeeps => ?_⟩
  obtain ⟨transition, hmem, hstatuses⟩ := List.any_eq_true.mp hreopened
  obtain ⟨hbefore, hafter⟩ := of_decide_eq_true hstatuses
  have hsteps := (hrun.pairwise_iff fun _ _ _ hfirst hsecond => hfirst.trans hsecond).mp hkeeps
  obtain ⟨row, hrow, hmaterialized⟩ := Option.map_eq_some_iff.mp hbefore
  obtain ⟨later, hlater, hkept, -⟩ := hsteps transition hmem row hrow
  rw [Option.mem_def.mp hlater, Option.map_some, hkept (by rw [hmaterialized]; rfl), hmaterialized] at hafter
  cases hafter

end FleetSchedule

end Fleets

end KubeOps.Scheduling
