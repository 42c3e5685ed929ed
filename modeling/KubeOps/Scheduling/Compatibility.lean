import KubeOps.Lifecycle.Idempotency
import KubeOps.Scheduling.Materialization

/-! Which ready schedules can be materialized. A schedule has execution modes and operation
types that the plan, the operation or the fleet plan made of it cannot have. -/
namespace KubeOps.Scheduling

open KubeOps.Foundation KubeOps.Models KubeOps.Execution KubeOps.Fleet KubeOps.Lifecycle

section Creation

variable {ε η α β : Type}

theorem exec_mapM_attempt (check : α → Except ε β) (items : List α) (trace : Trace η) :
    (items.mapM fun item => (Program.attempt (check item) : Program ε η β)).exec trace =
      (items.mapM check, trace) := by
  induction items with
  | nil => rfl
  | cons item items ih =>
    rw [List.mapM_cons, List.mapM_cons, Program.exec_bind, Program.exec_attempt]
    cases check item with
    | error error => rfl
    | ok value =>
      dsimp only
      rw [Program.exec_bind, ih]
      cases items.mapM check with
      | error error => rfl
      | ok values => rfl

end Creation

section Planning

variable {runtime : OperationRuntime} {planner : LifecyclePlanner} {snapshot : EnvironmentSnapshot}
  {profile : LifecycleProfile} {plan : RecoveryPlan} {mode : PlanMode}
  {policyId : Option String} {environmentId : String} {trace : Trace Effect}

theorem plan_otherMode (h : planner.plan snapshot profile mode policyId = .ok plan)
    (otherMode : PlanMode) (otherPolicyId : Option String) :
    ∃ other, planner.plan snapshot profile otherMode otherPolicyId = .ok other ∧
      other.actions = plan.actions ∧ other.mode = otherMode ∧ other.Accepted planner.python := by
  obtain ⟨compilation, hcompilation, h⟩ := except_bind_eq_ok h
  obtain ⟨valid, hvalid, h⟩ := except_bind_eq_ok h
  have hplan := Except.ok.inj h
  let other : RecoveryPlan := { plan with
    mode := otherMode
    policyId := if Text.truthy otherPolicyId then otherPolicyId else profile.defaultPolicyId }
  have hother : other.validateActionGraph planner.python = .ok valid := by
    rw [← hvalid, hplan]
    rfl
  have hsame : planner.plan snapshot profile otherMode otherPolicyId =
      other.validateActionGraph planner.python >>= fun _ => pure other := by
    unfold LifecyclePlanner.plan
    rw [hcompilation, show other = _ from congrArg (fun plan : RecoveryPlan => { plan with
      mode := otherMode
      policyId := if Text.truthy otherPolicyId then otherPolicyId else profile.defaultPolicyId }) hplan.symm]
    rfl
  rw [hother] at hsame
  exact ⟨other, hsame, rfl, rfl, hother⟩

theorem create_ok_iff {operationMode : OperationMode} :
    (∃ operation reached, (runtime.create environmentId plan operationMode []).exec trace =
      (.ok operation, reached)) ↔
    ∀ action ∈ plan.actions, ∃ definition,
      runtime.actions.validateInstance runtime.python action = .ok definition := by
  constructor
  · rintro ⟨operation, reached, hexec⟩
    obtain ⟨definitions, between, hvalid, -⟩ := Program.exec_bind_ok hexec
    unfold OperationRuntime.validateInstance at hvalid
    rw [exec_mapM_attempt] at hvalid
    intro action hmem
    obtain ⟨definition, -, hdefinition⟩ := exists_mem_of_mapM (Prod.mk.inj hvalid).1 hmem
    exact ⟨definition, hdefinition⟩
  · intro h
    obtain ⟨definitions, hvalid⟩ := exists_mapM_ok h
    unfold OperationRuntime.create OperationRuntime.validateInstance
    rw [Program.exec_bind, exec_mapM_attempt, hvalid]
    exact ⟨_, _, rfl⟩

end Planning

section Materializing

variable (services : Services) (schedule : ScheduleFields)

/-- `materialize_schedule_record`: the row as it is saved, the decision and what has been made;
`none` where it raises. -/
def Services.materializeScheduleRecord (windows : List MaintenanceWindow) (now : Int) (target : Target)
    (record : ScheduleRow) : Option (ScheduleRow × ScheduleDecision × Option Materialization) :=
  match evaluateScheduleRecord services.python windows now record with
  | .error _ => none
  | .ok (record, decision) =>
    if decision.outcome ≠ .ready then some (record, decision, none)
    else match services.attempt record.payload target with
      | .raised => none
      | .refused status => some (.of (record.payload.withStatus status), decision, none)
      | .made product => some (.of (record.payload.materialized product), decision, some product)

/-- The environment, its governance and the profile let an operation through: as a dry run, it
is planned and created. -/
structure AllowedIn (profileId policyId : Option String) (environment : ScheduledEnvironment)
    (snapshot : EnvironmentSnapshot) (profile : LifecycleProfile) : Prop where
  captured : environment.snapshot = some snapshot
  governed : environment.allowed = true
  registered : services.profiles.get? (profileId.getD "") = some profile
  plannable : ∃ plan operation reached,
    services.planner.plan snapshot profile .dryRun policyId = .ok plan ∧
    (services.runtime.create environment.environmentId plan .dryRun []).exec environment.trace =
      (.ok operation, reached)

/-- The target is there, and nothing but the schedule itself can be in the way. -/
def Allowed (target : Target) : Prop :=
  match schedule.targetType with
  | .fleet => target.fleet.isSome = true
  | .environment => ∃ environment snapshot profile, target.environment = some environment ∧
    AllowedIn services schedule.lifecycleProfileId schedule.policyId environment snapshot profile

/-- The fields of the schedule are in the domains of what is made of it. -/
def Compatible : Prop :=
  match schedule.targetType with
  | .fleet => schedule.operationType ∈ ["startup", "shutdown", "maintenance", "recovery", "verification"]
  | .environment => schedule.executionMode ≠ .simulation

def Materializes (windows : List MaintenanceWindow) (now : Int) (target : Target) : Prop :=
  schedule.validate = .ok () →
    (SchedulingService.evaluate services.python schedule.toScheduledOperation windows now).outcome = .ready →
      Allowed services schedule target → ∃ row decision product,
        services.materializeScheduleRecord windows now target (.of schedule) =
          some (row, decision, some product)

end Materializing

section Attempts

variable {services : Services} {schedule : ScheduleFields} {target : Target}
  {environment : ScheduledEnvironment} {snapshot : EnvironmentSnapshot} {profile : LifecycleProfile}

theorem operationTypeOf_ok_iff {text : String} :
    (∃ operationType, operationTypeOf text = .ok operationType) ↔
      text ∈ ["startup", "shutdown", "maintenance", "recovery", "verification"] := by
  unfold operationTypeOf
  split <;> simp_all

theorem modes_ok_iff {mode : ExecutionMode} : (∃ modes, mode.modes = .ok modes) ↔ mode ≠ .simulation := by
  cases mode <;> simp [ExecutionMode.modes]

theorem AllowedIn.operation_ok_iff (h : AllowedIn services schedule.lifecycleProfileId schedule.policyId
    environment snapshot profile) :
    (∃ operation, services.operation schedule environment snapshot = .ok operation) ↔
      schedule.executionMode ≠ .simulation := by
  rw [← modes_ok_iff]
  unfold Services.operation
  dsimp only
  rw [h.registered]
  constructor
  · rintro ⟨operation, hoperation⟩
    obtain ⟨found, -, hrest⟩ := except_bind_eq_ok hoperation
    obtain ⟨modes, hmodes, -⟩ := except_bind_eq_ok hrest
    exact ⟨modes, hmodes⟩
  · rintro ⟨⟨planMode, operationMode⟩, hmodes⟩
    obtain ⟨plan, operation, reached, hplan, hcreate⟩ := h.plannable
    obtain ⟨other, hother, hactions, -⟩ := plan_otherMode hplan planMode schedule.policyId
    have hvalid := create_ok_iff.mp ⟨operation, reached, hcreate⟩
    rw [← hactions] at hvalid
    obtain ⟨created, ended, hcreated⟩ := create_ok_iff.mpr hvalid
    refine ⟨created, ?_⟩
    rw [hmodes]
    change (services.planner.plan snapshot profile planMode schedule.policyId >>= fun plan =>
      ((services.runtime.create environment.environmentId plan operationMode []).exec environment.trace).1) = _
    rw [hother]
    exact congrArg Prod.fst hcreated

theorem Allowed.made_iff (h : Allowed services schedule target) :
    (∃ product, services.attempt schedule target = .made product) ↔ Compatible schedule := by
  unfold Allowed at h
  unfold Compatible Services.attempt
  cases htarget : schedule.targetType with
  | fleet =>
    rw [htarget] at h
    obtain ⟨fleet, hfleet⟩ := Option.isSome_iff_exists.mp h
    dsimp only
    rw [← operationTypeOf_ok_iff, hfleet]
    cases operationTypeOf schedule.operationType with
    | ok operationType => exact iff_of_true ⟨_, rfl⟩ ⟨operationType, rfl⟩
    | error error => exact iff_of_false (fun h => by cases h.choose_spec) fun h => by cases h.choose_spec
  | environment =>
    rw [htarget] at h
    obtain ⟨environment, snapshot, profile, hfound, hallowed⟩ := h
    dsimp only
    rw [← hallowed.operation_ok_iff, hfound]
    dsimp only
    rw [hallowed.captured]
    dsimp only
    rw [if_neg (by simp [hallowed.governed])]
    cases services.operation schedule environment snapshot with
    | ok operation => exact iff_of_true ⟨_, rfl⟩ ⟨operation, rfl⟩
    | error error => exact iff_of_false (fun h => by cases h.choose_spec) fun h => by cases h.choose_spec

theorem materializeScheduleRecord_ready {windows : List MaintenanceWindow} {now : Int}
    (hvalid : schedule.validate = .ok ())
    (hready : (SchedulingService.evaluate services.python schedule.toScheduledOperation windows now).outcome =
      .ready) :
    (∃ row decision product, services.materializeScheduleRecord windows now target (.of schedule) =
      some (row, decision, some product)) ↔
        ∃ product, services.attempt (schedule.withStatus .ready) target = .made product := by
  unfold Services.materializeScheduleRecord evaluateScheduleRecord
  rw [show (ScheduleRow.of schedule).payload = schedule from rfl, hvalid]
  dsimp only [bind, Except.bind, pure, Except.pure]
  rw [if_neg (by simp only [hready, ne_eq, not_true_eq_false, not_false_eq_true]), hready]
  rw [show (ScheduleRow.of (schedule.withStatus (ScheduleOutcome.nextStatus schedule.status .ready))).payload =
    schedule.withStatus .ready from rfl]
  cases services.attempt (schedule.withStatus .ready) target with
  | raised =>
    constructor
    · rintro ⟨row, decision, product, h⟩
      cases h
    · rintro ⟨product, h⟩
      cases h
  | refused status =>
    constructor
    · rintro ⟨row, decision, product, h⟩
      cases h
    · rintro ⟨product, h⟩
      cases h
  | made product => exact iff_of_true ⟨_, _, product, rfl⟩ ⟨product, rfl⟩

end Attempts

section Examples

namespace LocalSchedule

open Lifecycle.LocalDevelopment (snapshot planner oneProcess runtime)

def services : Services where
  python := Python.plain
  profiles := Dict.ofList [(oneProcess.profileId, oneProcess)]
  planner := planner
  runtime := runtime

def hostStartup (executionMode : ExecutionMode) : ScheduleFields where
  scheduleId := "schedule:local"
  organizationId := "default"
  workspaceId := "default"
  targetType := .environment
  targetId := "local"
  operationType := "startup"
  lifecycleProfileId := some oneProcess.profileId
  executionMode := executionMode

def fleetWide (operationType : String) : ScheduleFields where
  scheduleId := "schedule:fleet"
  organizationId := "default"
  workspaceId := "default"
  targetType := .fleet
  targetId := "f1"
  operationType := operationType

def target : Target where
  fleet := some Fleet.FleetService.threeTier
  environment := some {
    environmentId := "local", snapshot := some snapshot, allowed := true, trace := Trace.start Effect }
  planUuid := "1"
  createdAtIso := "2026-07-23T00:00:00+00:00"

def made (schedule : ScheduleFields) : Option Materialization :=
  (services.materializeScheduleRecord [] 0 target (.of schedule)).bind fun result => result.2.2

def outcome (schedule : ScheduleFields) : ScheduleOutcome :=
  (SchedulingService.evaluate services.python schedule.toScheduledOperation [] 0).outcome

end LocalSchedule

end Examples

end KubeOps.Scheduling
