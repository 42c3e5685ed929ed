import KubeOps.Execution.Runtime
import KubeOps.Fleet.Waves
import KubeOps.Lifecycle.Planner
import KubeOps.Scheduling.Service

/-! The row of a schedule, and what is written to it when the schedule is evaluated
and when it is materialized as an operation or a fleet plan. -/
namespace KubeOps.Scheduling

open KubeOps.Foundation KubeOps.Models KubeOps.Execution KubeOps.Fleet KubeOps.Lifecycle

inductive ExecutionMode where
  | dryRun | simulation | guardedExecution
deriving DecidableEq, Repr

structure ScheduleFields extends ScheduledOperation where
  lifecycleProfileId : Option String := none
  policyId : Option String := none
  executionMode : ExecutionMode := .dryRun
deriving DecidableEq, Repr

inductive Materialization where
  | operation (operationId : String)
  | fleetPlan (planId : String)
deriving DecidableEq, Repr

namespace ScheduleFields

variable (schedule : ScheduleFields)

/-- `validate_schedule` -/
def validate : Except PyError Unit :=
  if schedule.targetType = .environment ∧ ¬ Text.truthy schedule.lifecycleProfileId then
    .error (.validationError "environment schedules require lifecycle_profile_id")
  else if schedule.status = .materialized ∧
      ¬ (Text.truthy schedule.operationId ∨ Text.truthy schedule.fleetPlanId) then
    .error (.validationError "materialized schedules require operation_id or fleet_plan_id")
  else if ∃ deadline ∈ schedule.deadline, ∃ notBefore ∈ schedule.notBefore, deadline < notBefore then
    .error (.validationError "deadline_iso must not precede not_before_iso")
  else .ok ()

def withStatus (status : ScheduleStatus) : ScheduleFields := { schedule with status := status }

def materialized : Materialization → ScheduleFields
  | .operation operationId => { schedule with status := .materialized, operationId := some operationId }
  | .fleetPlan planId => { schedule with status := .materialized, fleetPlanId := some planId }

end ScheduleFields

/-- A row of `ScheduledOperationRecord`. The status is a column beside the document. -/
structure ScheduleRow where
  status : ScheduleStatus
  payload : ScheduleFields
deriving DecidableEq, Repr

/-- `record.status = updated.status` and `record.payload = updated.model_dump()` -/
def ScheduleRow.of (schedule : ScheduleFields) : ScheduleRow := ⟨schedule.status, schedule⟩

/-- The `next_status` of an evaluation. -/
def ScheduleOutcome.nextStatus (status : ScheduleStatus) : ScheduleOutcome → ScheduleStatus
  | ready => .ready
  | delay => .delayed
  | deny => .blocked
  | expired => .expired
  | terminal => status

/-- `evaluate_schedule_record`: the record as it is saved, and the decision. -/
def evaluateScheduleRecord (python : Python) (windows : List MaintenanceWindow) (now : Int)
    (record : ScheduleRow) : Except PyError (ScheduleRow × ScheduleDecision) := do
  record.payload.validate
  let schedule := record.payload
  let decision := SchedulingService.evaluate python schedule.toScheduledOperation windows now
  return (.of (schedule.withStatus (decision.outcome.nextStatus schedule.status)), decision)

section Planning

/-- What operations are planned and created with. -/
structure Services where
  python : Python
  profiles : Dict String LifecycleProfile
  planner : LifecyclePlanner
  runtime : OperationRuntime

/-- An active environment, the outcome of its governance, and the journal of operations. -/
structure ScheduledEnvironment where
  environmentId : String
  snapshot : Option EnvironmentSnapshot
  allowed : Bool
  trace : Trace Effect

/-- What the lookups of a ready schedule find, and what a fleet plan is stamped with. -/
structure Target where
  fleet : Option FleetDefinition := none
  environment : Option ScheduledEnvironment := none
  planUuid : String := ""
  createdAtIso : String := ""

def ExecutionMode.modes : ExecutionMode → Except PyError (PlanMode × OperationMode)
  | .dryRun => .ok (.dryRun, .dryRun)
  | .guardedExecution => .ok (.guardedExecution, .guardedExecution)
  | .simulation =>
    .error (.validationError "Input should be 'guidance', 'dry_run' or 'guarded_execution'")

def operationTypeOf : String → Except PyError OperationType
  | "startup" => .ok .startup
  | "shutdown" => .ok .shutdown
  | "maintenance" => .ok .maintenance
  | "recovery" => .ok .recovery
  | "verification" => .ok .verification
  | _ => .error (.validationError
    "Input should be 'startup', 'shutdown', 'maintenance', 'recovery' or 'verification'")

variable (services : Services) (schedule : ScheduleFields)

def Services.operation (environment : ScheduledEnvironment) (snapshot : EnvironmentSnapshot) :
    Except PyError OperationRun := do
  let profileId := schedule.lifecycleProfileId.getD ""
  let profile ← match services.profiles.get? profileId with
    | some profile => .ok profile
    | none => .error (.registryError s!"lifecycle profile registry does not contain {profileId}")
  let (planMode, operationMode) ← schedule.executionMode.modes
  let plan ← services.planner.plan snapshot profile planMode schedule.policyId
  ((services.runtime.create environment.environmentId plan operationMode []).exec environment.trace).1

/-- What comes of a schedule that is ready. -/
inductive Attempt where
  | raised
  | refused (status : ScheduleStatus)
  | made (product : Materialization)
deriving DecidableEq, Repr

def Attempt.product : Attempt → Option Materialization
  | made product => some product
  | raised | refused _ => none

/-- The part of `materialize_schedule_record` behind the evaluation. -/
def Services.attempt (target : Target) : Attempt :=
  match schedule.targetType with
  | .fleet =>
    match target.fleet, operationTypeOf schedule.operationType with
    | some fleet, .ok operationType =>
      let plan := FleetService.planOperation services.python s!"fleet-plan:{target.planUuid}"
        target.createdAtIso fleet operationType
      .made (.fleetPlan plan.planId)
    | _, _ => .raised
  | .environment =>
    match target.environment with
    | none => .raised
    | some environment =>
      match environment.snapshot with
      | none => .refused .blocked
      | some snapshot =>
        if ¬ environment.allowed then .refused .delayed
        else match services.operation schedule environment snapshot with
          | .ok operation => .made (.operation operation.operationId)
          | .error _ => .raised

/-- What one transaction of the scheduler reads beside the row. A schedule that is ready
is evaluated a second time. -/
structure Pass where
  windows : List MaintenanceWindow := []
  now : Int
  laterWindows : List MaintenanceWindow := []
  later : Int
  target : Target := {}

/-- The transaction of `_run_once` for a row, which it holds locked: the row it commits
and what it has created. `none` where it raises and is rolled back. -/
def Services.runOnce (turn : Pass) (row : ScheduleRow) : Option (ScheduleRow × Option Materialization) :=
  match evaluateScheduleRecord services.python turn.windows turn.now row with
  | .error _ => none
  | .ok (record, decision) =>
    if decision.outcome = .ready ∧ record.payload.materializeAutomatically then
      match evaluateScheduleRecord services.python turn.laterWindows turn.later record with
      | .error _ => none
      | .ok (record, decision) =>
        if decision.outcome ≠ .ready then some (record, none)
        else match services.attempt record.payload turn.target with
          | .raised => none
          | .refused status => some (.of (record.payload.withStatus status), none)
          | .made product => some (.of (record.payload.materialized product), some product)
    else some (record, none)

end Planning

end KubeOps.Scheduling
