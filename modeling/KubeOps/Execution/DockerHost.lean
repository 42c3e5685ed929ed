import KubeOps.Execution.Session

/-! The start and stop actions of the docker-host pack under the built-in
executors, with a plan that starts a container: a runtime whose calls compute. -/
namespace KubeOps.Execution.DockerHost

open KubeOps.Foundation KubeOps.Models KubeOps.Policy KubeOps.Actions KubeOps.Verification
open OperationRuntime (Creation)

def containerSchema : ParameterSchema where
  required := ["container"]
  properties := Dict.ofList [("container", { type := some "string" })]

def containerStart : ActionTypeDefinition where
  actionTypeId := "docker-host.container.start.v1"
  parameterSchema := containerSchema
  expectedEffects := ["container_running"]
  requiredCapabilities := ["docker.container.start"]
  supportedModes := [.live, .simulation]
  executorId := "docker.cli"
  defaultRisk := { riskClass := .r1 }
  rollbackActionTypeId := some "docker-host.container.stop.v1"
  maxAttempts_pos := Nat.one_pos

def containerStop : ActionTypeDefinition where
  actionTypeId := "docker-host.container.stop.v1"
  parameterSchema := containerSchema
  expectedEffects := ["container_stopped"]
  requiredCapabilities := ["docker.container.stop"]
  supportedModes := [.live, .simulation]
  executorId := "docker.cli"
  defaultRisk := { riskClass := .r1 }
  rollbackActionTypeId := some "docker-host.container.start.v1"
  maxAttempts_pos := Nat.one_pos

def catalog : ActionCatalog where
  definitions := Dict.ofList
    [(containerStart.actionTypeId, containerStart), (containerStop.actionTypeId, containerStop)]

def clock : Clock where
  utcNowIso _ := "2026-01-01T00:00:00Z"
  now _ := 1767225600000000

def runtime : OperationRuntime where
  actions := catalog
  executors := ⟨Dict.ofList (([simulationExecutor, dryRunExecutor, waitExecutor].map
    fun executor => executor clock.utcNowIso).map fun executor => (executor.executorId, executor))⟩
  verification := { evaluate := fun _ _ _ => .ok [] }
  codec := {
    Document := OperationRun
    modelDumpJson := id
    readFields := some
    roundTrip := fun _ => rfl }
  python := Python.plain
  clock := clock

def startContainer (container : String) : ActionInstance where
  actionId := s!"action:start:{container}"
  actionTypeId := containerStart.actionTypeId
  targetIds := [s!"runtime/{container}"]
  parameters := Dict.ofList [("container", .str container)]
  risk := { riskClass := .r1 }

def startAfter (container dependency : String) : ActionInstance :=
  { startContainer container with dependsOnActionIds := [(startContainer dependency).actionId] }

def planOf (actions : List ActionInstance) : RecoveryPlan where
  planId := "plan:startup"
  operationType := .startup
  objectiveId := "objective:startup"
  actions := actions

def creation (actions : List ActionInstance) : Creation where
  environmentId := "local"
  plan := planOf actions
  mode := .guardedExecution
  approvals := []

def createdRun (actions : List ActionInstance) : OperationRun where
  operationId := "operation:local:startup"
  environmentId := "local"
  operationType := .startup
  objectiveId := "objective:startup"
  mode := .guardedExecution
  plan := { planOf actions with mode := .guardedExecution }
  createdAtIso := clock.utcNowIso 0
  updatedAtIso := clock.utcNowIso 0

def policy : ExecutionPolicy where
  policyId := "local-development-guarded.v1"
  environmentClasses := ["development", "simulation"]
  allowedRiskClasses := [.r0, .r1, .r2]
  requiredApprovalsByRisk := Dict.ofList [(.r0, 0), (.r1, 0), (.r2, 1)]
  requireCheckpointForRisk := [.r2]
  requireTargetFingerprint := true
  mutationBudget := some 20

def context : RuntimeContext where
  policyContext := {
    environmentClass := "development"
    environmentFingerprint := some "fingerprint"
    expectedFingerprint := some "fingerprint"
    capabilities := ["docker.container.start"] }
  executionContext := {
    operationId := "operation:local:startup"
    mode := "simulation"
    environmentId := "local" }
  worldProvider _ := .ok []
  relationshipsProvider _ := .ok []

def started : Trace Effect :=
  runtime.session (creation [startContainer "db"]) [.run policy context none true]

/-- No rollback has begun. -/
def Unreversed (log : Log) : Bool :=
  log.all fun effect =>
    match effect with
    | .rollingBack .. => false
    | _ => true

theorem not_mem_of_unreversed {log : Log} (h : Unreversed log = true) (operation : OperationRun)
    (context : ExecutionContext) : .rollingBack operation context ∉ log :=
  fun hmem => absurd (List.all_eq_true.mp h _ hmem) Bool.false_ne_true

theorem started_unreversed : Unreversed started.log = true := by decide +kernel

def rolledBack : Trace Effect :=
  runtime.session (creation [startContainer "db"]) [.run policy context none true, .rollback context]

def waitForCondition : ActionTypeDefinition where
  actionTypeId := "operation.wait_for_condition.v1"
  requiredCapabilities := ["observe"]
  supportedModes := [.simulation, .fixture, .live]
  executorId := "builtin.wait"
  maxAttempts_pos := Nat.one_pos

def waitingRuntime : OperationRuntime :=
  { runtime with actions := ⟨Dict.ofList ([containerStart, containerStop, waitForCondition].map
    fun definition => (definition.actionTypeId, definition))⟩ }

def waitFor (condition : String) (satisfied : Bool) : ActionInstance where
  actionId := s!"action:wait:{condition}"
  actionTypeId := waitForCondition.actionTypeId
  parameters := Dict.ofList [("condition_satisfied", .bool satisfied)]

/-- Waiting is the only thing this host can do live. -/
def liveContext : RuntimeContext :=
  { context with
    policyContext := { context.policyContext with capabilities := ["observe"] }
    executionContext := { context.executionContext with mode := "live" } }

end KubeOps.Execution.DockerHost
