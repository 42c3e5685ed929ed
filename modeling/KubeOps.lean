import KubeOps.Models.PlanGraph
import KubeOps.Policy.Decision
import KubeOps.Execution.Authority
import KubeOps.Execution.Agreement
import KubeOps.Execution.Compensation
import KubeOps.Execution.Continuity
import KubeOps.Execution.Journal
import KubeOps.Execution.Ordering
import KubeOps.Execution.Terminal
import KubeOps.Execution.FailureBehavior
import KubeOps.Execution.RollbackTruth
import KubeOps.Execution.PlanStatus
import KubeOps.Execution.ConditionSeal
import KubeOps.Execution.Reporting
import KubeOps.Execution.RowIsolation
import KubeOps.Distributed.Dispatcher
import KubeOps.ControlPlane.Approvals
import KubeOps.ControlPlane.DockerFleet
import KubeOps.ControlPlane.Eligibility
import KubeOps.ControlPlane.Fencing
import KubeOps.ControlPlane.Decoding
import KubeOps.ControlPlane.Receipts
import KubeOps.ControlPlane.WaitingFleet
import KubeOps.Distributed.LeaseInvariant
import KubeOps.Distributed.Attempts
import KubeOps.Distributed.Capacity
import KubeOps.Distributed.LeaseFencing
import KubeOps.Distributed.Revocation
import KubeOps.Lifecycle.StageOrder
import KubeOps.Lifecycle.OperationIds
import KubeOps.Lifecycle.TemplateOrder
import KubeOps.Fleet.Cycles
import KubeOps.Scheduling.Service
import KubeOps.Tenancy.Isolation
import KubeOps.Governance.AuditChain
import KubeOps.Governance.Retention
import KubeOps.ControlPlane.Redispatch
import KubeOps.ControlPlane.AuditTrail
import KubeOps.ControlPlane.ClaimCapacity
import KubeOps.Scheduling.Lifetime
import KubeOps.Scheduling.Compatibility
import KubeOps.Governance.Limits
import KubeOps.ControlPlane.RetryAfter
import KubeOps.ControlPlane.ActiveLimits
import KubeOps.ControlPlane.TargetTokens
import KubeOps.ControlPlane.TrustStability
import KubeOps.Packs.Registration
import KubeOps.Packs.Constraints
import KubeOps.Packs.Classifiers
import KubeOps.SupplyChain.Authenticity
import KubeOps.Models.CanonicalHash
import KubeOps.Discovery.DiffExactness
import KubeOps.Discovery.RoundTrip
import KubeOps.Diagnosis.Reprobing
import KubeOps.Diagnosis.Weighing
import KubeOps.Diagnosis.EvidencePlan
import KubeOps.Scenarios.Inheritance
import KubeOps.Scenarios.Concurrency
import KubeOps.Scenarios.Templates
import KubeOps.Health.Masking
import KubeOps.Invariants.Temporal
import KubeOps.Simulator.Equivariance
import KubeOps.Simulator.Lag
import KubeOps.Platform.Restore
import KubeOps.Models.Acyclicity
import KubeOps.Models.PathLaws
import KubeOps.Packs.Redaction
import KubeOps.Packs.Cycles
import KubeOps.ControlPlane.Heartbeats
