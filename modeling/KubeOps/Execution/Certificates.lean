import KubeOps.Execution.DockerHost

/-! The certificates of sealed operations. A run and an external verification
seal with different expressions; what they agree on is read off the modes and
the verification results. -/
namespace KubeOps.Execution

open KubeOps.Foundation KubeOps.Models KubeOps.Policy KubeOps.Verification
open OperationRuntime (LoopState LoopExit)

section Verdicts

variable {conditions : List VerificationCondition} {results : List VerificationResult}

/-- Every required condition is healthy and no protected one is violated. -/
structure Verified (conditions : List VerificationCondition) (results : List VerificationResult) :
    Prop where
  healthy : ∀ condition ∈ conditions, condition.required = true →
    (statuses results).get? condition.conditionId = some .healthy
  unviolated : ∀ condition ∈ conditions, condition.level = .sideEffectGuard →
    (statuses results).get? condition.conditionId ≠ some .unhealthy

theorem verified_iff : Verified conditions results ↔
    successful conditions results = true ∧ protectedViolation conditions results = false := by
  have hsuccessful : successful conditions results = true ↔ ∀ condition ∈ conditions,
      condition.required = true → (statuses results).get? condition.conditionId = some .healthy := by
    simp [successful, or_iff_not_imp_left]
  have hprotected : protectedViolation conditions results = false ↔ ∀ condition ∈ conditions,
      condition.level = .sideEffectGuard →
        (statuses results).get? condition.conditionId ≠ some .unhealthy := by
    simp [protectedViolation]
  rw [hsuccessful, hprotected]
  exact ⟨fun h => ⟨h.healthy, h.unviolated⟩, fun h => ⟨h.1, h.2⟩⟩

instance : Decidable (Verified conditions results) := decidable_of_iff _ verified_iff.symm

theorem verified_iff_passes {unverified : Prop} (h : unverified → conditions = []) :
    ((unverified ∨ successful conditions results = true) ∧
      ¬ protectedViolation conditions results = true) ↔ Verified conditions results := by
  rw [verified_iff, Bool.not_eq_true]
  refine and_congr_left fun _ => ⟨?_, Or.inr⟩
  rintro (hnothing | hsuccessful)
  · rw [h hnothing]
    rfl
  · exact hsuccessful

def runCertificate (mode : OperationMode) (contextMode : String) (verified : Prop)
    [Decidable verified] : CertificateStatus :=
  if mode = .dryRun ∨ contextMode = "simulation" then .partiallyRecovered
  else if verified then .recovered else .recoveryFailed

def externalCertificate (contextMode : String) (verified : Prop) [Decidable verified] :
    CertificateStatus :=
  if verified then if contextMode = "live" then .recovered else .partiallyRecovered
  else .recoveryFailed

end Verdicts

section Seals

variable {runtime : OperationRuntime} {operation later : OperationRun} {policy : ExecutionPolicy}
  {context : RuntimeContext} {verificationConditions : Option (List VerificationCondition)}
  {state : LoopState}

def lastEvent (operation : OperationRun) : Option String :=
  operation.events.getLast?.map OperationEvent.eventType

def conditionsOf (operation : OperationRun)
    (verificationConditions : Option (List VerificationCondition)) : List VerificationCondition :=
  verificationConditions.getD operation.plan.verificationConditions

def Met (operation : OperationRun)
    (verificationConditions : Option (List VerificationCondition)) : Prop :=
  Verified (conditionsOf operation verificationConditions) operation.verificationResults

instance : Decidable (Met operation verificationConditions) := by
  unfold Met
  infer_instance

def certificateStatus (operation : OperationRun) : Option CertificateStatus :=
  operation.recoveryCertificate.map RecoveryCertificate.status

theorem noted_returns {eventType title : String} {actionId : Option String} {details : JsonObject} :
    Returns (runtime.noted operation eventType title actionId details) fun later =>
      ∃ updatedAtIso event, event.eventType = eventType ∧ event.actionId = actionId ∧
        later = { operation with updatedAtIso, events := operation.events ++ [event] } := by
  unfold OperationRuntime.noted OperationRuntime.event OperationRuntime.utcNowIso
  refine Returns.bind_any fun updatedAtIso => Returns.bind (m := fun event =>
    event.eventType = eventType ∧ event.actionId = actionId) ?_ fun event hevent => ?_
  · exact Returns.bind_any fun occurredAtIso => Returns.pure ⟨rfl, rfl⟩
  · exact Returns.pure ⟨updatedAtIso, event, hevent.1, hevent.2, rfl⟩

theorem sealRun_certifies : Returns (runtime.sealRun operation context verificationConditions)
    fun sealed => certificateStatus sealed = some (runCertificate sealed.mode
      context.executionContext.mode (Met sealed verificationConditions)) := by
  unfold OperationRuntime.sealRun OperationRuntime.utcNowIso
  refine Returns.bind noted_returns fun verifying hverifying => ?_
  obtain ⟨updatedAtIso, event, -, -, rfl⟩ := hverifying
  refine Returns.bind_any fun results => Returns.bind_any fun completedAtIso => ?_
  refine Returns.bind noted_returns fun noted hnoted => ?_
  obtain ⟨sealedAtIso, sealEvent, -, -, rfl⟩ := hnoted
  refine Returns.bind_any fun _ => Returns.pure ?_
  dsimp only [certificateStatus, Option.map_some, OperationRuntime.certificateFor]
  unfold runCertificate
  congr 1
  refine if_congr Iff.rfl rfl (if_congr ?_ rfl rfl)
  exact verified_iff_passes And.right

theorem verifyExternal_certifies :
    Returns (runtime.verifyExternal operation context verificationConditions)
      fun sealed => sealed.mode = operation.mode ∧
        certificateStatus sealed = some (externalCertificate context.executionContext.mode
          (Met sealed verificationConditions)) := by
  unfold OperationRuntime.verifyExternal
  refine Returns.ite (fun _ => Returns.raise _) fun _ => ?_
  refine Returns.bind_any fun results => Returns.bind_any fun now => Returns.bind_any fun event => ?_
  refine Returns.bind_any fun _ => Returns.pure ⟨rfl, ?_⟩
  dsimp only [certificateStatus, Option.map_some, OperationRuntime.certificateFor]
  unfold externalCertificate
  congr 1
  refine if_congr ?_ rfl rfl
  exact verified_iff_passes id

theorem sealRun_observes {conditions : List VerificationCondition}
    {post : List VerificationResult → Prop}
    (h : Returns (runtime.evaluateConditions conditions context) post) :
    Returns (runtime.sealRun operation context (some conditions))
      fun sealed => post sealed.verificationResults := by
  unfold OperationRuntime.sealRun OperationRuntime.utcNowIso
  refine Returns.bind_any fun verifying => Returns.bind h fun results hresults => ?_
  refine Returns.bind_any fun completedAtIso => Returns.bind_any fun noted => ?_
  exact Returns.bind_any fun _ => Returns.pure hresults

theorem verifyExternal_observes {conditions : List VerificationCondition}
    {post : List VerificationResult → Prop}
    (h : Returns (runtime.evaluateConditions conditions context) post) :
    Returns (runtime.verifyExternal operation context (some conditions))
      fun sealed => post sealed.verificationResults := by
  unfold OperationRuntime.verifyExternal
  refine Returns.ite (fun _ => Returns.raise _) fun _ => Returns.bind h fun results hresults => ?_
  refine Returns.bind_any fun now => Returns.bind_any fun event => ?_
  exact Returns.bind_any fun _ => Returns.pure hresults

theorem lastEvent_append {event : OperationEvent} {events : List OperationEvent}
    (h : operation.events = events ++ [event]) : lastEvent operation = some event.eventType := by
  simp [lastEvent, h]

theorem authorize_last : Returns (runtime.authorize operation policy context)
    fun authorized => lastEvent authorized = some "operation.authorization_evaluated" := by
  unfold OperationRuntime.authorize
  refine Returns.bind_any fun decisions => Returns.bind_any fun marked => ?_
  refine Returns.bind noted_returns fun noted hnoted => ?_
  obtain ⟨updatedAtIso, event, htype, -, rfl⟩ := hnoted
  refine Returns.bind_any fun _ => Returns.pure ?_
  rw [← htype]
  exact lastEvent_append rfl

theorem rollback_last : Returns (runtime.rollback operation context)
    fun rolled => lastEvent rolled = some "rollback.completed" := by
  unfold OperationRuntime.rollback OperationRuntime.utcNowIso
  refine Returns.bind_any fun _ => Returns.bind_any fun started => ?_
  refine Returns.bind_any fun rolled => Returns.bind_any fun completedAtIso => ?_
  refine Returns.bind noted_returns fun noted hnoted => ?_
  obtain ⟨updatedAtIso, event, htype, -, rfl⟩ := hnoted
  refine Returns.bind_any fun _ => Returns.pure ?_
  rw [← htype]
  exact lastEvent_append rfl

/-- A loop that has failed, or paused the run, has just said so. -/
def Announces : LoopExit → Prop
  | .left next => next.failed = true → lastEvent next.operation = some "operation.failed"
  | .paused operation => lastEvent operation = some "operation.paused"

theorem fail_last {reason : String} : Returns (runtime.fail operation reason)
    fun failed => lastEvent failed = some "operation.failed" := by
  unfold OperationRuntime.fail
  refine Returns.bind noted_returns fun noted hnoted => Returns.pure ?_
  obtain ⟨updatedAtIso, event, htype, -, rfl⟩ := hnoted
  rw [← htype]
  exact lastEvent_append rfl

theorem settle_announces {action : ActionInstance} {receipt : ActionReceipt}
    (hgoing : state.failed = false) : Returns (runtime.settle state action receipt) Announces := by
  have hleft : ∀ next : LoopState, next.failed = state.failed → Announces (.left next) := by
    intro next hsame hfailed
    rw [hsame, hgoing] at hfailed
    cases hfailed
  unfold OperationRuntime.settle
  refine Returns.ite (fun _ => Returns.pure (hleft _ rfl)) fun _ => ?_
  refine Returns.ite (fun _ => Returns.pure (hleft _ rfl)) fun _ => ?_
  refine Returns.ite (fun _ => ?_) fun _ => Returns.ite (fun _ => ?_) fun _ => ?_
  · exact Returns.bind_any fun noted => Returns.bind_any fun _ => Returns.pure (hleft _ rfl)
  · refine Returns.bind noted_returns fun noted hnoted => ?_
    obtain ⟨updatedAtIso, event, htype, -, rfl⟩ := hnoted
    refine Returns.bind_any fun _ => Returns.pure ?_
    change lastEvent _ = _
    rw [← htype]
    exact lastEvent_append rfl
  · exact Returns.bind fail_last fun failed hlast => Returns.pure fun _ => hlast

theorem iterate_announces (hgoing : state.failed = false) :
    Returns (runtime.iterate context state) Announces := by
  unfold OperationRuntime.iterate
  split
  · refine Returns.bind_any fun _ => Returns.bind fail_last fun failed hlast => ?_
    exact Returns.pure fun _ => hlast
  · split
    · exact Returns.raise _
    · refine Returns.bind_any fun _ => Returns.bind_any fun running => ?_
      refine Returns.bind_any fun checked => Returns.bind_any fun receipt => ?_
      exact Returns.bind_any fun received => settle_announces hgoing

theorem runLoop_announces (rounds : Nat) (hstart : Announces (.left state)) :
    Returns (runtime.runLoop context rounds state) Announces := by
  induction rounds generalizing state with
  | zero => exact Returns.bind_any fun _ => Returns.raise _
  | succ rounds ih =>
    unfold OperationRuntime.runLoop
    refine Returns.ite (fun _ => Returns.pure hstart) fun hgoing => ?_
    rw [not_or, Bool.not_eq_true] at hgoing
    refine Returns.bind (iterate_announces hgoing.2) fun exit hexit => ?_
    cases exit with
    | left next => exact ih hexit
    | paused operation => exact Returns.pure hexit

theorem run_sealed {rollbackOnFailure : Bool} {post : OperationRun → Prop}
    (hseal : ∀ executed, Returns (runtime.sealRun executed context verificationConditions) post) :
    Returns (runtime.run operation policy context verificationConditions rollbackOnFailure)
      fun sealed => lastEvent sealed = some "operation.sealed" → post sealed := by
  have hother : ∀ {sealed : OperationRun} {eventType : String}, lastEvent sealed = some eventType →
      eventType ≠ "operation.sealed" → lastEvent sealed = some "operation.sealed" →
      post sealed := by
    intro sealed eventType hlast hne hsealed
    exact absurd (Option.some.inj (hlast.symm.trans hsealed)) hne
  unfold OperationRuntime.run OperationRuntime.utcNowIso
  refine Returns.bind authorize_last fun authorized hauthorized => ?_
  refine Returns.ite (fun _ => Returns.pure (hother hauthorized (by decide))) fun _ => ?_
  refine Returns.bind_any fun now => Returns.bind_any fun event => Returns.bind_any fun _ => ?_
  refine Returns.bind (runLoop_announces _ fun hfailed => by cases hfailed) fun exit hexit => ?_
  cases exit with
  | paused operation => exact Returns.pure (hother hexit (by decide))
  | left state =>
    refine Returns.ite (fun hfailed => ?_) fun _ => (hseal _).mono fun _ h _ => h
    refine Returns.bind (m := fun rolled => lastEvent rolled = some "rollback.completed" ∨
      lastEvent rolled = some "operation.failed") ?_ fun rolled hrolled => ?_
    · unfold OperationRuntime.rollbackIfAsked
      exact Returns.ite (fun _ => rollback_last.mono fun _ => Or.inl) fun _ =>
        Returns.pure (Or.inr (hexit hfailed))
    · refine Returns.bind_any fun _ => Returns.pure ?_
      rcases hrolled with hlast | hlast
      · exact hother hlast (by decide)
      · exact hother hlast (by decide)

theorem run_certifies {rollbackOnFailure : Bool} :
    Returns (runtime.run operation policy context verificationConditions rollbackOnFailure)
      fun sealed => lastEvent sealed = some "operation.sealed" →
        certificateStatus sealed = some (runCertificate sealed.mode context.executionContext.mode
          (Met sealed verificationConditions)) :=
  run_sealed fun _ => sealRun_certifies

end Seals

section Agreement

variable {runtime : OperationRuntime} {context : RuntimeContext}
  {conditions wanted : Option (List VerificationCondition)} {sealed verified : OperationRun}

/-- Two runs sealed after the same verification, one by `run` and one by `verify_external`. -/
structure SealedAlike (runtime : OperationRuntime) (context : RuntimeContext)
    (conditions wanted : Option (List VerificationCondition)) (sealed verified : OperationRun) :
    Prop where
  byRun : ∃ operation policy rollbackOnFailure trace reached,
    (runtime.run operation policy context conditions rollbackOnFailure).exec trace =
      (.ok sealed, reached)
  byVerification : ∃ operation usedContext trace reached,
    usedContext.executionContext.mode = context.executionContext.mode ∧
      (runtime.verifyExternal operation usedContext wanted).exec trace = (.ok verified, reached)
  last : lastEvent sealed = some "operation.sealed"
  mode : verified.mode = sealed.mode
  conditions_eq : conditionsOf verified wanted = conditionsOf sealed conditions
  results_eq : verified.verificationResults = sealed.verificationResults

/-- Both paths certify alike, a recovery only where it was verified live, and a
failed verification as a failure. -/
structure Truthful (mode : OperationMode) (contextMode : String) (met : Prop)
    (byRun byVerification : CertificateStatus) : Prop where
  same : byRun = byVerification
  recovered : byRun = .recovered → contextMode = "live" ∧ mode ≠ .dryRun ∧ met
  failed : ¬ met → mode ≠ .dryRun → byRun = .recoveryFailed ∧ byVerification = .recoveryFailed

/-- What the two paths do promise. A run of a dry run or in simulation is
certified as a partial recovery whatever was observed. -/
structure Certified (mode : OperationMode) (contextMode : String) (met : Prop)
    (byRun byVerification : CertificateStatus) : Prop where
  same : mode ≠ .dryRun ∧ contextMode = "live" ∨ contextMode = "simulation" ∧ met →
    byRun = byVerification
  modelled : mode = .dryRun ∨ contextMode = "simulation" → byRun = .partiallyRecovered
  recoveredByRun : byRun = .recovered → mode ≠ .dryRun ∧ contextMode ≠ "simulation" ∧ met
  recoveredByVerification : byVerification = .recovered → contextMode = "live" ∧ met
  failedByRun : ¬ met → mode ≠ .dryRun → contextMode ≠ "simulation" → byRun = .recoveryFailed
  failedByVerification : ¬ met → mode ≠ .dryRun → byVerification = .recoveryFailed

theorem certified (mode : OperationMode) (contextMode : String) (met : Prop) [Decidable met] :
    Certified mode contextMode met (runCertificate mode contextMode met)
      (externalCertificate contextMode met) := by
  unfold runCertificate externalCertificate
  constructor
  · rintro (⟨hmode, rfl⟩ | ⟨rfl, hmet⟩)
    · simp [hmode]
    · simp [hmet]
  · exact fun hmodelled => if_pos hmodelled
  · intro hrecovered
    by_cases hmodelled : mode = .dryRun ∨ contextMode = "simulation"
    · simp [hmodelled] at hrecovered
    · by_cases hmet : met
      · exact ⟨fun h => hmodelled (Or.inl h), fun h => hmodelled (Or.inr h), hmet⟩
      · simp [hmodelled, hmet] at hrecovered
  · intro hrecovered
    by_cases hmet : met
    · by_cases hlive : contextMode = "live"
      · exact ⟨hlive, hmet⟩
      · simp [hmet, hlive] at hrecovered
    · simp [hmet] at hrecovered
  · intro hmet hmode hcontext
    simp [hmet, hmode, hcontext]
  · intro hmet _
    simp [hmet]

theorem SealedAlike.certificates (h : SealedAlike runtime context conditions wanted sealed verified) :
    certificateStatus sealed = some (runCertificate sealed.mode context.executionContext.mode
        (Met sealed conditions)) ∧
      certificateStatus verified = some (externalCertificate context.executionContext.mode
        (Met sealed conditions)) := by
  obtain ⟨operation, policy, rollbackOnFailure, trace, reached, hexec⟩ := h.byRun
  obtain ⟨given, usedContext, start, finish, hcontext, hverify⟩ := h.byVerification
  refine ⟨run_certifies.apply hexec h.last, ?_⟩
  rw [(verifyExternal_certifies.apply hverify).2, hcontext]
  unfold Met
  simp only [h.conditions_eq, h.results_eq]

end Agreement

section Examples

open DockerHost

/-- What the engine answers about fields of entities that nothing is known of. -/
def unobserved (condition : VerificationCondition) : VerificationResult where
  resultId := s!"verification:{condition.conditionId}:0"
  conditionId := condition.conditionId
  status := .unknown
  evaluatedAtSeconds := 0
  explanation := "entity runtime/db is unobserved"
  evidenceIds := ["runtime/db"]
  actualValue := .null

def unobserving : OperationRuntime :=
  { runtime with verification := ⟨fun conditions _ _ => .ok (conditions.map unobserved)⟩ }

def ready : VerificationCondition where
  conditionId := "condition:db:ready"
  title := "The database is ready"
  predicate := .fieldEquals "runtime/db" "observed_state.ready" (.bool true)
  level := .resourceConvergence

def awaitingVerification : OperationRun :=
  { createdRun [startContainer "db"] with status := .verifying }

theorem evaluate_unobserving :
    Returns (unobserving.evaluateConditions [ready] context) (· = [unobserved ready]) := by
  unfold OperationRuntime.evaluateConditions
  refine Returns.ite (fun hnothing => by cases hnothing) fun _ => ?_
  refine Returns.bind_any fun world => Returns.bind_any fun relationships => ?_
  exact Triple.attempt (fun value hvalue _ _ => (Except.ok.inj hvalue).symm) fun _ _ _ _ => trivial

theorem exists_sealedAlike_unobserved : ∃ sealed verified,
    SealedAlike unobserving context (some [ready]) (some [ready]) sealed verified ∧
      sealed.mode = .guardedExecution ∧ ¬ Met sealed (some [ready]) := by
  have hrun : (unobserving.run (createdRun [startContainer "db"]) policy context (some [ready])
      true).returns (Trace.start Effect) (fun sealed =>
        lastEvent sealed = some "operation.sealed" ∧ sealed.mode = .guardedExecution ∧
          ¬ Met sealed (some [ready])) = true := by decide +kernel
  have hverify : (unobserving.verifyExternal awaitingVerification context (some [ready])).returns
      (Trace.start Effect) (fun verified => verified.mode = .guardedExecution) = true := by
    decide
  obtain ⟨sealed, reached, hexec, hsealed⟩ := Program.exists_of_returns hrun
  obtain ⟨verified, finish, hverified, hmode⟩ := Program.exists_of_returns hverify
  rw [decide_eq_true_eq] at hsealed hmode
  refine ⟨sealed, verified, ⟨⟨_, _, _, _, _, hexec⟩, ⟨_, _, _, _, rfl, hverified⟩, hsealed.1, ?_, rfl,
    ?_⟩, hsealed.2⟩
  · rw [hmode, hsealed.2.1]
  · have hresults := (run_sealed fun _ => sealRun_observes evaluate_unobserving).apply hexec hsealed.1
    rw [hresults]
    exact (verifyExternal_observes evaluate_unobserving).apply hverified

end Examples

end KubeOps.Execution
