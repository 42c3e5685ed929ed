import KubeOps.Execution.ReceiptIdentity
import KubeOps.Execution.Rows
import KubeOps.Invariants.Monotone

/-! Operations side by side. The ids of their receipts, checkpoints and certificates name the operation, so
that no two operations share one; those of approvals and of verification results are as far apart as what the
operations were given. -/
namespace KubeOps.Execution

open KubeOps.Foundation KubeOps.Models KubeOps.Policy KubeOps.Actions KubeOps.Invariants
open OperationRuntime (Creation)

section Ids

variable {environmentId other segment sign left right : String} {one two : Holding} {table : RowTable}

theorem unbroken_lastSegment (text : String) : Unbroken ':' (Text.lastSegment text ':') := by
  unfold Unbroken Text.lastSegment
  rw [String.toList_ofList, List.mem_reverse]
  intro hmem
  have hother := List.all_eq_true.mp List.all_takeWhile ':' hmem
  simp at hother

theorem operationId_inj (henvironment : Unbroken ':' environmentId) (hother : Unbroken ':' other)
    (hsegment : Unbroken ':' segment) (hsign : Unbroken ':' sign)
    (h : s!"operation:{environmentId}:{segment}" ++ ":" ++ left =
      s!"operation:{other}:{sign}" ++ ":" ++ right) :
    environmentId = other ∧ segment = sign := by
  have hassoc : ∀ environmentId segment rest : String, s!"operation:{environmentId}:{segment}" ++ ":" ++ rest =
      "operation:" ++ (environmentId ++ String.singleton ':' ++ (segment ++ String.singleton ':' ++ rest)) := by
    intro environmentId segment rest
    change "operation:" ++ environmentId ++ ":" ++ segment ++ ":" ++ rest = _
    simp only [String.append_assoc]
    rfl
  rw [hassoc, hassoc, String.append_right_inj] at h
  obtain ⟨hfirst, hrest⟩ := first_segment_inj ':' henvironment hother h
  exact ⟨hfirst, (first_segment_inj ':' hsegment hsign hrest).1⟩

/-- The id of the operation is made up of an environment and a plan. -/
structure Holding.Shaped (holding : Holding) : Prop where
  shape : ∃ environmentId segment, Unbroken ':' environmentId ∧ Unbroken ':' segment ∧
    holding.operationId = s!"operation:{environmentId}:{segment}"

structure Apart (one two : Holding) : Prop where
  approvals : ∀ approvalId ∈ one.approvalIds, approvalId ∉ two.approvalIds
  conditions : ∀ conditionId ∈ one.conditionIds, conditionId ∉ two.conditionIds

theorem certificateId_ne (operationId otherId : String) (number : Nat) :
    s!"rollback:{operationId}" ≠ s!"recovery:{otherId}:{number}" := by
  intro h
  have hjoined : "rollback" ++ String.singleton ':' ++ operationId =
      "recovery" ++ String.singleton ':' ++ (otherId ++ ":" ++ toString number) := by
    have hassoc : s!"recovery:{otherId}:{number}" =
        "recovery" ++ String.singleton ':' ++ (otherId ++ ":" ++ toString number) := by
      change "recovery:" ++ otherId ++ ":" ++ toString number =
        "recovery:" ++ (otherId ++ ":" ++ toString number)
      simp only [String.append_assoc]
    exact h.trans hassoc
  exact absurd (first_segment_inj ':' (by decide) (by decide) hjoined).1 (by decide)

theorem Apart.mints (h : Apart one two) (hone : one.Shaped) (htwo : two.Shaped)
    (hne : one.operationId ≠ two.operationId) {rowId : String} (hminted : one.Mints table rowId) :
    ¬ two.Mints table rowId := by
  intro hother
  cases table with
  | approval => exact h.approvals rowId hminted hother
  | receipt =>
    obtain ⟨actionId, mark, hmark, rfl⟩ := hminted
    obtain ⟨otherId, otherMark, hotherMark, hid⟩ := hother
    obtain ⟨hjoined, -⟩ := receiptId_inj hmark hotherMark hid
    obtain ⟨environmentId, segment, henvironment, hsegment, hshape⟩ := hone.shape
    obtain ⟨other, sign, hunbroken, hsign, hotherShape⟩ := htwo.shape
    rw [hshape, hotherShape] at hjoined
    obtain ⟨rfl, rfl⟩ := operationId_inj henvironment hunbroken hsegment hsign hjoined
    exact hne (hshape.trans hotherShape.symm)
  | checkpoint =>
    obtain ⟨number, rfl⟩ := hminted
    obtain ⟨count, hid⟩ := hother
    obtain ⟨hjoined, -⟩ := last_segment_inj ':' (Unbroken.toString number) (Unbroken.toString count) hid
    exact hne ((String.append_right_inj "checkpoint:").mp hjoined)
  | verification =>
    obtain ⟨conditionId, hcondition, rfl⟩ := hminted
    obtain ⟨otherId, hmem, hid⟩ := hother
    obtain ⟨hjoined, -⟩ := last_segment_inj ':' (Unbroken.toString 0) (Unbroken.toString 0) hid
    obtain rfl := (String.append_right_inj "verification:").mp hjoined
    exact h.conditions conditionId hcondition hmem
  | certificate =>
    rcases hminted with rfl | ⟨number, rfl⟩
    · rcases hother with hid | ⟨count, hid⟩
      · exact hne ((String.append_right_inj "rollback:").mp hid)
      · exact certificateId_ne _ _ _ hid
    · rcases hother with hid | ⟨count, hid⟩
      · exact certificateId_ne _ _ _ hid.symm
      · obtain ⟨hjoined, -⟩ := last_segment_inj ':' (Unbroken.toString number) (Unbroken.toString count) hid
        exact hne ((String.append_right_inj "recovery:").mp hjoined)

end Ids

section Sessions

structure OperationSession where
  runtime : OperationRuntime
  creation : Creation
  calls : List Call

namespace OperationSession

def log (session : OperationSession) : Log := (session.runtime.session session.creation session.calls).log

def holding (session : OperationSession) : Holding where
  operationId := session.creation.operationId
  conditionIds := (session.creation.plan.verificationConditions ++ session.calls.flatMap Call.conditions).map
    VerificationCondition.conditionId
  approvalIds :=
    (session.creation.approvals ++ session.calls.flatMap Call.approvals).map ApprovalRecord.approvalId

/-- The runtime verifies with the engine and has executors that name their receipts as all do; the
environment has no colon in its id; the contexts name the operation; and the receipts told are its own. -/
structure Proper (texts : ValueTexts) (dumped : Value → Json) (session : OperationSession) : Prop where
  engine : session.runtime.verification = invariantEngine texts dumped
  executors : session.runtime.executors.Conventional
  environment : Unbroken ':' session.creation.environmentId
  contexts : ∀ call ∈ session.calls, ∀ context mayRollBack, call.execution = some (context, mayRollBack) →
    context.executionContext.operationId = session.holding.operationId
  receipts : ∀ call ∈ session.calls, ∀ receipt ∈ call.receipts, session.holding.Mints .receipt receipt.receiptId

variable {texts : ValueTexts} {dumped : Value → Json} {session : OperationSession}

theorem holding_shaped (h : session.Proper texts dumped) : session.holding.Shaped where
  shape := ⟨_, _, h.environment, unbroken_lastSegment _, rfl⟩

theorem own_of_mem (h : session.Proper texts dumped) {call : Call} (hmem : call ∈ session.calls) :
    call.Own session.holding where
  approvals := fun _ happroval => List.mem_map_of_mem
    (List.mem_append_right _ (List.mem_flatMap.mpr ⟨call, hmem, happroval⟩))
  conditions := fun _ hcondition => List.mem_map_of_mem
    (List.mem_append_right _ (List.mem_flatMap.mpr ⟨call, hmem, hcondition⟩))
  contexts := h.contexts call hmem
  receipts := h.receipts call hmem

theorem log_keeps (h : session.Proper texts dumped) : Keeps session.holding session.log := by
  refine session_keeps h.executors h.engine (create_held rfl ?_ ?_) fun call => own_of_mem h
  · exact fun condition hmem => List.mem_map_of_mem (List.mem_append_left _ hmem)
  · exact fun approval hmem => List.mem_map_of_mem (List.mem_append_left _ hmem)

end OperationSession

end Sessions

section Persistence

variable {stored later : List Row} {operation : OperationRun} {operations : List OperationRun}

theorem mem_foldlM_createRow {rows : List Row} {row : Row} (h : rows.foldlM createRow stored = .ok later)
    (hmem : row ∈ later) : row ∈ stored ∨ row ∈ rows := by
  induction rows generalizing stored with
  | nil =>
    obtain rfl := Except.ok.inj h
    exact Or.inl hmem
  | cons first rows ih =>
    rw [List.foldlM_cons] at h
    obtain ⟨between, hfirst, hrest⟩ := except_bind_eq_ok h
    unfold createRow at hfirst
    split at hfirst
    · cases hfirst
    · obtain rfl := Except.ok.inj hfirst
      rcases ih hrest with hbetween | hrow
      · rcases List.mem_append.mp hbetween with hold | hnew
        · exact Or.inl hold
        · exact Or.inr (List.mem_cons.mpr (Or.inl (List.mem_singleton.mp hnew)))
      · exact Or.inr (List.mem_cons_of_mem _ hrow)

theorem mem_persistAll {row : Row} (h : row ∈ persistAll operations) :
    ∃ operation ∈ operations, row ∈ rowsOf operation := by
  induction operations using List.reverseRecOn with
  | nil => cases h
  | append_singleton operations operation ih =>
    rw [persistAll, List.foldl_concat, ← persistAll] at h
    have hbefore : row ∈ persistAll operations → ∃ found ∈ operations ++ [operation], row ∈ rowsOf found := by
      intro hrow
      obtain ⟨found, hmem, hfound⟩ := ih hrow
      exact ⟨found, List.mem_append_left _ hmem, hfound⟩
    cases hpersist : persistOperation (persistAll operations) operation with
    | error taken =>
      rw [hpersist] at h
      exact hbefore h
    | ok later =>
      rw [hpersist] at h
      rcases mem_foldlM_createRow hpersist h with hold | hnew
      · exact hbefore (List.mem_filter.mp hold).1
      · exact ⟨operation, List.mem_append_right _ List.mem_cons_self, hnew⟩

theorem persistOperation_error {taken : Row} (h : persistOperation stored operation = .error taken) :
    BlockedByOther stored operation ∨ ¬ (rowsOf operation).Pairwise fun one other => ¬ other.Clashes one := by
  by_contra hnone
  rw [not_or, not_not] at hnone
  obtain ⟨hfree, hown⟩ := hnone
  have hkept : ∀ row ∈ rowsOf operation, ∀ other ∈ stored.filter fun row =>
    row.operationId ≠ operation.operationId,
      ¬ row.Clashes other := by
    intro row hrow other hother hclash
    obtain ⟨hmem, hdifferent⟩ := List.mem_filter.mp hother
    exact hfree ⟨row, hrow, other, hmem, of_decide_eq_true hdifferent, hclash⟩
  have hall : ∀ (rows kept : List Row), (rows.Pairwise fun one other => ¬ other.Clashes one) →
      (∀ row ∈ rows, ∀ other ∈ kept, ¬ row.Clashes other) → ∃ later,
        rows.foldlM createRow kept = .ok later := by
    intro rows
    induction rows with
    | nil => exact fun kept _ _ => ⟨kept, rfl⟩
    | cons first rows ih =>
      intro kept hpairs hfree
      obtain ⟨hfirst, hrest⟩ := List.pairwise_cons.mp hpairs
      have hcreated : createRow kept first = .ok (kept ++ [first]) :=
        if_neg fun ⟨other, hmem, hclash⟩ => hfree first List.mem_cons_self other hmem hclash
      rw [List.foldlM_cons, hcreated]
      refine ih (kept ++ [first]) hrest fun row hrow other hother => ?_
      rcases List.mem_append.mp hother with hold | hnew
      · exact hfree row (List.mem_cons_of_mem _ hrow) other hold
      · rw [List.mem_singleton.mp hnew]
        exact hfirst row hrow
  obtain ⟨later, hlater⟩ := hall _ _ hown hkept
  cases hlater.symm.trans h

end Persistence

/-- Operations that are given different approvals and conditions share no row id, and whatever has been
persisted of them, none of them is refused for a row of another: at most two rows of its own are in the way. -/
theorem operations_not_blocked {ι : Type} {texts : ValueTexts} {dumped : Value → Json}
    (sessions : ι → OperationSession) (hproper : ∀ i, (sessions i).Proper texts dumped)
    (hapart : ∀ i j, (sessions i).holding.operationId ≠ (sessions j).holding.operationId →
      Apart (sessions i).holding (sessions j).holding) :
    (∀ i j one two, .saved one ∈ (sessions i).log → .saved two ∈ (sessions j).log →
      one.operationId ≠ two.operationId → ∀ row ∈ rowsOf one, ∀ other ∈ rowsOf two, ¬ row.Clashes other) ∧
    ∀ history : List OperationRun, (∀ operation ∈ history, ∃ i, .saved operation ∈ (sessions i).log) →
      ∀ i operation, .saved operation ∈ (sessions i).log → ¬ BlockedByOther (persistAll history) operation ∧
        ∀ taken, persistOperation (persistAll history) operation = .error taken →
          ¬ (rowsOf operation).Pairwise fun row other => ¬ other.Clashes row := by
  have hrows : ∀ i j one two, .saved one ∈ (sessions i).log → .saved two ∈ (sessions j).log →
      one.operationId ≠ two.operationId → ∀ row ∈ rowsOf one, ∀ other ∈ rowsOf two, ¬ row.Clashes other := by
    rintro i j one two hone htwo hne row hrow other hother ⟨htable, hid⟩
    have hheld := OperationSession.log_keeps (hproper i) one hone
    have hotherHeld := OperationSession.log_keeps (hproper j) two htwo
    have hdifferent : (sessions i).holding.operationId ≠ (sessions j).holding.operationId := by
      rwa [← hheld.operationId, ← hotherHeld.operationId]
    have hminted := (hheld.of_rows hrow).2
    rw [htable, hid] at hminted
    exact (hapart i j hdifferent).mints (OperationSession.holding_shaped (hproper i))
      (OperationSession.holding_shaped (hproper j)) hdifferent hminted (hotherHeld.of_rows hother).2
  refine ⟨hrows, fun history hhistory i operation hsaved => ?_⟩
  suffices hfree : ¬ BlockedByOther (persistAll history) operation from
    ⟨hfree, fun taken htaken => (persistOperation_error htaken).resolve_left hfree⟩
  rintro ⟨row, hrow, other, hother, hne, hclash⟩
  obtain ⟨found, hmem, hfound⟩ := mem_persistAll hother
  obtain ⟨j, hfoundSaved⟩ := hhistory found hmem
  have hid : other.operationId = found.operationId := by
    rw [((OperationSession.log_keeps (hproper j) found hfoundSaved).of_rows hfound).1,
      (OperationSession.log_keeps (hproper j) found hfoundSaved).operationId]
  rw [hid] at hne
  exact hrows i j operation found hsaved hfoundSaved hne.symm row hrow other hfound hclash

section Hosts

/-- The runtime of a docker host, with the engine that evaluates invariants. -/
def hostRuntime : OperationRuntime :=
  { DockerHost.runtime with verification := invariantEngine plainTexts fun _ => .null }

def hostContext (environmentId : String) : RuntimeContext :=
  let segment := Text.lastSegment (DockerHost.planOf []).planId ':'
  { DockerHost.context with
    executionContext :=
      { operationId := s!"operation:{environmentId}:{segment}", mode := "simulation", environmentId } }

def runs (name : String) : VerificationCondition where
  conditionId := s!"{name}-runs"
  title := s!"The {name} runs"
  predicate := .fieldExists "runtime/db" "observed_state.running" true
  level := .semanticHealth

def hostSession (environmentId : String) (conditions : List VerificationCondition) : OperationSession where
  runtime := hostRuntime
  creation := {
    environmentId
    plan := { DockerHost.planOf [DockerHost.startContainer "db"] with verificationConditions := conditions }
    mode := .guardedExecution
    approvals := [] }
  calls := [.run DockerHost.policy (hostContext environmentId) none true]

theorem hostSession_proper {environmentId : String} (h : Unbroken ':' environmentId)
    (conditions : List VerificationCondition) :
    (hostSession environmentId conditions).Proper plainTexts fun _ => .null where
  engine := rfl
  executors := dockerHost_conventional
  environment := h
  contexts := by
    intro call hmem context mayRollBack hexecution
    rw [List.mem_singleton.mp hmem] at hexecution
    obtain ⟨rfl, -⟩ := Prod.mk.inj (Option.some.inj hexecution)
    rfl
  receipts := by
    intro call hmem receipt hreceipt
    rw [List.mem_singleton.mp hmem] at hreceipt
    cases hreceipt

/-- The database is verified in one environment and the service in the other. -/
def hostSessions (remote : Bool) : OperationSession :=
  hostSession (if remote then "remote" else "local") [runs (if remote then "service" else "database")]

theorem hostSessions_not_blocked :
    ¬ ∃ one two, .saved one ∈ (hostSessions false).log ∧ .saved two ∈ (hostSessions true).log ∧
      BlockedByOther (persistAll [one]) two := by
  rintro ⟨one, two, hone, htwo, hblocked⟩
  refine ((operations_not_blocked hostSessions (fun remote => hostSession_proper ?_ _)
    fun i j hne => ?_).2 [one] ?_ true two htwo).1 hblocked
  · cases remote <;> decide
  · refine ⟨fun _ hnone => absurd hnone List.not_mem_nil, ?_⟩
    cases i <;> cases j <;> first | exact absurd rfl hne | decide
  · intro operation hmem
    rw [List.mem_singleton.mp hmem]
    exact ⟨false, hone⟩

/-- What the two sessions have written last, with the first of them persisted: whether the second is
refused for a row of the first. -/
def secondBlocked (one two : OperationSession) : Option (Bool × Bool × Option Row) := do
  let first ← latest one.log
  let second ← latest two.log
  let stored := persistAll [first]
  return (first.operationId ≠ second.operationId, ∃ row ∈ rowsOf second, ∃ other ∈ stored,
    other.operationId ≠ second.operationId ∧ row.Clashes other,
    match persistOperation stored second with
    | .error row => some row
    | .ok _ => none)

/-- The result for a condition that both verify has one id, so that the second operation is refused. -/
theorem sharedCondition_blocked :
    secondBlocked (hostSession "local" [runs "database"]) (hostSession "remote" [runs "database"]) =
      some (true, true, some {
        table := .verification
        rowId := "verification:database-runs:0"
        operationId := "operation:remote:startup" }) := by decide +kernel

end Hosts

end KubeOps.Execution
