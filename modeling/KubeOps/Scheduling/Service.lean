import KubeOps.Models.Python
import KubeOps.Scheduling.Windows

/-! What the scheduler decides about a schedule at an instant. The ISO texts of a
schedule, which its validator parses, are kept as the instants they name. -/
namespace KubeOps.Scheduling

open KubeOps.Models

inductive ScheduleStatus where
  | pending | delayed | ready | materialized | blocked | expired | cancelled
deriving DecidableEq, Repr

namespace ScheduleStatus

def text : ScheduleStatus → String
  | pending => "pending"
  | delayed => "delayed"
  | ready => "ready"
  | materialized => "materialized"
  | blocked => "blocked"
  | expired => "expired"
  | cancelled => "cancelled"

/-- `_TERMINAL` -/
def terminal (status : ScheduleStatus) : Bool := status ∈ [materialized, expired, cancelled]

end ScheduleStatus

inductive ScheduleOutcome where
  | ready | delay | deny | expired | terminal
deriving DecidableEq, Repr

def ScheduleOutcome.text : ScheduleOutcome → String
  | ready => "ready"
  | delay => "delay"
  | deny => "deny"
  | expired => "expired"
  | terminal => "terminal"

inductive TargetType where
  | environment | fleet
deriving DecidableEq, Repr

def TargetType.text : TargetType → String
  | environment => "environment"
  | fleet => "fleet"

structure ScheduledOperation where
  scheduleId : String
  organizationId : String
  workspaceId : String
  targetType : TargetType
  targetId : String
  operationType : String
  notBefore : Option Int := none
  deadline : Option Int := none
  maintenanceWindowId : Option String := none
  materializeAutomatically : Bool := false
  status : ScheduleStatus := .pending
  operationId : Option String := none
  fleetPlanId : Option String := none
deriving DecidableEq, Repr

structure ScheduleDecision where
  decisionId : String
  scheduleId : String
  outcome : ScheduleOutcome
  reasons : List String
  evaluatedAtIso : String
  nextEligibleAtIso : Option String
  windowId : Option String
deriving DecidableEq, Repr

namespace SchedulingService

/-- What `evaluate` hands to `_decision`. -/
structure Verdict where
  outcome : ScheduleOutcome
  reasons : List String
  nextAt : Option Int := none
  window : Option MaintenanceWindow := none

def optionalText : Option String → Json
  | none => .null
  | some text => .str text

/-- `SchedulingService._decision` -/
def decision (python : Python) (schedule : ScheduledOperation) (now : Int) (verdict : Verdict) :
    ScheduleDecision :=
  let evaluatedAt := python.isoFormat now
  let nextEligible := verdict.nextAt.map python.isoFormat
  let windowId := match verdict.window with
    | some window => some window.windowId
    | none => schedule.maintenanceWindowId
  let identity := python.dumps (.dict [
    ("schedule_id", .str schedule.scheduleId), ("outcome", .str verdict.outcome.text),
    ("reasons", Json.strings verdict.reasons), ("evaluated_at_iso", .str evaluatedAt),
    ("next_eligible_at_iso", optionalText nextEligible), ("window_id", optionalText windowId)])
  { decisionId := s!"schedule-decision:{python.sha256 identity}"
    scheduleId := schedule.scheduleId
    outcome := verdict.outcome
    reasons := verdict.reasons
    evaluatedAtIso := evaluatedAt
    nextEligibleAtIso := nextEligible
    windowId := windowId }

def refusal (schedule : ScheduledOperation) (window : MaintenanceWindow) : Option String :=
  if ¬ window.enabled then some "maintenance window is disabled"
  else if window.organizationId ≠ schedule.organizationId ∨
      window.workspaceId ≠ schedule.workspaceId then some "maintenance window scope mismatch"
  else if window.allowedOperationTypes ≠ [] ∧
      schedule.operationType ∉ window.allowedOperationTypes then
    some "operation type is not permitted by maintenance window"
  else if window.targetIds ≠ [] ∧ schedule.targetId ∉ window.targetIds then
    some "target is not permitted by maintenance window"
  else none

/-- The part of `evaluate` behind the checks of the window itself. -/
def awaitWindow (schedule : ScheduledOperation) (window : MaintenanceWindow) (now : Int) : Verdict :=
  let (inside, nextOpen) := window.windowState now
  if inside then
    { outcome := .ready, reasons := ["maintenance window is open"], window := some window }
  else if ∃ deadline ∈ schedule.deadline, ∃ opening ∈ nextOpen, deadline < opening then
    { outcome := .expired, reasons := ["no maintenance window opens before deadline"]
      window := some window }
  else
    { outcome := .delay, reasons := ["waiting for maintenance window"], nextAt := nextOpen
      window := some window }

def verdict (schedule : ScheduledOperation) (windows : List MaintenanceWindow) (now : Int) :
    Verdict :=
  if schedule.status.terminal then
    { outcome := .terminal, reasons := [s!"schedule is {schedule.status.text}"] }
  else if ∃ deadline ∈ schedule.deadline, deadline < now then
    { outcome := .expired, reasons := ["schedule deadline has passed"] }
  else if ∃ notBefore ∈ schedule.notBefore, now < notBefore then
    { outcome := .delay, reasons := ["schedule is before not_before"], nextAt := schedule.notBefore }
  else
    match schedule.maintenanceWindowId with
    | none => { outcome := .ready, reasons := ["no maintenance window required"] }
    | some windowId =>
      match windows.find? fun window => window.windowId = windowId with
      | none => { outcome := .deny, reasons := ["maintenance window is unavailable"] }
      | some window =>
        match refusal schedule window with
        | some reason => { outcome := .deny, reasons := [reason], window := some window }
        | none => awaitWindow schedule window now

def evaluate (python : Python) (schedule : ScheduledOperation) (windows : List MaintenanceWindow)
    (now : Int) : ScheduleDecision :=
  decision python schedule now (verdict schedule windows now)

/-- What a decision about a schedule says about later instants. -/
structure ExactAt (python : Python) (schedule : ScheduledOperation)
    (windows : List MaintenanceWindow) (now : Int) : Prop where
  delay : (evaluate python schedule windows now).outcome = .delay →
    ∃ next, (evaluate python schedule windows now).nextEligibleAtIso = some (python.isoFormat next) ∧
      (∀ between, now < between → between < next →
        (evaluate python schedule windows between).outcome ≠ .ready) ∧
      ((evaluate python schedule windows now).reasons = ["waiting for maintenance window"] →
        (evaluate python schedule windows next).outcome = .ready)
  expired : (evaluate python schedule windows now).outcome = .expired →
    ∀ later, now < later → (evaluate python schedule windows later).outcome ≠ .ready
  deny : (evaluate python schedule windows now).outcome = .deny →
    ∀ later, now < later → (evaluate python schedule windows later).outcome ≠ .ready

variable {python : Python} {schedule : ScheduledOperation} {windows : List MaintenanceWindow}
  {window : MaintenanceWindow} {now later : Int}

@[simp] theorem outcome_evaluate :
    (evaluate python schedule windows now).outcome = (verdict schedule windows now).outcome := rfl

@[simp] theorem reasons_evaluate :
    (evaluate python schedule windows now).reasons = (verdict schedule windows now).reasons := rfl

@[simp] theorem nextEligibleAtIso_evaluate : (evaluate python schedule windows now).nextEligibleAtIso =
    (verdict schedule windows now).nextAt.map python.isoFormat := rfl

def Serving (schedule : ScheduledOperation) (windows : List MaintenanceWindow)
    (window : MaintenanceWindow) : Prop :=
  ∃ windowId ∈ schedule.maintenanceWindowId,
    windows.find? (fun window => window.windowId = windowId) = some window ∧
      refusal schedule window = none

/-- Nothing but the window can keep the schedule waiting. -/
def Timely (schedule : ScheduledOperation) (now : Int) : Prop :=
  schedule.status.terminal = false ∧ (∀ deadline ∈ schedule.deadline, now ≤ deadline) ∧
    ∀ notBefore ∈ schedule.notBefore, notBefore ≤ now

theorem verdict_of_timely (h : Timely schedule now) : verdict schedule windows now =
    match schedule.maintenanceWindowId with
    | none => { outcome := .ready, reasons := ["no maintenance window required"] }
    | some windowId =>
      match windows.find? fun window => window.windowId = windowId with
      | none => { outcome := .deny, reasons := ["maintenance window is unavailable"] }
      | some window =>
        match refusal schedule window with
        | some reason => { outcome := .deny, reasons := [reason], window := some window }
        | none => awaitWindow schedule window now := by
  obtain ⟨hopen, hdeadline, hbefore⟩ := h
  rw [verdict, if_neg (by simp [hopen]), if_neg, if_neg]
  · rintro ⟨notBefore, hmem, hlt⟩
    exact Int.not_le_of_gt hlt (hbefore notBefore hmem)
  · rintro ⟨deadline, hmem, hlt⟩
    exact Int.not_le_of_gt hlt (hdeadline deadline hmem)

theorem timely_or_verdict (schedule : ScheduledOperation) (windows : List MaintenanceWindow)
    (now : Int) : Timely schedule now ∨ (verdict schedule windows now).outcome = .terminal ∨
    ((verdict schedule windows now).outcome = .expired ∧ ∃ deadline ∈ schedule.deadline, deadline < now) ∨
    ∃ notBefore ∈ schedule.notBefore, now < notBefore ∧ verdict schedule windows now =
      { outcome := .delay, reasons := ["schedule is before not_before"], nextAt := some notBefore } := by
  unfold verdict
  by_cases hterminal : schedule.status.terminal = true
  · rw [if_pos hterminal]
    exact .inr (.inl rfl)
  rw [if_neg hterminal]
  by_cases hoverdue : ∃ deadline ∈ schedule.deadline, deadline < now
  · rw [if_pos hoverdue]
    exact .inr (.inr (.inl ⟨rfl, hoverdue⟩))
  rw [if_neg hoverdue]
  by_cases hearly : ∃ notBefore ∈ schedule.notBefore, now < notBefore
  · rw [if_pos hearly]
    obtain ⟨notBefore, hmem, hlt⟩ := hearly
    rw [Option.mem_def] at hmem
    exact .inr (.inr (.inr ⟨notBefore, hmem, hlt, by rw [hmem]⟩))
  · refine .inl ⟨by simpa using hterminal, fun deadline hmem => ?_, fun notBefore hmem => ?_⟩
    · exact Int.not_lt.mp fun hlt => hoverdue ⟨deadline, hmem, hlt⟩
    · exact Int.not_lt.mp fun hlt => hearly ⟨notBefore, hmem, hlt⟩

theorem timely_of_ready (h : (verdict schedule windows now).outcome = .ready) :
    Timely schedule now := by
  rcases timely_or_verdict schedule windows now with
    htimely | hterminal | ⟨hexpired, -⟩ | ⟨_, -, -, hearly⟩
  · exact htimely
  · rw [h] at hterminal
    contradiction
  · rw [h] at hexpired
    contradiction
  · rw [hearly] at h
    contradiction

theorem verdict_cases (windows : List MaintenanceWindow) (h : Timely schedule now) :
    (schedule.maintenanceWindowId = none ∧ (verdict schedule windows now).outcome = .ready) ∨
    ((schedule.maintenanceWindowId ≠ none ∧ ∀ window, ¬ Serving schedule windows window) ∧
      (verdict schedule windows now).outcome = .deny) ∨
    ∃ window, Serving schedule windows window ∧
      verdict schedule windows now = awaitWindow schedule window now := by
  rw [verdict_of_timely h]
  cases hneeded : schedule.maintenanceWindowId with
  | none => exact .inl ⟨rfl, rfl⟩
  | some windowId =>
    right
    cases hfound : windows.find? fun window => window.windowId = windowId with
    | none =>
      refine .inl ⟨⟨Option.some_ne_none _, ?_⟩, by simp only [hfound]⟩
      rintro window ⟨other, hother, hsome, -⟩
      rw [hneeded, Option.mem_some_iff] at hother
      subst hother
      rw [hfound] at hsome
      contradiction
    | some window =>
      cases hrefusal : refusal schedule window with
      | some reason =>
        refine .inl ⟨⟨Option.some_ne_none _, ?_⟩, by simp only [hfound, hrefusal]⟩
        rintro found ⟨other, hother, hsome, hserves⟩
        rw [hneeded, Option.mem_some_iff] at hother
        subst hother
        rw [hfound, Option.some.injEq] at hsome
        rw [← hsome, hrefusal] at hserves
        contradiction
      | none =>
        exact .inr ⟨window, ⟨windowId, hneeded, hfound, hrefusal⟩, by simp only [hfound, hrefusal]⟩

theorem Serving.unique {other : MaintenanceWindow} (h : Serving schedule windows window)
    (hother : Serving schedule windows other) : other = window := by
  obtain ⟨windowId, hid, hfound, -⟩ := h
  obtain ⟨otherId, hotherId, hotherFound, -⟩ := hother
  rw [Option.mem_def] at hid hotherId
  rw [hid, Option.some.injEq] at hotherId
  rw [← hotherId, hfound, Option.some.injEq] at hotherFound
  exact hotherFound.symm

theorem Serving.ready_iff (h : Serving schedule windows window) (htimely : Timely schedule now) :
    (verdict schedule windows now).outcome = .ready ↔ (window.windowState now).1 = true := by
  obtain ⟨windowId, hid, hfound, hrefusal⟩ := h
  rw [Option.mem_def] at hid
  rw [verdict_of_timely htimely, hid]
  simp only [hfound, hrefusal, awaitWindow]
  split
  · rename_i hinside
    simpa using hinside
  · rename_i hclosed
    split
    · simpa using hclosed
    · simpa using hclosed

theorem not_ready_of_overdue {deadline : Int} (hdeadline : deadline ∈ schedule.deadline)
    (h : deadline < now) : (verdict schedule windows now).outcome ≠ .ready := by
  intro hready
  exact Int.not_le_of_gt h ((timely_of_ready hready).2.1 deadline hdeadline)

theorem Serving.open_of_ready (h : Serving schedule windows window)
    (hready : (verdict schedule windows now).outcome = .ready) :
    (window.windowState now).1 = true :=
  (h.ready_iff (timely_of_ready hready)).mp hready

theorem overdue_of_expired (h : (verdict schedule windows now).outcome = .expired) :
    (∃ deadline ∈ schedule.deadline, deadline < now) ∨
      ∃ window, Serving schedule windows window ∧
        (awaitWindow schedule window now).outcome = .expired := by
  rcases timely_or_verdict schedule windows now with
    htimely | hterminal | ⟨-, hoverdue⟩ | ⟨_, -, -, hearly⟩
  · rcases verdict_cases windows htimely with
      ⟨-, hready⟩ | ⟨-, hdeny⟩ | ⟨window, hserving, hawait⟩
    · rw [h] at hready
      contradiction
    · rw [h] at hdeny
      contradiction
    · exact .inr ⟨window, hserving, hawait ▸ h⟩
  · rw [h] at hterminal
    contradiction
  · exact .inl hoverdue
  · rw [hearly] at h
    contradiction

theorem unserved_of_deny (h : (verdict schedule windows now).outcome = .deny) :
    schedule.maintenanceWindowId ≠ none ∧ ∀ window, ¬ Serving schedule windows window := by
  rcases timely_or_verdict schedule windows now with
    htimely | hterminal | ⟨hexpired, -⟩ | ⟨_, -, -, hearly⟩
  · rcases verdict_cases windows htimely with
      ⟨-, hready⟩ | ⟨hunserved, -⟩ | ⟨window, hserving, hawait⟩
    · rw [h] at hready
      contradiction
    · exact hunserved
    · rw [hawait, awaitWindow] at h
      dsimp only at h
      split at h
      · contradiction
      · split at h
        · contradiction
        · contradiction
  · rw [h] at hterminal
    contradiction
  · rw [h] at hexpired
    contradiction
  · rw [hearly] at h
    contradiction

theorem cause_of_delay (h : (verdict schedule windows now).outcome = .delay) :
    (∃ notBefore ∈ schedule.notBefore, verdict schedule windows now =
      { outcome := .delay, reasons := ["schedule is before not_before"], nextAt := some notBefore }) ∨
    Timely schedule now ∧ ∃ window, Serving schedule windows window ∧
      verdict schedule windows now = awaitWindow schedule window now := by
  rcases timely_or_verdict schedule windows now with
    htimely | hterminal | ⟨hexpired, -⟩ | ⟨notBefore, hmem, -, hearly⟩
  · rcases verdict_cases windows htimely with ⟨-, hready⟩ | ⟨-, hdeny⟩ | hwindow
    · rw [h] at hready
      contradiction
    · rw [h] at hdeny
      contradiction
    · exact .inr ⟨htimely, hwindow⟩
  · rw [h] at hterminal
    contradiction
  · rw [h] at hexpired
    contradiction
  · exact .inl ⟨notBefore, hmem, hearly⟩

theorem awaitWindow_closed (h : (awaitWindow schedule window now).outcome ≠ .ready) :
    ∃ next, now < next ∧ (∀ between, now < between → between < next →
        (window.windowState between).1 = false) ∧ (window.windowState next).1 = true ∧
      ((awaitWindow schedule window now).outcome = .expired ∧
          (∃ deadline ∈ schedule.deadline, deadline < next) ∨
        (awaitWindow schedule window now).outcome = .delay ∧
          (awaitWindow schedule window now).nextAt = some next ∧
          ∀ deadline ∈ schedule.deadline, next ≤ deadline) := by
  cases hstate : (window.windowState now).1 with
  | true => simp [awaitWindow, hstate] at h
  | false =>
    obtain ⟨next, hnext, hlater, hbetween, hopens⟩ := MaintenanceWindow.windowState_closed hstate
    refine ⟨next, hlater, hbetween, hopens, ?_⟩
    simp only [awaitWindow, hstate, hnext, Option.mem_some_iff, exists_eq_left', Bool.false_eq_true,
      if_false]
    split
    · rename_i hmissed
      exact .inl ⟨rfl, hmissed⟩
    · rename_i hintime
      refine .inr ⟨rfl, rfl, fun deadline hmem => Int.not_lt.mp fun hlt => ?_⟩
      exact hintime ⟨deadline, hmem, hlt⟩

theorem not_ready_of_expired (h : (verdict schedule windows now).outcome = .expired)
    (hlater : now < later) : (verdict schedule windows later).outcome ≠ .ready := by
  rcases overdue_of_expired h with ⟨deadline, hdeadline, hoverdue⟩ | ⟨window, hserving, hexpired⟩
  · exact not_ready_of_overdue hdeadline (hoverdue.trans hlater)
  · have hclosed : (awaitWindow schedule window now).outcome ≠ .ready := by simp [hexpired]
    obtain ⟨next, -, hbetween, -, ⟨-, deadline, hdeadline, hmissed⟩ | ⟨hdelay, -⟩⟩ :=
      awaitWindow_closed hclosed
    · intro hready
      have hintime := (timely_of_ready hready).2.1 deadline hdeadline
      have hopen := hserving.open_of_ready hready
      rw [hbetween later hlater (by omega)] at hopen
      contradiction
    · rw [hexpired] at hdelay
      contradiction

theorem not_ready_of_deny (h : (verdict schedule windows now).outcome = .deny) :
    (verdict schedule windows later).outcome ≠ .ready := by
  obtain ⟨hneeded, hunserved⟩ := unserved_of_deny h
  intro hready
  rcases verdict_cases windows (timely_of_ready hready) with
    ⟨hnone, -⟩ | ⟨-, hdeny⟩ | ⟨window, hserving, -⟩
  · exact hneeded hnone
  · rw [hready] at hdeny
    contradiction
  · exact hunserved window hserving

theorem next_of_delay (h : (verdict schedule windows now).outcome = .delay) :
    ∃ next, (verdict schedule windows now).nextAt = some next ∧
      (∀ between, now < between → between < next →
        (verdict schedule windows between).outcome ≠ .ready) ∧
      ((verdict schedule windows now).reasons = ["waiting for maintenance window"] →
        (verdict schedule windows next).outcome = .ready) := by
  rcases cause_of_delay h with ⟨notBefore, hmem, hearly⟩ | ⟨htimely, window, hserving, hawait⟩
  · rw [hearly]
    refine ⟨notBefore, rfl, fun between _ hbetween hready => ?_, fun hreason => ?_⟩
    · exact Int.not_le_of_gt hbetween ((timely_of_ready hready).2.2 notBefore hmem)
    · simp at hreason
  · rw [hawait] at h ⊢
    have hclosed : (awaitWindow schedule window now).outcome ≠ .ready := by simp [h]
    obtain ⟨next, hlater, hbetween, hopens, ⟨hexpired, -⟩ | ⟨-, hnext, hintime⟩⟩ :=
      awaitWindow_closed hclosed
    · rw [h] at hexpired
      contradiction
    · refine ⟨next, hnext, fun between hafter hbefore hready => ?_, fun _ => ?_⟩
      · have hopen := hserving.open_of_ready hready
        rw [hbetween between hafter hbefore] at hopen
        contradiction
      · have htimelyNext : Timely schedule next := ⟨htimely.1, hintime, fun notBefore hmem =>
          (htimely.2.2 notBefore hmem).trans (Int.le_of_lt hlater)⟩
        exact (hserving.ready_iff htimelyNext).mpr hopens

/-- Decisions hold what they say about the instants behind them. -/
theorem evaluate_exact (python : Python) (schedule : ScheduledOperation)
    (windows : List MaintenanceWindow) (now : Int) : ExactAt python schedule windows now where
  delay h := by
    obtain ⟨next, hnext, hbetween, hopens⟩ := next_of_delay h
    exact ⟨next, by simp [hnext], hbetween, hopens⟩
  expired h later hlater := not_ready_of_expired h hlater
  deny h later _ := not_ready_of_deny h

end SchedulingService

end KubeOps.Scheduling
