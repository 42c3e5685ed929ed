import Mathlib.Data.List.MinMax
import Mathlib.Data.Int.Order.Basic
import Mathlib.Order.Lattice

/-! Maintenance windows in zones that keep one offset from UTC. Instants are
microseconds from 1970-01-01T00:00 UTC, and days count from that day. -/
namespace KubeOps.Scheduling

def microsecondsPerDay : Int := 86400000000
def microsecondsPerMinute : Int := 60000000

/-- `ZoneInfo` of a zone with a fixed offset. -/
structure FixedZone where
  key : String
  utcOffset : Int
deriving DecidableEq, Repr

/-- The windows the model accepts. `start_local_time` is kept as the time of day
that `time.fromisoformat` reads from it, in microseconds. -/
structure MaintenanceWindow where
  windowId : String
  organizationId : String
  workspaceId : String
  timezone : FixedZone
  daysOfWeek : List Int
  startLocalTime : Int
  durationMinutes : Int
  allowedOperationTypes : List String := []
  targetIds : List String := []
  enabled : Bool := true
  valid_days : daysOfWeek ≠ [] ∧ ∀ day ∈ daysOfWeek, 0 ≤ day ∧ day ≤ 6
  valid_time : 0 ≤ startLocalTime ∧ startLocalTime < microsecondsPerDay
  valid_duration : 1 ≤ durationMinutes ∧ durationMinutes ≤ 10080
deriving DecidableEq, Repr

/-- `date.weekday()`, from 0 (Monday); 1970-01-01 was a Thursday. -/
def weekday (day : Int) : Int := (day + 3) % 7

namespace MaintenanceWindow

def localTime (window : MaintenanceWindow) (now : Int) : Int := now + window.timezone.utcOffset

def startLocal (window : MaintenanceWindow) (day : Int) : Int :=
  day * microsecondsPerDay + window.startLocalTime

def endLocal (window : MaintenanceWindow) (day : Int) : Int :=
  window.startLocal day + window.durationMinutes * microsecondsPerMinute

/-- `astimezone(timezone.utc)` -/
def toUtc (window : MaintenanceWindow) (time : Int) : Int := time - window.timezone.utcOffset

/-- `range(-1, 9)` -/
def offsets : List Int := (List.range 10).map fun i : Nat => (i : Int) - 1

def candidates (window : MaintenanceWindow) (localNow : Int) : List (Int × Int) :=
  ((offsets.map fun offset => localNow / microsecondsPerDay + offset).filter fun day =>
    weekday day ∈ window.daysOfWeek).map fun day => (window.startLocal day, window.endLocal day)

/-- `SchedulingService._window_state` -/
def windowState (window : MaintenanceWindow) (now : Int) : Bool × Option Int :=
  let localNow := window.localTime now
  let candidates := window.candidates localNow
  match candidates.find? fun candidate => candidate.1 ≤ localNow ∧ localNow < candidate.2 with
  | some candidate => (true, some (window.toUtc candidate.1))
  | none =>
    let future := (candidates.map Prod.fst).filter (localNow < ·)
    (false, future.min?.map window.toUtc)

def OpensOn (window : MaintenanceWindow) (day now : Int) : Prop :=
  weekday day ∈ window.daysOfWeek ∧
    window.startLocal day ≤ window.localTime now ∧ window.localTime now < window.endLocal day

def IsOpen (window : MaintenanceWindow) (now : Int) : Prop := ∃ day, window.OpensOn day now

variable {window : MaintenanceWindow} {now day start : Int}

theorem mem_offsets {offset : Int} : offset ∈ offsets ↔ -1 ≤ offset ∧ offset < 9 := by
  simp only [offsets, List.mem_map, List.mem_range]
  constructor
  · rintro ⟨i, hi, rfl⟩
    omega
  · intro h
    exact ⟨(offset + 1).toNat, by omega, by omega⟩

theorem mem_candidates {localNow : Int} {candidate : Int × Int} :
    candidate ∈ window.candidates localNow ↔
      ∃ day, localNow / microsecondsPerDay - 1 ≤ day ∧ day ≤ localNow / microsecondsPerDay + 8 ∧
        weekday day ∈ window.daysOfWeek ∧ (window.startLocal day, window.endLocal day) = candidate := by
  simp only [candidates, List.mem_map, List.mem_filter, decide_eq_true_eq]
  constructor
  · rintro ⟨_, ⟨⟨offset, hoffset, rfl⟩, hlisted⟩, hcandidate⟩
    have hrange := mem_offsets.mp hoffset
    exact ⟨_, by omega, by omega, hlisted, hcandidate⟩
  · rintro ⟨day, hlow, hhigh, hlisted, hcandidate⟩
    refine ⟨day, ⟨⟨day - localNow / microsecondsPerDay, mem_offsets.mpr (by omega), by omega⟩, hlisted⟩,
      hcandidate⟩

theorem windowState_open : (window.windowState now).1 = true ↔
    ∃ day, window.localTime now / microsecondsPerDay - 1 ≤ day ∧ window.OpensOn day now := by
  have hfound : (window.windowState now).1 = true ↔ ∃ candidate ∈ window.candidates (window.localTime now),
      candidate.1 ≤ window.localTime now ∧ window.localTime now < candidate.2 := by
    rw [windowState]
    dsimp only
    split
    · rename_i candidate hfind
      have hholds := List.find?_some hfind
      exact iff_of_true rfl ⟨candidate, List.mem_of_find?_eq_some hfind, by simpa using hholds⟩
    · rename_i hnone
      simpa using hnone
  rw [hfound]
  constructor
  · rintro ⟨candidate, hmem, hopen⟩
    obtain ⟨day, hlow, -, hlisted, rfl⟩ := mem_candidates.mp hmem
    exact ⟨day, hlow, hlisted, hopen⟩
  · rintro ⟨day, hlow, hlisted, hopen⟩
    refine ⟨_, mem_candidates.mpr ⟨day, hlow, ?_, hlisted, rfl⟩, hopen⟩
    have hstarted := hopen.1
    have htime := window.valid_time
    simp only [startLocal, microsecondsPerDay] at hstarted htime ⊢
    omega

/-- Whenever a window is still open on the second day after it started or later,
the day before lists a window too, or that day lists one and windows start at midnight. -/
def Renewed (window : MaintenanceWindow) : Prop :=
  ∀ day ∈ window.daysOfWeek, ∀ later : Int, 2 ≤ later → later ≤ 7 →
    later * microsecondsPerDay <
      window.startLocalTime + window.durationMinutes * microsecondsPerMinute →
    (day + later - 1) % 7 ∈ window.daysOfWeek ∨
      window.startLocalTime = 0 ∧ (day + later) % 7 ∈ window.daysOfWeek

instance (window : MaintenanceWindow) : Decidable window.Renewed :=
  decidable_of_iff (∀ day ∈ window.daysOfWeek, ∀ later ∈ [2, 3, 4, 5, 6, 7],
    later * microsecondsPerDay <
      window.startLocalTime + window.durationMinutes * microsecondsPerMinute →
    (day + later - 1) % 7 ∈ window.daysOfWeek ∨
      window.startLocalTime = 0 ∧ (day + later) % 7 ∈ window.daysOfWeek) (by
    have hrange : ∀ later : Int, later ∈ [2, 3, 4, 5, 6, 7] ↔ 2 ≤ later ∧ later ≤ 7 := by
      intro later
      simp only [List.mem_cons, List.not_mem_nil, or_false]
      omega
    simp only [Renewed, hrange, and_imp])

theorem weekday_eq_emod (day later : Int) : (weekday day + later) % 7 = weekday (day + later) := by
  simp only [weekday]
  omega

theorem Renewed.carried (h : window.Renewed) (hlisted : weekday day ∈ window.daysOfWeek)
    {today : Int} (hold : day + 2 ≤ today) (hweek : today ≤ day + 7)
    (hlong : today * microsecondsPerDay < window.endLocal day) :
    weekday (today - 1) ∈ window.daysOfWeek ∨
      window.startLocalTime = 0 ∧ weekday today ∈ window.daysOfWeek := by
  have hlater := h (weekday day) hlisted (today - day) (by omega) (by omega) (by
    simp only [endLocal, startLocal, microsecondsPerDay] at hlong ⊢
    omega)
  have hyesterday : weekday day + (today - day) - 1 = weekday day + (today - 1 - day) := by omega
  have hcancel : ∀ other, day + (other - day) = other := fun other => by omega
  rw [hyesterday, weekday_eq_emod, weekday_eq_emod, hcancel, hcancel] at hlater
  exact hlater

theorem OpensOn.seen (h : window.OpensOn day now) (hrenewed : window.Renewed) :
    (window.windowState now).1 = true := by
  rw [windowState_open]
  obtain ⟨hlisted, hstarted, hends⟩ := h
  generalize htoday : window.localTime now / microsecondsPerDay = today
  have htime := window.valid_time
  have hduration := window.valid_duration
  have hday : today * microsecondsPerDay ≤ window.localTime now ∧
      window.localTime now < (today + 1) * microsecondsPerDay := by
    simp only [microsecondsPerDay] at htoday ⊢
    omega
  by_cases hrecent : today - 1 ≤ day
  · exact ⟨day, hrecent, hlisted, hstarted, hends⟩
  have hweek : today ≤ day + 7 := by
    simp only [endLocal, startLocal, microsecondsPerDay, microsecondsPerMinute] at *
    omega
  rcases hrenewed.carried hlisted (by omega) hweek (by omega) with hyesterday | ⟨hmidnight, hlists⟩
  · refine ⟨today - 1, Int.le_refl _, hyesterday, ?_, ?_⟩
    · simp only [startLocal, microsecondsPerDay] at *
      omega
    · simp only [endLocal, startLocal, microsecondsPerDay] at *
      omega
  · refine ⟨today, by omega, hlists, ?_, ?_⟩
    · simp only [startLocal, microsecondsPerDay] at *
      omega
    · simp only [endLocal, startLocal, microsecondsPerDay] at *
      omega

theorem unseen_of_not_renewed (h : ¬ window.Renewed) :
    ∃ now, window.IsOpen now ∧ (window.windowState now).1 = false := by
  simp only [Renewed, not_forall, not_or] at h
  obtain ⟨listed, hlisted, later, hlow, hhigh, hlong, hyesterday, htoday⟩ := h
  have hvalid := window.valid_days.2 listed hlisted
  have htime := window.valid_time
  have hweekday : ∀ later : Int, weekday (listed - 3 + later) = (listed + later) % 7 := by
    intro later
    rw [weekday]
    congr 1
    omega
  refine ⟨window.toUtc ((listed - 3 + later) * microsecondsPerDay), ⟨listed - 3, ?_, ?_, ?_⟩, ?_⟩
  · have hsame := hweekday 0
    rw [Int.add_zero, Int.add_zero] at hsame
    rw [hsame, Int.emod_eq_of_lt hvalid.1 (by omega)]
    exact hlisted
  · simp only [startLocal, localTime, toUtc, microsecondsPerDay] at *
    omega
  · simp only [endLocal, startLocal, localTime, toUtc, microsecondsPerDay] at *
    omega
  · rw [Bool.eq_false_iff, Ne, windowState_open]
    rintro ⟨day, hseen, hlists, hstarted, -⟩
    have hcases : day = listed - 3 + later - 1 ∨
        day = listed - 3 + later ∧ window.startLocalTime = 0 := by
      simp only [startLocal, localTime, toUtc, microsecondsPerDay] at *
      omega
    rcases hcases with rfl | ⟨rfl, hmidnight⟩
    · rw [Int.add_sub_assoc, hweekday, ← Int.add_sub_assoc] at hlists
      exact hyesterday hlists
    · rw [hweekday] at hlists
      exact htoday ⟨hmidnight, hlists⟩

/-- The windows for which the code answers rightly at every instant. -/
theorem windowState_iff_renewed (window : MaintenanceWindow) :
    (∀ now, (window.windowState now).1 = true ↔ window.IsOpen now) ↔ window.Renewed := by
  constructor
  · intro h
    by_contra hrenewed
    obtain ⟨now, hopen, hunseen⟩ := unseen_of_not_renewed hrenewed
    rw [(h now).mpr hopen] at hunseen
    contradiction
  · intro hrenewed now
    constructor
    · intro hseen
      obtain ⟨day, -, hopen⟩ := windowState_open.mp hseen
      exact ⟨day, hopen⟩
    · rintro ⟨day, hopen⟩
      exact hopen.seen hrenewed

theorem mem_future {start localNow : Int} :
    start ∈ ((window.candidates localNow).map Prod.fst).filter (localNow < ·) ↔
      ∃ day, localNow / microsecondsPerDay - 1 ≤ day ∧ day ≤ localNow / microsecondsPerDay + 8 ∧
        weekday day ∈ window.daysOfWeek ∧ window.startLocal day = start ∧ localNow < start := by
  simp only [List.mem_filter, List.mem_map, mem_candidates, decide_eq_true_eq]
  constructor
  · rintro ⟨⟨candidate, ⟨day, hlow, hhigh, hlisted, rfl⟩, rfl⟩, hlater⟩
    exact ⟨day, hlow, hhigh, hlisted, rfl, hlater⟩
  · rintro ⟨day, hlow, hhigh, hlisted, rfl, hlater⟩
    exact ⟨⟨_, ⟨day, hlow, hhigh, hlisted, rfl⟩, rfl⟩, hlater⟩

theorem exists_listed_day (window : MaintenanceWindow) (today : Int) :
    ∃ day, today < day ∧ day ≤ today + 7 ∧ weekday day ∈ window.daysOfWeek := by
  obtain ⟨listed, hlisted⟩ := List.exists_mem_of_ne_nil _ window.valid_days.1
  have hrange := window.valid_days.2 listed hlisted
  refine ⟨today + 1 + (listed - weekday (today + 1)) % 7, by omega, by omega, ?_⟩
  have hsame : weekday (today + 1 + (listed - weekday (today + 1)) % 7) = listed := by
    simp only [weekday]
    omega
  rw [hsame]
  exact hlisted

theorem windowState_next (h : (window.windowState now).1 = false) :
    ∃ day, (window.windowState now).2 = some (window.toUtc (window.startLocal day)) ∧
      weekday day ∈ window.daysOfWeek ∧ window.localTime now < window.startLocal day ∧
      ∀ other, window.localTime now / microsecondsPerDay - 1 ≤ other → other < day →
        weekday other ∈ window.daysOfWeek → window.startLocal other ≤ window.localTime now := by
  rw [windowState] at h ⊢
  dsimp only at h ⊢
  split at h
  · contradiction
  · dsimp only
    obtain ⟨ahead, hahead, hweek, hlisted⟩ :=
      exists_listed_day window (window.localTime now / microsecondsPerDay)
    have htime := window.valid_time
    have hopens : window.localTime now < window.startLocal ahead := by
      simp only [startLocal, microsecondsPerDay] at *
      omega
    have hmem : window.startLocal ahead ∈ ((window.candidates (window.localTime now)).map
        Prod.fst).filter (window.localTime now < ·) :=
      mem_future.mpr ⟨ahead, by omega, by omega, hlisted, rfl, hopens⟩
    cases hmin : (((window.candidates (window.localTime now)).map Prod.fst).filter
        (window.localTime now < ·)).min? with
    | none =>
      rw [List.min?_eq_none_iff] at hmin
      rw [hmin] at hmem
      exact absurd hmem List.not_mem_nil
    | some first =>
      obtain ⟨hfirst, hleast⟩ := List.min?_eq_some_iff.mp hmin
      obtain ⟨day, hlow, hhigh, hday, rfl, hlater⟩ := mem_future.mp hfirst
      refine ⟨day, rfl, hday, hlater, fun other hseen hbefore hother => ?_⟩
      by_contra hopens
      have hle := hleast _ (mem_future.mpr ⟨other, hseen, by omega, hother, rfl, by omega⟩)
      simp only [startLocal, microsecondsPerDay] at hle
      omega

theorem windowState_closed (h : (window.windowState now).1 = false) :
    ∃ next, (window.windowState now).2 = some next ∧ now < next ∧
      (∀ between, now < between → between < next → (window.windowState between).1 = false) ∧
      (window.windowState next).1 = true := by
  obtain ⟨day, hnext, hlisted, hlater, hearlier⟩ := windowState_next h
  have htime := window.valid_time
  have hduration := window.valid_duration
  refine ⟨_, hnext, ?_, fun between hafter hbefore => ?_, ?_⟩
  · simp only [localTime, toUtc] at *
    omega
  · rw [Bool.eq_false_iff, Ne, windowState_open] at h ⊢
    rintro ⟨other, hseen, hother, hstarted, hends⟩
    have hsince : window.localTime now / microsecondsPerDay - 1 ≤ other := by
      simp only [localTime, microsecondsPerDay] at *
      omega
    have hbeforeDay : other < day := by
      simp only [startLocal, localTime, toUtc, microsecondsPerDay] at *
      omega
    refine h ⟨other, hsince, hother, hearlier other hsince hbeforeDay hother, ?_⟩
    simp only [localTime] at *
    omega
  · rw [windowState_open]
    refine ⟨day, ?_, hlisted, ?_, ?_⟩
    · simp only [startLocal, localTime, toUtc, microsecondsPerDay] at *
      omega
    · simp only [localTime, toUtc] at *
      omega
    · simp only [endLocal, localTime, toUtc, microsecondsPerMinute] at *
      omega

def threeDays : MaintenanceWindow where
  windowId := "w"
  organizationId := "o1"
  workspaceId := "w1"
  timezone := ⟨"UTC", 0⟩
  daysOfWeek := [0]
  startLocalTime := 0
  durationMinutes := 4320
  valid_days := by decide
  valid_time := by decide
  valid_duration := by decide

/-- On Wednesday 2026-07-22 at noon the code takes the window of Monday for closed. -/
theorem threeDays_unseen : threeDays.enabled = true ∧
    threeDays.IsOpen 1784721600000000 ∧ (threeDays.windowState 1784721600000000).1 = false := by
  refine ⟨rfl, ⟨20654, ?_, ?_, ?_⟩, ?_⟩
  all_goals decide

end MaintenanceWindow

end KubeOps.Scheduling
