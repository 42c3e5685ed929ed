import Mathlib.Data.List.Count
import Mathlib.Data.List.Induction

/-! Safety monitors over append-only logs: every entry has to be permitted by
the entries written before it. Runs of a system of processes: any process may take the
next step, and the history keeps every step with the states before and after it. Runs of
steps that may each hand something out: what every step hands out of a budget, a run
hands out of it. -/
namespace KubeOps.Foundation

section Monitors

variable {η : Type}

def Monitored (permits : List η → η → Prop) (log : List η) : Prop :=
  ∀ before entry after, log = before ++ entry :: after → permits before entry

namespace Monitored

variable {permits other : List η → η → Prop} {log : List η} {entry : η}

theorem nil : Monitored permits [] := by
  intro before entry after h
  simp at h

theorem concat_iff :
    Monitored permits (log ++ [entry]) ↔ Monitored permits log ∧ permits log entry := by
  constructor
  · intro h
    refine ⟨fun before found after heq => ?_, h log entry [] rfl⟩
    exact h before found (after ++ [entry]) (by simp [heq])
  · rintro ⟨hlog, hentry⟩ before found after heq
    rcases List.eq_nil_or_concat after with rfl | ⟨front, last, rfl⟩
    · obtain ⟨rfl, h⟩ := List.append_inj' heq rfl
      rw [List.cons.injEq] at h
      rw [← h.1]
      exact hentry
    · have hsplit : log = before ++ found :: front := by
        rw [List.concat_eq_append, ← List.cons_append, ← List.append_assoc] at heq
        exact (List.append_inj' heq rfl).1
      exact hlog before found front hsplit

theorem concat (hlog : Monitored permits log) (hentry : permits log entry) :
    Monitored permits (log ++ [entry]) := concat_iff.mpr ⟨hlog, hentry⟩

theorem singleton (hentry : permits [] entry) : Monitored permits [entry] := nil.concat hentry

theorem of_append {after : List η} (h : Monitored permits (log ++ after)) :
    Monitored permits log := by
  intro before entry rest heq
  exact h before entry (rest ++ after) (by simp [heq])

theorem mono (h : Monitored permits log)
    (himp : ∀ before entry, permits before entry → other before entry) :
    Monitored other log :=
  fun before entry after heq => himp before entry (h before entry after heq)

theorem append {segment : List η} (hlog : Monitored permits log)
    (hsegment : Monitored (fun before => permits (log ++ before)) segment) :
    Monitored permits (log ++ segment) := by
  induction segment using List.reverseRecOn with
  | nil => rwa [List.append_nil]
  | append_singleton segment entry ih =>
    obtain ⟨hfront, hentry⟩ := concat_iff.mp hsegment
    rw [← List.append_assoc]
    exact (ih hfront).concat hentry

theorem permits_of_mem (h : Monitored permits log) (hmem : entry ∈ log) :
    ∃ before, before <+: log ∧ permits before entry := by
  obtain ⟨before, after, rfl⟩ := List.append_of_mem hmem
  exact ⟨before, List.prefix_append _ _, h before entry after rfl⟩

theorem permits_getElem (h : Monitored permits log) {i : Nat} (hentry : log[i]? = some entry) :
    permits (log.take i) entry := by
  obtain ⟨hi, rfl⟩ := List.getElem?_eq_some_iff.mp hentry
  refine h (log.take i) log[i] (log.drop (i + 1)) ?_
  rw [List.getElem_cons_drop, List.take_append_drop]

end Monitored

/-- The log is `base` followed by a segment of which `holds` is true. -/
def After (base : List η) (holds : List η → Prop) (log : List η) : Prop :=
  ∃ segment, log = base ++ segment ∧ holds segment

namespace After

variable {base : List η} {holds other : List η → Prop} {log : List η} {entry : η}

theorem start (h : holds []) : After base holds base := ⟨[], (List.append_nil base).symm, h⟩

theorem mono (h : After base holds log) (himp : ∀ segment, holds segment → other segment) :
    After base other log := by
  obtain ⟨segment, hlog, hsegment⟩ := h
  exact ⟨segment, hlog, himp segment hsegment⟩

theorem concat (h : After base holds log)
    (himp : ∀ segment, holds segment → other (segment ++ [entry])) :
    After base other (log ++ [entry]) := by
  obtain ⟨segment, rfl, hsegment⟩ := h
  exact ⟨segment ++ [entry], by simp, himp segment hsegment⟩

end After

end Monitors

section Histories

structure Transition (σ α : Type) where
  before : σ
  label : α
  after : σ

/-- `step` answers `none` where the labelled step is not the next one possible. -/
inductive Run {σ α : Type} (step : α → σ → Option σ) (start : σ) :
    List (Transition σ α) → σ → Prop where
  | start : Run step start [] start
  | step {history : List (Transition σ α)} {before after : σ} {label : α}
      (h : Run step start history before) (hstep : step label before = some after) :
      Run step start (history ++ [⟨before, label, after⟩]) after

def history {σ α : Type} (step : α → σ → Option σ) : σ → List α → Option (List (Transition σ α))
  | _, [] => some []
  | state, label :: labels =>
    match step label state with
    | some after => (history step after labels).map (⟨state, label, after⟩ :: ·)
    | none => none

namespace Run

variable {σ α : Type} {step : α → σ → Option σ} {start reached : σ}
  {past : List (Transition σ α)}

theorem invariant {inv : σ → Prop} (h : Run step start past reached) (hstart : inv start)
    (hstep : ∀ transition ∈ past, step transition.label transition.before = some transition.after →
      inv transition.before → inv transition.after) : inv reached := by
  induction h with
  | start => exact hstart
  | @step past before after label h hlast ih =>
    have hmem : ⟨before, label, after⟩ ∈ past ++ [⟨before, label, after⟩] := by simp
    refine hstep _ hmem hlast (ih fun transition hmem => ?_)
    exact hstep transition (List.mem_append_left _ hmem)

theorem split {earlier later : List (Transition σ α)} {transition : Transition σ α}
    (h : Run step start past reached) (heq : past = earlier ++ transition :: later) :
    Run step start earlier transition.before ∧
      step transition.label transition.before = some transition.after := by
  induction h generalizing later with
  | start => simp at heq
  | @step past before after label h hlast ih =>
    rcases List.eq_nil_or_concat later with rfl | ⟨front, last, rfl⟩
    · obtain ⟨rfl, htransition⟩ := List.append_inj' heq rfl
      cases (List.cons.inj htransition).1
      exact ⟨h, hlast⟩
    · rw [List.concat_eq_append, ← List.cons_append, ← List.append_assoc] at heq
      exact ih (List.append_inj' heq rfl).1

theorem step_of_mem {transition : Transition σ α} (h : Run step start past reached)
    (hmem : transition ∈ past) :
    ∃ earlier, Run step start earlier transition.before ∧ earlier ⊆ past ∧
      step transition.label transition.before = some transition.after := by
  obtain ⟨earlier, later, heq⟩ := List.append_of_mem hmem
  obtain ⟨hrun, hstep⟩ := h.split heq
  exact ⟨earlier, hrun, by simp [heq], hstep⟩

theorem invariant_of_mem (h : Run step start past reached) (inv : σ → Prop) (hstart : inv start)
    (hstep : ∀ transition ∈ past, step transition.label transition.before = some transition.after →
      inv transition.before → inv transition.after) :
    ∀ transition ∈ past, inv transition.before ∧ inv transition.after := by
  intro transition hmem
  obtain ⟨earlier, hrun, hsubset, hlast⟩ := h.step_of_mem hmem
  have hbefore := hrun.invariant hstart fun passed hpassed => hstep passed (hsubset hpassed)
  exact ⟨hbefore, hstep transition hmem hlast hbefore⟩

theorem forall_after_iff {inv : σ → Prop} {meets : Transition σ α → Prop}
    (h : Run step start past reached) (hstart : inv start)
    (hstep : ∀ transition ∈ past, step transition.label transition.before = some transition.after →
      inv transition.before → (inv transition.after ↔ meets transition)) :
    (∀ transition ∈ past, inv transition.after) ↔ ∀ transition ∈ past, meets transition := by
  constructor
  · intro hall transition hmem
    obtain ⟨earlier, hrun, hsubset, hlast⟩ := h.step_of_mem hmem
    have hbefore : inv transition.before :=
      hrun.invariant hstart fun passed hpassed _ _ => hall passed (hsubset hpassed)
    exact (hstep transition hmem hlast hbefore).mp (hall transition hmem)
  · intro hmeets transition hmem
    obtain ⟨earlier, hrun, hsubset, hlast⟩ := h.step_of_mem hmem
    have hbefore : inv transition.before := by
      apply hrun.invariant hstart
      intro passed hpassed hstep' hinv
      exact (hstep passed (hsubset hpassed) hstep' hinv).mpr (hmeets passed (hsubset hpassed))
    exact (hstep transition hmem hlast hbefore).mpr (hmeets transition hmem)

theorem forall_after_iff_of {always inv : σ → Prop} {meets : Transition σ α → Prop}
    (h : Run step start past reached) (halways : always start) (hstart : inv start)
    (hkeeps : ∀ transition ∈ past, step transition.label transition.before = some transition.after →
      always transition.before → always transition.after)
    (hstep : ∀ transition ∈ past, step transition.label transition.before = some transition.after →
      always transition.before → inv transition.before → (inv transition.after ↔ meets transition)) :
    (∀ transition ∈ past, inv transition.after) ↔ ∀ transition ∈ past, meets transition := by
  apply h.forall_after_iff hstart
  intro transition hmem hlast hbefore
  obtain ⟨earlier, hrun, hsubset, -⟩ := h.step_of_mem hmem
  have hkept : always transition.before :=
    hrun.invariant halways fun passed hpassed => hkeeps passed (hsubset hpassed)
  exact hstep transition hmem hlast hkept hbefore

theorem kept {p : σ → Prop} (h : Run step start past reached)
    (hsteps : ∀ transition ∈ past, step transition.label transition.before = some transition.after →
      p transition.before → p transition.after) :
    ∀ transition ∈ past, p transition.before → p reached := by
  induction h with
  | start => simp
  | @step past before after label h hlast ih =>
    have hnew := hsteps ⟨before, label, after⟩ (by simp) hlast
    have hkept := ih fun passed hpassed => hsteps passed (List.mem_append_left _ hpassed)
    intro transition hmem hbefore
    rcases List.mem_append.mp hmem with hpast | hlabel
    · exact hnew (hkept transition hpast hbefore)
    · rw [List.mem_singleton.mp hlabel] at hbefore
      exact hnew hbefore

theorem shows_lastWritten {ν : Type} {value : ν} (h : Run step start past reached)
    (shows : σ → ν → Prop) (written : α → Option ν) (hstart : shows start value)
    (hstep : ∀ transition ∈ past, step transition.label transition.before = some transition.after →
      ∀ shown, shows transition.before shown →
        shows transition.after ((written transition.label).getD shown)) :
    shows reached ((past.filterMap fun transition => written transition.label).getLast?.getD value) := by
  induction h with
  | start => exact hstart
  | @step past before after label h hlast ih =>
    have hbefore := ih fun transition hmem => hstep transition (List.mem_append_left _ hmem)
    have hafter := hstep ⟨before, label, after⟩ (by simp) hlast _ hbefore
    rw [List.filterMap_append, List.getLast?_append]
    dsimp only at hafter
    cases hwritten : written label with
    | none =>
      rw [hwritten] at hafter
      simpa [hwritten] using hafter
    | some shown =>
      rw [hwritten] at hafter
      simpa [hwritten] using hafter

theorem getLast?_states (h : Run step start past reached) :
    (start :: past.map Transition.after).getLast? = some reached := by
  cases h with
  | start => rfl
  | step h hstep =>
    rw [List.map_append, ← List.cons_append]
    exact List.getLast?_concat

theorem pairwise_iff {keeps : σ → σ → Prop} (h : Run step start past reached)
    (htrans : ∀ first second third, keeps first second → keeps second third → keeps first third) :
    (start :: past.map Transition.after).Pairwise keeps ↔
      ∀ transition ∈ past, keeps transition.before transition.after := by
  induction h with
  | start => simp
  | @step past before after label h hlast hiff =>
    obtain ⟨states, hstates⟩ := List.getLast?_eq_some_iff.mp h.getLast?_states
    rw [List.map_append, ← List.cons_append, List.pairwise_append, hiff]
    simp only [List.map_cons, List.map_nil, List.pairwise_singleton, List.mem_singleton, forall_eq,
      true_and, List.forall_mem_append]
    refine and_congr_right fun hsteps => ⟨fun hall => ?_, fun hlater state hmem => ?_⟩
    · exact hall before (by rw [hstates]; simp)
    · rw [hstates, List.mem_append, List.mem_singleton] at hmem
      rcases hmem with hearlier | rfl
      · have hpairwise := hiff.mpr hsteps
        rw [hstates, List.pairwise_append] at hpairwise
        exact htrans _ _ _ (hpairwise.2.2 _ hearlier _ (List.mem_singleton_self _)) hlater
      · exact hlater

theorem of_history {labels : List α} {future : List (Transition σ α)}
    (h : Run step start past reached) (hhistory : history step reached labels = some future) :
    ∃ final, Run step start (past ++ future) final := by
  induction labels generalizing past reached future with
  | nil =>
    obtain rfl : [] = future := by simpa [history] using hhistory
    exact ⟨reached, by rwa [List.append_nil]⟩
  | cons label labels ih =>
    unfold history at hhistory
    split at hhistory
    · rename_i after hstep
      obtain ⟨rest, hrest, rfl⟩ := Option.map_eq_some_iff.mp hhistory
      obtain ⟨final, hfinal⟩ := ih (h.step hstep) hrest
      exact ⟨final, by rwa [List.append_assoc] at hfinal⟩
    · cases hhistory

theorem of_isSome {labels : List α} (h : (history step start labels).isSome = true) :
    ∃ reached, Run step start ((history step start labels).getD []) reached := by
  obtain ⟨past, hpast⟩ := Option.isSome_iff_exists.mp h
  rw [hpast]
  simpa using Run.of_history .start hpast

theorem of_any {labels : List α} {check : List (Transition σ α) → Bool}
    (h : (history step start labels).any check = true) :
    ∃ reached, Run step start ((history step start labels).getD []) reached ∧
      check ((history step start labels).getD []) = true := by
  obtain ⟨past, hpast, hcheck⟩ := (Option.any_eq_true _ _).mp h
  obtain ⟨reached, hrun⟩ := Run.of_history .start hpast
  rw [hpast]
  exact ⟨reached, hrun, hcheck⟩

end Run

end Histories

section Emission

variable {σ ε : Type}

/-- A run from `start`, with everything its steps have handed out. -/
inductive Emits (step : σ → Option ε → σ → Prop) (start : σ) : List ε → σ → Prop where
  | refl : Emits step start [] start
  | tail {out : List ε} {before after : σ} {item : Option ε} (h : Emits step start out before)
      (hstep : step before item after) : Emits step start (out ++ item.toList) after

namespace Emits

variable {step : σ → Option ε → σ → Prop} {start reached final : σ} {out : List ε}

theorem single {item : Option ε} (h : step start item reached) :
    Emits step start item.toList reached := by
  have hrun := Emits.tail .refl h
  rwa [List.nil_append] at hrun

theorem quiet {after : σ} (h : Emits step start out reached) (hstep : step reached none after) :
    Emits step start out after := by
  have hrun := h.tail hstep
  rwa [Option.toList_none, List.append_nil] at hrun

theorem trans {later : List ε} (h : Emits step start out reached)
    (hlater : Emits step reached later final) : Emits step start (out ++ later) final := by
  induction hlater with
  | refl => rwa [List.append_nil]
  | tail _ hstep ih =>
    rw [← List.append_assoc]
    exact ih.tail hstep

theorem mono {other : σ → Option ε → σ → Prop} (h : Emits step start out reached)
    (himp : ∀ {before item after}, step before item after → other before item after) :
    Emits other start out reached := by
  induction h with
  | refl => exact .refl
  | tail _ hstep ih => exact ih.tail (himp hstep)

theorem invariant {inv : σ → Prop} (h : Emits step start out reached)
    (hstep : ∀ {before item after}, inv before → step before item after → inv after)
    (hstart : inv start) : inv reached := by
  induction h with
  | refl => exact hstart
  | tail _ hlast ih => exact hstep ih hlast

theorem forall_mem {inv : σ → Prop} {property : ε → Prop} (h : Emits step start out reached)
    (hkeeps : ∀ {before item after}, inv before → step before item after → inv after)
    (hgives : ∀ {before item after}, inv before → step before (some item) after → property item)
    (hstart : inv start) : ∀ item ∈ out, property item := by
  induction h with
  | refl => simp
  | @tail out before after item h hlast ih =>
    intro found hfound
    rcases List.mem_append.mp hfound with hpast | hnew
    · exact ih found hpast
    · rw [Option.mem_toList] at hnew
      rw [hnew] at hlast
      exact hgives (h.invariant hkeeps hstart) hlast

theorem count_le {inv : σ → Prop} {measure : σ → Nat} {counted : ε → Bool}
    (h : Emits step start out reached)
    (hkeeps : ∀ {before item after}, inv before → step before item after → inv after)
    (hgrows : ∀ {before item after}, inv before → step before item after →
      measure before + item.toList.countP counted ≤ measure after)
    (hstart : inv start) : measure start + out.countP counted ≤ measure reached := by
  induction h with
  | refl => simp
  | @tail out before after item h hlast ih =>
    have hlast := hgrows (h.invariant hkeeps hstart) hlast
    rw [List.countP_append]
    omega

end Emits

end Emission

end KubeOps.Foundation
