import KubeOps.Simulator.Numbering

/-! What is observed of an entity with a lag: a copy of its earlier state, as long as the entity is
there. -/
namespace KubeOps.Simulator

open KubeOps.Foundation KubeOps.Models KubeOps.Discovery KubeOps.Invariants

section History

variable {history : History} {first : Int × World} {rest : History} {target : Int}

/-- The last state of the world that is not later than the time. -/
def truthAt (history : History) (atSeconds : Int) : Int × World :=
  ((history.filter fun entry => entry.1 ≤ atSeconds).getLast?).getD (0, ∅)

theorem takeWhile_eq_filter (h : (timesOf history).Pairwise (· ≤ ·)) (target : Int) :
    (history.takeWhile fun entry => entry.1 ≤ target) = history.filter fun entry => entry.1 ≤ target := by
  induction history with
  | nil => rfl
  | cons first rest ih =>
    obtain ⟨hfirst, hrest⟩ := List.pairwise_cons.mp h
    by_cases hle : first.1 ≤ target
    · rw [List.takeWhile_cons_of_pos (by simpa using hle),
        List.filter_cons_of_pos (by simpa using hle), ih hrest]
    · rw [List.takeWhile_cons_of_neg (by simpa using hle), List.filter_cons_of_neg (by simpa using hle)]
      symm
      rw [List.filter_eq_nil_iff]
      intro entry hentry
      have hlater := hfirst entry.1 (List.mem_map_of_mem hentry)
      simp only [decide_eq_true_eq]
      omega

theorem TruthHistory.first_time (h : TruthHistory (first :: rest)) : first.1 = 0 := Option.some.inj h.begins

theorem TruthHistory.ne_nil (h : TruthHistory history) : history ≠ [] := by
  intro hnil
  have hbegins := h.begins
  rw [hnil] at hbegins
  cases hbegins

theorem stateAtOrBefore_eq_truthAt (h : TruthHistory (first :: rest)) (htarget : 0 ≤ target) :
    stateAtOrBefore (first :: rest) target = truthAt (first :: rest) target := by
  unfold stateAtOrBefore truthAt
  rw [takeWhile_eq_filter h.goesOn]
  have hfirst : first.1 ≤ target := by rw [h.first_time]; exact htarget
  rw [List.filter_cons_of_pos (by simpa using hfirst), List.getLast?_cons]
  rfl

theorem stateAtOrBefore_of_neg (h : TruthHistory (first :: rest)) (htarget : target < 0) :
    stateAtOrBefore (first :: rest) target = first := by
  unfold stateAtOrBefore
  have hfirst : ¬ first.1 ≤ target := by rw [h.first_time]; omega
  rw [List.takeWhile_cons_of_neg (by simpa using hfirst)]
  rfl

theorem truthAt_mem (h : TruthHistory (first :: rest)) (htarget : 0 ≤ target) :
    truthAt (first :: rest) target ∈ first :: rest ∧ (truthAt (first :: rest) target).1 ≤ target := by
  have hfirst : first.1 ≤ target := by rw [h.first_time]; exact htarget
  have hlast : ((first :: rest).filter fun entry => entry.1 ≤ target).getLast? =
      some (truthAt (first :: rest) target) := by
    unfold truthAt
    rw [List.filter_cons_of_pos (by simpa using hfirst), List.getLast?_cons, Option.getD_some]
  obtain ⟨hentry, hle⟩ := List.mem_filter.mp (List.mem_of_getLast? hlast)
  exact ⟨hentry, by simpa using hle⟩

theorem TruthHistory.nonneg (h : TruthHistory (first :: rest)) {entry : Int × World}
    (hentry : entry ∈ first :: rest) :
    0 ≤ entry.1 := by
  rcases List.mem_cons.mp hentry with rfl | hlater
  · exact h.first_time.ge
  · exact h.first_time ▸ (List.pairwise_cons.mp h.goesOn).1 entry.1 (List.mem_map_of_mem hlater)

end History

section Projection

variable {history : History} {profile : ObservationProfile} {entityId : String} {atSeconds : Nat}

def seenOf (history : History) (atSeconds : Nat) (profile : ObservationProfile) (entityId : String) :
    List (Value × Int) :=
  ((project history atSeconds profile).filter fun observation => observation.entityId = entityId).map
    fun observation => (observation.state, observation.freshnessSeconds)

def lagOf (profile : ObservationProfile) (entityId : String) : Int := (profile.lagSeconds.get? entityId).getD 0

/-- The entity is observed as it was a lag ago, with the age of that state, and not at all if it was
not there then. -/
structure DelayedCopy (history : History) (atSeconds : Nat) (profile : ObservationProfile) (entityId : String) :
    Prop where
  seen : seenOf history atSeconds profile entityId =
    (((truthAt history (max 0 (atSeconds - lagOf profile entityId))).2.get? entityId).map fun state =>
      (state, atSeconds - (truthAt history (max 0 (atSeconds - lagOf profile entityId))).1)).toList
  observed : (observedStates (project history atSeconds profile)).get? entityId =
    (truthAt history (max 0 (atSeconds - lagOf profile entityId))).2.get? entityId

theorem entityId_of_projectEntity {currentTime : Int} {observation : Observation}
    (h : projectEntity history currentTime profile entityId = some observation) : observation.entityId =
      entityId := by
  unfold projectEntity at h
  split at h
  · cases h
  · obtain ⟨state, -, rfl⟩ := Option.map_eq_some_iff.mp h
    rfl

theorem filterMap_ite_eq {β : Type} {keys : List String} (hkeys : keys.Nodup) (entityId : String)
    (found : Option β) :
    keys.filterMap (fun key => if key = entityId then found else none) =
      if entityId ∈ keys then found.toList else [] := by
  induction keys with
  | nil => rfl
  | cons key keys ih =>
    obtain ⟨hnew, hkeys⟩ := List.nodup_cons.mp hkeys
    by_cases hsame : key = entityId
    · subst hsame
      rw [List.filterMap_cons, if_pos rfl, if_pos List.mem_cons_self, ih hkeys, if_neg hnew]
      cases found <;> rfl
    · rw [List.filterMap_cons, if_neg hsame, ih hkeys]
      simp [Ne.symm hsame]

theorem filter_project (currentTime : Int) :
    (project history currentTime profile).filter (fun observation => observation.entityId = entityId) =
      if entityId ∈ ((history.getLast?.map Prod.snd).getD ∅).keys then
        (projectEntity history currentTime profile entityId).toList
      else [] := by
  unfold project
  rw [List.filter_filterMap, ← filterMap_ite_eq (Dict.keys_nodup _)]
  apply List.filterMap_congr
  intro key _
  cases hfound : projectEntity history currentTime profile key with
  | none =>
    split
    · rename_i hsame
      rw [← hsame, hfound]
      rfl
    · rfl
  | some observation =>
    have hid := entityId_of_projectEntity hfound
    by_cases hsame : key = entityId
    · rw [if_pos hsame, ← hsame, hfound]
      exact Option.filter_some_pos (by simpa using hid)
    · rw [if_neg hsame]
      exact Option.filter_some_neg (by simpa [hid] using hsame)

theorem nodup_project (currentTime : Int) :
    ((project history currentTime profile).map fun observation => observation.entityId).Nodup := by
  rw [List.Nodup, List.pairwise_map, project, List.pairwise_filterMap]
  apply (Dict.keys_nodup _).imp
  intro one two hne observation hone other htwo
  rw [entityId_of_projectEntity hone, entityId_of_projectEntity htwo]
  exact hne

theorem get?_observedStates {state : Value} :
    (observedStates (project history atSeconds profile)).get? entityId = some state ↔
      state ∈ (seenOf history atSeconds profile entityId).map Prod.fst := by
  have hkeys : (((project history atSeconds profile).map fun observation =>
      (observation.entityId, observation.state)).map Prod.fst).Nodup := by
    rw [List.map_map]
    exact nodup_project _
  rw [observedStates, Dict.get?_ofList_eq_some hkeys, seenOf, List.map_map, List.mem_map, List.mem_map]
  apply exists_congr
  intro observation
  rw [List.mem_filter, Prod.mk.injEq, decide_eq_true_eq, and_assoc]
  exact Iff.rfl

theorem delayedCopy_of_seen (h : seenOf history atSeconds profile entityId =
    (((truthAt history (max 0 (atSeconds - lagOf profile entityId))).2.get? entityId).map fun state =>
      (state, atSeconds - (truthAt history (max 0 (atSeconds - lagOf profile entityId))).1)).toList) :
    DelayedCopy history atSeconds profile entityId where
  seen := h
  observed := by
    apply Option.ext
    intro state
    rw [get?_observedStates, h]
    cases (truthAt history (max 0 (atSeconds - lagOf profile entityId))).2.get? entityId with
    | none => simp
    | some found => simp [eq_comm]

/-- Nothing about the entity is hidden or made up. -/
structure ShowsAll (profile : ObservationProfile) (entityId : String) : Prop where
  shown : entityId ∉ profile.hiddenEntityIds
  paths : profile.hiddenPaths = ∅
  overrides : profile.contradictoryOverrides = ∅

theorem seenOf_eq (h : ShowsAll profile entityId) :
    seenOf history atSeconds profile entityId =
      if entityId ∈ ((history.getLast?.map Prod.snd).getD ∅).keys then
        (((stateAtOrBefore history (atSeconds - lagOf profile entityId)).2.get? entityId).map fun state =>
          (state, max 0 (atSeconds - (stateAtOrBefore history (atSeconds - lagOf profile entityId)).1))).toList
      else [] := by
  have hdisguise : ∀ state, disguise profile entityId state = state := by
    intro state
    unfold disguise
    rw [h.paths, h.overrides]
    rfl
  rw [seenOf, filter_project]
  split
  · rw [projectEntity, if_neg h.shown, ← lagOf]
    dsimp only
    cases (stateAtOrBefore history (atSeconds - lagOf profile entityId)).2.get? entityId with
    | none => rfl
    | some state => simp [hdisguise]
  · rfl

/-- The entity is still there, and, when the lag goes back to before the start, has not changed at
second 0; or it was not there a lag ago. -/
def KeepsInView (history : History) (atSeconds : Nat) (profile : ObservationProfile)
    (entityId : String) : Prop :=
  if entityId ∈ ((history.getLast?.map Prod.snd).getD ∅).keys then
    lagOf profile entityId ≤ atSeconds ∨
      (history.head?.bind fun start => start.2.get? entityId) = (truthAt history 0).2.get? entityId
  else (truthAt history (max 0 (atSeconds - lagOf profile entityId))).2.get? entityId = none

theorem delayedCopy_iff_seen : DelayedCopy history atSeconds profile entityId ↔
    seenOf history atSeconds profile entityId =
      (((truthAt history (max 0 (atSeconds - lagOf profile entityId))).2.get? entityId).map fun state =>
        (state, atSeconds - (truthAt history (max 0 (atSeconds - lagOf profile entityId))).1)).toList :=
  ⟨DelayedCopy.seen, delayedCopy_of_seen⟩

theorem delayedCopy_of_lag_le (hhistory : TruthHistory history) (hshown : ShowsAll profile entityId)
    (hlag : 0 ≤ lagOf profile entityId) (hkey : entityId ∈ ((history.getLast?.map Prod.snd).getD ∅).keys)
    (hle : lagOf profile entityId ≤ atSeconds) : DelayedCopy history atSeconds profile entityId := by
  obtain ⟨first, rest, rfl⟩ := List.exists_cons_of_ne_nil hhistory.ne_nil
  have htarget : 0 ≤ (atSeconds : Int) - lagOf profile entityId := by omega
  have hage := (truthAt_mem hhistory htarget).2
  apply delayedCopy_of_seen
  rw [seenOf_eq hshown, if_pos hkey, stateAtOrBefore_eq_truthAt hhistory htarget, max_eq_right htarget,
    max_eq_right (by omega)]

theorem delayedCopy_iff_of_lag_gt (hhistory : TruthHistory history) (hshown : ShowsAll profile entityId)
    (hkey : entityId ∈ ((history.getLast?.map Prod.snd).getD ∅).keys)
    (hgt : ¬ lagOf profile entityId ≤ atSeconds) :
    DelayedCopy history atSeconds profile entityId ↔
      (history.head?.bind fun start => start.2.get? entityId) = (truthAt history 0).2.get? entityId := by
  obtain ⟨first, rest, rfl⟩ := List.exists_cons_of_ne_nil hhistory.ne_nil
  have htarget : (atSeconds : Int) - lagOf profile entityId < 0 := by omega
  obtain ⟨hmem, hle⟩ := truthAt_mem hhistory (Int.le_refl 0)
  have hstart : (truthAt (first :: rest) 0).1 = 0 := le_antisymm hle (hhistory.nonneg hmem)
  rw [delayedCopy_iff_seen, seenOf_eq hshown, if_pos hkey, stateAtOrBefore_of_neg hhistory htarget,
    max_eq_left htarget.le, hhistory.first_time, hstart, Int.sub_zero, max_eq_right (Int.natCast_nonneg _),
    List.head?_cons, Option.bind_some]
  cases first.2.get? entityId with
  | none => cases (truthAt (first :: rest) 0).2.get? entityId <;> simp
  | some one => cases (truthAt (first :: rest) 0).2.get? entityId <;> simp

/-- With a lag an entity is observed as a delayed copy exactly where it stays in view. -/
theorem delayedCopy_iff (hhistory : TruthHistory history) (hshown : ShowsAll profile entityId)
    (hlag : 0 ≤ lagOf profile entityId) :
    DelayedCopy history atSeconds profile entityId ↔ KeepsInView history atSeconds profile entityId := by
  unfold KeepsInView
  by_cases hkey : entityId ∈ ((history.getLast?.map Prod.snd).getD ∅).keys
  · rw [if_pos hkey]
    by_cases hle : lagOf profile entityId ≤ atSeconds
    · exact iff_of_true (delayedCopy_of_lag_le hhistory hshown hlag hkey hle) (Or.inl hle)
    · rw [delayedCopy_iff_of_lag_gt hhistory hshown hkey hle, or_iff_right hle]
  · rw [if_neg hkey, delayedCopy_iff_seen, seenOf_eq hshown, if_neg hkey, eq_comm, Option.toList_eq_nil_iff,
      Option.map_eq_none_iff]

end Projection

section Example

def delayedDatabase : ObservationProfile :=
  { profileId := "delayed", lagSeconds := Dict.ofList [("database", 3)] }

def databaseWorld : World := Dict.ofList [("database", .dict [("ready", .bool true)])]

theorem truthHistory_databaseDeleted : TruthHistory [(0, databaseWorld), (5, ∅)] :=
  ⟨rfl, by decide⟩

theorem showsAll_delayedDatabase : ShowsAll delayedDatabase "database" := ⟨List.not_mem_nil, rfl, rfl⟩

theorem delayedDatabase_kept :
    DelayedCopy [(0, databaseWorld), (5, databaseWorld)] 6 delayedDatabase "database" ↔
    KeepsInView [(0, databaseWorld), (5, databaseWorld)] 6 delayedDatabase "database" :=
  delayedCopy_iff ⟨rfl, by decide⟩ showsAll_delayedDatabase (by decide)

/-- As soon as the database is deleted it is not seen any more, although it was there three seconds
before. -/
theorem databaseDeleted_not_delayed : TruthHistory [(0, databaseWorld), (5, ∅)] ∧
    ShowsAll delayedDatabase "database" ∧ lagOf delayedDatabase "database" = 3 ∧
    ((truthAt [(0, databaseWorld), (5, ∅)] 2).2.get? "database").isSome = true ∧
    ¬ DelayedCopy [(0, databaseWorld), (5, ∅)] 5 delayedDatabase "database" := by
  refine ⟨truthHistory_databaseDeleted, showsAll_delayedDatabase, by decide, by decide, ?_⟩
  intro hcopy
  have hobserved := congrArg Option.isSome hcopy.observed
  revert hobserved
  decide

end Example

end KubeOps.Simulator
