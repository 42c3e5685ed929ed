import KubeOps.Foundation.Waves

/-! Batches made from a part of the nodes: what never gets free changes nothing
about the others, and neither does the order in which nodes and links are listed. -/
namespace KubeOps.Foundation

variable {α : Type} [LinearOrder α]

/-- `kept` are some of the nodes, linked by `part` as before. They wait for each other
only, and every other node waits for one that is not kept. -/
structure Links.Part (links : Links α) (nodes : List α) (part : Links α) (kept : List α) : Prop where
  listed : ∀ node ∈ kept, node ∈ nodes
  linked : ∀ source target, target ∈ part.outgoing source ↔ target ∈ links.outgoing source ∧ target ∈ kept
  closed : ∀ source, ∀ target ∈ kept, target ∈ links.outgoing source → source ∈ kept
  waiting : ∀ node ∈ nodes, node ∉ kept → ∃ source ∈ nodes, source ∉ kept ∧ node ∈ links.outgoing source

variable {links part : Links α} {nodes kept visited front : List α} {item node : α}
  {frontier inner : Frontier α}

theorem Halfway.mem_kept {queue : List α} {indegree : α → Int} (hpart : links.Part nodes part kept)
    (h : Halfway links nodes visited queue indegree) (hvisited : ∀ node ∈ visited, node ∈ kept)
    (hnode : node ∈ queue) : node ∈ kept := by
  by_contra hleft
  have hfree : node ∈ visited ++ queue := List.mem_append_right _ hnode
  obtain ⟨source, hsource, hunkept, hlinked⟩ := hpart.waiting node (h.listed node hfree) hleft
  exact hunkept (hvisited source (h.source_mem_visited hfree (Links.mem_sources.mpr ⟨hsource, hlinked⟩)))

theorem Links.Part.sources_perm (hpart : links.Part nodes part kept) (hnodes : nodes.Nodup)
    (hkept : kept.Nodup) (hnode : node ∈ kept) :
    (part.sources kept node).Perm (links.sources nodes node) := by
  apply (List.perm_ext_iff_of_nodup (sources_nodup hkept) (sources_nodup hnodes)).mpr
  intro source
  rw [mem_sources, mem_sources, hpart.linked]
  constructor
  · intro h
    exact ⟨hpart.listed source h.1, h.2.1⟩
  · intro h
    exact ⟨hpart.closed source node hnode h.2, h.2, hnode⟩

theorem Halfway.indegree_eq {queue innerQueue : List α} {indegree innerIndegree : α → Int}
    (hpart : links.Part nodes part kept) (hnodes : nodes.Nodup) (hkept : kept.Nodup)
    (h : Halfway links nodes visited queue indegree)
    (hinner : Halfway part kept visited innerQueue innerIndegree) (hnode : node ∈ kept) :
    innerIndegree node = indegree node := by
  rw [h.counts node (hpart.listed node hnode), hinner.counts node hnode,
    ((hpart.sources_perm hnodes hkept hnode).filter _).length_eq]

theorem insertionSort_filter_congr {left right : List α} {p q : α → Prop} [DecidablePred p] [DecidablePred q]
    (hleft : left.Nodup) (hright : right.Nodup)
    (h : ∀ item, item ∈ left ∧ p item ↔ item ∈ right ∧ q item) :
    (left.insertionSort (· ≤ ·)).filter p = (right.insertionSort (· ≤ ·)).filter q := by
  apply List.Perm.eq_of_pairwise (fun _ _ _ _ => le_antisymm)
  · exact (List.pairwise_insertionSort _ left).filter _
  · exact (List.pairwise_insertionSort _ right).filter _
  · apply (List.perm_ext_iff_of_nodup _ _).mpr
    · intro item
      simpa using h item
    · exact ((List.perm_insertionSort ..).nodup_iff.mpr hleft).filter _
    · exact ((List.perm_insertionSort ..).nodup_iff.mpr hright).filter _

theorem Frontier.ready_finish_eq (hpart : links.Part nodes part kept) (hlinks : links.Counted nodes)
    (hinner : part.Counted kept) (hnodes : nodes.Nodup) (hkept : kept.Nodup)
    (h : Halfway links nodes visited (item :: front ++ frontier.ready) frontier.indegree)
    (hhalf : Halfway part kept visited (item :: front ++ inner.ready) inner.indegree)
    (hready : inner.ready = frontier.ready) :
    (finish part inner item).ready = (finish links frontier item).ready := by
  have hnext := h.finish hlinks hnodes
  rw [finish_eq (hlinks.nodup item)] at hnext ⊢
  rw [finish_eq (hinner.nodup item)]
  dsimp only
  rw [hready]
  congr 1
  apply insertionSort_filter_congr (hinner.nodup item) (hlinks.nodup item)
  intro target
  rw [hpart.linked]
  constructor
  · intro hfreed
    exact ⟨hfreed.1.1, (h.indegree_eq hpart hnodes hkept hhalf hfreed.1.2).symm.trans hfreed.2⟩
  · intro hfreed
    have hmem : target ∈ kept := by
      apply hnext.mem_kept hpart
      · intro node hnode
        rcases List.mem_append.mp hnode with hold | hnew
        · exact hhalf.listed node (List.mem_append_left _ hold)
        · rw [List.mem_singleton.mp hnew]
          exact hhalf.listed item (by simp)
      · simp [hfreed.1, hfreed.2]
    exact ⟨⟨hfreed.1, hmem⟩, (h.indegree_eq hpart hnodes hkept hhalf hmem).trans hfreed.2⟩

theorem Frontier.ready_foldl_finish_eq {batch : List α} (hpart : links.Part nodes part kept)
    (hlinks : links.Counted nodes) (hinner : part.Counted kept) (hnodes : nodes.Nodup)
    (hkept : kept.Nodup)
    (h : Halfway links nodes visited (batch ++ frontier.ready) frontier.indegree)
    (hhalf : Halfway part kept visited (batch ++ inner.ready) inner.indegree)
    (hready : inner.ready = frontier.ready) :
    (batch.foldl (finish part) inner).ready = (batch.foldl (finish links) frontier).ready := by
  induction batch generalizing visited frontier inner with
  | nil => exact hready
  | cons item batch ih =>
    exact ih (h.finish hlinks hnodes) (hhalf.finish hinner hkept)
      (ready_finish_eq hpart hlinks hinner hnodes hkept h hhalf hready)

namespace Schedule

variable {width fuel more : Nat} {schedule small : Schedule α}

/-- Both have made the same batches and have the same queue. -/
structure Level (small schedule : Schedule α) : Prop where
  ready : small.ready = schedule.ready
  waves : small.waves = schedule.waves

theorem start_level (hpart : links.Part nodes part kept) (hlinks : links.Counted nodes)
    (hinner : part.Counted kept) (hnodes : nodes.Nodup) (hkept : kept.Nodup) :
    Level (start part kept) (start links nodes) where
  waves := rfl
  ready := by
    have hplanned : (start links nodes).Planned links nodes 1 := start_planned hlinks hnodes
    have hplannedSmall : (start part kept).Planned part kept 1 := start_planned hinner hkept
    have hstart := hplanned.halfway
    have hsmall := hplannedSmall.halfway
    apply List.Perm.eq_of_pairwise (fun _ _ _ _ => le_antisymm)
    · exact List.pairwise_insertionSort ..
    · exact List.pairwise_insertionSort ..
    · apply (List.perm_ext_iff_of_nodup (List.nodup_append.mp hsmall.nodup).2.1
        (List.nodup_append.mp hstart.nodup).2.1).mpr
      intro node
      simp only [start, List.mem_insertionSort, List.mem_filter, decide_eq_true_eq]
      constructor
      · intro h
        exact ⟨hpart.listed node h.1, (hstart.indegree_eq hpart hnodes hkept hsmall h.1).symm.trans h.2⟩
      · intro h
        have hmem : node ∈ kept := hstart.mem_kept hpart (by simp [start]) (by simpa [start] using h)
        exact ⟨hmem, (hstart.indegree_eq hpart hnodes hkept hsmall hmem).trans h.2⟩

theorem Level.advance (h : Level small schedule) (hpart : links.Part nodes part kept)
    (hlinks : links.Counted nodes) (hinner : part.Counted kept) (hnodes : nodes.Nodup)
    (hkept : kept.Nodup) (hplanned : schedule.Planned links nodes width)
    (hsmall : small.Planned part kept width) :
    Level (small.advance part width) (schedule.advance links width) where
  waves := by
    simp only [Schedule.advance, h.waves, h.ready]
  ready := by
    have hhalf := hplanned.halfway
    have hhalfSmall := hsmall.halfway
    rw [← List.take_append_drop width schedule.ready] at hhalf
    rw [h.waves, h.ready, ← List.take_append_drop width schedule.ready] at hhalfSmall
    simp only [Schedule.advance, h.ready]
    let rest : Frontier α := ⟨schedule.ready.drop width, schedule.indegree⟩
    let restSmall : Frontier α := ⟨schedule.ready.drop width, small.indegree⟩
    have hsame : restSmall.ready = rest.ready := rfl
    exact Frontier.ready_foldl_finish_eq hpart hlinks hinner hnodes hkept hhalf hhalfSmall hsame

theorem run_of_ready (links : Links α) (width fuel : Nat) (h : schedule.ready = []) :
    schedule.run links width fuel = schedule := by
  cases fuel with
  | zero => rfl
  | succ fuel => rw [Schedule.run, if_pos h]

theorem Level.run (h : Level small schedule) (hpart : links.Part nodes part kept)
    (hlinks : links.Counted nodes) (hinner : part.Counted kept) (hnodes : nodes.Nodup)
    (hkept : kept.Nodup) (hwidth : 1 ≤ width) (hplanned : schedule.Planned links nodes width)
    (hsmall : small.Planned part kept width) (hdone : (schedule.run links width fuel).ready = [])
    (hdoneSmall : (small.run part width more).ready = []) :
    (small.run part width more).waves = (schedule.run links width fuel).waves := by
  induction fuel generalizing schedule small more with
  | zero =>
    have hready : schedule.ready = [] := hdone
    rw [run_of_ready part width more (h.ready.trans hready)]
    exact h.waves
  | succ fuel ih =>
    by_cases hready : schedule.ready = []
    · rw [run_of_ready links width _ hready, run_of_ready part width more (h.ready.trans hready)]
      exact h.waves
    · have hreadySmall : small.ready ≠ [] := h.ready ▸ hready
      rw [Schedule.run, if_neg hready] at hdone ⊢
      cases more with
      | zero => exact absurd hdoneSmall hreadySmall
      | succ more =>
        rw [Schedule.run, if_neg hreadySmall] at hdoneSmall ⊢
        exact ih (h.advance hpart hlinks hinner hnodes hkept hplanned hsmall)
          (hplanned.advance hlinks hnodes hwidth hready)
          (hsmall.advance hinner hkept hwidth hreadySmall) hdone hdoneSmall

theorem waveSchedule_part (hpart : links.Part nodes part kept) (hlinks : links.Counted nodes)
    (hinner : part.Counted kept) (hnodes : nodes.Nodup) (hkept : kept.Nodup) (hwidth : 1 ≤ width) :
    (waveSchedule part kept width).waves = (waveSchedule links nodes width).waves :=
  (start_level hpart hlinks hinner hnodes hkept).run hpart hlinks hinner hnodes hkept hwidth
    (start_planned hlinks hnodes) (start_planned hinner hkept) (ready_waveSchedule hlinks hnodes hwidth)
    (ready_waveSchedule hinner hkept hwidth)

end Schedule

end KubeOps.Foundation
