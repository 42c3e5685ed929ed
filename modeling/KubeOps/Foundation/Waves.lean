import KubeOps.Foundation.Precedence
import Mathlib.Data.List.Sort

/-! Batches of bounded size in which a queue lets everything appear after what it
waits for. The queue is first in, first out, and a batch is taken from its front. -/
namespace KubeOps.Foundation

/-- What waits for each node, and for how many nodes each one still waits. -/
structure Links (α : Type) where
  outgoing : α → List α
  indegree : α → Int

variable {α : Type} [LinearOrder α]

namespace Links

def unlinked : Links α := ⟨fun _ => [], fun _ => 0⟩

def add (links : Links α) (edge : α × α) : Links α :=
  if edge.2 ∈ links.outgoing edge.1 then links
  else
    { outgoing := Function.update links.outgoing edge.1 (links.outgoing edge.1 ++ [edge.2])
      indegree := Function.update links.indegree edge.2 (links.indegree edge.2 + 1) }

def ofEdges (edges : List (α × α)) : Links α := edges.foldl add unlinked

variable {links : Links α} {edge : α × α} {edges : List (α × α)} {nodes : List α}
  {source target : α}

def sources (links : Links α) (nodes : List α) (target : α) : List α :=
  nodes.filter fun source => target ∈ links.outgoing source

theorem mem_sources :
    source ∈ links.sources nodes target ↔ source ∈ nodes ∧ target ∈ links.outgoing source := by
  simp [sources]

theorem sources_nodup (h : nodes.Nodup) : (links.sources nodes target).Nodup := h.filter _

structure Counted (links : Links α) (nodes : List α) : Prop where
  nodup : ∀ source, (links.outgoing source).Nodup
  closed : ∀ source, ∀ target ∈ links.outgoing source, target ∈ nodes
  counts : ∀ target, links.indegree target = (links.sources nodes target).length

theorem unlinked_counted : (unlinked : Links α).Counted nodes where
  nodup _ := List.nodup_nil
  closed _ _ h := absurd h List.not_mem_nil
  counts _ := by simp [unlinked, sources]

theorem mem_outgoing_add : target ∈ (links.add edge).outgoing source ↔
    target ∈ links.outgoing source ∨ (source, target) = edge := by
  obtain ⟨first, second⟩ := edge
  unfold add
  split
  · rename_i h
    rw [Prod.mk.injEq]
    constructor
    · exact Or.inl
    · rintro (hold | ⟨rfl, rfl⟩)
      · exact hold
      · exact h
  · by_cases h : source = first
    · simp [h]
    · simp [h, Function.update_of_ne]

theorem outgoing_add_of_notMem (h : edge.2 ∉ links.outgoing edge.1) : (links.add edge).outgoing =
    Function.update links.outgoing edge.1 (links.outgoing edge.1 ++ [edge.2]) := by
  rw [add, if_neg h]

theorem indegree_add_of_notMem (h : edge.2 ∉ links.outgoing edge.1) : (links.add edge).indegree =
    Function.update links.indegree edge.2 (links.indegree edge.2 + 1) := by
  rw [add, if_neg h]

theorem sources_add_of_ne (h : target ≠ edge.2) :
    (links.add edge).sources nodes target = links.sources nodes target := by
  apply List.filter_congr
  intro source _
  have hne : (source, target) ≠ edge := fun heq => h (by rw [← heq])
  simp [mem_outgoing_add, hne]

theorem sources_add_perm (hnodes : nodes.Nodup) (hsource : edge.1 ∈ nodes)
    (h : edge.2 ∉ links.outgoing edge.1) : ((links.add edge).sources nodes edge.2).Perm
      (edge.1 :: links.sources nodes edge.2) := by
  have hfresh : edge.1 ∉ links.sources nodes edge.2 := fun hmem => h (mem_sources.mp hmem).2
  apply (List.perm_ext_iff_of_nodup (sources_nodup hnodes)
    (List.nodup_cons.mpr ⟨hfresh, sources_nodup hnodes⟩)).mpr
  intro source
  rw [mem_sources, mem_outgoing_add, List.mem_cons, mem_sources, Prod.ext_iff]
  constructor
  · rintro ⟨hmem, hlinked | heq⟩
    · exact .inr ⟨hmem, hlinked⟩
    · exact .inl heq.1
  · rintro (rfl | ⟨hmem, hlinked⟩)
    · exact ⟨hsource, .inr ⟨rfl, rfl⟩⟩
    · exact ⟨hmem, .inl hlinked⟩

theorem Counted.add (h : links.Counted nodes) (hnodes : nodes.Nodup) (hsource : edge.1 ∈ nodes)
    (htarget : edge.2 ∈ nodes) : (links.add edge).Counted nodes := by
  by_cases hknown : edge.2 ∈ links.outgoing edge.1
  · rw [Links.add, if_pos hknown]
    exact h
  refine ⟨fun source => ?_, fun source target hmem => ?_, fun target => ?_⟩
  · rw [outgoing_add_of_notMem hknown]
    by_cases hsame : source = edge.1
    · rw [hsame, Function.update_self]
      exact (h.nodup _).append (List.nodup_singleton _) (by simpa using hknown)
    · rw [Function.update_of_ne hsame]
      exact h.nodup source
  · rcases mem_outgoing_add.mp hmem with hold | rfl
    · exact h.closed source target hold
    · exact htarget
  · rw [indegree_add_of_notMem hknown]
    by_cases hsame : target = edge.2
    · rw [hsame, Function.update_self, (sources_add_perm hnodes hsource hknown).length_eq,
        List.length_cons, h.counts]
      omega
    · rw [sources_add_of_ne hsame, Function.update_of_ne hsame, h.counts]

theorem mem_outgoing_ofEdges :
    target ∈ (ofEdges edges).outgoing source ↔ (source, target) ∈ edges := by
  unfold ofEdges
  induction edges using List.reverseRecOn with
  | nil => simp [unlinked]
  | append_singleton edges edge ih =>
    rw [List.foldl_concat, mem_outgoing_add, ih, List.mem_append, List.mem_singleton]

theorem ofEdges_counted (hnodes : nodes.Nodup)
    (hends : ∀ edge ∈ edges, edge.1 ∈ nodes ∧ edge.2 ∈ nodes) : (ofEdges edges).Counted nodes := by
  unfold ofEdges
  induction edges using List.reverseRecOn with
  | nil => exact unlinked_counted
  | append_singleton edges edge ih =>
    rw [List.foldl_concat]
    have hedge := hends edge (by simp)
    exact (ih fun other hother => hends other (by simp [hother])).add hnodes hedge.1 hedge.2

end Links

/-- A queue in the middle of its work: the nodes that wait for nothing and are not
in a batch yet. -/
structure Frontier (α : Type) where
  ready : List α
  indegree : α → Int

namespace Frontier

def release (frontier : Frontier α) (target : α) : Frontier α :=
  let indegree := Function.update frontier.indegree target (frontier.indegree target - 1)
  { indegree
    ready := if indegree target = 0 then frontier.ready ++ [target] else frontier.ready }

variable {frontier : Frontier α} {targets : List α}

theorem foldl_release (h : targets.Nodup) : targets.foldl release frontier =
    { ready := frontier.ready ++ targets.filter fun target => frontier.indegree target = 1
      indegree := fun node => frontier.indegree node - if node ∈ targets then 1 else 0 } := by
  induction targets generalizing frontier with
  | nil => simp
  | cons target targets ih =>
    obtain ⟨hfresh, hrest⟩ := List.nodup_cons.mp h
    rw [List.foldl_cons, ih hrest]
    have hkeep : (targets.filter fun other => (frontier.release target).indegree other = 1) =
        targets.filter fun other => frontier.indegree other = 1 := by
      apply List.filter_congr
      intro other hother
      have hne : other ≠ target := fun heq => hfresh (heq ▸ hother)
      simp [release, hne]
    rw [hkeep, mk.injEq]
    constructor
    · by_cases hone : frontier.indegree target = 1
      · simp [release, hone]
      · have hzero : frontier.indegree target - 1 ≠ 0 := by omega
        simp [release, hone, hzero]
    · funext node
      by_cases hnode : node = target
      · subst hnode
        simp [release, hfresh]
      · simp [release, hnode]

def finish (links : Links α) (frontier : Frontier α) (item : α) : Frontier α :=
  ((links.outgoing item).insertionSort (· ≤ ·)).foldl release frontier

theorem finish_eq {links : Links α} {item : α} (h : (links.outgoing item).Nodup) :
    finish links frontier item =
      { ready := frontier.ready ++ ((links.outgoing item).insertionSort (· ≤ ·)).filter
          fun target => frontier.indegree target = 1
        indegree := fun node =>
          frontier.indegree node - if node ∈ links.outgoing item then 1 else 0 } := by
  rw [finish, foldl_release ((List.perm_insertionSort ..).nodup_iff.mpr h)]
  simp only [List.mem_insertionSort]

theorem mem_ready_finish {links : Links α} {item target : α} (h : (links.outgoing item).Nodup)
    (hmem : target ∈ (finish links frontier item).ready) :
    target ∈ frontier.ready ∨ target ∈ links.outgoing item := by
  rw [finish_eq h, List.mem_append, List.mem_filter, List.mem_insertionSort] at hmem
  exact hmem.imp_right And.left

theorem mem_ready_foldl_finish {links : Links α} {batch : List α} {target : α}
    (h : ∀ source, (links.outgoing source).Nodup)
    (hmem : target ∈ (batch.foldl (finish links) frontier).ready) :
    target ∈ frontier.ready ∨ ∃ source ∈ batch, target ∈ links.outgoing source := by
  induction batch generalizing frontier with
  | nil => exact .inl hmem
  | cons item batch ih =>
    rcases ih hmem with hready | ⟨source, hsource, hlinked⟩
    · exact (mem_ready_finish (h item) hready).imp_right fun hlinked => ⟨item, by simp, hlinked⟩
    · exact .inr ⟨source, List.mem_cons_of_mem _ hsource, hlinked⟩

end Frontier

/-- What the work keeps true between two nodes: `visited` are finished, `queue` are
free of everything they waited for. -/
structure Halfway (links : Links α) (nodes visited queue : List α) (indegree : α → Int) : Prop where
  nodup : (visited ++ queue).Nodup
  listed : ∀ node ∈ visited ++ queue, node ∈ nodes
  counts : ∀ node ∈ nodes, indegree node =
    ((links.sources nodes node).filter fun source => source ∉ visited).length
  free : ∀ node ∈ nodes, node ∈ visited ++ queue ↔ indegree node = 0

namespace Halfway

variable {links : Links α} {nodes visited front : List α} {frontier : Frontier α} {item : α}

theorem source_mem_visited {queue : List α} {indegree : α → Int}
    (h : Halfway links nodes visited queue indegree) {node source : α}
    (hnode : node ∈ visited ++ queue) (hsource : source ∈ links.sources nodes node) :
    source ∈ visited := by
  have hmem := h.listed node hnode
  have hzero := (h.free node hmem).mp hnode
  rw [h.counts node hmem, Int.natCast_eq_zero, List.length_eq_zero_iff, List.filter_eq_nil_iff] at hzero
  simpa using hzero source hsource

theorem length_waiting (hnodes : nodes.Nodup) (hitem : item ∈ nodes) (hfresh : item ∉ visited)
    (node : α) :
    (((links.sources nodes node).filter fun source => source ∉ visited ++ [item]).length : Int) =
      ((links.sources nodes node).filter fun source => source ∉ visited).length -
        if node ∈ links.outgoing item then 1 else 0 := by
  have herase : ((links.sources nodes node).filter fun source => source ∉ visited ++ [item]) =
      ((links.sources nodes node).filter fun source => source ∉ visited).erase item := by
    rw [((Links.sources_nodup hnodes).filter _).erase_eq_filter, List.filter_filter]
    apply List.filter_congr
    intro source _
    simp [not_or, and_comm, bne, beq_eq_decide]
  have hmem : item ∈ ((links.sources nodes node).filter fun source => source ∉ visited) ↔
      node ∈ links.outgoing item := by
    simp [Links.mem_sources, hitem, hfresh]
  rw [herase, List.length_erase]
  by_cases hlinked : node ∈ links.outgoing item
  · have hpos := List.length_pos_of_mem (hmem.mpr hlinked)
    rw [if_pos (hmem.mpr hlinked), if_pos hlinked]
    omega
  · rw [if_neg (mt hmem.mp hlinked), if_neg hlinked, Int.sub_zero]

theorem finish (h : Halfway links nodes visited (item :: front ++ frontier.ready) frontier.indegree)
    (hlinks : links.Counted nodes) (hnodes : nodes.Nodup) :
    Halfway links nodes (visited ++ [item]) (front ++ (Frontier.finish links frontier item).ready)
      (Frontier.finish links frontier item).indegree := by
  rw [Frontier.finish_eq (hlinks.nodup item)]
  generalize hfreed : (((links.outgoing item).insertionSort (· ≤ ·)).filter
    fun target => frontier.indegree target = 1) = freed
  have hmemFreed : ∀ node, node ∈ freed ↔ node ∈ links.outgoing item ∧ frontier.indegree node = 1 := by
    intro node
    rw [← hfreed, List.mem_filter, List.mem_insertionSort, decide_eq_true_eq]
  have hregroup : visited ++ [item] ++ (front ++ (frontier.ready ++ freed)) =
      visited ++ (item :: front ++ frontier.ready) ++ freed := by simp
  have hitem : item ∈ nodes := h.listed item (by simp)
  have hfresh : item ∉ visited := fun hmem =>
    (List.disjoint_of_nodup_append h.nodup) hmem (by simp)
  refine ⟨?_, ?_, fun node hnode => ?_, fun node hnode => ?_⟩
  · rw [hregroup]
    refine h.nodup.append ?_ fun node hold hnew => ?_
    · rw [← hfreed]
      exact ((List.perm_insertionSort ..).nodup_iff.mpr (hlinks.nodup item)).filter _
    · have hzero := (h.free node (h.listed node hold)).mp hold
      have hone := ((hmemFreed node).mp hnew).2
      omega
  · rw [hregroup]
    intro node hmem
    rcases List.mem_append.mp hmem with hold | hnew
    · exact h.listed node hold
    · exact hlinks.closed item node ((hmemFreed node).mp hnew).1
  · dsimp only
    rw [length_waiting hnodes hitem hfresh, h.counts node hnode]
  · rw [hregroup, List.mem_append, h.free node hnode, hmemFreed]
    dsimp only
    have hnonneg : 0 ≤ frontier.indegree node := by
      rw [h.counts node hnode]
      exact Int.natCast_nonneg _
    by_cases hlinked : node ∈ links.outgoing item
    · rw [if_pos hlinked]
      have hpositive : frontier.indegree node ≠ 0 := fun hzero => hfresh
        (h.source_mem_visited ((h.free node hnode).mpr hzero) (Links.mem_sources.mpr ⟨hitem, hlinked⟩))
      simp only [hlinked, hpositive, true_and, false_or]
      omega
    · simp [hlinked]

theorem foldl_finish {batch : List α} (frontier : Frontier α)
    (h : Halfway links nodes visited (batch ++ frontier.ready) frontier.indegree)
    (hlinks : links.Counted nodes) (hnodes : nodes.Nodup) :
    Halfway links nodes (visited ++ batch) (batch.foldl (Frontier.finish links) frontier).ready
      (batch.foldl (Frontier.finish links) frontier).indegree := by
  induction batch generalizing visited frontier with
  | nil => simpa using h
  | cons item batch ih =>
    have hrest := ih _ (h.finish hlinks hnodes)
    rwa [List.append_assoc] at hrest

end Halfway

/-- The batches so far and the queue behind them. -/
structure Schedule (α : Type) extends Frontier α where
  waves : List (List α)

/-- What may come after the batches of `before`. -/
structure Admitted (links : Links α) (nodes : List α) (width : Nat) (before : List (List α))
    (batch : List α) : Prop where
  nonempty : batch ≠ []
  bounded : batch.length ≤ width
  ordered : ∀ item ∈ batch, ∀ source ∈ links.sources nodes item, source ∈ before.flatten
  eager : ∀ last, before.getLast? = some last → last.length = width ∨
    ∀ item ∈ batch, ∃ source ∈ last, item ∈ links.outgoing source

namespace Schedule

def start (links : Links α) (nodes : List α) : Schedule α where
  ready := (nodes.filter fun node => links.indegree node = 0).insertionSort (· ≤ ·)
  indegree := links.indegree
  waves := []

def advance (links : Links α) (width : Nat) (schedule : Schedule α) : Schedule α :=
  let batch := schedule.ready.take width
  let rest : Frontier α := ⟨schedule.ready.drop width, schedule.indegree⟩
  { batch.foldl (Frontier.finish links) rest with waves := schedule.waves ++ [batch] }

/-- The queue is worked off batch by batch. Every batch holds a node that was in
none before, so that as many rounds as there are nodes are enough. -/
def run (links : Links α) (width : Nat) : Nat → Schedule α → Schedule α
  | 0, schedule => schedule
  | fuel + 1, schedule =>
    if schedule.ready = [] then schedule else run links width fuel (schedule.advance links width)

def waveSchedule (links : Links α) (nodes : List α) (width : Nat) : Schedule α :=
  run links width nodes.length (start links nodes)

variable {links : Links α} {nodes : List α} {width fuel : Nat} {schedule : Schedule α}

structure Planned (links : Links α) (nodes : List α) (width : Nat) (schedule : Schedule α) :
    Prop where
  halfway : Halfway links nodes schedule.waves.flatten schedule.ready schedule.indegree
  admitted : Monitored (Admitted links nodes width) schedule.waves
  eager : ∀ last, schedule.waves.getLast? = some last → last.length = width ∨
    ∀ item ∈ schedule.ready, ∃ source ∈ last, item ∈ links.outgoing source

theorem start_planned (hlinks : links.Counted nodes) (hnodes : nodes.Nodup) :
    (start links nodes).Planned links nodes width where
  halfway :=
    { nodup := (List.perm_insertionSort ..).nodup_iff.mpr (hnodes.filter _)
      listed := by simp +contextual [start]
      counts := by simp [start, hlinks.counts]
      free := by simp +contextual [start] }
  admitted := .nil
  eager _ h := by simp [start] at h

theorem Planned.advance (h : schedule.Planned links nodes width) (hlinks : links.Counted nodes)
    (hnodes : nodes.Nodup) (hwidth : 1 ≤ width) (hready : schedule.ready ≠ []) :
    (schedule.advance links width).Planned links nodes width where
  halfway := by
    have hhalf := h.halfway
    rw [← List.take_append_drop width schedule.ready] at hhalf
    let rest : Frontier α := ⟨schedule.ready.drop width, schedule.indegree⟩
    have hnext := Halfway.foldl_finish rest hhalf hlinks hnodes
    simpa [Schedule.advance] using hnext
  admitted := by
    refine h.admitted.concat ⟨?_, List.length_take_le .., ?_, ?_⟩
    · simpa [List.take_eq_nil_iff, hready] using Nat.ne_of_gt hwidth
    · intro item hitem source hsource
      exact h.halfway.source_mem_visited
        (List.mem_append_right _ (List.mem_of_mem_take hitem)) hsource
    · intro last hlast
      exact (h.eager last hlast).imp_right fun hall item hitem =>
        hall item (List.mem_of_mem_take hitem)
  eager := by
    intro last hlast
    have hbatch : schedule.ready.take width = last := by
      simpa [Schedule.advance] using hlast
    subst hbatch
    by_cases hfull : width ≤ schedule.ready.length
    · exact .inl (List.length_take_of_le hfull)
    · right
      intro item hitem
      have hdrop : schedule.ready.drop width = [] := List.drop_eq_nil_of_le (Nat.le_of_not_le hfull)
      rcases Frontier.mem_ready_foldl_finish hlinks.nodup hitem with hrest | hfreed
      · rw [hdrop] at hrest
        exact absurd hrest List.not_mem_nil
      · exact hfreed

theorem Planned.run (h : schedule.Planned links nodes width) (hlinks : links.Counted nodes)
    (hnodes : nodes.Nodup) (hwidth : 1 ≤ width) :
    (schedule.run links width fuel).Planned links nodes width := by
  induction fuel generalizing schedule with
  | zero => exact h
  | succ fuel ih =>
    rw [Schedule.run]
    split
    · exact h
    · exact ih (h.advance hlinks hnodes hwidth ‹_›)

theorem Planned.length_le (h : schedule.Planned links nodes width) :
    schedule.waves.flatten.length ≤ nodes.length :=
  (List.subperm_of_subset (List.nodup_append.mp h.halfway.nodup).1 fun node hnode =>
    h.halfway.listed node (List.mem_append_left _ hnode)).length_le

theorem length_advance (links : Links α) (hwidth : 1 ≤ width) (hready : schedule.ready ≠ []) :
    schedule.waves.flatten.length < (schedule.advance links width).waves.flatten.length := by
  have hpos := List.length_pos_iff.mpr hready
  simp only [advance, List.flatten_append, List.flatten_singleton, List.length_append,
    List.length_take]
  omega

theorem Planned.ready_run (h : schedule.Planned links nodes width) (hlinks : links.Counted nodes)
    (hnodes : nodes.Nodup) (hwidth : 1 ≤ width)
    (hfuel : nodes.length ≤ schedule.waves.flatten.length + fuel) :
    (schedule.run links width fuel).ready = [] := by
  induction fuel generalizing schedule with
  | zero =>
    rw [Schedule.run]
    by_contra hready
    have hlength := (h.advance hlinks hnodes hwidth hready).length_le
    have hmore := length_advance links hwidth hready
    omega
  | succ fuel ih =>
    rw [Schedule.run]
    split
    · assumption
    · rename_i hready
      have hmore := length_advance links hwidth hready
      exact ih (h.advance hlinks hnodes hwidth hready) (by omega)

theorem waveSchedule_planned (hlinks : links.Counted nodes) (hnodes : nodes.Nodup)
    (hwidth : 1 ≤ width) : (waveSchedule links nodes width).Planned links nodes width :=
  (start_planned hlinks hnodes).run hlinks hnodes hwidth

theorem ready_waveSchedule (hlinks : links.Counted nodes) (hnodes : nodes.Nodup)
    (hwidth : 1 ≤ width) : (waveSchedule links nodes width).ready = [] :=
  (start_planned hlinks hnodes).ready_run hlinks hnodes hwidth (Nat.le_add_left ..)

theorem exists_source_left_out (hlinks : links.Counted nodes) (hnodes : nodes.Nodup)
    (hwidth : 1 ≤ width) {node : α} (hnode : node ∈ nodes)
    (hleft : node ∉ (waveSchedule links nodes width).waves.flatten) :
    ∃ source ∈ nodes, source ∉ (waveSchedule links nodes width).waves.flatten ∧
      node ∈ links.outgoing source := by
  have hhalf := (waveSchedule_planned hlinks hnodes hwidth).halfway
  rw [ready_waveSchedule hlinks hnodes hwidth] at hhalf
  have hnonzero := mt (hhalf.free node hnode).mpr (by simpa using hleft)
  rw [hhalf.counts node hnode, Int.natCast_eq_zero, List.length_eq_zero_iff] at hnonzero
  obtain ⟨source, hsource⟩ := List.exists_mem_of_ne_nil _ hnonzero
  rw [List.mem_filter, Links.mem_sources] at hsource
  exact ⟨source, hsource.1.1, by simpa using hsource.2, hsource.1.2⟩

theorem flatten_waveSchedule_perm (hlinks : links.Counted nodes) (hnodes : nodes.Nodup)
    (hwidth : 1 ≤ width)
    (hacyclic : ∀ node, ¬ Relation.TransGen (fun target source => target ∈ links.outgoing source)
      node node) :
    (waveSchedule links nodes width).waves.flatten.Perm nodes := by
  have hhalf := (waveSchedule_planned hlinks hnodes hwidth).halfway
  apply (List.perm_ext_iff_of_nodup (List.nodup_append.mp hhalf.nodup).1 hnodes).mpr
  intro node
  refine ⟨fun hmem => hhalf.listed node (List.mem_append_left _ hmem), fun hmem => ?_⟩
  by_contra hleft
  have hremaining : ∀ other, other ∈ nodes.filter (fun other =>
      other ∉ (waveSchedule links nodes width).waves.flatten) ↔
      other ∈ nodes ∧ other ∉ (waveSchedule links nodes width).waves.flatten := by simp
  obtain ⟨first, hfirst, hnone⟩ := exists_last_of_acyclic hacyclic ((hremaining node).mpr ⟨hmem, hleft⟩)
  obtain ⟨hnode, hout⟩ := (hremaining first).mp hfirst
  obtain ⟨source, hsource, hsourceLeft, hlinked⟩ := exists_source_left_out hlinks hnodes hwidth hnode hout
  exact hnone source ((hremaining source).mpr ⟨hsource, hsourceLeft⟩) hlinked

end Schedule

end KubeOps.Foundation
