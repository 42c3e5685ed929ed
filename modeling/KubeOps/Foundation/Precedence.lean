import KubeOps.Foundation.Interleaving
import Mathlib.Data.Finset.Max
import Mathlib.Data.Fintype.Card
import Mathlib.Data.Set.Finite.List
import Mathlib.Logic.Relation
import Mathlib.Order.WellFounded

/-! Orders in which everything an element depends on comes before it, and the
ready elements such an order provides. -/
namespace KubeOps.Foundation

variable {α : Type}

def Precedence (depends : α → α → Prop) (order : List α) : Prop :=
  Monitored (fun before item => ∀ dependency, depends item dependency → dependency ∈ before) order

theorem exists_first {items : List α} {selected : α → Prop} (h : ∃ item ∈ items, selected item) :
    ∃ before item after, items = before ++ item :: after ∧ selected item ∧
      ∀ earlier ∈ before, ¬ selected earlier := by
  classical
  cases hfind : items.find? fun item => decide (selected item) with
  | none =>
    obtain ⟨item, hmem, hitem⟩ := h
    simpa [hitem] using List.find?_eq_none.mp hfind item hmem
  | some item =>
    obtain ⟨hitem, before, after, heq, hbefore⟩ := List.find?_eq_some_iff_append.mp hfind
    exact ⟨before, item, after, heq, by simpa using hitem, by simpa using hbefore⟩

section Cycles

variable {leads : α → α → Prop} {items : List α} {item : α}

theorem exists_last_of_acyclic (hacyclic : ∀ item, ¬ Relation.TransGen leads item item) (hitem : item ∈ items) :
    ∃ last ∈ items, ∀ other ∈ items, ¬ leads last other := by
  let later : {other // other ∈ items} → {other // other ∈ items} → Prop :=
    fun one other => Relation.TransGen leads other.1 one.1
  have hfinite : Finite {other // other ∈ items} := (List.finite_toSet items).to_subtype
  have : IsTrans _ later := ⟨fun _ _ _ hfirst hsecond => hsecond.trans hfirst⟩
  have : Std.Irrefl later := ⟨fun other => hacyclic other.1⟩
  have hwf : WellFounded later := Finite.wellFounded_of_trans_of_irrefl _
  obtain ⟨last, -, hlast⟩ := hwf.has_min Set.univ ⟨⟨item, hitem⟩, trivial⟩
  exact ⟨last.1, last.2, fun other hother hleads => hlast ⟨other, hother⟩ trivial (.single hleads)⟩

/-- Going on from an item one can come to something that leads back to itself. -/
def LeadsToCycle (leads : α → α → Prop) (item : α) : Prop :=
  ∃ other, Relation.ReflTransGen leads item other ∧ Relation.TransGen leads other other

theorem LeadsToCycle.of_cycle (h : Relation.TransGen leads item item) :
    LeadsToCycle leads item := ⟨item, .refl, h⟩

theorem LeadsToCycle.mono {more : α → α → Prop} (hmore : ∀ item other, leads item other → more item other)
    (h : LeadsToCycle leads item) : LeadsToCycle more item := by
  obtain ⟨other, hpath, hcycle⟩ := h
  exact ⟨other, Relation.ReflTransGen.mono hmore _ _ hpath, Relation.TransGen.mono hmore _ _ hcycle⟩

theorem LeadsToCycle.exists_next (h : LeadsToCycle leads item) :
    ∃ next, leads item next ∧ LeadsToCycle leads next := by
  obtain ⟨other, hpath, hcycle⟩ := h
  rcases Relation.ReflTransGen.cases_head hpath with rfl | ⟨next, hlink, hrest⟩
  · obtain ⟨next, hlink, hback⟩ := Relation.TransGen.head'_iff.mp hcycle
    exact ⟨next, hlink, item, hback, hcycle⟩
  · exact ⟨next, hlink, other, hrest, hcycle⟩

theorem reflTransGen_within {inside : α → Prop} {other : α}
    (hclosed : ∀ item next, inside item → leads item next → inside next) (hitem : inside item)
    (h : Relation.ReflTransGen leads item other) :
    inside other ∧ Relation.ReflTransGen (fun one next => inside one ∧ leads one next) item other := by
  induction h with
  | refl => exact ⟨hitem, .refl⟩
  | tail _ hlink ih => exact ⟨hclosed _ _ ih.1 hlink, ih.2.tail ⟨ih.1, hlink⟩⟩

theorem leadsToCycle_within_iff {inside : α → Prop}
    (hclosed : ∀ item next, inside item → leads item next → inside next) :
    LeadsToCycle (fun one next => inside one ∧ leads one next) item ↔
      inside item ∧ LeadsToCycle leads item := by
  constructor
  · intro h
    obtain ⟨next, hlink, -⟩ := h.exists_next
    exact ⟨hlink.1, h.mono fun _ _ hlink => hlink.2⟩
  · rintro ⟨hitem, other, hpath, hcycle⟩
    obtain ⟨hother, hpath⟩ := reflTransGen_within hclosed hitem hpath
    obtain ⟨last, hround, hlink⟩ := Relation.TransGen.tail'_iff.mp hcycle
    obtain ⟨hlast, hround⟩ := reflTransGen_within hclosed hother hround
    exact ⟨other, hpath, .tail' hround ⟨hlast, hlink⟩⟩

theorem leadsToCycle_of_next (hnext : ∀ item ∈ items, ∃ next ∈ items, leads item next)
    (hitem : item ∈ items) : LeadsToCycle leads item := by
  classical
  by_contra hnone
  -- among what the item leads to, nothing leads back to itself
  let onward : α → α → Prop := fun one other => Relation.ReflTransGen leads item one ∧ leads one other
  have hacyclic : ∀ one, ¬ Relation.TransGen onward one one := by
    intro one hcycle
    obtain ⟨next, hfirst, -⟩ := Relation.TransGen.head'_iff.mp hcycle
    exact hnone ⟨one, hfirst.1, Relation.TransGen.mono (fun _ _ hlink => hlink.2) _ _ hcycle⟩
  have hmem : item ∈ items.filter fun one => decide (Relation.ReflTransGen leads item one) :=
    List.mem_filter.mpr ⟨hitem, decide_eq_true .refl⟩
  obtain ⟨last, hlast, hend⟩ := exists_last_of_acyclic hacyclic hmem
  obtain ⟨hlast, hreached⟩ := List.mem_filter.mp hlast
  obtain ⟨next, hmember, hlink⟩ := hnext last hlast
  have hpath := of_decide_eq_true hreached
  exact hend next (List.mem_filter.mpr ⟨hmember, decide_eq_true (hpath.tail hlink)⟩) ⟨hpath, hlink⟩

end Cycles

theorem Precedence.exists_ready {depends : α → α → Prop} {order : List α}
    (horder : Precedence depends order) (remaining : α → Prop)
    (h : ∃ item ∈ order, remaining item) :
    ∃ item, remaining item ∧ ∀ dependency, depends item dependency → ¬ remaining dependency := by
  obtain ⟨before, item, after, heq, hitem, hbefore⟩ := exists_first h
  exact ⟨item, hitem, fun dependency hdepends =>
    hbefore dependency (horder before item after heq dependency hdepends)⟩

theorem Precedence.idxOf_lt [DecidableEq α] {depends : α → α → Prop} {order : List α}
    (horder : Precedence depends order) {item dependency : α} (hmem : item ∈ order)
    (hdepends : depends item dependency) : order.idxOf dependency < order.idxOf item := by
  obtain ⟨before, after, heq, hfresh⟩ := List.eq_append_cons_of_mem hmem
  have hbefore := horder before item after heq dependency hdepends
  rw [heq, List.idxOf_append_of_mem hbefore, List.idxOf_append_of_notMem hfresh]
  exact Nat.lt_add_right _ (List.idxOf_lt_length_of_mem hbefore)

theorem Precedence.mem_of_depends {depends : α → α → Prop} {order : List α}
    (horder : Precedence depends order) {item dependency : α} (hmem : item ∈ order)
    (hdepends : depends item dependency) : dependency ∈ order := by
  obtain ⟨before, after, heq⟩ := List.append_of_mem hmem
  rw [heq]
  exact List.mem_append_left _ (horder before item after heq dependency hdepends)

theorem Precedence.not_transGen_self {depends : α → α → Prop} {order : List α}
    (horder : Precedence depends order) {item : α} (hmem : item ∈ order) :
    ¬ Relation.TransGen depends item item := by
  classical
  intro h
  suffices hlt : ∀ dependency, Relation.TransGen depends item dependency →
      dependency ∈ order ∧ order.idxOf dependency < order.idxOf item from
    absurd (hlt item h).2 (Nat.lt_irrefl _)
  intro dependency hpath
  induction hpath with
  | single hdepends => exact ⟨horder.mem_of_depends hmem hdepends, horder.idxOf_lt hmem hdepends⟩
  | tail _ hdepends ih =>
    exact ⟨horder.mem_of_depends ih.1 hdepends, (horder.idxOf_lt ih.1 hdepends).trans ih.2⟩

theorem Precedence.not_leadsToCycle {depends : α → α → Prop} {order : List α}
    (horder : Precedence depends order) {item : α} (hmem : item ∈ order) : ¬ LeadsToCycle depends item := by
  rintro ⟨other, hpath, hcycle⟩
  refine horder.not_transGen_self ?_ hcycle
  clear hcycle
  induction hpath with
  | refl => exact hmem
  | tail _ hdepends ih => exact horder.mem_of_depends ih hdepends

theorem Precedence.exists_last {depends : α → α → Prop} {order : List α}
    (horder : Precedence depends order) (selected : α → Prop) (h : ∃ item ∈ order, selected item) :
    ∃ item, selected item ∧ ∀ other ∈ order, depends other item → ¬ selected other := by
  classical
  obtain ⟨item, hmem, hitem⟩ := h
  obtain ⟨last, hlast, hmax⟩ := (order.toFinset.filter selected).exists_max_image order.idxOf
    ⟨item, Finset.mem_filter.mpr ⟨List.mem_toFinset.mpr hmem, hitem⟩⟩
  refine ⟨last, (Finset.mem_filter.mp hlast).2, fun other hother hdepends hselected => ?_⟩
  have hle := hmax other (Finset.mem_filter.mpr ⟨List.mem_toFinset.mpr hother, hselected⟩)
  have hlt := horder.idxOf_lt hother hdepends
  omega

end KubeOps.Foundation
