import Mathlib.Data.List.Sort

/-! Sorting forgets the order in which a list was given, but for items that it does not tell apart. -/
namespace KubeOps.Foundation

section Elements

variable {α : Type} [LE α] [DecidableLE α] [@Std.Total α (· ≤ ·)] [IsTrans α (· ≤ ·)] [@Std.Antisymm α (· ≤ ·)]
  {left right : List α}

theorem insertionSort_eq_of_perm (h : left.Perm right) :
    left.insertionSort (· ≤ ·) = right.insertionSort (· ≤ ·) := by
  apply List.Perm.eq_of_pairwise' (r := (· ≤ ·))
  · exact List.pairwise_insertionSort _ _
  · exact List.pairwise_insertionSort _ _
  · exact ((List.perm_insertionSort _ _).trans h).trans (List.perm_insertionSort _ _).symm

end Elements

section Keys

variable {κ ν μ : Type} [LE κ] [DecidableLE κ] {left right : List (κ × ν)}

def sortByKey (entries : List (κ × ν)) : List (κ × ν) :=
  entries.insertionSort fun left right => left.1 ≤ right.1

theorem perm_sortByKey (entries : List (κ × ν)) : (sortByKey entries).Perm entries :=
  List.perm_insertionSort _ _

theorem sortByKey_map (f : ν → μ) (entries : List (κ × ν)) :
    sortByKey (entries.map fun entry => (entry.1, f entry.2)) =
      (sortByKey entries).map fun entry => (entry.1, f entry.2) := by
  symm
  apply List.map_insertionSort
  intro one _ two _
  exact Iff.rfl

variable [@Std.Total κ (· ≤ ·)] [IsTrans κ (· ≤ ·)]

theorem pairwise_sortByKey (entries : List (κ × ν)) :
    (sortByKey entries).Pairwise fun left right => left.1 ≤ right.1 := by
  have htotal : Std.Total fun left right : κ × ν => left.1 ≤ right.1 :=
    ⟨fun left right => Std.Total.total left.1 right.1⟩
  have htrans : IsTrans (κ × ν) fun left right => left.1 ≤ right.1 :=
    ⟨fun one two three => IsTrans.trans one.1 two.1 three.1⟩
  exact List.pairwise_insertionSort _ _

theorem sortByKey_sortByKey (entries : List (κ × ν)) : sortByKey (sortByKey entries) = sortByKey entries :=
  (pairwise_sortByKey entries).insertionSort_eq

theorem sortByKey_eq_of_perm [@Std.Antisymm κ (· ≤ ·)] (hnodup : (left.map Prod.fst).Nodup)
    (h : left.Perm right) :
    sortByKey left = sortByKey right := by
  refine List.Perm.eq_of_pairwise ?_ (pairwise_sortByKey left) (pairwise_sortByKey right)
    (((perm_sortByKey left).trans h).trans (perm_sortByKey right).symm)
  intro one two hone htwo hle hge
  have hmem : one ∈ left := (perm_sortByKey left).mem_iff.mp hone
  have hother : two ∈ left := h.mem_iff.mpr ((perm_sortByKey right).mem_iff.mp htwo)
  exact List.inj_on_of_nodup_map hnodup hmem hother (Std.Antisymm.antisymm _ _ hle hge)

end Keys

section By

variable {α κ : Type} [LE κ] [DecidableLE κ]

/-- `sorted(items, key=key)` -/
def sortedBy (key : α → κ) (items : List α) : List α :=
  items.insertionSort fun left right => key left ≤ key right

theorem perm_sortedBy (key : α → κ) (items : List α) : (sortedBy key items).Perm items :=
  List.perm_insertionSort _ _

variable [@Std.Total κ (· ≤ ·)] [IsTrans κ (· ≤ ·)]

theorem pairwise_sortedBy (key : α → κ) (items : List α) :
    (sortedBy key items).Pairwise fun left right => key left ≤ key right := by
  have htotal : Std.Total fun left right : α => key left ≤ key right :=
    ⟨fun left right => Std.Total.total (key left) (key right)⟩
  have htrans : IsTrans α fun left right => key left ≤ key right :=
    ⟨fun one two three => IsTrans.trans (key one) (key two) (key three)⟩
  exact List.pairwise_insertionSort _ _

theorem sortedBy_eq_of_perm [@Std.Antisymm κ (· ≤ ·)] {key : α → κ} {left right : List α}
    (hnodup : (left.map key).Nodup) (h : left.Perm right) : sortedBy key left = sortedBy key right := by
  refine List.Perm.eq_of_pairwise ?_ (pairwise_sortedBy key left) (pairwise_sortedBy key right)
    (((perm_sortedBy key left).trans h).trans (perm_sortedBy key right).symm)
  intro one two hone htwo hle hge
  have hmem : one ∈ left := (perm_sortedBy key left).mem_iff.mp hone
  have hother : two ∈ left := h.mem_iff.mpr ((perm_sortedBy key right).mem_iff.mp htwo)
  exact List.inj_on_of_nodup_map hnodup hmem hother (Std.Antisymm.antisymm _ _ hle hge)

end By

section Relations

variable {α : Type} {r s : α → α → Prop} [DecidableRel r] [DecidableRel s] {items : List α} {item : α}

theorem orderedInsert_congr (h : ∀ other ∈ items, r item other ↔ s item other) :
    items.orderedInsert r item = items.orderedInsert s item := by
  induction items with
  | nil => rfl
  | cons first rest ih =>
    rw [List.forall_mem_cons] at h
    rw [List.orderedInsert_cons, List.orderedInsert_cons, ih h.2]
    simp only [h.1]

theorem insertionSort_congr (h : items.Pairwise fun one two => r one two ↔ s one two) :
    items.insertionSort r = items.insertionSort s := by
  induction items with
  | nil => rfl
  | cons first rest ih =>
    rw [List.pairwise_cons] at h
    rw [List.insertionSort_cons, List.insertionSort_cons, ih h.2]
    apply orderedInsert_congr
    intro other hother
    exact h.1 other ((List.mem_insertionSort s).mp hother)

omit [DecidableRel s] in
theorem filter_orderedInsert {chosen : α → Bool} (h : items.Pairwise s)
    (hbefore : ∀ {one two}, r item one → s one two → r item two) :
    (items.orderedInsert r item).filter chosen =
      if chosen item then (items.filter chosen).orderedInsert r item else items.filter chosen := by
  induction items with
  | nil =>
    rw [List.orderedInsert_nil, List.filter_cons]
    split <;> rfl
  | cons first rest ih =>
    rw [List.pairwise_cons] at h
    by_cases hitem : r item first
    · -- the item comes before all of them
      have hfront : ∀ others : List α, (∀ other ∈ others, r item other) →
          others.orderedInsert r item = item :: others := by
        intro others hothers
        cases others with
        | nil => rfl
        | cons other others => rw [List.orderedInsert_cons, if_pos (hothers other List.mem_cons_self)]
      rw [List.orderedInsert_cons, if_pos hitem, List.filter_cons, hfront]
      intro other hother
      cases List.mem_cons.mp (List.mem_of_mem_filter hother) with
      | inl hsame => exact hsame ▸ hitem
      | inr hrest => exact hbefore hitem (h.1 other hrest)
    · rw [List.orderedInsert_cons, if_neg hitem, List.filter_cons, List.filter_cons, ih h.2]
      by_cases hfirst : chosen first = true
      · rw [if_pos hfirst, if_pos hfirst, List.orderedInsert_cons, if_neg hitem]
        split <;> rfl
      · rw [if_neg hfirst, if_neg hfirst]

theorem filter_insertionSort [IsTrans α r] [Std.Total r] (items : List α) (chosen : α → Bool) :
    (items.insertionSort r).filter chosen = (items.filter chosen).insertionSort r := by
  induction items with
  | nil => rfl
  | cons first rest ih =>
    rw [List.insertionSort_cons, filter_orderedInsert (List.pairwise_insertionSort r rest) fun hone htwo =>
      IsTrans.trans _ _ _ hone htwo, ih, List.filter_cons]
    split <;> rfl

end Relations

section Stable

variable {α κ : Type} [LinearOrder κ] (key : α → κ)

/-- The item takes its place behind those whose keys are not larger. -/
def insertAfter (items : List α) (item : α) : List α :=
  items.orderedInsert (fun one two => key one < key two) item

variable {key}

theorem filter_insertAfter {chosen : α → Bool} {items : List α} {item : α}
    (h : items.Pairwise fun one two => key one ≤ key two) :
    (insertAfter key items item).filter chosen =
      if chosen item then insertAfter key (items.filter chosen) item else items.filter chosen :=
  filter_orderedInsert h fun hone htwo => lt_of_lt_of_le hone htwo

theorem map_insertAfter {β : Type} {key' : β → κ} {f : α → β}
    (h : ∀ one two, key' (f one) < key' (f two) ↔ key one < key two) (items : List α) (item : α) :
    (insertAfter key items item).map f = insertAfter key' (items.map f) (f item) := by
  apply List.map_orderedInsert
  · exact fun other _ => (h other item).symm
  · exact fun other _ => (h item other).symm

theorem insertAfter_orderedInsert (items : List α) (one two : α) :
    insertAfter key (items.orderedInsert (fun one two => key one ≤ key two) one) two =
      (insertAfter key items two).orderedInsert (fun one two => key one ≤ key two) one := by
  unfold insertAfter
  induction items with
  | nil =>
    simp only [List.orderedInsert_nil, List.orderedInsert_cons]
    by_cases h : key two < key one
    · rw [if_pos h, if_neg (not_le.mpr h)]
    · rw [if_neg h, if_pos (not_lt.mp h)]
  | cons first rest ih =>
    by_cases hone : key one ≤ key first
    · by_cases htwo : key two < key first
      · by_cases hboth : key two < key one
        · simp [List.orderedInsert_cons, hone, htwo, hboth, not_le.mpr hboth]
        · simp [List.orderedInsert_cons, hone, htwo, hboth, not_lt.mp hboth]
      · have hboth : ¬ key two < key one := not_lt.mpr (hone.trans (not_lt.mp htwo))
        simp [List.orderedInsert_cons, hone, htwo, hboth]
    · by_cases htwo : key two < key first
      · have hboth : ¬ key one ≤ key two := not_le.mpr (htwo.trans (not_le.mp hone))
        simp [List.orderedInsert_cons, hone, htwo, hboth]
      · simp [List.orderedInsert_cons, hone, htwo, ih]

theorem foldl_insertAfter (items : List α) :
    items.foldl (insertAfter key) [] = sortedBy key items := by
  have hall : ∀ (items placed : List α) (item : α), items.foldl (insertAfter key)
      (placed.orderedInsert (fun one two => key one ≤ key two) item) =
        (items.foldl (insertAfter key) placed).orderedInsert (fun one two => key one ≤ key two) item := by
    intro items
    induction items with
    | nil => exact fun placed item => rfl
    | cons first rest ih =>
      intro placed item
      rw [List.foldl_cons, List.foldl_cons, insertAfter_orderedInsert, ih]
  induction items with
  | nil => rfl
  | cons first rest ih =>
    rw [sortedBy, List.insertionSort_cons, List.foldl_cons]
    exact (hall rest [] first).trans (congrArg _ ih)

end Stable

end KubeOps.Foundation
