import Mathlib.Data.List.Count
import Mathlib.Data.List.Pairwise
import Mathlib.Algebra.BigOperators.Group.List.Basic

/-! Lists that a loop builds, and items that are reported by a key. Reading a report back, an item counts as
listed when its key is; how that differs from the items that were meant depends on which of them share a
key. -/
namespace KubeOps.Foundation

section Loops

variable {σ α β : Type} {step : σ → α → σ}

theorem foldl_keeps {measure : σ → β} (h : ∀ acc item, measure (step acc item) = measure acc)
    (items : List α) (acc : σ) : measure (items.foldl step acc) = measure acc := by
  induction items generalizing acc with
  | nil => rfl
  | cons item items ih => rw [List.foldl_cons, ih, h]

theorem foldl_append {written : σ → List β} {adds : α → List β}
    (h : ∀ acc item, written (step acc item) = written acc ++ adds item) (items : List α) (acc : σ) :
    written (items.foldl step acc) = written acc ++ items.flatMap adds := by
  induction items generalizing acc with
  | nil => simp
  | cons item items ih => rw [List.foldl_cons, ih, h, List.flatMap_cons, List.append_assoc]

theorem foldl_eq_nil {written : σ → List β} {ok : α → Prop}
    (h : ∀ acc item, written (step acc item) = [] ↔ written acc = [] ∧ ok item) (items : List α)
    (acc : σ) : written (items.foldl step acc) = [] ↔ written acc = [] ∧ ∀ item ∈ items, ok item := by
  induction items generalizing acc with
  | nil => simp
  | cons item items ih => rw [List.foldl_cons, ih, h, List.forall_mem_cons, and_assoc]

theorem flatMap_ite {chosen : α → Prop} [DecidablePred chosen] (value : α → β) (items : List α) :
    (items.flatMap fun item => if chosen item then [value item] else []) =
      (items.filter fun item => chosen item).map value := by
  induction items with
  | nil => rfl
  | cons item items ih =>
    rw [List.flatMap_cons, ih, List.filter_cons]
    by_cases hchosen : chosen item
    · simp [hchosen]
    · simp [hchosen]

end Loops

section Reports

variable {α κ : Type} {key : α → κ} {chosen kept marked : α → Bool} {items : List α}

def listedKeys (key : α → κ) (chosen : α → Bool) (items : List α) : List κ := (items.filter chosen).map key

theorem mem_listedKeys {name : κ} : name ∈ listedKeys key chosen items ↔
    ∃ item ∈ items, chosen item ∧ key item = name := by
  simp [listedKeys, and_assoc]

theorem mem_listedKeys_of_chosen {item : α} (hmem : item ∈ items) (hchosen : chosen item = true) :
    key item ∈ listedKeys key chosen items :=
  mem_listedKeys.mpr ⟨item, hmem, hchosen, rfl⟩

def KeyedApart (key : α → κ) (marked : α → Bool) (items : List α) : Prop :=
  items.Pairwise fun one two => (marked one || marked two) = true → key one ≠ key two

instance [DecidableEq κ] : Decidable (KeyedApart key marked items) :=
  inferInstanceAs (Decidable (List.Pairwise _ _))

theorem keyedApart_iff_count [DecidableEq κ] :
    KeyedApart key marked items ↔ ∀ name ∈ listedKeys key marked items, (items.map key).count name = 1 := by
  induction items with
  | nil => simp [KeyedApart, listedKeys]
  | cons item items ih =>
    have hcount : ∀ name, ((item :: items).map key).count name =
        (items.map key).count name + if key item = name then 1 else 0 := by
      intro name
      rw [List.map_cons, List.count_cons]
      simp
    have hborne : ∀ other ∈ items, 0 < (items.map key).count (key other) :=
      fun other hother => List.count_pos_iff.mpr (List.mem_map_of_mem hother)
    unfold KeyedApart at ih ⊢
    rw [List.pairwise_cons, ih]
    constructor
    · rintro ⟨hhead, htail⟩ name hname
      obtain ⟨other, hother, hmarked, rfl⟩ := mem_listedKeys.mp hname
      rw [hcount]
      rcases List.mem_cons.mp hother with rfl | hother
      · have hnone : (items.map key).count (key other) = 0 := by
          rw [List.count_eq_zero, List.mem_map]
          rintro ⟨two, htwo, hsame⟩
          exact hhead two htwo (by simp [hmarked]) hsame.symm
        simp [hnone]
      · rw [htail _ (mem_listedKeys_of_chosen hother hmarked), if_neg (hhead other hother (by simp [hmarked]))]
    · intro hall
      constructor
      · intro other hother hmarked hsame
        have hname : key item ∈ listedKeys key marked (item :: items) := by
          rcases Bool.or_eq_true_iff.mp hmarked with hitem | hother'
          · exact mem_listedKeys_of_chosen List.mem_cons_self hitem
          · rw [hsame]
            exact mem_listedKeys_of_chosen (List.mem_cons_of_mem _ hother) hother'
        have honce := hall _ hname
        have hpos := hborne other hother
        rw [hcount, if_pos rfl, hsame] at honce
        omega
      · intro name hname
        obtain ⟨other, hother, hmarked, rfl⟩ := mem_listedKeys.mp hname
        have honce := hall _ (mem_listedKeys_of_chosen (List.mem_cons_of_mem _ hother) hmarked)
        have hpos := hborne other hother
        rw [hcount] at honce
        split at honce <;> omega

theorem KeyedApart.eq_of_key (hapart : KeyedApart key marked items) {one two : α} (hone : one ∈ items)
    (htwo : two ∈ items) (hmarked : marked one = true) (hsame : key one = key two) : one = two := by
  by_contra hne
  have hsymm : Std.Symm fun one two : α => (marked one || marked two) = true → key one ≠ key two :=
    ⟨fun left right h hmarked hsame => h (by rwa [Bool.or_comm]) hsame.symm⟩
  exact List.Pairwise.forall hapart hone htwo hne (by simp [hmarked]) hsame

theorem KeyedApart.mem_listedKeys_iff (hapart : KeyedApart key marked items)
    (hmarked : ∀ item, chosen item = true → marked item = true) {item : α} (hitem : item ∈ items) :
    key item ∈ listedKeys key chosen items ↔ chosen item = true := by
  constructor
  · intro hlisted
    obtain ⟨other, hother, hchosen, hsame⟩ := mem_listedKeys.mp hlisted
    rwa [← hapart.eq_of_key hother hitem (hmarked other hchosen) hsame]
  · exact mem_listedKeys_of_chosen hitem

theorem KeyedApart.disjoint (hapart : KeyedApart key marked items)
    (hmarked : ∀ item, chosen item = true → marked item = true)
    (hexclusive : ∀ item, chosen item = true → kept item = false) {name : κ}
    (hname : name ∈ listedKeys key chosen items) : name ∉ listedKeys key kept items := by
  intro hboth
  obtain ⟨item, hitem, hchosen, rfl⟩ := mem_listedKeys.mp hname
  obtain ⟨other, hother, hkept, hsame⟩ := mem_listedKeys.mp hboth
  obtain rfl := hapart.eq_of_key hitem hother (hmarked item hchosen) hsame.symm
  exact absurd hkept (by simp [hexclusive item hchosen])

end Reports

end KubeOps.Foundation
