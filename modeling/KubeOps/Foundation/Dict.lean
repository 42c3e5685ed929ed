import Mathlib.Data.List.Induction
import Mathlib.Data.List.Nodup
import Mathlib.Data.List.Basic
import Mathlib.Data.List.Perm.Subperm

/-! Insertion-ordered dictionaries. Keys are unique and iteration visits them
in the order of their first insertion; replacing a value keeps its place. -/
namespace KubeOps.Foundation

structure Dict (κ ν : Type) where
  entries : List (κ × ν)
  nodup : (entries.map Prod.fst).Nodup

namespace Dict

variable {κ ν : Type}

def empty : Dict κ ν := ⟨[], List.nodup_nil⟩

instance : EmptyCollection (Dict κ ν) := ⟨empty⟩
instance : Inhabited (Dict κ ν) := ⟨empty⟩

def keys (dict : Dict κ ν) : List κ := dict.entries.map Prod.fst
def values (dict : Dict κ ν) : List ν := dict.entries.map Prod.snd
def size (dict : Dict κ ν) : Nat := dict.entries.length

theorem keys_nodup (dict : Dict κ ν) : dict.keys.Nodup := dict.nodup

@[simp] theorem entries_empty : (∅ : Dict κ ν).entries = [] := rfl
@[simp] theorem keys_empty : (∅ : Dict κ ν).keys = [] := rfl
@[simp] theorem values_empty : (∅ : Dict κ ν).values = [] := rfl

theorem ext_entries {left right : Dict κ ν} (h : left.entries = right.entries) :
    left = right := by
  cases left
  cases right
  congr

theorem mem_keys {dict : Dict κ ν} {key : κ} :
    key ∈ dict.keys ↔ ∃ value, (key, value) ∈ dict.entries := by
  simp [keys]

theorem mem_values {dict : Dict κ ν} {value : ν} :
    value ∈ dict.values ↔ ∃ key, (key, value) ∈ dict.entries := by
  simp [values]

theorem value_unique {dict : Dict κ ν} {key : κ} {left right : ν}
    (hleft : (key, left) ∈ dict.entries) (hright : (key, right) ∈ dict.entries) :
    left = right := by
  have h := List.inj_on_of_nodup_map dict.nodup hleft hright rfl
  exact (Prod.mk.inj h).2

/-- A loop over `d.items()` that replaces every value. -/
def mapValues {μ : Type} (dict : Dict κ ν) (f : ν → μ) : Dict κ μ where
  entries := dict.entries.map fun entry => (entry.1, f entry.2)
  nodup := by
    rw [List.map_map]
    exact dict.nodup

@[simp] theorem keys_mapValues {μ : Type} (dict : Dict κ ν) (f : ν → μ) :
    (dict.mapValues f).keys = dict.keys := by
  simp [keys, mapValues]

@[simp] theorem size_mapValues {μ : Type} (dict : Dict κ ν) (f : ν → μ) :
    (dict.mapValues f).size = dict.size := by
  simp [size, mapValues]

theorem mem_entries_mapValues {μ : Type} {dict : Dict κ ν} {f : ν → μ} {entry : κ × μ} :
    entry ∈ (dict.mapValues f).entries ↔
      ∃ value, (entry.1, value) ∈ dict.entries ∧ f value = entry.2 := by
  cases entry
  simp [mapValues]

theorem mapValues_mapValues {μ ρ : Type} (dict : Dict κ ν) (f : ν → μ) (g : μ → ρ) :
    (dict.mapValues f).mapValues g = dict.mapValues (g ∘ f) := by
  apply ext_entries
  simp [mapValues]

theorem mapValues_congr {μ : Type} {dict : Dict κ ν} {f g : ν → μ}
    (h : ∀ value, f value = g value) : dict.mapValues f = dict.mapValues g := by
  rw [funext h]

/-- A loop over `d.items()` that replaces every value, looking at its key. -/
def mapEntries {μ : Type} (dict : Dict κ ν) (f : κ → ν → μ) : Dict κ μ where
  entries := dict.entries.map fun entry => (entry.1, f entry.1 entry.2)
  nodup := by
    rw [List.map_map]
    exact dict.nodup

theorem entries_mapEntries {μ : Type} (dict : Dict κ ν) (f : κ → ν → μ) :
    (dict.mapEntries f).entries = dict.entries.map fun entry => (entry.1, f entry.1 entry.2) := rfl

theorem keys_mapEntries {μ : Type} (dict : Dict κ ν) (f : κ → ν → μ) :
    (dict.mapEntries f).keys = dict.keys := by
  simp [keys, mapEntries]

theorem mapEntries_mapEntries {μ ρ : Type} (dict : Dict κ ν) (f : κ → ν → μ) (g : κ → μ → ρ) :
    (dict.mapEntries f).mapEntries g = dict.mapEntries fun key value => g key (f key value) := by
  apply ext_entries
  simp [mapEntries]

theorem mapEntries_congr {μ : Type} {dict : Dict κ ν} {f g : κ → ν → μ}
    (h : ∀ entry ∈ dict.entries, f entry.1 entry.2 = g entry.1 entry.2) :
    dict.mapEntries f = dict.mapEntries g := by
  apply ext_entries
  exact List.map_congr_left fun entry hentry => Prod.ext rfl (h entry hentry)

theorem length_keys (dict : Dict κ ν) : dict.keys.length = dict.size := List.length_map _

section Lookup

variable [DecidableEq κ]

def get? (dict : Dict κ ν) (key : κ) : Option ν :=
  (dict.entries.find? fun entry => entry.1 = key).map Prod.snd

def contains (dict : Dict κ ν) (key : κ) : Bool := decide (key ∈ dict.keys)

@[simp] theorem get?_empty (key : κ) : (∅ : Dict κ ν).get? key = none := rfl

theorem get?_eq_some {dict : Dict κ ν} {key : κ} {value : ν} :
    dict.get? key = some value ↔ (key, value) ∈ dict.entries := by
  unfold get?
  constructor
  · intro h
    obtain ⟨entry, hfind, hvalue⟩ := Option.map_eq_some_iff.mp h
    have hkey : entry.1 = key := by simpa using List.find?_some hfind
    have hmem := List.mem_of_find?_eq_some hfind
    rw [← hkey, ← hvalue]
    exact hmem
  · intro h
    cases hfind : dict.entries.find? fun entry => entry.1 = key with
    | none => simpa using List.find?_eq_none.mp hfind _ h
    | some entry =>
      have hkey : entry.1 = key := by simpa using List.find?_some hfind
      have hmem : (key, entry.2) ∈ dict.entries := by
        rw [← hkey]
        exact List.mem_of_find?_eq_some hfind
      rw [Option.map_some, value_unique hmem h]

theorem get?_eq_none {dict : Dict κ ν} {key : κ} :
    dict.get? key = none ↔ key ∉ dict.keys := by
  rw [mem_keys, Option.eq_none_iff_forall_ne_some]
  simp [get?_eq_some]

theorem isSome_get?_iff {dict : Dict κ ν} {key : κ} : (dict.get? key).isSome = true ↔ key ∈ dict.keys := by
  rw [← Option.ne_none_iff_isSome, ne_eq, get?_eq_none, not_not]

theorem get?_mapValues {μ : Type} (dict : Dict κ ν) (f : ν → μ) (key : κ) :
    (dict.mapValues f).get? key = (dict.get? key).map f := by
  apply Option.ext
  intro value
  simp [get?_eq_some, mem_entries_mapValues]

theorem get?_mapEntries {μ : Type} (dict : Dict κ ν) (f : κ → ν → μ) (key : κ) :
    (dict.mapEntries f).get? key = (dict.get? key).map (f key) := by
  apply Option.ext
  intro value
  rw [get?_eq_some, Option.map_eq_some_iff, mapEntries, List.mem_map]
  constructor
  · rintro ⟨entry, hentry, hsame⟩
    obtain ⟨rfl, rfl⟩ := Prod.mk.inj hsame
    exact ⟨entry.2, get?_eq_some.mpr hentry, rfl⟩
  · rintro ⟨old, hold, rfl⟩
    exact ⟨(key, old), get?_eq_some.mp hold, rfl⟩

omit [DecidableEq κ] in
theorem values_mapValues {μ : Type} (dict : Dict κ ν) (f : ν → μ) :
    (dict.mapValues f).values = dict.values.map f := by
  simp [values, mapValues]

theorem mem_keys_of_get? {dict : Dict κ ν} {key : κ} {value : ν}
    (h : dict.get? key = some value) : key ∈ dict.keys :=
  mem_keys.mpr ⟨value, get?_eq_some.mp h⟩

theorem mem_values_iff {dict : Dict κ ν} {value : ν} :
    value ∈ dict.values ↔ ∃ key, dict.get? key = some value := by
  simp [mem_values, get?_eq_some]

theorem length_filter_values_le_one {dict : Dict κ ν} {chosen : ν → Bool}
    (h : ∀ left first right second, dict.get? left = some first → dict.get? right = some second →
      chosen first → chosen second → left = right) :
    (dict.values.filter chosen).length ≤ 1 := by
  rw [values, List.filter_map, List.length_map]
  have hnodup : ((dict.entries.filter (chosen ∘ Prod.snd)).map Prod.fst).Nodup :=
    dict.nodup.sublist (List.filter_sublist.map _)
  have hmem : ∀ entry ∈ dict.entries.filter (chosen ∘ Prod.snd),
      dict.get? entry.1 = some entry.2 ∧ chosen entry.2 := by
    intro entry hentry
    obtain ⟨hentry, hchosen⟩ := List.mem_filter.mp hentry
    exact ⟨get?_eq_some.mpr hentry, hchosen⟩
  match hfound : dict.entries.filter (chosen ∘ Prod.snd) with
  | [] => simp
  | [_] => simp
  | first :: second :: rest =>
    rw [hfound] at hnodup hmem
    obtain ⟨hfirst, hchosen⟩ := hmem first (by simp)
    obtain ⟨hsecond, hother⟩ := hmem second (by simp)
    have heq := h _ _ _ _ hfirst hsecond hchosen hother
    simp [heq] at hnodup

private theorem mem_keys_filter {dict : Dict κ ν} {chosen : ν → Bool} {key : κ} :
    key ∈ (dict.entries.filter (chosen ∘ Prod.snd)).map Prod.fst ↔
      ∃ value, dict.get? key = some value ∧ chosen value := by
  simp [get?_eq_some]

theorem length_filter_values_le {left right : Dict κ ν} {chosen other : ν → Bool} {named : List κ}
    (h : ∀ key value, left.get? key = some value → chosen value →
      key ∈ named ∨ ∃ found, right.get? key = some found ∧ other found) :
    (left.values.filter chosen).length ≤ named.length + (right.values.filter other).length := by
  have hnodup : ((left.entries.filter (chosen ∘ Prod.snd)).map Prod.fst).Nodup :=
    left.nodup.sublist (List.filter_sublist.map _)
  have hsubset : (left.entries.filter (chosen ∘ Prod.snd)).map Prod.fst ⊆
      named ++ (right.entries.filter (other ∘ Prod.snd)).map Prod.fst := by
    intro key hkey
    obtain ⟨value, hvalue, hchosen⟩ := mem_keys_filter.mp hkey
    rw [List.mem_append, mem_keys_filter]
    exact h key value hvalue hchosen
  have hlength := (List.subperm_of_subset hnodup hsubset).length_le
  rw [List.length_append, List.length_map, List.length_map] at hlength
  rw [values, values, List.filter_map, List.filter_map, List.length_map, List.length_map]
  exact hlength

/-- `d[key] = value`: an existing key keeps its position. -/
def set (dict : Dict κ ν) (key : κ) (value : ν) : Dict κ ν where
  entries :=
    if key ∈ dict.keys then
      dict.entries.map fun entry => if entry.1 = key then (key, value) else entry
    else dict.entries ++ [(key, value)]
  nodup := by
    split
    · have hkeys : (dict.entries.map fun entry =>
          if entry.1 = key then (key, value) else entry).map Prod.fst =
          dict.entries.map Prod.fst := by
        rw [List.map_map]
        apply List.map_congr_left
        intro entry _
        by_cases h : entry.1 = key <;> simp [h]
      rw [hkeys]
      exact dict.nodup
    · rename_i h
      rw [List.map_append, List.nodup_append]
      refine ⟨dict.nodup, List.nodup_singleton _, ?_⟩
      intro left hleft right hright heq
      simp only [List.map_cons, List.map_nil, List.mem_singleton] at hright
      exact h (by rw [← hright, ← heq]; exact hleft)

theorem values_set_new {dict : Dict κ ν} {key : κ} (value : ν) (h : dict.get? key = none) :
    (dict.set key value).values = dict.values ++ [value] := by
  have hentries : (dict.set key value).entries = dict.entries ++ [(key, value)] :=
    if_neg (get?_eq_none.mp h)
  rw [values, hentries, List.map_append]
  rfl

theorem values_set_of_get? {dict : Dict κ ν} {key : κ} {old : ν} (value : ν)
    (h : dict.get? key = some old) : ∃ before after,
      dict.values = before ++ old :: after ∧ (dict.set key value).values = before ++ value :: after := by
  obtain ⟨before, after, hsplit⟩ := List.append_of_mem (get?_eq_some.mp h)
  have hnodup := dict.nodup
  rw [hsplit, List.map_append, List.map_cons, List.nodup_append, List.nodup_cons] at hnodup
  obtain ⟨-, ⟨hafter, -⟩, hbefore⟩ := hnodup
  have hkept {entries : List (κ × ν)} (hother : key ∉ entries.map Prod.fst) :
      (entries.map fun entry => if entry.1 = key then (key, value) else entry) = entries := by
    have hsame : ∀ entry ∈ entries, (if entry.1 = key then (key, value) else entry) = id entry := by
      intro entry hentry
      apply if_neg
      intro heq
      exact hother (heq ▸ List.mem_map_of_mem hentry)
    rw [List.map_congr_left hsame, List.map_id]
  have hset : (dict.set key value).entries = before ++ (key, value) :: after := by
    have hkey : key ∈ dict.keys := mem_keys.mpr ⟨old, get?_eq_some.mp h⟩
    have hfront : key ∉ before.map Prod.fst := fun hmem => hbefore key hmem key (by simp) rfl
    have hentries : (dict.set key value).entries =
        dict.entries.map fun entry => if entry.1 = key then (key, value) else entry := if_pos hkey
    rw [hentries, hsplit, List.map_append, List.map_cons, hkept hfront, hkept hafter, if_pos rfl]
  exact ⟨before.map Prod.snd, after.map Prod.snd, by simp [values, hsplit], by simp [values, hset]⟩

theorem countP_values_set (dict : Dict κ ν) (key : κ) (value : ν) (chosen : ν → Bool) :
    (dict.set key value).values.countP chosen + ((dict.get? key).toList.countP chosen) =
      dict.values.countP chosen + [value].countP chosen := by
  cases h : dict.get? key with
  | none => rw [values_set_new value h, List.countP_append, Option.toList_none, List.countP_nil, Nat.add_zero]
  | some old =>
    obtain ⟨before, after, hvalues, hset⟩ := values_set_of_get? value h
    rw [hset, hvalues]
    simp only [List.countP_append, List.countP_cons, Option.toList_some, List.countP_nil]
    omega

theorem mem_entries_set {dict : Dict κ ν} {key : κ} {value : ν} {entry : κ × ν} :
    entry ∈ (dict.set key value).entries ↔
      entry = (key, value) ∨ entry.1 ≠ key ∧ entry ∈ dict.entries := by
  unfold set
  split
  · rename_i hkey
    obtain ⟨old, hold⟩ := mem_keys.mp hkey
    simp only [List.mem_map]
    constructor
    · rintro ⟨found, hfound, rfl⟩
      by_cases h : found.1 = key
      · simp [h]
      · simp [h, hfound]
    · rintro (rfl | ⟨hne, hmem⟩)
      · exact ⟨_, hold, by simp⟩
      · exact ⟨entry, hmem, by simp [hne]⟩
  · rename_i hkey
    simp only [List.mem_append, List.mem_singleton]
    constructor
    · rintro (hmem | rfl)
      · refine Or.inr ⟨fun h => hkey ?_, hmem⟩
        exact mem_keys.mpr ⟨entry.2, by rw [← h]; exact hmem⟩
      · exact Or.inl rfl
    · rintro (rfl | ⟨_, hmem⟩)
      · exact Or.inr rfl
      · exact Or.inl hmem

theorem get?_set (dict : Dict κ ν) (key other : κ) (value : ν) :
    (dict.set key value).get? other = if other = key then some value else dict.get? other := by
  apply Option.ext
  intro found
  rw [get?_eq_some, mem_entries_set]
  by_cases h : other = key
  · simp [h, eq_comm]
  · simp [h, get?_eq_some]

@[simp] theorem get?_set_self (dict : Dict κ ν) (key : κ) (value : ν) :
    (dict.set key value).get? key = some value := by simp [get?_set]

theorem get?_set_ne (dict : Dict κ ν) {key other : κ} (value : ν) (h : other ≠ key) :
    (dict.set key value).get? other = dict.get? other := by simp [get?_set, h]

theorem mem_keys_set {dict : Dict κ ν} {key other : κ} {value : ν} :
    other ∈ (dict.set key value).keys ↔ other = key ∨ other ∈ dict.keys := by
  rw [← not_iff_not, not_or, ← get?_eq_none, ← get?_eq_none, get?_set]
  by_cases h : other = key <;> simp [h]

theorem keys_set_ne_nil {dict : Dict κ ν} (key : κ) (value : ν) : (dict.set key value).keys ≠ [] :=
  List.ne_nil_of_mem (mem_keys_set.mpr (.inl rfl))

/-- `d.pop(key)`, with nothing to do for an absent key. -/
def erase (dict : Dict κ ν) (key : κ) : Dict κ ν where
  entries := dict.entries.filter fun entry => entry.1 ≠ key
  nodup := dict.nodup.sublist (List.filter_sublist.map _)

theorem mem_entries_erase {dict : Dict κ ν} {key : κ} {entry : κ × ν} :
    entry ∈ (dict.erase key).entries ↔ entry.1 ≠ key ∧ entry ∈ dict.entries := by
  simp [erase, and_comm]

theorem get?_erase (dict : Dict κ ν) (key other : κ) :
    (dict.erase key).get? other = if other = key then none else dict.get? other := by
  apply Option.ext
  intro found
  rw [get?_eq_some, mem_entries_erase]
  by_cases h : other = key <;> simp [h, get?_eq_some]

theorem mapEntries_erase {μ : Type} (dict : Dict κ ν) (f : κ → ν → μ) (key : κ) :
    (dict.erase key).mapEntries f = (dict.mapEntries f).erase key := by
  apply ext_entries
  simp only [mapEntries, erase, List.filter_map, Function.comp_def]

theorem erase_of_not_mem {dict : Dict κ ν} {key : κ} (h : key ∉ dict.keys) : dict.erase key = dict := by
  apply ext_entries
  apply List.filter_eq_self.mpr
  intro entry hentry
  rw [decide_eq_true_eq]
  rintro rfl
  exact h (List.mem_map_of_mem hentry)

theorem entries_set_of_mem {dict : Dict κ ν} {key : κ} (value : ν) (h : key ∈ dict.keys) :
    (dict.set key value).entries =
      dict.entries.map fun entry => if entry.1 = key then (key, value) else entry := if_pos h

theorem entries_set_of_not_mem {dict : Dict κ ν} {key : κ} (value : ν) (h : key ∉ dict.keys) :
    (dict.set key value).entries = dict.entries ++ [(key, value)] := if_neg h

theorem set_eq_self {dict : Dict κ ν} {key : κ} {value : ν} (h : dict.get? key = some value) :
    dict.set key value = dict := by
  apply ext_entries
  rw [entries_set_of_mem _ (mem_keys_of_get? h)]
  refine (List.map_congr_left ?_).trans (List.map_id _)
  intro entry hentry
  split
  · rename_i hkey
    exact Prod.ext hkey.symm (value_unique (get?_eq_some.mp h) (hkey ▸ hentry))
  · rfl

theorem mapEntries_set {μ : Type} (dict : Dict κ ν) (f : κ → ν → μ) (key : κ) (value : ν) :
    (dict.set key value).mapEntries f = (dict.mapEntries f).set key (f key value) := by
  apply ext_entries
  by_cases hkey : key ∈ dict.keys
  · have hmapped : key ∈ (dict.mapEntries f).keys := by rwa [keys_mapEntries]
    rw [entries_set_of_mem _ hmapped, entries_mapEntries, entries_mapEntries, entries_set_of_mem _ hkey,
      List.map_map, List.map_map]
    apply List.map_congr_left
    intro entry _
    by_cases hsame : entry.1 = key <;> simp [hsame]
  · have hmapped : key ∉ (dict.mapEntries f).keys := by rwa [keys_mapEntries]
    rw [entries_set_of_not_mem _ hmapped, entries_mapEntries, entries_mapEntries,
      entries_set_of_not_mem _ hkey, List.map_append]
    rfl

theorem set_set (dict : Dict κ ν) (key : κ) (old value : ν) :
    (dict.set key old).set key value = dict.set key value := by
  apply ext_entries
  rw [entries_set_of_mem _ (mem_keys_set.mpr (.inl rfl))]
  by_cases hkey : key ∈ dict.keys
  · rw [entries_set_of_mem _ hkey, entries_set_of_mem _ hkey, List.map_map]
    apply List.map_congr_left
    intro entry _
    by_cases hsame : entry.1 = key <;> simp [hsame]
  · rw [entries_set_of_not_mem _ hkey, entries_set_of_not_mem _ hkey, List.map_append]
    have hothers : (dict.entries.map fun entry => if entry.1 = key then (key, value) else entry) =
      dict.entries := by
      refine (List.map_congr_left ?_).trans (List.map_id _)
      intro entry hentry
      rw [if_neg, id]
      rintro rfl
      exact hkey (List.mem_map_of_mem hentry)
    rw [hothers]
    simp

theorem mapEntries_set_congr {μ : Type} {dict : Dict κ ν} {f g : κ → ν → μ} {key : κ} (value : μ)
    (h : ∀ entry ∈ dict.entries, entry.1 ≠ key → f entry.1 entry.2 = g entry.1 entry.2) :
    (dict.mapEntries f).set key value = (dict.mapEntries g).set key value := by
  apply ext_entries
  by_cases hkey : key ∈ dict.keys
  · rw [entries_set_of_mem _ (by rwa [keys_mapEntries]), entries_set_of_mem _ (by rwa [keys_mapEntries]),
      entries_mapEntries, entries_mapEntries, List.map_map, List.map_map]
    apply List.map_congr_left
    intro entry hentry
    by_cases hsame : entry.1 = key
    · simp [hsame]
    · simp [hsame, h entry hentry hsame]
  · have hmaps : dict.mapEntries f = dict.mapEntries g := by
      apply mapEntries_congr
      intro entry hentry
      apply h entry hentry
      rintro rfl
      exact hkey (List.mem_map_of_mem hentry)
    rw [hmaps]

/-- The entries whose value passes the test stay. -/
def filterValues (dict : Dict κ ν) (kept : ν → Bool) : Dict κ ν where
  entries := dict.entries.filter fun entry => kept entry.2
  nodup := dict.nodup.sublist (List.filter_sublist.map _)

theorem get?_filterValues (dict : Dict κ ν) (kept : ν → Bool) (key : κ) :
    (dict.filterValues kept).get? key = (dict.get? key).filter kept := by
  apply Option.ext
  intro found
  rw [get?_eq_some, Option.filter_eq_some_iff, get?_eq_some]
  simp [filterValues]

theorem size_erase_lt {dict : Dict κ ν} {key : κ} (h : key ∈ dict.keys) :
    (dict.erase key).size < dict.size := by
  obtain ⟨value, hmem⟩ := mem_keys.mp h
  apply List.length_filter_lt_length_iff_exists.mpr
  exact ⟨_, hmem, by simp⟩

/-- A dictionary comprehension: later pairs replace earlier ones. -/
def ofList (pairs : List (κ × ν)) : Dict κ ν :=
  pairs.foldl (fun dict pair => dict.set pair.1 pair.2) ∅

private theorem mem_keys_foldl_set (pairs : List (κ × ν)) (dict : Dict κ ν) (key : κ) :
    key ∈ (pairs.foldl (fun dict pair => dict.set pair.1 pair.2) dict).keys ↔
      key ∈ dict.keys ∨ key ∈ pairs.map Prod.fst := by
  induction pairs generalizing dict with
  | nil => simp
  | cons pair pairs ih =>
    rw [List.foldl_cons, ih, mem_keys_set]
    simp only [List.map_cons, List.mem_cons]
    tauto

@[simp] theorem mem_keys_ofList {pairs : List (κ × ν)} {key : κ} :
    key ∈ (ofList pairs).keys ↔ key ∈ pairs.map Prod.fst := by
  simp [ofList, mem_keys_foldl_set]

theorem isSome_get?_ofList_of_perm {left right : List (κ × ν)} (h : left.Perm right) (key : κ) :
    ((ofList left).get? key).isSome = ((ofList right).get? key).isSome := by
  rw [Bool.eq_iff_iff, isSome_get?_iff, isSome_get?_iff, mem_keys_ofList, mem_keys_ofList]
  exact (h.map Prod.fst).mem_iff

private theorem mem_entries_foldl_set (pairs : List (κ × ν)) (dict : Dict κ ν) (entry : κ × ν)
    (h : entry ∈ (pairs.foldl (fun dict pair => dict.set pair.1 pair.2) dict).entries) :
    entry ∈ dict.entries ∨ entry ∈ pairs := by
  induction pairs generalizing dict with
  | nil => exact Or.inl h
  | cons pair pairs ih =>
    rcases ih _ h with hdict | hpairs
    · rcases mem_entries_set.mp hdict with rfl | ⟨_, hold⟩
      · exact Or.inr (List.mem_cons_self ..)
      · exact Or.inl hold
    · exact Or.inr (List.mem_cons_of_mem _ hpairs)

theorem mem_of_mem_ofList {pairs : List (κ × ν)} {entry : κ × ν}
    (h : entry ∈ (ofList pairs).entries) : entry ∈ pairs := by
  simpa using mem_entries_foldl_set pairs ∅ entry h

private theorem foldl_set_entries (pairs : List (κ × ν)) (dict : Dict κ ν)
    (hnodup : (pairs.map Prod.fst).Nodup)
    (hfresh : ∀ key ∈ pairs.map Prod.fst, key ∉ dict.keys) :
    (pairs.foldl (fun dict pair => dict.set pair.1 pair.2) dict).entries =
      dict.entries ++ pairs := by
  induction pairs generalizing dict with
  | nil => simp
  | cons pair pairs ih =>
    rw [List.map_cons, List.nodup_cons] at hnodup
    have hpair : pair.1 ∉ dict.keys := hfresh _ (by simp)
    rw [List.foldl_cons, ih _ hnodup.2]
    · simp [set, hpair]
    · intro key hkey hset
      rcases mem_keys_set.mp hset with rfl | hold
      · exact hnodup.1 hkey
      · exact hfresh key (List.mem_cons_of_mem _ hkey) hold

theorem entries_ofList {pairs : List (κ × ν)} (h : (pairs.map Prod.fst).Nodup) :
    (ofList pairs).entries = pairs := by
  have happend := foldl_set_entries pairs ∅ h (by simp)
  rwa [entries_empty, List.nil_append] at happend

theorem ofList_entries (dict : Dict κ ν) : ofList dict.entries = dict := ext_entries (entries_ofList dict.nodup)

theorem get?_ofList_eq_some {pairs : List (κ × ν)} (h : (pairs.map Prod.fst).Nodup) {key : κ}
    {value : ν} : (ofList pairs).get? key = some value ↔ (key, value) ∈ pairs := by
  rw [get?_eq_some, entries_ofList h]

theorem get?_ofList_append (left right : List (κ × ν)) (key : κ) :
    (ofList (left ++ right)).get? key =
      ((ofList right).get? key).or ((ofList left).get? key) := by
  induction right using List.reverseRecOn with
  | nil =>
    have hnone : (ofList ([] : List (κ × ν))).get? key = none := get?_empty key
    rw [List.append_nil, hnone, Option.none_or]
  | append_singleton right pair ih =>
    have hset : ∀ pairs : List (κ × ν), ofList (pairs ++ [pair]) = (ofList pairs).set pair.1 pair.2 :=
      fun pairs => List.foldl_concat ..
    rw [← List.append_assoc, hset, hset, get?_set, get?_set, ih]
    split
    · rfl
    · rfl

theorem get?_ofList (pairs : List (κ × ν)) (key : κ) :
    (ofList pairs).get? key = ((pairs.filter fun pair => pair.1 = key).getLast?).map Prod.snd := by
  induction pairs using List.reverseRecOn with
  | nil => rfl
  | append_singleton pairs pair ih =>
    have hset : ofList (pairs ++ [pair]) = (ofList pairs).set pair.1 pair.2 := List.foldl_concat ..
    rw [hset, get?_set, ih, List.filter_append]
    by_cases hkey : pair.1 = key
    · simp [hkey]
    · have hother : ¬ key = pair.1 := fun h => hkey h.symm
      simp [hkey, hother]

theorem perm_entries {left right : Dict κ ν} (h : ∀ key, left.get? key = right.get? key) :
    left.entries.Perm right.entries := by
  apply (List.perm_ext_iff_of_nodup left.nodup.of_map right.nodup.of_map).mpr
  rintro ⟨key, value⟩
  rw [← get?_eq_some, ← get?_eq_some, h]

end Lookup

end Dict

end KubeOps.Foundation
