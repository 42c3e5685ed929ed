import KubeOps.Foundation.Dict
import Mathlib.Data.List.Sort
import Mathlib.Logic.Embedding.Basic

/-! Dictionaries under other keys: what is done to a dictionary is done alike to its image under an
injection of the keys and a map of the values. -/
namespace KubeOps.Foundation

section Keys

variable {κ κ' ν μ : Type} (e : κ ↪ κ') (f : ν → μ)

def relabelEntry (entry : κ × ν) : κ' × μ := (e entry.1, f entry.2)

/-- The entries of the dictionary, each under the image of its key. -/
def Dict.relabel (dict : Dict κ ν) : Dict κ' μ where
  entries := dict.entries.map (relabelEntry e f)
  nodup := by
    have hkeys : (dict.entries.map (relabelEntry e f)).map Prod.fst = (dict.entries.map Prod.fst).map e := by
      rw [List.map_map, List.map_map]
      rfl
    rw [hkeys]
    exact dict.nodup.map e.injective

theorem Dict.entries_relabel (dict : Dict κ ν) : (dict.relabel e f).entries =
    dict.entries.map (relabelEntry e f) := rfl

@[simp] theorem Dict.relabel_empty : (∅ : Dict κ ν).relabel e f = ∅ := rfl

theorem Dict.keys_relabel (dict : Dict κ ν) : (dict.relabel e f).keys = dict.keys.map e := by
  rw [keys, keys, relabel, List.map_map, List.map_map]
  rfl

theorem Dict.mem_keys_relabel (dict : Dict κ ν) (key : κ) : e key ∈ (dict.relabel e f).keys ↔
    key ∈ dict.keys := by
  rw [keys_relabel, List.mem_map_of_injective e.injective]

variable [DecidableEq κ] [DecidableEq κ'] (dict : Dict κ ν) (key : κ) (value : ν)

theorem Dict.get?_relabel : (dict.relabel e f).get? (e key) = (dict.get? key).map f := by
  apply Option.ext
  intro found
  rw [get?_eq_some, Option.map_eq_some_iff, entries_relabel, List.mem_map]
  constructor
  · rintro ⟨entry, hentry, hsame⟩
    obtain ⟨hkey, rfl⟩ := Prod.mk.inj hsame
    obtain rfl := e.injective hkey
    exact ⟨entry.2, get?_eq_some.mpr hentry, rfl⟩
  · rintro ⟨old, hold, rfl⟩
    exact ⟨(key, old), get?_eq_some.mp hold, rfl⟩

omit f in
theorem Dict.get?_relabel_id : (dict.relabel e id).get? (e key) = dict.get? key := by
  rw [get?_relabel, Option.map_id, id]

theorem Dict.relabel_set : (dict.set key value).relabel e f = (dict.relabel e f).set (e key) (f value) := by
  apply ext_entries
  by_cases hkey : key ∈ dict.keys
  · rw [entries_set_of_mem _ ((mem_keys_relabel e f dict key).mpr hkey), entries_relabel, entries_relabel,
      entries_set_of_mem _ hkey, List.map_map, List.map_map]
    apply List.map_congr_left
    intro entry _
    by_cases hsame : entry.1 = key
    · simp [relabelEntry, hsame]
    · simp [relabelEntry, hsame]
  · rw [entries_set_of_not_mem _ fun h => hkey ((mem_keys_relabel e f dict key).mp h), entries_relabel,
      entries_relabel, entries_set_of_not_mem _ hkey, List.map_append]
    rfl

theorem Dict.relabel_erase : (dict.erase key).relabel e f = (dict.relabel e f).erase (e key) := by
  apply ext_entries
  show (dict.entries.filter _).map _ = (dict.entries.map _).filter _
  rw [List.filter_map]
  congr 1
  apply List.filter_congr
  intro entry _
  simp [relabelEntry]

theorem Dict.relabel_ofList (pairs : List (κ × ν)) :
    (ofList pairs).relabel e f = ofList (pairs.map (relabelEntry e f)) := by
  induction pairs using List.reverseRecOn with
  | nil => rfl
  | append_singleton pairs pair ih =>
    have hset : ofList (pairs ++ [pair]) = (ofList pairs).set pair.1 pair.2 := List.foldl_concat ..
    have hmapped : ofList (pairs.map (relabelEntry e f) ++ [relabelEntry e f pair]) =
        (ofList (pairs.map (relabelEntry e f))).set (e pair.1) (f pair.2) := List.foldl_concat ..
    rw [hset, relabel_set, ih, List.map_append, List.map_singleton, hmapped]

omit [DecidableEq κ'] in
theorem Dict.mapEntries_ofList (g : κ → ν → μ) (pairs : List (κ × ν)) :
    (ofList pairs).mapEntries g = ofList (pairs.map fun pair => (pair.1, g pair.1 pair.2)) := by
  induction pairs using List.reverseRecOn with
  | nil => rfl
  | append_singleton pairs pair ih =>
    have hset : ofList (pairs ++ [pair]) = (ofList pairs).set pair.1 pair.2 := List.foldl_concat ..
    have hmapped : ofList ((pairs.map fun pair => (pair.1, g pair.1 pair.2)) ++ [(pair.1, g pair.1 pair.2)]) =
        (ofList (pairs.map fun pair => (pair.1, g pair.1 pair.2))).set pair.1 (g pair.1 pair.2) :=
          List.foldl_concat ..
    rw [hset, mapEntries_set, ih, List.map_append, List.map_singleton, hmapped]

end Keys

end KubeOps.Foundation
