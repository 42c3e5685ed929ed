import KubeOps.Foundation.Dict

/-! Database tables: rows under a unique key that each row carries itself. -/
namespace KubeOps.Foundation

structure Table (κ ν : Type) [DecidableEq κ] (key : ν → κ) where
  stored : Dict κ ν
  keyed : ∀ found row, stored.get? found = some row → key row = found

namespace Table

variable {κ ν : Type} [DecidableEq κ] {key : ν → κ}

def empty : Table κ ν key where
  stored := ∅
  keyed := by simp

def get? (table : Table κ ν key) (found : κ) : Option ν := table.stored.get? found

def rows (table : Table κ ν key) : List ν := table.stored.values

theorem key_of_get? {table : Table κ ν key} {found : κ} {row : ν}
    (h : table.get? found = some row) : key row = found := table.keyed found row h

theorem mem_rows {table : Table κ ν key} {row : ν} :
    row ∈ table.rows ↔ table.get? (key row) = some row := by
  rw [rows, Dict.mem_values_iff]
  constructor
  · rintro ⟨found, hfound⟩
    rw [table.keyed found row hfound]
    exact hfound
  · intro h
    exact ⟨key row, h⟩

theorem mem_rows_of_get? {table : Table κ ν key} {found : κ} {row : ν}
    (h : table.get? found = some row) : row ∈ table.rows := by
  rw [mem_rows, key_of_get? h]
  exact h

theorem nodup_rows (table : Table κ ν key) : (table.rows.map key).Nodup := by
  have hkeys : table.rows.map key = table.stored.entries.map Prod.fst := by
    rw [rows, Dict.values, List.map_map]
    apply List.map_congr_left
    intro entry hentry
    exact table.keyed entry.1 entry.2 (Dict.get?_eq_some.mpr hentry)
  rw [hkeys]
  exact table.stored.nodup

def put (table : Table κ ν key) (row : ν) : Table κ ν key where
  stored := table.stored.set (key row) row
  keyed := by
    intro found other h
    rw [Dict.get?_set] at h
    split at h
    · cases h
      exact Eq.symm ‹found = key row›
    · exact table.keyed found other h

theorem get?_put (table : Table κ ν key) (row : ν) (found : κ) :
    (table.put row).get? found = if found = key row then some row else table.get? found :=
  Dict.get?_set ..

theorem mem_rows_foldl_put {table : Table κ ν key} {row : ν} {written : List ν} (h : row ∈ table.rows)
    (hother : ∀ entry ∈ written, key entry ≠ key row) : row ∈ (written.foldl put table).rows := by
  induction written generalizing table with
  | nil => exact h
  | cons entry written ih =>
    rw [List.forall_mem_cons] at hother
    apply ih _ hother.2
    rw [mem_rows, get?_put, if_neg (Ne.symm hother.1)]
    exact mem_rows.mp h

theorem rows_put_new {table : Table κ ν key} {row : ν} (h : table.get? (key row) = none) :
    (table.put row).rows = table.rows ++ [row] :=
  Dict.values_set_new row h

theorem countP_rows_put (table : Table κ ν key) (row : ν) (chosen : ν → Bool) :
    (table.put row).rows.countP chosen + (table.get? (key row)).toList.countP chosen =
      table.rows.countP chosen + [row].countP chosen :=
  Dict.countP_values_set ..

def update (table : Table κ ν key) (found : κ) (change : ν → ν)
    (hkey : ∀ row, key (change row) = key row) : Table κ ν key :=
  match hfound : table.get? found with
  | some row => {
      stored := table.stored.set found (change row)
      keyed := by
        intro other value h
        rw [Dict.get?_set] at h
        split at h
        · cases h
          rw [hkey, key_of_get? hfound, ‹other = found›]
        · exact table.keyed other value h }
  | none => table

theorem get?_update (table : Table κ ν key) (found other : κ) (change : ν → ν)
    (hkey : ∀ row, key (change row) = key row) :
    (table.update found change hkey).get? other =
      if other = found then (table.get? found).map change else table.get? other := by
  unfold update
  split
  · rename_i row hfound
    simp only [get?, Dict.get?_set]
    split
    · simp only [get?] at hfound
      simp [hfound]
    · rfl
  · rename_i hfound
    split
    · rename_i heq
      rw [heq, hfound, Option.map_none]
    · rfl

/-- The rows that pass the test stay. -/
def filter (table : Table κ ν key) (kept : ν → Bool) : Table κ ν key where
  stored := table.stored.filterValues kept
  keyed := by
    intro found row h
    rw [Dict.get?_filterValues] at h
    exact table.keyed found row (Option.filter_eq_some_iff.mp h).1

theorem get?_filter (table : Table κ ν key) (kept : ν → Bool) (found : κ) :
    (table.filter kept).get? found = (table.get? found).filter kept :=
  Dict.get?_filterValues ..

/-- `bulk_create`: nothing is written unless every key is new. -/
def bulkCreate (table : Table κ ν key) : List ν → Option (Table κ ν key)
  | [] => some table
  | row :: rest =>
    match table.get? (key row) with
    | some _ => none
    | none => (table.put row).bulkCreate rest

theorem get?_bulkCreate {table reached : Table κ ν key} {created : List ν}
    (h : table.bulkCreate created = some reached) (found : κ) (row : ν) :
    reached.get? found = some row ↔
      table.get? found = some row ∨ row ∈ created ∧ key row = found := by
  induction created generalizing table with
  | nil =>
    obtain rfl : table = reached := by simpa [bulkCreate] using h
    simp
  | cons first rest ih =>
    unfold bulkCreate at h
    split at h
    · cases h
    · rename_i hnone
      rw [ih h, get?_put, List.mem_cons]
      by_cases heq : found = key first
      · subst heq
        simp only [if_true, hnone, Option.some.injEq]
        constructor
        · rintro (rfl | ⟨hmem, hkey⟩)
          · exact .inr ⟨.inl rfl, rfl⟩
          · exact .inr ⟨.inr hmem, hkey⟩
        · rintro (hrow | ⟨rfl | hmem, hkey⟩)
          · cases hrow
          · exact .inl rfl
          · exact .inr ⟨hmem, hkey⟩
      · simp only [if_neg heq]
        constructor
        · rintro (hrow | ⟨hmem, hkey⟩)
          · exact .inl hrow
          · exact .inr ⟨.inr hmem, hkey⟩
        · rintro (hrow | ⟨rfl | hmem, hkey⟩)
          · exact .inl hrow
          · exact absurd hkey.symm heq
          · exact .inr ⟨hmem, hkey⟩

theorem exists_bulkCreate {table : Table κ ν key} {created : List ν}
    (hnew : ∀ row ∈ created, table.get? (key row) = none) (hdistinct : (created.map key).Nodup) :
    ∃ reached, table.bulkCreate created = some reached := by
  induction created generalizing table with
  | nil => exact ⟨table, rfl⟩
  | cons first rest ih =>
    rw [List.forall_mem_cons] at hnew
    rw [List.map_cons, List.nodup_cons] at hdistinct
    unfold bulkCreate
    rw [hnew.1]
    apply ih _ hdistinct.2
    intro row hrow
    rw [get?_put, if_neg]
    · exact hnew.2 row hrow
    · intro heq
      exact hdistinct.1 (heq ▸ List.mem_map_of_mem hrow)

end Table

end KubeOps.Foundation
