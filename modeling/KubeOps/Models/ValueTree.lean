import KubeOps.Models.JsonTree
import KubeOps.Models.SchemaModel

/-! Paths into dumped models, and when two dumped values are equal. -/
namespace KubeOps.Models

open KubeOps.Foundation

namespace Value

def entry? (key : String) : Value → Option Value
  | .dict entries => (entries.find? fun entry => entry.1 = key).map Prod.snd
  | _ => none

def valueAt : List String → Value → Option Value
  | [], value => some value
  | key :: keys, value => ( entry? key value).bind (valueAt keys)

/-- `get_path`; no value is the default of the call. -/
def getPath (data : Value) (path : String) : Option Value :=
  if path = "" then some data else valueAt (pathParts path) data

/-- The number a value compares as: `True == 1 == 1.0`. -/
def number? : Value → Option Rat
  | .bool value => some (if value then 1 else 0)
  | .int value => some value
  | .float value => some value
  | _ => none

mutual

/-- Python's `==`. Dictionaries and sets compare without regard to order. -/
def pyEq : Value → Value → Bool
  | .null, .null => true
  | .str left, .str right => left = right
  | .list left, .list right => pyEqItems left right
  | .dict left, .dict right => left.length = right.length && pyEqEntries left right
  | .set left, .set right => left.all (· ∈ right) && right.all (· ∈ left)
  | .model left, .model right => left.length = right.length && pyEqEntries left right
  | left, right =>
    match left.number?, right.number? with
    | some x, some y => x = y
    | _, _ => false

def pyEqItems : List Value → List Value → Bool
  | [], [] => true
  | left :: lefts, right :: rights => pyEq left right && pyEqItems lefts rights
  | _, _ => false

def pyEqEntries : List (String × Value) → List (String × Value) → Bool
  | [], _ => true
  | (key, value) :: rest, others =>
    (match others.find? fun entry => entry.1 = key with
      | some found => pyEq value found.2
      | none => false) && pyEqEntries rest others

end

theorem pyEqItems_self {items : List Value} (h : ∀ item ∈ items, item.pyEq item = true) :
    pyEqItems items items = true := by
  induction items with
  | nil => rfl
  | cons item items ih =>
    rw [List.forall_mem_cons] at h
    rw [pyEqItems, h.1, ih h.2]
    rfl

theorem pyEqEntries_of_subset {entries others : List (String × Value)} (hnodup : (others.map Prod.fst).Nodup)
    (hself : ∀ entry ∈ entries, entry.2.pyEq entry.2 = true) (hsubset : entries ⊆ others) :
    pyEqEntries entries others = true := by
  induction entries with
  | nil => rw [pyEqEntries]
  | cons first rest ih =>
    rw [List.forall_mem_cons] at hself
    rw [List.cons_subset] at hsubset
    rw [pyEqEntries, ih hself.2 hsubset.2]
    cases hfound : others.find? fun entry => entry.1 = first.1 with
    | none =>
      have hother := List.find?_eq_none.mp hfound first hsubset.1
      simp at hother
    | some found =>
      have hkey : found.1 = first.1 := by simpa using List.find?_some hfound
      rw [List.inj_on_of_nodup_map hnodup (List.mem_of_find?_eq_some hfound) hsubset.1 hkey]
      simpa using hself.1

/-- `set_path` of a dictionary, below the keys that are there or made. -/
def setAt (value : Value) : List String → List (String × Value) → List (String × Value)
  | [], entries => entries
  | [key], entries => ((Dict.ofList entries).set key value).entries
  | key :: keys, entries =>
    let child := match (Dict.ofList entries).get? key with
      | some (.dict child) => child
      | _ => []
    ((Dict.ofList entries).set key (.dict (setAt value keys child))).entries

def setPath (entries : List (String × Value)) (path : String) (value : Value) : List (String × Value) :=
  setAt value (pathParts path) entries

/-- `delete_path` of a dictionary. -/
def deleteAt : List String → List (String × Value) → List (String × Value)
  | [], entries => entries
  | [key], entries => ((Dict.ofList entries).erase key).entries
  | key :: keys, entries =>
    match (Dict.ofList entries).get? key with
    | some (.dict child) => ((Dict.ofList entries).set key (.dict (deleteAt keys child))).entries
    | _ => entries

def deletePath (entries : List (String × Value)) (path : String) : List (String × Value) :=
  deleteAt (pathParts path) entries

section Recursion

/-- The dictionary that a path goes on in, and a new one where there is none. -/
def childAt (entries : List (String × Value)) (key : String) : List (String × Value) :=
  match (Dict.ofList entries).get? key with
  | some (.dict child) => child
  | _ => []

variable {entries child : List (String × Value)} {key next : String} {keys : List String}

theorem setAt_cons (value : Value) (key next : String) (keys : List String) (entries : List (String × Value)) :
    setAt value (key :: next :: keys) entries =
      ((Dict.ofList entries).set key (.dict (setAt value (next :: keys) (childAt entries key)))).entries := rfl

theorem deleteAt_child (h : (Dict.ofList entries).get? key = some (.dict child)) :
    deleteAt (key :: next :: keys) entries =
    ((Dict.ofList entries).set key (.dict (deleteAt (next :: keys) child))).entries := by
  rw [deleteAt, h]
  simp

theorem deleteAt_stop (h : ∀ child, (Dict.ofList entries).get? key ≠ some (.dict child)) :
    deleteAt (key :: next :: keys) entries = entries := by
  rw [deleteAt]
  · split
    · rename_i child hchild
      exact absurd hchild (h child)
    · rfl
  · simp

end Recursion

end Value

end KubeOps.Models
