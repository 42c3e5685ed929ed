import KubeOps.Models.ValueTree

/-! Reading, writing and deleting under paths: what is written is read back, nothing is read where it was
deleted, and paths of which neither leads through the other do not meet. -/
namespace KubeOps.Models

open KubeOps.Foundation

/-- A dictionary with dictionaries in it: a key is in none of them twice. -/
structure NestedDict where
  entries : List (String × Value)
  wellFormed : (Value.dict entries).WellFormed

namespace Value

section Lookups

variable {entries : List (String × Value)} {key : String} {value : Value}

theorem entry?_dict (dict : Dict String Value) (key : String) :
    entry? key (.dict dict.entries) = dict.get? key := rfl

theorem wellFormedEntries_mem (h : WellFormedEntries entries) {entry : String × Value}
    (hmem : entry ∈ entries) :
    entry.2.WellFormed := by
  induction entries with
  | nil => cases hmem
  | cons first rest ih =>
    rcases List.mem_cons.mp hmem with rfl | hrest
    · exact h.1
    · exact ih h.2 hrest

theorem get?_ofList_wellFormed (h : (Value.dict entries).WellFormed) (key : String) :
    (Dict.ofList entries).get? key = entry? key (.dict entries) := by
  rw [← entry?_dict, Dict.entries_ofList h.1]

theorem WellFormed.child (h : (Value.dict entries).WellFormed)
    (hfound : (Dict.ofList entries).get? key = some value) :
    value.WellFormed :=
  wellFormedEntries_mem h.2 (Dict.mem_of_mem_ofList (Dict.get?_eq_some.mp hfound))

end Lookups

section Recursion

variable {entries child : List (String × Value)} {key next : String} {keys others : List String} {value : Value}

theorem childAt_of_get? (h : (Dict.ofList entries).get? key = some (.dict child)) :
    childAt entries key = child := by
  rw [childAt, h]

theorem childAt_of_none (h : ∀ child, (Dict.ofList entries).get? key ≠ some (.dict child)) :
    childAt entries key = [] := by
  unfold childAt
  split
  · rename_i child hchild
    exact absurd hchild (h child)
  · rfl

theorem valueAt_cons_set (dict : Dict String Value) (key other : String) (value : Value) (keys : List String) :
    valueAt (other :: keys) (.dict (dict.set key value).entries) =
      if other = key then valueAt keys value else valueAt (other :: keys) (.dict dict.entries) := by
  rw [valueAt, valueAt, entry?_dict, entry?_dict, Dict.get?_set]
  split <;> rfl

theorem valueAt_scalar (h : ∀ child, value ≠ .dict child) : valueAt (key :: keys) value = none := by
  cases value with
  | dict child => exact absurd rfl (h child)
  | _ => rfl

theorem valueAt_setAt (value : Value) (key : String) (keys : List String) (entries : List (String × Value)) :
    valueAt (key :: keys) (.dict (setAt value (key :: keys) entries)) = some value := by
  induction keys generalizing key entries with
  | nil => rw [setAt, valueAt_cons_set, if_pos rfl, valueAt]
  | cons next keys ih => rw [setAt_cons, valueAt_cons_set, if_pos rfl, ih]

theorem setAt_setAt (value later : Value) (keys : List String) (entries : List (String × Value)) :
    setAt later keys (setAt value keys entries) = setAt later keys entries := by
  induction keys generalizing entries with
  | nil => simp only [setAt]
  | cons key keys ih =>
    cases keys with
    | nil => simp only [setAt, Dict.ofList_entries, Dict.set_set]
    | cons next keys =>
      have hchild : childAt (setAt value (key :: next :: keys) entries) key =
          setAt value (next :: keys) (childAt entries key) := by
        rw [setAt_cons]
        apply childAt_of_get?
        rw [Dict.ofList_entries, Dict.get?_set_self]
      rw [setAt_cons, hchild, ih, setAt_cons, setAt_cons, Dict.ofList_entries, Dict.set_set]

theorem valueAt_deleteAt (h : (Value.dict entries).WellFormed) (key : String) (keys : List String) :
    valueAt (key :: keys) (.dict (deleteAt (key :: keys) entries)) = none := by
  induction keys generalizing key entries with
  | nil =>
    rw [deleteAt, valueAt, entry?_dict, Dict.get?_erase, if_pos rfl]
    rfl
  | cons next keys ih =>
    by_cases hchild : ∃ child, (Dict.ofList entries).get? key = some (.dict child)
    · obtain ⟨child, hchild⟩ := hchild
      rw [deleteAt_child hchild, valueAt_cons_set, if_pos rfl]
      exact ih (h.child hchild) next
    · rw [not_exists] at hchild
      rw [deleteAt_stop hchild, valueAt, ← get?_ofList_wellFormed h]
      cases hfound : (Dict.ofList entries).get? key with
      | none => rfl
      | some found => exact valueAt_scalar fun child hsame => hchild child (hsame ▸ hfound)

theorem valueAt_set_apart {dict : Dict String Value} {below : Value} (hsub : ∀ rest, others = key :: rest →
    valueAt rest below = (dict.get? key).bind (valueAt rest)) (hothers : others ≠ []) :
    valueAt others (.dict (dict.set key below).entries) = valueAt others (.dict dict.entries) := by
  obtain ⟨other, rest, rfl⟩ := List.exists_cons_of_ne_nil hothers
  rw [valueAt_cons_set]
  split
  · rename_i hsame
    rw [hsame, valueAt, entry?_dict]
    exact hsub rest (hsame ▸ rfl)
  · rfl

/-- Neither path leads through the other. -/
def Apart (keys others : List String) : Prop := ¬ keys <+: others ∧ ¬ others <+: keys

theorem Apart.ne_nil (h : Apart keys others) : others ≠ [] := by
  rintro rfl
  exact h.2 List.nil_prefix

theorem Apart.tail {rest : List String} (h : Apart (key :: keys) (key :: rest)) : Apart keys rest := by
  unfold Apart at h
  rwa [List.prefix_cons_inj, List.prefix_cons_inj] at h

theorem valueAt_setAt_apart (h : (Value.dict entries).WellFormed) (hapart : Apart keys others) :
    valueAt others (.dict (setAt value keys entries)) = valueAt others (.dict entries) := by
  induction keys generalizing entries others with
  | nil => exact absurd List.nil_prefix hapart.1
  | cons key keys ih =>
    have hentries : (Dict.ofList entries).entries = entries := Dict.entries_ofList h.1
    cases keys with
    | nil =>
      rw [setAt, valueAt_set_apart _ hapart.ne_nil, hentries]
      rintro rest rfl
      exact absurd List.nil_prefix hapart.tail.1
    | cons next keys =>
      rw [setAt_cons, valueAt_set_apart _ hapart.ne_nil, hentries]
      rintro rest rfl
      by_cases hchild : ∃ child, (Dict.ofList entries).get? key = some (.dict child)
      · obtain ⟨child, hchild⟩ := hchild
        rw [childAt_of_get? hchild, hchild, ih (h.child hchild) hapart.tail]
        rfl
      · -- a new dictionary has as little in it as what was there, if anything
        rw [not_exists] at hchild
        obtain ⟨other, rest, rfl⟩ := List.exists_cons_of_ne_nil hapart.tail.ne_nil
        have hempty : (Value.dict []).WellFormed := ⟨List.nodup_nil, trivial⟩
        rw [childAt_of_none hchild, ih hempty hapart.tail]
        cases hfound : (Dict.ofList entries).get? key with
        | none => rfl
        | some found => exact (valueAt_scalar fun child hsame => hchild child (hsame ▸ hfound)).symm

theorem valueAt_deleteAt_apart (h : (Value.dict entries).WellFormed) (hapart : Apart keys others) :
    valueAt others (.dict (deleteAt keys entries)) = valueAt others (.dict entries) := by
  induction keys generalizing entries others with
  | nil => exact absurd List.nil_prefix hapart.1
  | cons key keys ih =>
    have hentries : (Dict.ofList entries).entries = entries := Dict.entries_ofList h.1
    cases keys with
    | nil =>
      obtain ⟨other, rest, rfl⟩ := List.exists_cons_of_ne_nil hapart.ne_nil
      have hne : other ≠ key := by
        rintro rfl
        exact absurd List.nil_prefix hapart.tail.1
      rw [deleteAt, valueAt, valueAt, entry?_dict, Dict.get?_erase, if_neg hne, ← entry?_dict, hentries]
    | cons next keys =>
      by_cases hchild : ∃ child, (Dict.ofList entries).get? key = some (.dict child)
      · obtain ⟨child, hchild⟩ := hchild
        rw [deleteAt_child hchild, valueAt_set_apart _ hapart.ne_nil, hentries]
        rintro rest rfl
        rw [hchild, ih (h.child hchild) hapart.tail]
        rfl
      · rw [not_exists] at hchild
        rw [deleteAt_stop hchild]

end Recursion

section Loops

/-- The locals of `set_path` and `delete_path`: what the caller has, the copy of it, and the keys under
which `current` stands in the copy. -/
structure PathState where
  data : List (String × Value)
  result : List (String × Value)
  cursor : List String

/-- A change to the dictionary that stands under the keys. -/
def editAt (edit : List (String × Value) → List (String × Value)) :
    List String → List (String × Value) → List (String × Value)
  | [], entries => edit entries
  | key :: keys, entries =>
    match (Dict.ofList entries).get? key with
    | some (.dict child) => ((Dict.ofList entries).set key (.dict (editAt edit keys child))).entries
    | _ => entries

/-- The dictionary that stands under the keys. -/
def currentAt : List String → List (String × Value) → List (String × Value)
  | [], entries => entries
  | key :: keys, entries => currentAt keys (childAt entries key)

namespace PathState

/-- `current.get(part)` -/
def child (state : PathState) (part : String) : Option Value :=
  (Dict.ofList (currentAt state.cursor state.result)).get? part

/-- `current[part] = value` -/
def assign (state : PathState) (part : String) (value : Value) : PathState :=
  { state with
    result := editAt (fun current => ((Dict.ofList current).set part value).entries) state.cursor state.result }

/-- `current.pop(part, None)` -/
def pop (state : PathState) (part : String) : PathState :=
  { state with
    result := editAt (fun current => ((Dict.ofList current).erase part).entries) state.cursor state.result }

/-- `current = child` -/
def enter (state : PathState) (part : String) : PathState := { state with cursor := state.cursor ++ [part] }

/-- The loop of `set_path`, and the assignment after it. -/
def setLoop (value : Value) : List String → PathState → PathState
  | [], state => state
  | [part], state => state.assign part value
  | part :: parts, state =>
    match state.child part with
    | some (.dict _) => setLoop value parts (state.enter part)
    | _ => setLoop value parts ((state.assign part (.dict [])).enter part)

/-- The loop of `delete_path`, which returns where there is no dictionary to go on in. -/
def deleteLoop : List String → PathState → PathState
  | [], state => state
  | [part], state => state.pop part
  | part :: parts, state =>
    match state.child part with
    | some (.dict _) => deleteLoop parts (state.enter part)
    | _ => state

/-- The locals when the copy has been made. -/
def start (data : List (String × Value)) : PathState where
  data
  result := data
  cursor := []

end PathState

variable {edit later : List (String × Value) → List (String × Value)} {keys : List String} {key : String}
variable {entries : List (String × Value)} {value : Value} {state : PathState}

/-- There are dictionaries under the keys all the way. -/
def Leads : List String → List (String × Value) → Prop
  | [], _ => True
  | key :: keys, entries => ∃ child, (Dict.ofList entries).get? key = some (.dict child) ∧ Leads keys child

theorem leads_start (data : List (String × Value)) :
    Leads (PathState.start data).cursor (PathState.start data).result := trivial

theorem editAt_child {child : List (String × Value)} (h : (Dict.ofList entries).get? key = some (.dict child)) :
    editAt edit (key :: keys) entries =
      ((Dict.ofList entries).set key (.dict (editAt edit keys child))).entries := by
  rw [editAt, h]

theorem editAt_congr (hleads : Leads keys entries)
    (h : edit (currentAt keys entries) = later (currentAt keys entries)) :
    editAt edit keys entries = editAt later keys entries := by
  induction keys generalizing entries with
  | nil => exact h
  | cons key keys ih =>
    obtain ⟨child, hchild, hleads⟩ := hleads
    rw [currentAt, childAt_of_get? hchild] at h
    rw [editAt_child hchild, editAt_child hchild, ih hleads h]

theorem editAt_editAt (hleads : Leads keys entries) :
    editAt later keys (editAt edit keys entries) =
      editAt (fun current => later (edit current)) keys entries := by
  induction keys generalizing entries with
  | nil => rfl
  | cons key keys ih =>
    obtain ⟨child, hchild, hleads⟩ := hleads
    have hedited : (Dict.ofList (editAt edit (key :: keys) entries)).get? key =
        some (.dict (editAt edit keys child)) := by
      rw [editAt_child hchild, Dict.ofList_entries, Dict.get?_set_self]
    rw [editAt_child hedited, editAt_child hchild, editAt_child hchild, ← ih hleads, Dict.ofList_entries,
      Dict.set_set]

theorem editAt_concat (hleads : Leads keys entries) {part : String} {child : List (String × Value)}
    (hchild : (Dict.ofList (currentAt keys entries)).get? part = some (.dict child)) :
    editAt edit (keys ++ [part]) entries = editAt (fun current =>
      ((Dict.ofList current).set part (.dict (edit child))).entries) keys entries := by
  induction keys generalizing entries with
  | nil => exact editAt_child hchild
  | cons key keys ih =>
    obtain ⟨below, hbelow, hleads⟩ := hleads
    rw [currentAt, childAt_of_get? hbelow] at hchild
    rw [List.cons_append, editAt_child hbelow, editAt_child hbelow, ih hleads hchild]

theorem leads_editAt (hleads : Leads keys entries) : Leads keys (editAt edit keys entries) ∧
    currentAt keys (editAt edit keys entries) = edit (currentAt keys entries) := by
  induction keys generalizing entries with
  | nil => exact ⟨trivial, rfl⟩
  | cons key keys ih =>
    obtain ⟨child, hchild, hleads⟩ := hleads
    have hedited : (Dict.ofList (editAt edit (key :: keys) entries)).get? key =
        some (.dict (editAt edit keys child)) := by
      rw [editAt_child hchild, Dict.ofList_entries, Dict.get?_set_self]
    refine ⟨⟨_, hedited, (ih hleads).1⟩, ?_⟩
    rw [currentAt, currentAt, childAt_of_get? hedited, childAt_of_get? hchild, (ih hleads).2]

theorem leads_concat (hleads : Leads keys entries) {part : String} {child : List (String × Value)}
    (hchild : (Dict.ofList (currentAt keys entries)).get? part = some (.dict child)) :
    Leads (keys ++ [part]) entries := by
  induction keys generalizing entries with
  | nil => exact ⟨child, hchild, trivial⟩
  | cons key keys ih =>
    obtain ⟨below, hbelow, hleads⟩ := hleads
    rw [currentAt, childAt_of_get? hbelow] at hchild
    exact ⟨below, hbelow, ih hleads hchild⟩

theorem editAt_same (h : (Value.dict entries).WellFormed) (hleads : Leads keys entries)
    (hsame : edit (currentAt keys entries) = currentAt keys entries) : editAt edit keys entries = entries := by
  induction keys generalizing entries with
  | nil => exact hsame
  | cons key keys ih =>
    obtain ⟨child, hchild, hleads⟩ := hleads
    rw [currentAt, childAt_of_get? hchild] at hsame
    rw [editAt_child hchild, ih (h.child hchild) hleads hsame, Dict.set_eq_self hchild, Dict.entries_ofList h.1]

namespace PathState

theorem setLoop_eq (hleads : Leads state.cursor state.result) (part : String) (parts : List String) :
    (setLoop value (part :: parts) state).result =
      editAt (setAt value (part :: parts)) state.cursor state.result ∧
      (setLoop value (part :: parts) state).data = state.data := by
  induction parts generalizing part state with
  | nil => exact ⟨rfl, rfl⟩
  | cons next parts ih =>
    by_cases hchild : ∃ child, state.child part = some (.dict child)
    · obtain ⟨child, hchild⟩ := hchild
      have hturn : setLoop value (part :: next :: parts) state =
        setLoop value (next :: parts) (state.enter part) := by
        rw [setLoop, hchild]
        simp
      have hentered : Leads (state.enter part).cursor (state.enter part).result := leads_concat hleads hchild
      obtain ⟨hresult, hdata⟩ := ih hentered next
      rw [hturn]
      refine ⟨hresult.trans ?_, hdata⟩
      show editAt _ (state.cursor ++ [part]) state.result = _
      rw [editAt_concat hleads hchild]
      apply editAt_congr hleads
      rw [setAt_cons, childAt_of_get? hchild]
    · rw [not_exists] at hchild
      have hturn : setLoop value (part :: next :: parts) state =
          setLoop value (next :: parts) ((state.assign part (.dict [])).enter part) := by
        rw [setLoop]
        · split
          · rename_i child hfound
            exact absurd hfound (hchild child)
          · rfl
        · simp
      obtain ⟨hassigned, hcurrent⟩ : Leads state.cursor (state.assign part (.dict [])).result ∧
          currentAt state.cursor (state.assign part (.dict [])).result =
            ((Dict.ofList (currentAt state.cursor state.result)).set part (.dict [])).entries :=
        leads_editAt hleads
      have hmade : (Dict.ofList (currentAt state.cursor (state.assign part (.dict [])).result)).get? part =
          some (.dict []) := by
        rw [hcurrent, Dict.ofList_entries, Dict.get?_set_self]
      have hentered : Leads ((state.assign part (.dict [])).enter part).cursor
          ((state.assign part (.dict [])).enter part).result := leads_concat hassigned hmade
      obtain ⟨hresult, hdata⟩ := ih hentered next
      rw [hturn]
      refine ⟨hresult.trans ?_, hdata⟩
      show editAt _ (state.cursor ++ [part]) (state.assign part (.dict [])).result = _
      rw [editAt_concat hassigned hmade]
      show editAt _ state.cursor (editAt _ state.cursor state.result) = _
      rw [editAt_editAt hleads]
      apply editAt_congr hleads
      rw [setAt_cons, childAt_of_none hchild, Dict.ofList_entries, Dict.set_set]

theorem deleteLoop_eq (h : (Value.dict state.result).WellFormed) (hleads : Leads state.cursor state.result)
    (part : String) (parts : List String) :
    (deleteLoop (part :: parts) state).result = editAt (deleteAt (part :: parts)) state.cursor state.result ∧
      (deleteLoop (part :: parts) state).data = state.data := by
  induction parts generalizing part state with
  | nil => exact ⟨rfl, rfl⟩
  | cons next parts ih =>
    by_cases hchild : ∃ child, state.child part = some (.dict child)
    · obtain ⟨child, hchild⟩ := hchild
      have hturn : deleteLoop (part :: next :: parts) state =
        deleteLoop (next :: parts) (state.enter part) := by
        rw [deleteLoop, hchild]
        simp
      have hentered : Leads (state.enter part).cursor (state.enter part).result := leads_concat hleads hchild
      obtain ⟨hresult, hdata⟩ := @ih (state.enter part) h hentered next
      rw [hturn]
      refine ⟨hresult.trans ?_, hdata⟩
      show editAt _ (state.cursor ++ [part]) state.result = _
      rw [editAt_concat hleads hchild]
      apply editAt_congr hleads
      rw [deleteAt_child hchild]
    · rw [not_exists] at hchild
      have hturn : deleteLoop (part :: next :: parts) state = state := by
        rw [deleteLoop]
        · split
          · rename_i child hfound
            exact absurd hfound (hchild child)
          · rfl
        · simp
      rw [hturn]
      exact ⟨(editAt_same h hleads (deleteAt_stop hchild)).symm, rfl⟩

end PathState

end Loops

section Laws

variable (python : Python)

/-- What `get_path` does where nothing is found. -/
def missing (path : String) : Option Value → Except PyError Value
  | some default => .ok default
  | none => .error (.keyError (python.repr (.str path)))

/-- `get_path`, with a default or without. -/
def getPathOr (data : Value) (path : String) (default : Option Value) : Except PyError Value :=
  match data.getPath path with
  | some value => .ok value
  | none => missing python path default

/-- `set_path`, with the locals as it leaves them. -/
def runSetPath (data : List (String × Value)) (path : String) (value : Value) : PathState :=
  PathState.setLoop value (pathParts path) (PathState.start data)

/-- `delete_path` -/
def runDeletePath (data : List (String × Value)) (path : String) : PathState :=
  PathState.deleteLoop (pathParts path) (PathState.start data)

theorem runSetPath_eq (data : List (String × Value)) (path : String) (value : Value) :
    (runSetPath data path value).result = setPath data path value ∧
      (runSetPath data path value).data = data := by
  obtain ⟨part, parts, hparts⟩ := List.exists_cons_of_ne_nil (pathParts_ne_nil path)
  rw [runSetPath, setPath, hparts]
  exact PathState.setLoop_eq (leads_start data) part parts

theorem runDeletePath_eq {data : List (String × Value)} (h : (Value.dict data).WellFormed) (path : String) :
    (runDeletePath data path).result = deletePath data path ∧ (runDeletePath data path).data = data := by
  obtain ⟨part, parts, hparts⟩ := List.exists_cons_of_ne_nil (pathParts_ne_nil path)
  rw [runDeletePath, deletePath, hparts]
  exact PathState.deleteLoop_eq h (leads_start data) part parts

def pathsApart (path other : String) : Bool :=
  !(pathParts path).isPrefixOf (pathParts other) && !(pathParts other).isPrefixOf (pathParts path)

theorem pathsApart_iff {path other : String} : pathsApart path other = true ↔
    Apart (pathParts path) (pathParts other) := by
  simp [pathsApart, Apart, ← List.isPrefixOf_iff_prefix]

variable {path other : String} {default : Option Value}

theorem getPathOr_congr {one two : Value} (hpath : path ≠ "")
    (h : valueAt (pathParts path) one = valueAt (pathParts path) two) :
    getPathOr python one path default = getPathOr python two path default := by
  rw [getPathOr, getPathOr, getPath, getPath, if_neg hpath, if_neg hpath, h]

/-- The laws of the paths of a dictionary; what the caller passed stays as it is. -/
structure PathLaws (data : NestedDict) (path other : String) (value later : Value)
    (default : Option Value) : Prop where
  written : getPathOr python (.dict (runSetPath data.entries path value).result) path default = .ok value
  overwritten : (runSetPath (runSetPath data.entries path value).result path later).result =
    (runSetPath data.entries path later).result
  deleted : getPathOr python (.dict (runDeletePath data.entries path).result) path default =
    missing python path default
  set_apart : pathsApart path other = true →
    getPathOr python (.dict (runSetPath data.entries path value).result) other default =
    getPathOr python (.dict data.entries) other default
  delete_apart : pathsApart path other = true →
    getPathOr python (.dict (runDeletePath data.entries path).result) other default =
    getPathOr python (.dict data.entries) other default
  set_input : (runSetPath data.entries path value).data = data.entries
  delete_input : (runDeletePath data.entries path).data = data.entries

theorem path_laws (data : NestedDict) (hpath : path ≠ "") (hother : other ≠ "") (value later : Value)
    (default : Option Value) : PathLaws python data path other value later default := by
  obtain ⟨part, parts, hparts⟩ := List.exists_cons_of_ne_nil (pathParts_ne_nil path)
  obtain ⟨hset, hsetInput⟩ := runSetPath_eq data.entries path value
  obtain ⟨hdelete, hdeleteInput⟩ := runDeletePath_eq data.wellFormed path
  constructor
  case written =>
    rw [hset, getPathOr, getPath, if_neg hpath, setPath, hparts, valueAt_setAt]
  case overwritten =>
    rw [(runSetPath_eq _ path later).1, (runSetPath_eq _ path later).1, hset]
    exact setAt_setAt ..
  case deleted =>
    rw [hdelete, getPathOr, getPath, if_neg hpath, deletePath, hparts, valueAt_deleteAt data.wellFormed]
  case set_apart =>
    intro hapart
    rw [hset]
    exact getPathOr_congr python hother (valueAt_setAt_apart data.wellFormed (pathsApart_iff.mp hapart))
  case delete_apart =>
    intro hapart
    rw [hdelete]
    exact getPathOr_congr python hother (valueAt_deleteAt_apart data.wellFormed (pathsApart_iff.mp hapart))
  case set_input => exact hsetInput
  case delete_input => exact hdeleteInput

def deploymentState : NestedDict where
  entries := [("spec", .dict [("replicas", .int 2)]), ("status", .str "ready")]
  wellFormed := by simp [WellFormed, WellFormedEntries]

/-- Pausing it leaves the replicas as they are. -/
theorem deploymentState_paused :
    getPathOr Python.plain (.dict (runSetPath deploymentState.entries "spec.paused" (.bool true)).result)
      "spec.replicas" none = .ok (.int 2) := by
  have hlaws : PathLaws Python.plain deploymentState "spec.paused" "spec.replicas" (.bool true)
    (.bool false) none :=
    path_laws Python.plain deploymentState (by decide) (by decide) _ _ _
  exact (hlaws.set_apart (by decide)).trans rfl

end Laws

end Value

end KubeOps.Models
