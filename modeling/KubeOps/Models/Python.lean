import KubeOps.Foundation.Dict
import Mathlib.Data.Rat.Defs
import Mathlib.Data.List.Dedup
import Mathlib.Data.List.Sort

/-! JSON values as Python holds them, and the few library functions the
modelled code calls on strings. Functions of the standard library whose text
output nothing depends on stay parameters. -/
namespace KubeOps.Models

open KubeOps.Foundation

/-- A finite float is kept by its value; `dict` entries follow insertion order. -/
inductive Json where
  | null
  | bool (value : Bool)
  | int (value : Int)
  | float (value : Rat)
  | str (value : String)
  | list (items : List Json)
  | dict (entries : List (String × Json))

instance : Inhabited Json := ⟨.null⟩

abbrev JsonObject := Dict String Json

/-- Whether a lookup found this text. -/
instance (found : Option Json) (text : String) : Decidable (found = some (.str text)) :=
  match found with
  | some (.str value) => decidable_of_iff (value = text) (by simp)
  | none | some .null | some (.bool _) | some (.int _) | some (.float _) | some (.list _)
  | some (.dict _) => isFalse (by simp)

namespace Json

/-- The number a value compares as: `True == 1 == 1.0`. -/
def number? : Json → Option Rat
  | .bool value => some (if value then 1 else 0)
  | .int value => some value
  | .float value => some value
  | _ => none

mutual

/-- Python's `==`. Dictionaries compare without regard to order. -/
def pyEq : Json → Json → Bool
  | .null, .null => true
  | .str left, .str right => decide (left = right)
  | .list left, .list right => pyEqList left right
  | .dict left, .dict right => decide (left.length = right.length) && pyEqEntries left right
  | left, right =>
    match left.number?, right.number? with
    | some x, some y => decide (x = y)
    | _, _ => false

def pyEqList : List Json → List Json → Bool
  | [], [] => true
  | left :: lefts, right :: rights => pyEq left right && pyEqList lefts rights
  | _, _ => false

def pyEqEntries : List (String × Json) → List (String × Json) → Bool
  | [], _ => true
  | (key, value) :: rest, others =>
    (match others.find? fun entry => entry.1 = key with
      | some found => pyEq value found.2
      | none => false) && pyEqEntries rest others

end

/-- `bool(value)` -/
def truthy : Json → Bool
  | .null => false
  | .bool value => value
  | .int value => value ≠ 0
  | .float value => value ≠ 0
  | .str value => value ≠ ""
  | .list items => ¬ items.isEmpty
  | .dict entries => ¬ entries.isEmpty

def strings (items : List String) : Json := .list (items.map .str)

mutual

/-- JSON text without blanks, for texts that need no escape. -/
def compact : Json → String
  | .null => "null"
  | .bool value => if value then "true" else "false"
  | .int value => s!"{value}"
  | .float _ => "NaN"
  | .str value => "\"" ++ value ++ "\""
  | .list items => "[" ++ String.intercalate "," (compactItems items) ++ "]"
  | .dict entries => "\x7b" ++ String.intercalate "," (compactEntries entries) ++ "\x7d"

def compactItems : List Json → List String
  | [] => []
  | item :: rest => item.compact :: compactItems rest

def compactEntries : List (String × Json) → List String
  | [] => []
  | (key, value) :: rest => ("\"" ++ key ++ "\":" ++ value.compact) :: compactEntries rest

end

/-- A dictionary with its keys in order. -/
def sorted : Json → Json
  | .dict entries => .dict (entries.insertionSort fun left right => left.1 ≤ right.1)
  | value => value

def stringItems : Json → List String
  | .list items => items.filterMap fun item =>
    match item with
    | .str text => some text
    | _ => none
  | _ => []

theorem stringItems_strings (items : List String) : (strings items).stringItems = items := by
  simp [strings, stringItems, List.filterMap_map]

/-- `value.get(key)` of a dictionary. -/
def entry? (key : String) : Json → Option Json
  | .dict entries => (entries.find? fun entry => entry.1 = key).map Prod.snd
  | _ => none

end Json

structure Datetime where
  wallMicroseconds : Int
  utcOffset : Option Int
deriving DecidableEq, Repr

/-- `expires.replace(tzinfo=utc)` when no offset is given, else the instant itself. -/
def Datetime.instant (datetime : Datetime) : Int :=
  datetime.wallMicroseconds - datetime.utcOffset.getD 0

/-- Standard-library functions. `fromIsoFormat` is `none` where
`datetime.fromisoformat` raises `ValueError`; `str` and `repr` are Python's. -/
structure Python where
  fnmatch : String → String → Bool
  fromIsoFormat : String → Option Datetime
  /-- `datetime.isoformat` of an instant in UTC. -/
  isoFormat : Int → String
  /-- `int(text)`, `none` where it raises `ValueError`. -/
  parseInt : String → Option Int
  str : Json → String
  repr : Json → String
  sha256 : String → String
  /-- `json.dumps` with sorted keys. -/
  dumps : Json → String
  str_str : ∀ value, str (.str value) = value

/-- Enough of the library to compute on plain texts: patterns without wildcards
other than a bare star, no timestamps, quotation of text without quotes in it, and
JSON of flat dictionaries. -/
def Python.plain : Python where
  fnmatch name pattern := pattern = "*" ∨ name = pattern
  fromIsoFormat _ := none
  isoFormat instant := s!"{instant}"
  parseInt text := text.toInt?
  str
    | .str value => value
    | _ => ""
  repr
    | .str value => s!"'{value}'"
    | _ => ""
  sha256 text := text
  dumps value := value.sorted.compact
  str_str _ := rfl

/-- Exceptions, by class and text. `validationError` is pydantic's, and
`diverged` marks a loop that its bound did not let finish. -/
inductive PyError where
  | valueError (message : String)
  | typeError (message : String)
  | attributeError (message : String)
  | permissionError (message : String)
  | keyError (message : String)
  | registryError (message : String)
  | overflowError (message : String)
  | timeoutExpired (message : String)
  | validationError (message : String)
  | fileNotFoundError
  | stopIteration
  | assertionError
  | integrityError
  | diverged
deriving DecidableEq, Repr

/-- `f"{type(exc).__name__}: {exc}"` -/
def PyError.describe : PyError → String
  | .valueError message => s!"ValueError: {message}"
  | .typeError message => s!"TypeError: {message}"
  | .attributeError message => s!"AttributeError: {message}"
  | .permissionError message => s!"PermissionError: {message}"
  | .keyError message => s!"KeyError: {message}"
  | .registryError message => s!"RegistryError: {message}"
  | .overflowError message => s!"OverflowError: {message}"
  | .timeoutExpired message => s!"TimeoutExpired: {message}"
  | .validationError message => s!"ValidationError: {message}"
  | .fileNotFoundError => "FileNotFoundError: "
  | .stopIteration => "StopIteration: "
  | .assertionError => "AssertionError: "
  | .integrityError => "IntegrityError: "
  | .diverged => ""

def Json.typeName : Json → String
  | .null => "NoneType"
  | .bool _ => "bool"
  | .int _ => "int"
  | .float _ => "float"
  | .str _ => "str"
  | .list _ => "list"
  | .dict _ => "dict"

/-- `int(value)`; a float is cut off towards zero. -/
def Json.toInt (python : Python) : Json → Except PyError Int
  | .bool value => .ok (if value then 1 else 0)
  | .int value => .ok value
  | .float value => .ok (value.num.tdiv value.den)
  | .str value =>
    match python.parseInt value with
    | some number => .ok number
    | none => .error (.valueError s!"invalid literal for int() with base 10: {python.repr (.str value)}")
  | value =>
      .error (.typeError
        s!"int() argument must be a string, a bytes-like object or a real number, not '{value.typeName}'")

/-- `text.replace(c, replacement)` for a pattern of one character. -/
def Text.replaceChar (text : String) (pattern : Char) (replacement : String) : String :=
  String.ofList (text.toList.flatMap fun c => if c = pattern then replacement.toList else [c])

/-- `_aware(datetime.fromisoformat(value.replace("Z", "+00:00")))` -/
def Python.parseIso (python : Python) (value : String) : Except PyError Int :=
  let value := Text.replaceChar value 'Z' "+00:00"
  match python.fromIsoFormat value with
  | some datetime => .ok datetime.instant
  | none => .error (.valueError s!"Invalid isoformat string: {python.repr (.str value)}")

namespace Text

/-- `text.split(c)[-1]` -/
def lastSegment (text : String) (separator : Char) : String :=
  String.ofList (text.toList.reverse.takeWhile (· ≠ separator)).reverse

/-- `", ".join(items)` -/
def joinComma (items : List String) : String := String.intercalate ", " items

/-- Truth of an optional string: `None` and `""` are false. -/
def truthy (text : Option String) : Bool := text.any (· ≠ "")

end Text

/-- `sorted(set(items))` -/
def sortedSet (items : List String) : List String := items.dedup.insertionSort (· ≤ ·)

theorem mem_sortedSet {items : List String} {item : String} :
    item ∈ sortedSet items ↔ item ∈ items := by
  rw [sortedSet, List.mem_insertionSort, List.mem_dedup]

theorem sortedSet_eq_nil {items : List String} : sortedSet items = [] ↔ items = [] := by
  rw [List.eq_nil_iff_forall_not_mem, List.eq_nil_iff_forall_not_mem]
  simp only [mem_sortedSet]

end KubeOps.Models
