import KubeOps.Models.Python

/-! Version numbers and the constraints written about them. Digits are those of
ASCII. -/
namespace KubeOps.Packs

open KubeOps.Models

/-- `c.isspace()` -/
def isSpace (c : Char) : Bool :=
  let code := c.toNat
  (9 ≤ code && code ≤ 13) || (28 ≤ code && code ≤ 32) || code = 133 || code = 160 || code = 5760 ||
    (8192 ≤ code && code ≤ 8202) || code = 8232 || code = 8233 || code = 8239 || code = 8287 || code = 12288

/-- `text.strip()` -/
def strip (text : List Char) : List Char :=
  ((text.dropWhile isSpace).reverse.dropWhile isSpace).reverse

structure Version where
  major : Nat
  minor : Nat
  patch : Nat
deriving DecidableEq, Repr

namespace Version

variable (python : Python)

/-- `self < other` -/
def lt (version other : Version) : Bool :=
  version.major < other.major || version.major = other.major &&
    (version.minor < other.minor || version.minor = other.minor && version.patch < other.patch)

def le (version other : Version) : Bool := version = other || version.lt other

def number (digits : List Char) : Nat :=
  digits.foldl (fun value c => 10 * value + (c.toNat - '0'.toNat)) 0

/-- A group `(?:\.(\d+))?` of the pattern, as the number it stands for and what follows. -/
def component : List Char → Nat × List Char
  | '.' :: rest =>
    match rest.takeWhile Char.isDigit with
    | [] => (0, '.' :: rest)
    | digits => (number digits, rest.dropWhile Char.isDigit)
  | rest => (0, rest)

def parse (value : List Char) : Except PyError Version :=
  let text := strip value
  match text.takeWhile Char.isDigit with
  | [] => .error (.valueError s!"invalid semantic version {python.repr (.str (String.ofList value))}")
  | digits =>
    let minor := component (text.dropWhile Char.isDigit)
    let patch := component minor.2
    .ok ⟨number digits, minor.1, patch.1⟩

end Version

inductive Operator where
  | ge | le | eq | ne | gt | lt | compatible
deriving DecidableEq, Repr

namespace Operator

/-- The first alternative of the pattern that the clause begins with. -/
def ofClause : List Char → Option Operator × List Char
  | '>' :: '=' :: rest => (some .ge, rest)
  | '<' :: '=' :: rest => (some .le, rest)
  | '=' :: '=' :: rest => (some .eq, rest)
  | '!' :: '=' :: rest => (some .ne, rest)
  | '>' :: rest => (some .gt, rest)
  | '<' :: rest => (some .lt, rest)
  | '~' :: '=' :: rest => (some .compatible, rest)
  | clause => (none, clause)

/-- The groups of `^(>=|<=|==|!=|>|<|~=)?\s*(.+)$` in a clause without blanks around it. A
clause that is nothing but an operator gives back its last character, or all of it. -/
def groups (clause : List Char) : Option (Option Operator × List Char) :=
  let found := ofClause clause
  match found.2.dropWhile isSpace with
  | [] =>
    match clause with
    | ['>', '='] => some (some .gt, ['='])
    | ['<', '='] => some (some .lt, ['='])
    | _ => some (none, clause)
  | raw => if '\n' ∈ raw then none else some (found.1, raw)

def holds (parsed expected : Version) : Operator → Bool
  | .ge => expected.le parsed
  | .le => parsed.le expected
  | .eq => parsed = expected
  | .ne => parsed ≠ expected
  | .gt => expected.lt parsed
  | .lt => parsed.lt expected
  | .compatible =>
    let upper : Version :=
      if expected.minor = 0 then ⟨expected.major + 1, 0, 0⟩ else ⟨expected.major, expected.minor + 1, 0⟩
    expected.le parsed && parsed.lt upper

end Operator

variable (python : Python)

def satisfiesAll (parsed : Version) : List (List Char) → Except PyError Bool
  | [] => .ok true
  | text :: rest =>
    match strip text with
    | [] => satisfiesAll parsed rest
    | clause =>
      match Operator.groups clause with
      | none => .ok false
      | some (operator, raw) => do
        let expected ← Version.parse python raw
        if (operator.getD .eq).holds parsed expected then satisfiesAll parsed rest else .ok false

def satisfies (version : String) (constraint : Option String) : Except PyError Bool :=
  match constraint with
  | none => .ok true
  | some constraint =>
    if strip constraint.toList = [] ∨ strip constraint.toList = ['*'] then .ok true
    else do
      let parsed ← Version.parse python version.toList
      satisfiesAll python parsed (constraint.toList.splitOn ',')

example : satisfies Python.plain "1.0.0" (some ">=0.5.0,<2.0.0") = .ok true := by decide
example : satisfies Python.plain "1.4" (some "~=1.2.7") = .ok false := by decide

end KubeOps.Packs
