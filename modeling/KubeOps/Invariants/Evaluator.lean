import KubeOps.Discovery.Snapshot
import KubeOps.Models.ValueTree
import KubeOps.Models.Verification

/-! Predicates over a projected world and its relationships, and the invariants made of them. -/
namespace KubeOps.Invariants

open KubeOps.Foundation KubeOps.Models KubeOps.Discovery

/-- The dumped states of the entities that are observed. -/
abbrev World := Dict String Value

/-- `repr(value)` and `str(value)` of dumped values. -/
structure ValueTexts where
  repr : Value → String
  str : Value → String

structure PredicateResult where
  satisfied : Option Bool
  actual : Value := .null
  expected : Value := .null
  explanation : String := ""
  evidenceEntityIds : List String := []

/-- `dict.fromkeys(items)` -/
def distinct (items : List String) : List String := (Dict.ofList (items.map fun item => (item, ()))).keys

section Leaves

variable (texts : ValueTexts) (world : World)

def unobserved (entityId : String) : PredicateResult where
  satisfied := none
  explanation := s!"entity {entityId} is unobserved"

/-- `_field_compare`; the comparison is `==`, or else `!=`. -/
def fieldCompare (entityId path : String) (value : Json) (equals : Bool) : PredicateResult :=
  match world.get? entityId with
  | none => unobserved entityId
  | some entity =>
    match entity.getPath path with
    | none => {
        satisfied := none
        expected := valueOfJson value
        explanation := s!"field {path} is unobserved"
        evidenceEntityIds := [entityId] }
    | some actual =>
      let operator := if equals then "==" else "!="
      { satisfied := some (actual.pyEq (valueOfJson value) == equals)
        actual
        expected := valueOfJson value
        explanation :=
          s!"{entityId}.{path} {operator} {texts.repr (valueOfJson value)}; actual={texts.repr actual}"
        evidenceEntityIds := [entityId] }

def fieldExists (entityId path : String) (expected : Bool) : PredicateResult :=
  match world.get? entityId with
  | none => unobserved entityId
  | some entity =>
    let found := (entity.getPath path).isSome
    { satisfied := some (found == expected)
      actual := .bool found
      expected := .bool expected
      explanation := s!"{entityId}.{path} existence is {texts.str (.bool found)}"
      evidenceEntityIds := [entityId] }

/-- `_numeric_compare`; the comparison is `>=`, or else `<=`. -/
def numericCompare (entityId path : String) (value : Rat) (atLeast : Bool) : PredicateResult :=
  match world.get? entityId with
  | none => unobserved entityId
  | some entity =>
    match (entity.getPath path).bind fun actual => actual.number?.map fun number => (actual, number) with
    | none => {
        satisfied := none
        expected := .float value
        explanation := s!"numeric field {path} is unavailable"
        evidenceEntityIds := [entityId] }
    | some found =>
      let operator := if atLeast then ">=" else "<="
      { satisfied := some (if atLeast then value ≤ found.2 else found.2 ≤ value)
        actual := found.1
        expected := .float value
        explanation := s!"{entityId}.{path} {operator} {texts.str (.float value)}; actual={texts.str found.1}"
        evidenceEntityIds := [entityId] }

/-- `_fields_equal` -/
def fieldsEqual (leftId leftPath rightId rightPath : String) : PredicateResult :=
  match world.get? leftId, world.get? rightId with
  | some left, some right =>
    match left.getPath leftPath, right.getPath rightPath with
    | some leftValue, some rightValue => {
        satisfied := some (leftValue.pyEq rightValue)
        actual := .dict [("left", leftValue), ("right", rightValue)]
        expected := .str "equal"
        explanation := s!"{leftId}.{leftPath} == {rightId}.{rightPath}"
        evidenceEntityIds := [leftId, rightId] }
    | _, _ => {
        satisfied := none
        explanation := "one or both compared fields are unavailable"
        evidenceEntityIds := [leftId, rightId] }
  | _, _ => { satisfied := none, explanation := "one or both compared entities are unobserved" }

def relatedEntity (sourceId : String) (types : List String) (direction : RelationshipDirection)
    (relationship : Relationship) : Option String :=
  if types ≠ [] ∧ relationship.relationshipType ∉ types then none
  else if direction ≠ .incoming ∧ relationship.sourceId = sourceId then some relationship.targetId
  else if direction ≠ .outgoing ∧ relationship.targetId = sourceId then some relationship.sourceId
  else none

/-- Whether a target counts: without a path all do, and with one those whose value is seen. -/
def countsAsRelated (targetPath : Option String) (targetEquals : Json) (targetId : String) : Bool :=
  match targetPath.filter fun path => path ≠ "" with
  | none => true
  | some path => (((world.get? targetId).bind fun target => target.getPath path).any fun value =>
      value.pyEq (valueOfJson targetEquals))

def relatedEntities (sourceId : String) (types : List String) (direction : RelationshipDirection)
    (targetPath : Option String) (targetEquals : Json) (relationships : List Relationship) : List String :=
  sortedSet ((relationships.filterMap (relatedEntity sourceId types direction)).filter
    (countsAsRelated world targetPath targetEquals))

/-- `_related_count` -/
def relatedCount (sourceId : String) (types : List String) (direction : RelationshipDirection)
    (targetPath : Option String) (targetEquals : Json) (minimum : Nat) (relationships : List Relationship) :
    PredicateResult :=
  let unique := relatedEntities world sourceId types direction targetPath targetEquals relationships
  { satisfied := some (minimum ≤ unique.length)
    actual := .int unique.length
    expected := .int minimum
    explanation := s!"{sourceId} has {unique.length} matching related entities; minimum={minimum}"
    evidenceEntityIds := sourceId :: unique }

end Leaves

section Connectives

def evidenceOf (children : List PredicateResult) : List String :=
  distinct (children.flatMap fun child => child.evidenceEntityIds)

def allOfResult (children : List PredicateResult) : PredicateResult :=
  if children.any fun child => child.satisfied = some false then
    { satisfied := some false, explanation := "at least one required predicate is false"
      evidenceEntityIds := evidenceOf children }
  else if children.any fun child => child.satisfied = none then
    { satisfied := none, explanation := "at least one required predicate is unknown"
      evidenceEntityIds := evidenceOf children }
  else { satisfied := some true, explanation := "all required predicates are true"
         evidenceEntityIds := evidenceOf children }

def anyOfResult (children : List PredicateResult) : PredicateResult :=
  if children.any fun child => child.satisfied = some true then
    { satisfied := some true, explanation := "at least one alternative predicate is true"
      evidenceEntityIds := evidenceOf children }
  else if children.any fun child => child.satisfied = none then
    { satisfied := none, explanation := "no alternative is true and at least one is unknown"
      evidenceEntityIds := evidenceOf children }
  else { satisfied := some false, explanation := "all alternative predicates are false"
         evidenceEntityIds := evidenceOf children }

def notResult (child : PredicateResult) : PredicateResult :=
  { child with
    satisfied := child.satisfied.map fun satisfied => !satisfied
    explanation := s!"negation of: {child.explanation}" }

variable (texts : ValueTexts) (world : World) (relationships : List Relationship)

mutual

/-- `PredicateEvaluator.evaluate` -/
def evaluate : Predicate → PredicateResult
  | .fieldEquals entityId path value => fieldCompare texts world entityId path value true
  | .fieldNotEquals entityId path value => fieldCompare texts world entityId path value false
  | .fieldExists entityId path expected => fieldExists texts world entityId path expected
  | .fieldGte entityId path value => numericCompare texts world entityId path value true
  | .fieldLte entityId path value => numericCompare texts world entityId path value false
  | .fieldsEqual leftId leftPath rightId rightPath => fieldsEqual world leftId leftPath rightId rightPath
  | .relatedCountGte sourceId types direction targetPath targetEquals minimum =>
    relatedCount world sourceId types direction targetPath targetEquals minimum relationships
  | .allOf predicates => allOfResult (evaluateEach predicates)
  | .anyOf predicates => anyOfResult (evaluateEach predicates)
  | .not predicate => notResult (evaluate predicate)

def evaluateEach : List Predicate → List PredicateResult
  | [] => []
  | predicate :: rest => evaluate predicate :: evaluateEach rest

end

theorem evaluateEach_eq (predicates : List Predicate) :
    evaluateEach texts world relationships predicates = predicates.map
      (evaluate texts world relationships) := by
  induction predicates with
  | nil => rfl
  | cons predicate predicates ih => rw [evaluateEach, ih, List.map_cons]

/-- `PredicateEvaluator.evaluate(...).satisfied`, where `none` is unknown. -/
def truth (predicate : Predicate) : Option Bool := (evaluate texts world relationships predicate).satisfied

end Connectives

section Induction

@[elab_as_elim]
theorem predicate_induct {motive : Predicate → Prop}
    (fieldEquals : ∀ entityId path value, motive (.fieldEquals entityId path value))
    (fieldNotEquals : ∀ entityId path value, motive (.fieldNotEquals entityId path value))
    (fieldExists : ∀ entityId path expected, motive (.fieldExists entityId path expected))
    (fieldGte : ∀ entityId path value, motive (.fieldGte entityId path value))
    (fieldLte : ∀ entityId path value, motive (.fieldLte entityId path value))
    (fieldsEqual : ∀ leftId leftPath rightId rightPath, motive (.fieldsEqual leftId leftPath rightId rightPath))
    (relatedCountGte : ∀ sourceId types direction targetPath targetEquals minimum,
      motive (.relatedCountGte sourceId types direction targetPath targetEquals minimum))
    (allOf : ∀ predicates, (∀ predicate ∈ predicates, motive predicate) → motive (.allOf predicates))
    (anyOf : ∀ predicates, (∀ predicate ∈ predicates, motive predicate) → motive (.anyOf predicates))
    (not : ∀ predicate, motive predicate → motive (.not predicate)) (predicate : Predicate) :
    motive predicate := by
  refine @Predicate.rec motive (fun predicates => ∀ predicate ∈ predicates, motive predicate)
    fieldEquals fieldNotEquals fieldExists fieldGte fieldLte fieldsEqual relatedCountGte allOf anyOf not
      ?_ ?_ predicate
  · exact fun _ hmem => absurd hmem List.not_mem_nil
  · intro first rest hfirst hrest
    exact List.forall_mem_cons.mpr ⟨hfirst, hrest⟩

end Induction

end KubeOps.Invariants
