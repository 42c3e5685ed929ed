import KubeOps.Invariants.Evaluator

/-! What is known about a predicate when more entities are observed: a definite verdict stays,
unless a count of related entities that was too small becomes large enough. -/
namespace KubeOps.Invariants

open KubeOps.Foundation KubeOps.Models KubeOps.Discovery

section Parts

mutual

def parts : Predicate → List Predicate
  | .allOf predicates => .allOf predicates :: partsOfEach predicates
  | .anyOf predicates => .anyOf predicates :: partsOfEach predicates
  | .not predicate => .not predicate :: parts predicate
  | leaf => [leaf]

def partsOfEach : List Predicate → List Predicate
  | [] => []
  | predicate :: rest => parts predicate ++ partsOfEach rest

end

variable {predicate part : Predicate} {predicates : List Predicate}

theorem self_mem_parts (predicate : Predicate) : predicate ∈ parts predicate := by
  cases predicate <;> exact List.mem_cons_self

theorem mem_partsOfEach : part ∈ partsOfEach predicates ↔ ∃ predicate ∈ predicates, part ∈ parts predicate := by
  induction predicates with
  | nil => simp [partsOfEach]
  | cons first rest ih => simp [partsOfEach, ih]

end Parts

section Leaves

variable {texts : ValueTexts} {world : World}

theorem satisfied_fieldCompare (entityId path : String) (value : Json) (equals : Bool) :
    (fieldCompare texts world entityId path value equals).satisfied =
      ((world.get? entityId).bind fun state => state.getPath path).map fun actual =>
        actual.pyEq (valueOfJson value) == equals := by
  unfold fieldCompare
  cases world.get? entityId with
  | none => rfl
  | some state =>
    dsimp only [Option.bind_some]
    cases state.getPath path <;> rfl

theorem satisfied_fieldExists (entityId path : String) (expected : Bool) :
    (fieldExists texts world entityId path expected).satisfied =
      (world.get? entityId).map fun state => (state.getPath path).isSome == expected := by
  unfold fieldExists
  cases world.get? entityId <;> rfl

theorem satisfied_numericCompare (entityId path : String) (value : Rat) (atLeast : Bool) :
    (numericCompare texts world entityId path value atLeast).satisfied =
      (((world.get? entityId).bind fun state => state.getPath path).bind Value.number?).map fun number =>
        if atLeast then decide (value ≤ number) else decide (number ≤ value) := by
  unfold numericCompare
  cases world.get? entityId with
  | none => rfl
  | some state =>
    dsimp only [Option.bind_some]
    cases state.getPath path with
    | none => rfl
    | some actual =>
      dsimp only [Option.bind_some]
      cases actual.number? with
      | none => rfl
      | some number => cases atLeast <;> rfl

theorem satisfied_fieldsEqual (leftId leftPath rightId rightPath : String) :
    (fieldsEqual world leftId leftPath rightId rightPath).satisfied =
      ((world.get? leftId).bind fun left => left.getPath leftPath).bind fun leftValue =>
        ((world.get? rightId).bind fun right => right.getPath rightPath).map fun rightValue =>
          leftValue.pyEq rightValue := by
  unfold fieldsEqual
  cases world.get? leftId with
  | none => rfl
  | some left =>
    cases world.get? rightId with
    | none =>
      dsimp only [Option.bind_some]
      cases left.getPath leftPath <;> rfl
    | some right =>
      dsimp only [Option.bind_some]
      cases left.getPath leftPath with
      | none => rfl
      | some leftValue => cases right.getPath rightPath <;> rfl

end Leaves

section Verdicts

def combined (decisive : Bool) (verdicts : List (Option Bool)) : Option Bool :=
  if some decisive ∈ verdicts then some decisive else if none ∈ verdicts then none else some !decisive

theorem combined_eq_decisive {decisive : Bool} {verdicts : List (Option Bool)} :
    combined decisive verdicts = some decisive ↔ some decisive ∈ verdicts := by
  unfold combined
  by_cases hdecisive : some decisive ∈ verdicts
  · simp [hdecisive]
  · by_cases hnone : none ∈ verdicts <;> simp [hdecisive, hnone]

theorem combined_eq_other {decisive : Bool} {verdicts : List (Option Bool)} :
    combined decisive verdicts = some (!decisive) ↔ ∀ verdict ∈ verdicts, verdict = some !decisive := by
  unfold combined
  constructor
  · intro h verdict hverdict
    by_cases hdecisive : some decisive ∈ verdicts
    · rw [if_pos hdecisive] at h
      simp at h
    · rw [if_neg hdecisive] at h
      by_cases hnone : none ∈ verdicts
      · rw [if_pos hnone] at h
        cases h
      · cases verdict with
        | none => exact absurd hverdict hnone
        | some value =>
          have hvalue : value ≠ decisive := fun hsame => hdecisive (hsame ▸ hverdict)
          rw [Bool.eq_not_of_ne hvalue]
  · intro h
    have hdecisive : some decisive ∉ verdicts := fun hmem => by simpa using h _ hmem
    have hnone : none ∉ verdicts := fun hmem => by simpa using h _ hmem
    rw [if_neg hdecisive, if_neg hnone]

variable {texts : ValueTexts} {world : World} {relationships : List Relationship} {predicates : List Predicate}
variable {predicate : Predicate}

theorem any_satisfied_iff {children : List PredicateResult} {verdict : Option Bool} :
    (children.any fun child => child.satisfied = verdict) = true ↔
      verdict ∈ children.map PredicateResult.satisfied := by
  simp [List.any_eq_true, List.mem_map]

theorem satisfied_allOfResult (children : List PredicateResult) :
    (allOfResult children).satisfied = combined false (children.map PredicateResult.satisfied) := by
  unfold allOfResult combined
  simp only [any_satisfied_iff]
  split
  · rfl
  · split <;> rfl

theorem satisfied_anyOfResult (children : List PredicateResult) :
    (anyOfResult children).satisfied = combined true (children.map PredicateResult.satisfied) := by
  unfold anyOfResult combined
  simp only [any_satisfied_iff]
  split
  · rfl
  · split <;> rfl

variable (texts world relationships) in
theorem truth_allOf (predicates : List Predicate) : truth texts world relationships (.allOf predicates) =
    combined false (predicates.map (truth texts world relationships)) := by
  rw [truth, evaluate, evaluateEach_eq, satisfied_allOfResult, List.map_map]
  rfl

variable (texts world relationships) in
theorem truth_anyOf (predicates : List Predicate) : truth texts world relationships (.anyOf predicates) =
    combined true (predicates.map (truth texts world relationships)) := by
  rw [truth, evaluate, evaluateEach_eq, satisfied_anyOfResult, List.map_map]
  rfl

variable (texts world relationships) in
theorem truth_not (predicate : Predicate) : truth texts world relationships (.not predicate) =
    (truth texts world relationships predicate).map fun verdict => !verdict := by
  rw [truth, evaluate, notResult]
  rfl

end Verdicts

section Knowledge

/-- A verdict is kept where more is known. -/
def Keeps (one two : Option Bool) : Prop := ∀ verdict, one = some verdict → two = some verdict

theorem Keeps.combined {α : Type} {f g : α → Option Bool} {items : List α} (decisive : Bool)
    (h : ∀ item ∈ items, Keeps (f item) (g item)) :
    Keeps (combined decisive (items.map f)) (combined decisive (items.map g)) := by
  intro verdict hverdict
  by_cases hdecisive : verdict = decisive
  · subst hdecisive
    rw [combined_eq_decisive, List.mem_map] at hverdict ⊢
    obtain ⟨item, hitem, hsame⟩ := hverdict
    exact ⟨item, hitem, h item hitem _ hsame⟩
  · rw [Bool.eq_not_of_ne hdecisive] at hverdict ⊢
    rw [combined_eq_other, List.forall_mem_map] at hverdict ⊢
    exact fun item hitem => h item hitem _ (hverdict item hitem)

theorem Keeps.map {one two : Option Bool} (h : Keeps one two) (f : Bool → Bool) :
    Keeps (one.map f) (two.map f) := by
  intro verdict hverdict
  obtain ⟨found, hfound, rfl⟩ := Option.map_eq_some_iff.mp hverdict
  rw [h found hfound]
  rfl

/-- The second world has the entities of the first, and others that were unobserved. -/
def Extends (one two : World) : Prop := ∀ entityId state, one.get? entityId = some state →
    two.get? entityId = some state

variable {texts : ValueTexts} {one two : World} {relationships : List Relationship}

theorem keeps_of_extends (h : Extends one two) (entityId : String) (leaf : World → PredicateResult)
    (hnone : ∀ world, world.get? entityId = none → (leaf world).satisfied = none)
    (hsame : ∀ left right, left.get? entityId = right.get? entityId → leaf left = leaf right) :
    Keeps (leaf one).satisfied (leaf two).satisfied := by
  intro verdict hverdict
  cases hstate : one.get? entityId with
  | none =>
    rw [hnone one hstate] at hverdict
    cases hverdict
  | some state =>
    rw [← hsame one two (hstate.trans (h entityId state hstate).symm)]
    exact hverdict

theorem keeps_fieldCompare (h : Extends one two) (entityId path : String) (value : Json) (equals : Bool) :
    Keeps (fieldCompare texts one entityId path value equals).satisfied
      (fieldCompare texts two entityId path value equals).satisfied := by
  apply keeps_of_extends h entityId (fun world => fieldCompare texts world entityId path value equals)
  · intro world hnone
    rw [fieldCompare, hnone]
    rfl
  · intro left right hsame
    rw [fieldCompare, fieldCompare, hsame]

theorem keeps_fieldExists (h : Extends one two) (entityId path : String) (expected : Bool) :
    Keeps (fieldExists texts one entityId path expected).satisfied
      (fieldExists texts two entityId path expected).satisfied := by
  apply keeps_of_extends h entityId (fun world => fieldExists texts world entityId path expected)
  · intro world hnone
    rw [fieldExists, hnone]
    rfl
  · intro left right hsame
    rw [fieldExists, fieldExists, hsame]

theorem keeps_numericCompare (h : Extends one two) (entityId path : String) (value : Rat) (atLeast : Bool) :
    Keeps (numericCompare texts one entityId path value atLeast).satisfied
      (numericCompare texts two entityId path value atLeast).satisfied := by
  apply keeps_of_extends h entityId (fun world => numericCompare texts world entityId path value atLeast)
  · intro world hnone
    rw [numericCompare, hnone]
    rfl
  · intro left right hsame
    rw [numericCompare, numericCompare, hsame]

theorem keeps_fieldsEqual (h : Extends one two) (leftId leftPath rightId rightPath : String) :
    Keeps (fieldsEqual one leftId leftPath rightId rightPath).satisfied
      (fieldsEqual two leftId leftPath rightId rightPath).satisfied := by
  intro verdict hverdict
  unfold fieldsEqual at hverdict ⊢
  cases hleft : one.get? leftId with
  | none =>
    rw [hleft] at hverdict
    cases hverdict
  | some left =>
    cases hright : one.get? rightId with
    | none =>
      rw [hleft, hright] at hverdict
      cases hverdict
    | some right =>
      rw [hleft, hright] at hverdict
      rw [h leftId left hleft, h rightId right hright]
      exact hverdict

end Knowledge

section Counting

variable {one two : World} {relationships : List Relationship} {sourceId : String} {types : List String}
variable {direction : RelationshipDirection} {targetPath : Option String} {targetEquals : Json} {minimum : Nat}

theorem countsAsRelated_of_extends (h : Extends one two) {targetId : String}
    (hcounts : countsAsRelated one targetPath targetEquals targetId = true) :
    countsAsRelated two targetPath targetEquals targetId = true := by
  unfold countsAsRelated at hcounts ⊢
  cases hpath : targetPath.filter fun path => path ≠ "" with
  | none => rfl
  | some path =>
    rw [hpath] at hcounts
    cases hstate : one.get? targetId with
    | none =>
      rw [hstate] at hcounts
      cases hcounts
    | some state =>
      rw [hstate] at hcounts
      rw [h targetId state hstate]
      exact hcounts

theorem length_relatedEntities_le (h : Extends one two) :
    (relatedEntities one sourceId types direction targetPath targetEquals relationships).length ≤
      (relatedEntities two sourceId types direction targetPath targetEquals relationships).length := by
  apply (List.subperm_of_subset _ _).length_le
  · exact (List.perm_insertionSort _ _).nodup_iff.mpr (List.nodup_dedup _)
  · intro targetId htarget
    rw [relatedEntities, mem_sortedSet, List.mem_filter] at htarget ⊢
    exact ⟨htarget.1, countsAsRelated_of_extends h htarget.2⟩

/-- The count is too small in the first world and large enough in the second. -/
def Turned (one two : World) (relationships : List Relationship) : Predicate → Prop
  | .relatedCountGte sourceId types direction targetPath targetEquals minimum =>
    (relatedEntities one sourceId types direction targetPath targetEquals relationships).length < minimum ∧
      minimum ≤ (relatedEntities two sourceId types direction targetPath targetEquals relationships).length
  | _ => False

theorem keeps_relatedCount_iff (h : Extends one two) :
    Keeps (relatedCount one sourceId types direction targetPath targetEquals minimum relationships).satisfied
        (relatedCount two sourceId types direction targetPath targetEquals minimum relationships).satisfied ↔
      ¬ Turned one two relationships
        (.relatedCountGte sourceId types direction targetPath targetEquals minimum) := by
  have hle : (relatedEntities one sourceId types direction targetPath targetEquals relationships).length ≤
      (relatedEntities two sourceId types direction targetPath targetEquals relationships).length :=
    length_relatedEntities_le h
  unfold Keeps Turned relatedCount
  simp only [Option.some.injEq, forall_eq', not_and, not_le]
  constructor
  · intro hkeeps hlow
    have hlow' := hkeeps.symm
    rw [decide_eq_decide] at hlow'
    omega
  · intro hturned
    rw [decide_eq_decide]
    omega

end Counting

section Monotone

variable (texts : ValueTexts) {one two : World} {relationships : List Relationship} {predicate part : Predicate}

theorem keeps_truth (h : Extends one two)
    (hparts : ∀ part ∈ parts predicate, ¬ Turned one two relationships part) :
    Keeps (truth texts one relationships predicate) (truth texts two relationships predicate) := by
  induction predicate using predicate_induct with
  | fieldEquals entityId path value => exact keeps_fieldCompare h entityId path value true
  | fieldNotEquals entityId path value => exact keeps_fieldCompare h entityId path value false
  | fieldExists entityId path expected => exact keeps_fieldExists h entityId path expected
  | fieldGte entityId path value => exact keeps_numericCompare h entityId path value true
  | fieldLte entityId path value => exact keeps_numericCompare h entityId path value false
  | fieldsEqual leftId leftPath rightId rightPath => exact keeps_fieldsEqual h leftId leftPath rightId rightPath
  | relatedCountGte sourceId types direction targetPath targetEquals minimum =>
    exact (keeps_relatedCount_iff h).mpr (hparts _ List.mem_cons_self)
  | allOf predicates ih =>
    rw [truth_allOf, truth_allOf]
    apply Keeps.combined
    intro child hchild
    apply ih child hchild
    intro part hpart
    exact hparts part (List.mem_cons_of_mem _ (mem_partsOfEach.mpr ⟨child, hchild, hpart⟩))
  | anyOf predicates ih =>
    rw [truth_anyOf, truth_anyOf]
    apply Keeps.combined
    intro child hchild
    apply ih child hchild
    intro part hpart
    exact hparts part (List.mem_cons_of_mem _ (mem_partsOfEach.mpr ⟨child, hchild, hpart⟩))
  | not child ih =>
    rw [truth_not, truth_not]
    apply Keeps.map
    apply ih
    intro part hpart
    exact hparts part (List.mem_cons_of_mem _ hpart)

theorem parts_trans (hpart : part ∈ parts predicate) : ∀ inner ∈ parts part, inner ∈ parts predicate := by
  induction predicate using predicate_induct with
  | fieldEquals _ _ _ | fieldNotEquals _ _ _ | fieldExists _ _ _ | fieldGte _ _ _ | fieldLte _ _ _
  | fieldsEqual _ _ _ _ | relatedCountGte _ _ _ _ _ _ =>
    obtain rfl := List.mem_singleton.mp hpart
    exact fun _ hinner => hinner
  | allOf predicates ih =>
    intro inner hinner
    rcases List.mem_cons.mp hpart with rfl | hpart
    · exact hinner
    · obtain ⟨child, hchild, hpart⟩ := mem_partsOfEach.mp hpart
      exact List.mem_cons_of_mem _ (mem_partsOfEach.mpr ⟨child, hchild, ih child hchild hpart inner hinner⟩)
  | anyOf predicates ih =>
    intro inner hinner
    rcases List.mem_cons.mp hpart with rfl | hpart
    · exact hinner
    · obtain ⟨child, hchild, hpart⟩ := mem_partsOfEach.mp hpart
      exact List.mem_cons_of_mem _ (mem_partsOfEach.mpr ⟨child, hchild, ih child hchild hpart inner hinner⟩)
  | not child ih =>
    intro inner hinner
    rcases List.mem_cons.mp hpart with rfl | hpart
    · exact hinner
    · exact List.mem_cons_of_mem _ (ih hpart inner hinner)

def plainTexts : ValueTexts := ⟨fun _ => "", fun _ => ""⟩

def readyPod : Value := .dict [("observed_state", .dict [("ready", .bool true)])]

def podSeen : World := Dict.ofList [("pod", readyPod)]

def podSelected : List Relationship := [⟨"selects", "service", "pod", "selects"⟩]

def hasReadyPod : Predicate :=
  .relatedCountGte "service" ["selects"] .outgoing (some "observed_state.ready") (.bool true) 1

theorem extends_empty (world : World) : Extends ∅ world := by
  intro entityId state hstate
  rw [Dict.get?_empty] at hstate
  cases hstate

end Monotone

end KubeOps.Invariants
