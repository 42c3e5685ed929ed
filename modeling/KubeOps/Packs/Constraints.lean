import KubeOps.Packs.Versioning
import Mathlib.Data.List.TakeWhile

/-! Constraints put together with commas: what one text of several clauses accepts when each of its
parts is accepted alone, and in any order of the clauses. -/
namespace KubeOps.Packs

open KubeOps.Models

theorem mem_strip {c : Char} {text : List Char} (hmem : c ∈ text) (hspace : isSpace c = false) :
    c ∈ strip text := by
  have hdrop : ∀ line : List Char, c ∈ line → c ∈ line.dropWhile isSpace := by
    intro line hline
    rw [← List.takeWhile_append_dropWhile (p := isSpace) (l := line), List.mem_append] at hline
    apply hline.resolve_left
    intro htake
    have hskipped := List.mem_takeWhile_imp htake
    simp [hspace] at hskipped
  simp only [strip, List.mem_reverse]
  apply hdrop
  simpa using hdrop text hmem

theorem not_mem_of_mem_splitOn {c : Char} {text clause : List Char} (hclause : clause ∈ text.splitOn c) :
    c ∉ clause := by
  induction text generalizing clause with
  | nil =>
    rw [List.splitOn_nil, List.mem_singleton] at hclause
    simp [hclause]
  | cons head text ih =>
    rw [List.splitOn_cons_eq_if_modifyHead] at hclause
    split at hclause
    · rcases List.mem_cons.mp hclause with rfl | hrest
      · exact List.not_mem_nil
      · exact ih hrest
    · next hhead =>
      cases hsplit : text.splitOn c with
      | nil => simp [hsplit] at hclause
      | cons first rest =>
        simp only [hsplit, List.modifyHead_cons, List.mem_cons] at hclause ih
        rcases hclause with rfl | hrest
        · intro hmem
          rcases List.mem_cons.mp hmem with rfl | htail
          · simp at hhead
          · exact ih (Or.inl rfl) htail
        · exact ih (Or.inr hrest)

section Readable

variable {python : Python} {parsed : Version} {clause : List Char}

def leadsWithNumber (text : List Char) : Bool := (strip text).head?.any Char.isDigit

/-- Nothing to compare with, or a version. -/
def readableClause (clause : List Char) : Bool :=
  if strip clause = [] then true
  else (Operator.groups (strip clause)).all fun found => leadsWithNumber found.2

theorem takeWhile_eq_nil_iff (text : List Char) :
    text.takeWhile Char.isDigit = [] ↔ text.head?.any Char.isDigit = false := by
  cases text with
  | nil => simp
  | cons c text => cases hdigit : c.isDigit <;> simp [hdigit]

theorem exists_parse_iff (text : List Char) :
    (∃ version, Version.parse python text = .ok version) ↔ leadsWithNumber text = true := by
  have hnone := takeWhile_eq_nil_iff (strip text)
  unfold Version.parse leadsWithNumber
  cases hdigits : (strip text).takeWhile Char.isDigit with
  | nil => simp [hdigits, hnone.mp hdigits]
  | cons c digits =>
    rw [hdigits] at hnone
    have hleads := Bool.eq_true_of_not_eq_false (hnone.not.mp (List.cons_ne_nil c digits))
    simp [hdigits, hleads]

theorem exists_clause_iff :
    (∃ holds, satisfiesAll python parsed [clause] = .ok holds) ↔ readableClause clause = true := by
  unfold satisfiesAll readableClause
  cases hstrip : strip clause with
  | nil => simp [satisfiesAll]
  | cons c text =>
    cases hgroups : Operator.groups (c :: text) with
    | none => simp [hgroups]
    | some found =>
      rw [if_neg (List.cons_ne_nil c text), Option.all_some, ← @exists_parse_iff python]
      simp only [satisfiesAll, hgroups]
      cases Version.parse python found.2 with
      | error failure => simp [bind, Except.bind]
      | ok expected => simp [bind, Except.bind, ← apply_ite]

end Readable

section Clauses

variable {python : Python} {parsed : Version}

theorem satisfiesAll_cons (clause : List Char) (clauses : List (List Char)) :
    satisfiesAll python parsed (clause :: clauses) = (do
      if ← satisfiesAll python parsed [clause] then satisfiesAll python parsed clauses else .ok false) := by
  simp only [satisfiesAll]
  split
  · rfl
  · split
    · rfl
    · cases Version.parse python _ with
      | error failure => rfl
      | ok expected =>
        simp only [bind, Except.bind]
        split <;> simp

def clauseHolds (python : Python) (parsed : Version) (clause : List Char) : Bool :=
  (satisfiesAll python parsed [clause]).toOption.getD false

theorem satisfiesAll_of_readable {clauses : List (List Char)}
    (hreadable : ∀ clause ∈ clauses, readableClause clause = true) :
    satisfiesAll python parsed clauses = .ok (clauses.all (clauseHolds python parsed)) := by
  induction clauses with
  | nil => rfl
  | cons clause clauses ih =>
    have hrest := ih fun other hother => hreadable other (List.mem_cons_of_mem _ hother)
    obtain ⟨holds, hholds⟩ := (@exists_clause_iff python parsed clause).mpr
      (hreadable clause List.mem_cons_self)
    have hclause : clauseHolds python parsed clause = holds := by
      simp [clauseHolds, hholds, Except.toOption]
    rw [satisfiesAll_cons, hholds, hrest, List.all_cons, hclause]
    cases holds <;> rfl

theorem satisfiesAll_append {first second : List (List Char)} {fst snd : Bool}
    (hfirst : satisfiesAll python parsed first = .ok fst)
    (hsecond : satisfiesAll python parsed second = .ok snd) :
    satisfiesAll python parsed (first ++ second) = .ok (fst && snd) := by
  induction first with
  | nil =>
    simp only [satisfiesAll, Except.ok.injEq] at hfirst
    simp [← hfirst, hsecond]
  | cons clause first ih =>
    rw [satisfiesAll_cons] at hfirst
    rw [List.cons_append, satisfiesAll_cons]
    cases hclause : satisfiesAll python parsed [clause] with
    | error failure => simp [hclause, bind, Except.bind] at hfirst
    | ok holds =>
      rw [hclause] at hfirst
      cases holds with
      | false =>
        have hfalse : false = fst := by simpa [bind, Except.bind] using hfirst
        simp [bind, Except.bind, ← hfalse]
      | true => exact ih hfirst

theorem readable_of_first {clause : List Char} {clauses : List (List Char)} {result : Bool}
    (hresult : satisfiesAll python parsed (clause :: clauses) = .ok result) : readableClause clause = true := by
  rw [← @exists_clause_iff python parsed]
  rw [satisfiesAll_cons] at hresult
  cases hclause : satisfiesAll python parsed [clause] with
  | error failure => simp [hclause, bind, Except.bind] at hresult
  | ok holds => exact ⟨holds, rfl⟩

end Clauses

section Joined

variable {python : Python} {version first second : String} {fst snd : Bool} {clauses : List (List Char)}

def clausesOf (constraint : String) : List (List Char) := constraint.toList.splitOn ','

/-- `','.join(clauses)` -/
def joinClauses (clauses : List (List Char)) : String := String.ofList ([','].intercalate clauses)

def wild (constraint : String) : Prop := strip constraint.toList = ['*']

instance (constraint : String) : Decidable (wild constraint) := inferInstanceAs (Decidable (_ = _))

theorem clausesOf_append : clausesOf (first ++ "," ++ second) = clausesOf first ++ clausesOf second := by
  unfold clausesOf
  simp only [String.toList_append, List.append_assoc]
  exact List.splitOn_append_cons_self first.toList second.toList

theorem clausesOf_joinClauses (hnonempty : clauses ≠ []) (hclean : ∀ clause ∈ clauses, ',' ∉ clause) :
    clausesOf (joinClauses clauses) = clauses := by
  simpa [clausesOf, joinClauses] using List.splitOn_intercalate ',' hclean hnonempty

theorem satisfies_of_comma {constraint : String} (hcomma : ',' ∈ constraint.toList) :
    satisfies python version (some constraint) = (do
      let parsed ← Version.parse python version.toList
      satisfiesAll python parsed (clausesOf constraint)) := by
  have hstrip : ',' ∈ strip constraint.toList := mem_strip hcomma (by decide)
  simp only [satisfies, clausesOf]
  rw [if_neg]
  rintro (hblank | hwild)
  · simp [hblank] at hstrip
  · simp [hwild] at hstrip

theorem comma_mem_joinClauses {one two : List Char} :
    ',' ∈ (joinClauses (one :: two :: clauses)).toList := by
  simp [joinClauses]

theorem satisfies_eq_all {constraint : String} {parsed : Version}
    (hparsed : Version.parse python version.toList = .ok parsed) (hwild : ¬ wild constraint) :
    satisfies python version (some constraint) = satisfiesAll python parsed (clausesOf constraint) := by
  by_cases hblank : strip constraint.toList = []
  · have hcomma : ',' ∉ constraint.toList := by
      intro hmem
      have hstrip : ',' ∈ strip constraint.toList := mem_strip hmem (by decide)
      simp [hblank] at hstrip
    rw [clausesOf, List.splitOn_eq_singleton hcomma]
    simp [satisfies, satisfiesAll, hblank]
  · unfold wild at hwild
    simp [satisfies, clausesOf, hblank, hwild, hparsed, bind, Except.bind]

end Joined

section Conjunction

variable {python : Python} {version first second : String} {fst snd : Bool}

/-- Both constraints in one text, the one before the other or after it. -/
def meansBoth (python : Python) (version first second : String) (result : Bool) : Prop :=
  satisfies python version (some (first ++ "," ++ second)) = .ok result ∧
    satisfies python version (some (second ++ "," ++ first)) = .ok result

/-- The clauses of both constraints in one text, in whatever order. -/
def meansBothInAnyOrder (python : Python) (version first second : String) (result : Bool) : Prop :=
  ∀ clauses : List (List Char), clauses.Perm (clausesOf first ++ clausesOf second) →
    satisfies python version (some (joinClauses clauses)) = .ok result

theorem satisfies_append :
    satisfies python version (some (first ++ "," ++ second)) = (do
      let parsed ← Version.parse python version.toList
      satisfiesAll python parsed (clausesOf first ++ clausesOf second)) := by
  have hcomma : ',' ∈ (first ++ "," ++ second).toList := by simp
  rw [satisfies_of_comma hcomma, clausesOf_append]

theorem leadsWithNumber_of_read {clauses : List (List Char)} {result : Bool}
    (hread : (do
      let parsed ← Version.parse python version.toList
      satisfiesAll python parsed clauses) = .ok result) :
    leadsWithNumber version.toList = true ∧ ∃ parsed, satisfiesAll python parsed clauses = .ok result := by
  rw [← @exists_parse_iff python]
  cases hparsed : Version.parse python version.toList with
  | error failure => simp [hparsed, bind, Except.bind] at hread
  | ok parsed =>
    rw [hparsed] at hread
    exact ⟨⟨parsed, rfl⟩, parsed, hread⟩

theorem clausesOf_of_wild (hwild : wild first) : clausesOf first = [first.toList] := by
  apply List.splitOn_eq_singleton
  intro hmem
  have hstrip : ',' ∈ strip first.toList := mem_strip hmem (by decide)
  rw [hwild] at hstrip
  exact absurd hstrip (by decide)

theorem unreadable_of_wild (hwild : wild first) : readableClause first.toList = false := by
  unfold wild at hwild
  unfold readableClause
  rw [hwild]
  decide

theorem meansBoth_iff (hfirst : satisfies python version (some first) = .ok fst)
    (hsecond : satisfies python version (some second) = .ok snd) :
    meansBoth python version first second (fst && snd) ↔
      leadsWithNumber version.toList = true ∧ ¬ wild first ∧ ¬ wild second := by
  have hleading : ∀ {one two : String} {result : Bool},
      satisfies python version (some (one ++ "," ++ two)) = .ok result →
        leadsWithNumber version.toList = true ∧ ¬ wild one := by
    intro one two result hresult
    rw [satisfies_append] at hresult
    obtain ⟨hversion, parsed, hclauses⟩ := leadsWithNumber_of_read hresult
    refine ⟨hversion, fun hwild => ?_⟩
    rw [clausesOf_of_wild hwild, List.singleton_append] at hclauses
    simpa [unreadable_of_wild hwild] using readable_of_first hclauses
  constructor
  · intro hboth
    exact ⟨(hleading hboth.1).1, (hleading hboth.1).2, (hleading hboth.2).2⟩
  · rintro ⟨hversion, hone, htwo⟩
    obtain ⟨parsed, hparsed⟩ := (@exists_parse_iff python _).mpr hversion
    rw [satisfies_eq_all hparsed hone] at hfirst
    rw [satisfies_eq_all hparsed htwo] at hsecond
    constructor
    · simp only [satisfies_append, hparsed]
      exact satisfiesAll_append hfirst hsecond
    · rw [Bool.and_comm]
      simp only [satisfies_append, hparsed]
      exact satisfiesAll_append hsecond hfirst

theorem satisfies_joinClauses {clauses : List (List Char)}
    (hclauses : clauses.Perm (clausesOf first ++ clausesOf second)) :
    satisfies python version (some (joinClauses clauses)) = (do
      let parsed ← Version.parse python version.toList
      satisfiesAll python parsed clauses) := by
  have hlength : 2 ≤ clauses.length := by
    have hfirst := List.length_pos_iff.mpr (List.splitOn_ne_nil ',' first.toList)
    have hsecond := List.length_pos_iff.mpr (List.splitOn_ne_nil ',' second.toList)
    rw [hclauses.length_eq, List.length_append]
    unfold clausesOf
    omega
  have hclean : ∀ clause ∈ clauses, ',' ∉ clause := by
    intro clause hclause
    rcases List.mem_append.mp (hclauses.subset hclause) with hone | htwo
    · exact not_mem_of_mem_splitOn hone
    · exact not_mem_of_mem_splitOn htwo
  match clauses with
  | one :: two :: clauses =>
    rw [satisfies_of_comma comma_mem_joinClauses, clausesOf_joinClauses (List.cons_ne_nil one _) hclean]

theorem meansBothInAnyOrder_iff (hfirst : satisfies python version (some first) = .ok fst)
    (hsecond : satisfies python version (some second) = .ok snd) :
    meansBothInAnyOrder python version first second (fst && snd) ↔
      leadsWithNumber version.toList = true ∧
        ∀ clause ∈ clausesOf first ++ clausesOf second, readableClause clause = true := by
  constructor
  · intro hany
    have hread := hany _ (List.Perm.refl _)
    rw [satisfies_joinClauses (List.Perm.refl _)] at hread
    refine ⟨(leadsWithNumber_of_read hread).1, fun clause hclause => ?_⟩
    -- the clause is put before the other ones, where nothing hides it
    have hperm := (List.perm_cons_erase hclause).symm
    have hleading := hany _ hperm
    rw [satisfies_joinClauses hperm] at hleading
    obtain ⟨-, parsed, hclauses⟩ := leadsWithNumber_of_read hleading
    exact readable_of_first hclauses
  · rintro ⟨hversion, hreadable⟩ clauses hclauses
    obtain ⟨parsed, hparsed⟩ := (@exists_parse_iff python _).mpr hversion
    have hone : ∀ clause ∈ clausesOf first, readableClause clause = true :=
      fun clause hclause => hreadable clause (List.mem_append_left _ hclause)
    have htwo : ∀ clause ∈ clausesOf second, readableClause clause = true :=
      fun clause hclause => hreadable clause (List.mem_append_right _ hclause)
    have hwild : ∀ {constraint : String}, (∀ clause ∈ clausesOf constraint, readableClause clause = true) →
        ¬ wild constraint := by
      intro constraint hall hwild
      have hclause := hall constraint.toList (by simp [clausesOf_of_wild hwild])
      simp [unreadable_of_wild hwild] at hclause
    rw [satisfies_eq_all hparsed (hwild hone), satisfiesAll_of_readable hone, Except.ok.injEq] at hfirst
    rw [satisfies_eq_all hparsed (hwild htwo), satisfiesAll_of_readable htwo, Except.ok.injEq] at hsecond
    have hall : ∀ clause ∈ clauses, readableClause clause = true :=
      fun clause hclause => hreadable clause (hclauses.subset hclause)
    rw [satisfies_joinClauses hclauses, hparsed]
    simp only [bind, Except.bind, satisfiesAll_of_readable hall]
    rw [hclauses.all_eq, List.all_append, hfirst, hsecond]

end Conjunction

end KubeOps.Packs
