import KubeOps.Models.Pack

/-! Redaction by the rules that packs contribute. The first rule that a key or its path matches replaces the
value under it, so that nothing of the value can be told from the result. -/
namespace KubeOps.Packs

open KubeOps.Models

section Code

structure RedactionRule where
  ruleId : String
  pathPatterns : List String := []
  keyPatterns : List String := []
  replacement : String := "<redacted>"
  appliesToResourceKinds : List String := []

structure RedactingManifest where
  manifest : KnowledgePackManifest
  redactionRules : List RedactionRule
  named : manifest.contributions.redactionRules = redactionRules.map RedactionRule.ruleId

/-- `_contributions("redaction_rules")`; a rule has no metadata to be marked with. -/
def redactionRules (manifests : List RedactingManifest) : List RedactionRule :=
  manifests.flatMap RedactingManifest.redactionRules

/-- A nested payload: keys can be other than texts, and so can what is neither a dictionary nor a list. -/
inductive Payload (κ ν : Type) where
  | dict (entries : List (κ × Payload κ ν))
  | list (items : List (Payload κ ν))
  | other (value : ν)

/-- What redaction uses of Python: whether `re.search` finds a pattern in a text, with `re.I` and without,
the texts of keys, and texts as values. -/
structure Texts (κ ν : Type) where
  search : String → String → Bool
  searchIgnoringCase : String → String → Bool
  str : κ → String
  value : String → ν

variable {κ ν : Type} (texts : Texts κ ν)

def RedactionRule.applies (resourceKind : Option String) (rule : RedactionRule) : Bool :=
  rule.appliesToResourceKinds.isEmpty || resourceKind.any (· ∈ rule.appliesToResourceKinds)

def RedactionRule.covers (key childPath : String) (rule : RedactionRule) : Bool :=
  rule.keyPatterns.any (texts.searchIgnoringCase · key) || rule.pathPatterns.any (texts.search · childPath)

/-- `f"{path}.{key}" if path else str(key)` -/
def childPath (path key : String) : String := if path = "" then key else s!"{path}.{key}"

def matched (rules : List RedactionRule) (path : String) (key : κ) : Option RedactionRule :=
  rules.find? (RedactionRule.covers texts (texts.str key) (childPath path (texts.str key)))

mutual

def visit (rules : List RedactionRule) (path : String) : Payload κ ν → Payload κ ν
  | .dict entries => .dict (visitEntries rules path entries)
  | .list items => .list (visitItems rules path items)
  | .other value => .other value

def visitEntries (rules : List RedactionRule) (path : String) : List (κ × Payload κ ν) → List (κ × Payload κ ν)
  | [] => []
  | (key, child) :: rest =>
    (key, match matched texts rules path key with
      | some rule => .other (texts.value rule.replacement)
      | none => visit rules (childPath path (texts.str key)) child) :: visitEntries rules path rest

def visitItems (rules : List RedactionRule) (path : String) : List (Payload κ ν) → List (Payload κ ν)
  | [] => []
  | item :: rest => visit rules s!"{path}[]" item :: visitItems rules path rest

end

/-- `PackRuntime.redact` -/
def redact (manifests : List RedactingManifest) (resourceKind : Option String) (payload : Payload κ ν) :
    Payload κ ν :=
  let rules := (redactionRules manifests).filter (RedactionRule.applies resourceKind)
  if rules.isEmpty then payload else visit texts rules "" payload

end Code

section Noninterference

variable {κ ν : Type} (texts : Texts κ ν) (rules : List RedactionRule)

mutual

/-- The payloads differ at most in values at or below what a rule matches. -/
def SameOutside : String → Payload κ ν → Payload κ ν → Prop
  | path, .dict left, .dict right => SameEntries path left right
  | path, .list left, .list right => SameItems path left right
  | _, .other left, .other right => left = right
  | _, _, _ => False

def SameEntries : String → List (κ × Payload κ ν) → List (κ × Payload κ ν) → Prop
  | _, [], [] => True
  | path, (key, child) :: rest, (otherKey, otherChild) :: others => key = otherKey ∧
    ((matched texts rules path key).isSome ∨ SameOutside (childPath path (texts.str key)) child otherChild) ∧
    SameEntries path rest others
  | _, _, _ => False

def SameItems : String → List (Payload κ ν) → List (Payload κ ν) → Prop
  | _, [], [] => True
  | path, item :: rest, other :: others => SameOutside s!"{path}[]" item other ∧ SameItems path rest others
  | _, _, _ => False

end

@[elab_as_elim]
theorem Payload.induct {motive : Payload κ ν → Prop}
    (dict : ∀ entries, (∀ entry ∈ entries, motive entry.2) → motive (.dict entries))
    (list : ∀ items, (∀ item ∈ items, motive item) → motive (.list items))
    (other : ∀ value, motive (.other value)) (payload : Payload κ ν) : motive payload := by
  refine @Payload.rec κ ν motive (fun entries => ∀ entry ∈ entries, motive entry.2)
    (fun items => ∀ item ∈ items, motive item) (fun entry => motive entry.2)
    dict list other ?_ ?_ ?_ ?_ ?_ payload
  · exact fun _ hmem => absurd hmem List.not_mem_nil
  · intro entry rest hentry hrest
    exact List.forall_mem_cons.mpr ⟨hentry, hrest⟩
  · exact fun _ hmem => absurd hmem List.not_mem_nil
  · intro item rest hitem hrest
    exact List.forall_mem_cons.mpr ⟨hitem, hrest⟩
  · exact fun _ _ hchild => hchild

variable {texts rules} {payload other : Payload κ ν} {path : String} {key : κ} {child : Payload κ ν}

theorem visitEntries_cons (texts : Texts κ ν) (rules : List RedactionRule) (path : String) (key : κ)
    (child : Payload κ ν) (rest : List (κ × Payload κ ν)) :
    visitEntries texts rules path ((key, child) :: rest) =
      (key, (matched texts rules path key).elim (visit texts rules (childPath path (texts.str key)) child)
        fun rule => .other (texts.value rule.replacement)) :: visitEntries texts rules path rest := by
  rw [visitEntries]
  cases matched texts rules path key <;> rfl

theorem visit_nil (payload : Payload κ ν) (path : String) : visit texts [] path payload = payload := by
  induction payload using Payload.induct generalizing path with
  | other value => rw [visit]
  | list items ih =>
    rw [visit]
    congr 1
    induction items with
    | nil => rw [visitItems]
    | cons item items ihItems =>
      rw [List.forall_mem_cons] at ih
      rw [visitItems, ih.1, ihItems ih.2]
  | dict entries ih =>
    rw [visit]
    congr 1
    induction entries with
    | nil => rw [visitEntries]
    | cons entry entries ihEntries =>
      rw [List.forall_mem_cons] at ih
      have hnone : matched texts [] path entry.1 = none := rfl
      rw [visitEntries_cons, hnone, Option.elim_none, ih.1, ihEntries ih.2]

theorem visit_congr (h : SameOutside texts rules path payload other) :
    visit texts rules path payload = visit texts rules path other := by
  induction payload using Payload.induct generalizing path other with
  | other value =>
    cases other with
    | other otherValue =>
      rw [SameOutside] at h
      rw [h]
    | _ => exact absurd h (by simp [SameOutside])
  | list items ih =>
    cases other with
    | list others =>
      rw [SameOutside] at h
      rw [visit, visit]
      congr 1
      induction items generalizing others with
      | nil =>
        cases others with
        | nil => rfl
        | cons other others => exact absurd h (by simp [SameItems])
      | cons item items ihItems =>
        rw [List.forall_mem_cons] at ih
        cases others with
        | nil => exact absurd h (by simp [SameItems])
        | cons other others =>
          rw [SameItems] at h
          rw [visitItems, visitItems, ih.1 h.1, ihItems ih.2 others h.2]
    | _ => exact absurd h (by simp [SameOutside])
  | dict entries ih =>
    cases other with
    | dict others =>
      rw [SameOutside] at h
      rw [visit, visit]
      congr 1
      induction entries generalizing others with
      | nil =>
        cases others with
        | nil => rfl
        | cons other others => exact absurd h (by simp [SameEntries])
      | cons entry entries ihEntries =>
        rw [List.forall_mem_cons] at ih
        cases others with
        | nil => exact absurd h (by simp [SameEntries])
        | cons other others =>
          obtain ⟨key, child⟩ := entry
          obtain ⟨otherKey, otherChild⟩ := other
          rw [SameEntries] at h
          obtain ⟨rfl, hchild, hrest⟩ := h
          rw [visitEntries_cons, visitEntries_cons, ihEntries ih.2 others hrest]
          cases hmatched : matched texts rules path key with
          | some rule => rfl
          | none =>
            rw [hmatched] at hchild
            rw [Option.elim_none, Option.elim_none, ih.1 (hchild.resolve_left (by simp))]
    | _ => exact absurd h (by simp [SameOutside])

theorem visit_visit (payload : Payload κ ν) (path : String) :
    visit texts rules path (visit texts rules path payload) = visit texts rules path payload := by
  induction payload using Payload.induct generalizing path with
  | other value => rw [visit, visit]
  | list items ih =>
    rw [visit, visit]
    congr 1
    induction items with
    | nil => rw [visitItems, visitItems]
    | cons item items ihItems =>
      rw [List.forall_mem_cons] at ih
      rw [visitItems, visitItems, ih.1, ihItems ih.2]
  | dict entries ih =>
    rw [visit, visit]
    congr 1
    induction entries with
    | nil => rw [visitEntries, visitEntries]
    | cons entry entries ihEntries =>
      rw [List.forall_mem_cons] at ih
      rw [visitEntries_cons, visitEntries_cons, ihEntries ih.2]
      cases matched texts rules path entry.1 with
      | some rule => rfl
      | none => rw [Option.elim_none, Option.elim_none, ih.1]

end Noninterference

section Redacting

variable {κ ν : Type}

def applicableRules (manifests : List RedactingManifest) (resourceKind : Option String) : List RedactionRule :=
  (redactionRules manifests).filter (RedactionRule.applies resourceKind)

theorem redact_eq_visit (texts : Texts κ ν) (manifests : List RedactingManifest) (resourceKind : Option String)
    (payload : Payload κ ν) :
    redact texts manifests resourceKind payload = visit texts
      (applicableRules manifests resourceKind) "" payload := by
  show (if (applicableRules manifests resourceKind).isEmpty then payload else _) = _
  split
  · rename_i hempty
    rw [List.isEmpty_iff.mp hempty, visit_nil]
  · rfl

/-- Patterns that are found in themselves and in nothing else that is looked at. -/
def plainWords : Texts String String where
  search pattern text := text = pattern
  searchIgnoringCase pattern text := text = pattern
  str key := key
  value text := text

def passwordPack : RedactingManifest where
  manifest := {
    packId := "accounts"
    version := "1.0.0"
    dependencies := []
    contributions := { redactionRules := ["passwords"] }
    canonicalJson := ""
    notSelfDependent := List.not_mem_nil
    dependencies_nodup := List.nodup_nil
    notSelfConflicting := List.not_mem_nil }
  redactionRules := [{ ruleId := "passwords", keyPatterns := ["password"] }]
  named := rfl

def account (password : String) : Payload String String :=
  .dict [("name", .other "shop"), ("logins", .list [.dict [("password", .other password)]])]

end Redacting

end KubeOps.Packs
