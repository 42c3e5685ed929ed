import KubeOps.Discovery.Noninterference

/-! What sanitizing does to a document that was sanitized before: only the key names listed for a
secret are lost. -/
namespace KubeOps.Discovery

open KubeOps.Foundation KubeOps.Models

section Values

variable {secret : Bool} {key : String}

theorem walk_walk (value : Json) : walk secret (walk secret value) = walk secret value := by
  induction value using Json.induct with
  | null | bool _ | int _ | float _ | str _ => rfl
  | list items ih =>
    rw [walk, walk, walkItems_eq, walkItems_eq, List.map_map]
    congr 1
    exact List.map_congr_left ih
  | dict entries ih =>
    rw [walk, walk, walkEntries_eq, walkEntries_eq, List.map_map]
    congr 1
    apply List.map_congr_left
    intro entry hentry
    refine Prod.ext rfl ?_
    show (if isHidden secret entry.1 then redacted else walk secret
      (if isHidden secret entry.1 then redacted else walk secret entry.2)) = _
    by_cases hkey : isHidden secret entry.1 = true
    · rw [if_pos hkey, if_pos hkey]
    · rw [if_neg hkey, if_neg hkey, ih entry hentry]

theorem walked_walked (value : Json) :
    (if isHidden secret key then redacted else walk secret (if isHidden secret key then redacted else
      walk secret value)) = if isHidden secret key then redacted else walk secret value := by
  by_cases hkey : isHidden secret key = true
  · rw [if_pos hkey, if_pos hkey]
  · rw [if_neg hkey, if_neg hkey, walk_walk]

end Values

section Documents

variable {resource : JsonObject}

theorem isSecret_sanitizeResource (resource : JsonObject) :
    isSecret (sanitizeResource resource) = isSecret resource := by
  have hstr : ∀ {secret value}, walk secret value = .str "Secret" ↔ value = .str "Secret" := by
    intro secret value
    cases value <;> simp [walk]
  cases hsecret : isSecret resource with
  | true =>
    rw [isSecret, decide_eq_true_eq] at hsecret
    have hkind : isSecret resource = true := by rw [isSecret, hsecret]; rfl
    rw [isSecret, decide_eq_true_eq, get?_sanitizeResource hkind (by decide) (by decide), hsecret]
    rfl
  | false =>
    rw [isSecret, decide_eq_false_iff_not, sanitizeResource_other hsecret, Dict.get?_mapEntries,
      Option.map_eq_some_iff]
    rintro ⟨child, hchild, hvalue⟩
    rw [if_neg (by decide), hstr] at hvalue
    rw [isSecret, decide_eq_false_iff_not] at hsecret
    exact hsecret (hvalue ▸ hchild)

theorem sanitizeResource_other_again (h : isSecret resource = false) :
    sanitizeResource (sanitizeResource resource) = sanitizeResource resource := by
  rw [sanitizeResource_other ((isSecret_sanitizeResource resource).trans h), sanitizeResource_other h,
    Dict.mapEntries_mapEntries]
  apply Dict.mapEntries_congr
  intro entry _
  exact walked_walked entry.2

theorem sanitizeResource_secret_again (h : isSecret resource = true) :
    sanitizeResource (sanitizeResource resource) = (sanitizeResource resource).set "redaction"
      (redaction [] []) := by
  have hgone : ∀ key, key = "data" ∨ key = "stringData" → key ∉ (sanitizeResource resource).keys := by
    intro key hkey
    rw [← Dict.get?_eq_none, sanitizeResource_secret h]
    rcases hkey with rfl | rfl
    · rw [Dict.get?_set_ne _ _ (by decide), Dict.get?_mapEntries, Dict.get?_erase, if_neg (by decide),
        Dict.get?_erase, if_pos rfl]
      rfl
    · rw [Dict.get?_set_ne _ _ (by decide), Dict.get?_mapEntries, Dict.get?_erase, if_pos rfl]
      rfl
  rw [sanitizeResource_secret ((isSecret_sanitizeResource resource).trans h),
    Dict.get?_eq_none.mpr (hgone _ (.inl rfl)), Dict.get?_eq_none.mpr (hgone _ (.inr rfl)),
    Dict.erase_of_not_mem (hgone _ (.inl rfl)), Dict.erase_of_not_mem (hgone _ (.inr rfl)),
    sanitizeResource_secret h, Dict.mapEntries_set, Dict.set_set, Dict.mapEntries_mapEntries, Dict.set_set]
  apply Dict.mapEntries_set_congr
  intro entry _ _
  exact walked_walked entry.2

theorem sanitizeResource_again (resource : JsonObject) : sanitizeResource (sanitizeResource resource) =
    if isSecret resource then (sanitizeResource resource).set "redaction" (redaction [] [])
    else sanitizeResource resource := by
  cases h : isSecret resource with
  | true => exact sanitizeResource_secret_again h
  | false => exact sanitizeResource_other_again h

theorem sanitizeResource_thrice (resource : JsonObject) :
    sanitizeResource (sanitizeResource (sanitizeResource resource)) =
      sanitizeResource (sanitizeResource resource) := by
  rw [sanitizeResource_again (sanitizeResource resource), isSecret_sanitizeResource]
  cases h : isSecret resource with
  | true =>
    rw [if_pos rfl, sanitizeResource_secret_again h, Dict.set_set]
  | false => rfl

def ListsNoKeys (payload : JsonObject) : Prop :=
  isSecret payload = true → payload.get? "redaction" = some (redaction [] [])

theorem sanitizeResource_again_eq_iff (resource : JsonObject) :
    sanitizeResource (sanitizeResource resource) = sanitizeResource resource ↔
      ListsNoKeys (sanitizeResource resource) := by
  rw [sanitizeResource_again, ListsNoKeys, isSecret_sanitizeResource]
  cases isSecret resource with
  | false => simp
  | true =>
    constructor
    · intro hsame _
      rw [if_pos rfl] at hsame
      rw [← hsame, Dict.get?_set_self]
    · intro hlists
      rw [if_pos rfl, Dict.set_eq_self (hlists rfl)]

theorem listsNoKeys_again (resource : JsonObject) :
    ListsNoKeys (sanitizeResource (sanitizeResource resource)) :=
  (sanitizeResource_again_eq_iff _).mp (sanitizeResource_thrice resource)

end Documents

end KubeOps.Discovery
