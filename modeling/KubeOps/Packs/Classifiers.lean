import KubeOps.Discovery.Normalize
import KubeOps.Foundation.Listing
import KubeOps.Foundation.Program
import KubeOps.Foundation.Ranking
import KubeOps.Foundation.Sorting
import KubeOps.Models.Pack
import Mathlib.Data.Prod.Lex
import Mathlib.Data.String.Basic

/-! Classifiers that packs contribute, and what those that match a document make of its entity. They
are run by descending priority, and each one overwrites what was set before it. -/
namespace KubeOps.Packs

open KubeOps.Foundation KubeOps.Models KubeOps.Discovery

structure EntityClassifierRule where
  classifierId : String
  priority : Int := 0
  resourceKinds : List String := []
  namespaces : List String := []
  nameRegex : Option String := none
  labelEquals : Dict String String := ∅
  annotationEquals : Dict String String := ∅
  setEntityType : Option String := none
  setPlane : Option String := none
  setProvider : Option String := none
  addCapabilities : List String := []
  extensionNamespace : Option String := none
  extensionValues : JsonObject := ∅

structure ActiveManifest where
  manifest : KnowledgePackManifest
  entityClassifiers : List EntityClassifierRule
  named : manifest.contributions.entityClassifiers = entityClassifiers.map EntityClassifierRule.classifierId

structure PackRuntime where
  manifests : List ActiveManifest

namespace EntityClassifierRule

/-- `(-item.priority, item.classifier_id)` -/
def sortKey (rule : EntityClassifierRule) : Int ×ₗ String := toLex (-rule.priority, rule.classifierId)

/-- The conditions of a rule; `search` is `re.search(pattern, text) is not None`. -/
def admits (search : String → String → Bool) (document : ResourceDocument)
    (rule : EntityClassifierRule) : Bool :=
  let metadata := Json.objectOr (document.payload.get? "metadata")
  let labels := Json.objectOr (Json.entry? "labels" metadata)
  let annotations := Json.objectOr (Json.entry? "annotations" metadata)
  (rule.resourceKinds.isEmpty || document.resourceKind ∈ rule.resourceKinds) &&
  (rule.namespaces.isEmpty || document.namespaceName.getD "" ∈ rule.namespaces) &&
  (!Text.truthy rule.nameRegex || search (rule.nameRegex.getD "") document.name) &&
  (rule.labelEquals.entries.all fun entry => Json.entry? entry.1 labels = some (.str entry.2)) &&
  rule.annotationEquals.entries.all fun entry => Json.entry? entry.1 annotations = some (.str entry.2)

end EntityClassifierRule

namespace PackRuntime

/-- `_contributions("entity_classifiers")`; a classifier has no metadata to be marked with. -/
def contributed (runtime : PackRuntime) : List EntityClassifierRule :=
  runtime.manifests.flatMap ActiveManifest.entityClassifiers

def entityClassifiers (runtime : PackRuntime) : List EntityClassifierRule :=
  sortedBy EntityClassifierRule.sortKey runtime.contributed

end PackRuntime

section Marking

def planes : List OperationalPlane :=
  [.external, .host, .runtime, .controlPlane, .node, .platform, .workload, .application, .operationalTooling]

def planeNamed? (text : String) : Option OperationalPlane := planes.find? fun plane => plane.text = text

/-- `OperationalPlane(text)` -/
def planeNamed (python : Python) (text : String) : Except PyError OperationalPlane :=
  match planeNamed? text with
  | some plane => .ok plane
  | none => .error (.valueError s!"{python.repr (.str text)} is not a valid OperationalPlane")

/-- `extensions.get(space, {})` where that is a dictionary. -/
def sectionOf (extensions : JsonObject) (space : String) : JsonObject :=
  match extensions.get? space with
  | some (.dict entries) => Dict.ofList entries
  | _ => ∅

/-- `{**section, **values}` put back under its key. -/
def extend (extensions : JsonObject) (space : String) (values : List (String × Json)) : JsonObject :=
  extensions.set space (.dict (Dict.ofList ((sectionOf extensions space).entries ++ values)).entries)

/-- The variables of the loop; the first three are the entries of `updates`. -/
structure Marks where
  entityType : Option String := none
  plane : Option OperationalPlane := none
  provider : Option String := none
  typeLineage : List String
  capabilities : List String
  extensions : JsonObject
  matched : List String := []

def Marks.mark (marks : Marks) (rule : EntityClassifierRule) (plane : Option OperationalPlane) : Marks where
  entityType := if Text.truthy rule.setEntityType then rule.setEntityType else marks.entityType
  plane := plane.or marks.plane
  provider := if Text.truthy rule.setProvider then rule.setProvider else marks.provider
  typeLineage := if Text.truthy rule.setEntityType then marks.typeLineage.insert (rule.setEntityType.getD "")
    else marks.typeLineage
  capabilities := marks.capabilities ∪ rule.addCapabilities
  extensions := if Text.truthy rule.extensionNamespace then
      extend marks.extensions (rule.extensionNamespace.getD "") rule.extensionValues.entries
    else marks.extensions
  matched := marks.matched ++ [rule.classifierId]

variable (python : Python) (search : String → String → Bool)

/-- `OperationalPlane(rule.set_plane)` where the rule sets one. -/
def planeUpdate (rule : EntityClassifierRule) : Except PyError (Option OperationalPlane) :=
  if Text.truthy rule.setPlane then (planeNamed python (rule.setPlane.getD "")).map some else .ok none

def Marks.apply (document : ResourceDocument) (marks : Marks) (rule : EntityClassifierRule) :
    Except PyError Marks :=
  if rule.admits search document then do
    let plane ← planeUpdate python rule
    return marks.mark rule plane
  else .ok marks

def Marks.start (entity : NormalizedEntity) : Marks where
  typeLineage := entity.entityTypeLineage.insert entity.entityType
  capabilities := entity.capabilities
  extensions := entity.extensions

/-- `entity.model_copy(update=...)`, unless nothing has matched. -/
def Marks.finish (entity : NormalizedEntity) (marks : Marks) : NormalizedEntity :=
  if marks.matched = [] then entity
  else { entity with
    entityType := marks.entityType.getD entity.entityType
    plane := marks.plane.getD entity.plane
    provider := marks.provider.or entity.provider
    entityTypeLineage := marks.typeLineage
    capabilities := marks.capabilities
    extensions := extend marks.extensions "kubeops_pack" [("classifiers", Json.strings marks.matched)] }

def PackRuntime.classifyEntity (runtime : PackRuntime) (document : ResourceDocument)
    (entity : NormalizedEntity) :
    Except PyError NormalizedEntity := do
  let marks ← runtime.entityClassifiers.foldlM (Marks.apply python search document) (Marks.start entity)
  return marks.finish entity

end Marking


namespace EntityClassifierRule

def typeSet (rule : EntityClassifierRule) : Option String :=
  if Text.truthy rule.setEntityType then rule.setEntityType else none

def planeSet (rule : EntityClassifierRule) : Option OperationalPlane :=
  if Text.truthy rule.setPlane then planeNamed? (rule.setPlane.getD "") else none

def providerSet (rule : EntityClassifierRule) : Option (Option String) :=
  if Text.truthy rule.setProvider then some rule.setProvider else none

def valueSet (space key : String) (rule : EntityClassifierRule) : Option (Option Json) :=
  if Text.truthy rule.extensionNamespace ∧ rule.extensionNamespace = some space then
    (rule.extensionValues.get? key).map some
  else none

def planeReadable (rule : EntityClassifierRule) : Prop :=
  Text.truthy rule.setPlane = true → rule.planeSet.isSome = true

end EntityClassifierRule

section Parts

variable {python : Python} {search : String → String → Bool} {document : ResourceDocument}
variable {entity : NormalizedEntity} {rules : List EntityClassifierRule}

theorem truthy_eq_some {text : Option String} (h : Text.truthy text = true) : text = some (text.getD "") := by
  cases text with
  | none => simp [Text.truthy] at h
  | some text => rfl

theorem get?_sectionOf_extend (extensions : JsonObject) (space other key : String)
    (values : List (String × Json)) :
    (sectionOf (extend extensions space values) other).get? key =
      if other = space then ((Dict.ofList values).get? key).or ((sectionOf extensions space).get? key)
      else (sectionOf extensions other).get? key := by
  unfold extend
  by_cases hsame : other = space
  · subst hsame
    rw [if_pos rfl]
    have hsection :
      sectionOf
        (extensions.set other
          (.dict (Dict.ofList ((sectionOf extensions other).entries ++ values)).entries)) other =
        Dict.ofList ((sectionOf extensions other).entries ++ values) := by
      simp [sectionOf, Dict.ofList_entries]
    rw [hsection, Dict.get?_ofList_append, Dict.ofList_entries]
  · rw [if_neg hsame]
    simp [sectionOf, Dict.get?_set_ne _ _ hsame]

theorem get?_mark_extensions (marks : Marks) (rule : EntityClassifierRule) (space key : String) :
    (sectionOf (marks.mark rule rule.planeSet).extensions space).get? key =
      (rule.valueSet space key).getD ((sectionOf marks.extensions space).get? key) := by
  unfold Marks.mark EntityClassifierRule.valueSet
  by_cases htruthy : Text.truthy rule.extensionNamespace = true
  · have hspace := truthy_eq_some htruthy
    simp only [htruthy, if_true, true_and]
    rw [get?_sectionOf_extend, Dict.ofList_entries]
    by_cases hsame : space = rule.extensionNamespace.getD ""
    · rw [if_pos hsame, if_pos (by rw [hsame]; exact hspace), ← hsame]
      cases rule.extensionValues.get? key <;> rfl
    · have hother : rule.extensionNamespace ≠ some space := by
        intro heq
        rw [heq] at hsame
        exact hsame rfl
      rw [if_neg hsame, if_neg hother]
      rfl
  · simp [htruthy]

/-- What the loop leaves of the rules that match. -/
def marksOf (entity : NormalizedEntity) (rules : List EntityClassifierRule) : Marks :=
  rules.foldl (fun marks rule => marks.mark rule rule.planeSet) (Marks.start entity)

theorem matched_marksOf : (marksOf entity rules).matched = rules.map EntityClassifierRule.classifierId := by
  have hfold : (marksOf entity rules).matched =
      (Marks.start entity).matched ++ rules.flatMap fun rule => [rule.classifierId] :=
    foldl_append (fun _ _ => rfl) rules (Marks.start entity)
  rw [hfold, List.map_eq_flatMap]
  rfl

theorem entityType_marksOf : (marksOf entity rules).entityType.getD entity.entityType =
    overwritten EntityClassifierRule.typeSet entity.entityType rules := by
  apply @foldl_overwritten _ _ _ _ _ (fun marks : Marks => marks.entityType.getD entity.entityType)
  intro marks rule
  simp only [Marks.mark, EntityClassifierRule.typeSet]
  split
  · next htruthy => rw [truthy_eq_some htruthy]; rfl
  · rfl

theorem plane_marksOf : (marksOf entity rules).plane.getD entity.plane =
    overwritten EntityClassifierRule.planeSet entity.plane rules := by
  apply @foldl_overwritten _ _ _ _ _ (fun marks : Marks => marks.plane.getD entity.plane)
  intro marks rule
  simp only [Marks.mark]
  cases rule.planeSet <;> rfl

theorem provider_marksOf : (marksOf entity rules).provider.or entity.provider =
    overwritten EntityClassifierRule.providerSet entity.provider rules := by
  apply @foldl_overwritten _ _ _ _ _ (fun marks : Marks => marks.provider.or entity.provider)
  intro marks rule
  simp only [Marks.mark, EntityClassifierRule.providerSet]
  split
  · next htruthy => rw [truthy_eq_some htruthy]; rfl
  · rfl

theorem extension_marksOf (space key : String) : (sectionOf (marksOf entity rules).extensions space).get? key =
    overwritten (EntityClassifierRule.valueSet space key)
      ((sectionOf entity.extensions space).get? key) rules :=
  @foldl_overwritten _ _ _ _ _ (fun marks : Marks => (sectionOf marks.extensions space).get? key)
    (fun marks rule => get?_mark_extensions marks rule space key) rules (Marks.start entity)

theorem mem_typeLineage_marksOf {name : String} : name ∈ (marksOf entity rules).typeLineage ↔
    (name = entity.entityType ∨ name ∈ entity.entityTypeLineage) ∨ ∃ rule ∈ rules,
      rule.typeSet = some name := by
  induction rules using List.reverseRecOn with
  | nil => simp [marksOf, Marks.start]
  | append_singleton rules rule ih =>
    have hstep : marksOf entity (rules ++ [rule]) = (marksOf entity rules).mark rule rule.planeSet := by
      simp [marksOf]
    have hrule : name ∈ ((marksOf entity rules).mark rule rule.planeSet).typeLineage ↔
        name ∈ (marksOf entity rules).typeLineage ∨ rule.typeSet = some name := by
      simp only [Marks.mark, EntityClassifierRule.typeSet]
      split
      · next htruthy =>
        rw [List.mem_insert_iff, truthy_eq_some htruthy, Option.getD_some, Option.some.injEq, or_comm, eq_comm]
      · simp
    rw [hstep, hrule, ih, or_assoc]
    apply or_congr_right
    simp [or_and_right, exists_or]

end Parts

section Loop

variable {python : Python} {search : String → String → Bool} {document : ResourceDocument}
variable {entity : NormalizedEntity} {rules : List EntityClassifierRule}

theorem apply_of_readable {marks : Marks} {rule : EntityClassifierRule}
    (hadmits : rule.admits search document = true)
    (h : rule.planeReadable) : marks.apply python search document rule =
      .ok (marks.mark rule rule.planeSet) := by
  have hupdate : planeUpdate python rule = .ok rule.planeSet := by
    unfold EntityClassifierRule.planeReadable EntityClassifierRule.planeSet at h
    unfold planeUpdate EntityClassifierRule.planeSet
    by_cases htruthy : Text.truthy rule.setPlane = true
    · obtain ⟨plane, hplane⟩ := Option.isSome_iff_exists.mp (h htruthy)
      rw [if_pos htruthy] at hplane
      rw [if_pos htruthy, if_pos htruthy, planeNamed, hplane]
      rfl
    · rw [if_neg htruthy, if_neg htruthy]
  unfold Marks.apply
  rw [if_pos hadmits, hupdate]
  rfl

theorem planeReadable_of_apply {marks next : Marks} {rule : EntityClassifierRule}
    (hadmits : rule.admits search document = true) (h : marks.apply python search document rule = .ok next) :
    rule.planeReadable := by
  intro htruthy
  unfold Marks.apply at h
  rw [if_pos hadmits] at h
  obtain ⟨plane, hplane, -⟩ := except_bind_eq_ok h
  unfold planeUpdate planeNamed at hplane
  rw [if_pos htruthy] at hplane
  unfold EntityClassifierRule.planeSet
  rw [if_pos htruthy]
  cases hnamed : planeNamed? (rule.setPlane.getD "") with
  | none => simp [hnamed, Except.map] at hplane
  | some found => rfl

theorem foldlM_apply {rules : List EntityClassifierRule} {marks : Marks}
    (h : ∀ rule ∈ rules.filter (EntityClassifierRule.admits search document), rule.planeReadable) :
    rules.foldlM (Marks.apply python search document) marks =
      .ok ((rules.filter (EntityClassifierRule.admits search document)).foldl
        (fun marks rule => marks.mark rule rule.planeSet) marks) := by
  induction rules generalizing marks with
  | nil => rfl
  | cons rule rules ih =>
    rw [List.foldlM_cons]
    by_cases hadmits : rule.admits search document = true
    · rw [List.filter_cons_of_pos hadmits] at h ⊢
      rw [apply_of_readable hadmits (h rule List.mem_cons_self)]
      exact ih fun other hother => h other (List.mem_cons_of_mem _ hother)
    · rw [List.filter_cons_of_neg hadmits] at h ⊢
      have hskip : marks.apply python search document rule = .ok marks := if_neg hadmits
      rw [hskip]
      exact ih h

theorem planeReadable_of_foldlM {marks last : Marks}
    (h : rules.foldlM (Marks.apply python search document) marks = .ok last) :
    ∀ rule ∈ rules.filter (EntityClassifierRule.admits search document), rule.planeReadable := by
  induction rules generalizing marks with
  | nil => simp
  | cons first rules ih =>
    rw [List.foldlM_cons] at h
    obtain ⟨next, hnext, hrest⟩ := except_bind_eq_ok h
    intro rule hrule
    obtain ⟨hmem, hadmits⟩ := List.mem_filter.mp hrule
    rcases List.mem_cons.mp hmem with rfl | hmem
    · exact planeReadable_of_apply hadmits hnext
    · exact ih hrest rule (List.mem_filter.mpr ⟨hmem, hadmits⟩)

end Loop


section Priority

variable {python : Python} {search : String → String → Bool} {runtime : PackRuntime}
  {document : ResourceDocument}
variable {entity result : NormalizedEntity} {rules : List EntityClassifierRule}

/-- `_entity_types` -/
def entityTypes (entity : NormalizedEntity) : List String := entity.entityType :: entity.entityTypeLineage

/-- Each field has the value of a matching rule of the highest priority that sets it, or else is left alone, and
no type is lost from the lineage. -/
structure PriorityDecides (search : String → String → Bool) (contributed : List EntityClassifierRule)
    (document : ResourceDocument) (entity result : NormalizedEntity) : Prop where
  entityType : SetByRank EntityClassifierRule.priority EntityClassifierRule.typeSet
    (contributed.filter (EntityClassifierRule.admits search document)) entity.entityType result.entityType
  plane : SetByRank EntityClassifierRule.priority EntityClassifierRule.planeSet
    (contributed.filter (EntityClassifierRule.admits search document)) entity.plane result.plane
  provider : SetByRank EntityClassifierRule.priority EntityClassifierRule.providerSet
    (contributed.filter (EntityClassifierRule.admits search document)) entity.provider result.provider
  extension : ∀ space key, ¬ (space = "kubeops_pack" ∧ key = "classifiers") →
    SetByRank EntityClassifierRule.priority (EntityClassifierRule.valueSet space key)
      (contributed.filter (EntityClassifierRule.admits search document))
      ((sectionOf entity.extensions space).get? key) ((sectionOf result.extensions space).get? key)
  recorded : ∀ rule ∈ contributed.filter (EntityClassifierRule.admits search document),
    (rule.valueSet "kubeops_pack" "classifiers").isSome = true →
      ∃ top, GreatestSetter EntityClassifierRule.priority
        (EntityClassifierRule.valueSet "kubeops_pack" "classifiers")
          (contributed.filter (EntityClassifierRule.admits search document)) top ∧
        top.valueSet "kubeops_pack" "classifiers" =
          some ((sectionOf result.extensions "kubeops_pack").get? "classifiers")
  lineage : ∀ name, (name ∈ entityTypes entity ∨
    ∃ rule ∈ contributed.filter (EntityClassifierRule.admits search document), rule.typeSet = some name) →
      name ∈ entityTypes result

/-- Among the matching rules that set a field, the one that is run last (lowest priority, then greatest id) sets
what one of the highest priority sets; the planes can be read; and the record of the matches is not set
otherwise. -/
structure ClassifiersAgree (search : String → String → Bool) (contributed : List EntityClassifierRule)
    (document : ResourceDocument) : Prop where
  planes : ∀ rule ∈ contributed.filter (EntityClassifierRule.admits search document), rule.planeReadable
  entityType : LastAgrees EntityClassifierRule.sortKey EntityClassifierRule.priority
    EntityClassifierRule.typeSet
    (contributed.filter (EntityClassifierRule.admits search document))
  plane : LastAgrees EntityClassifierRule.sortKey EntityClassifierRule.priority EntityClassifierRule.planeSet
    (contributed.filter (EntityClassifierRule.admits search document))
  provider : LastAgrees EntityClassifierRule.sortKey EntityClassifierRule.priority
    EntityClassifierRule.providerSet
    (contributed.filter (EntityClassifierRule.admits search document))
  extension : ∀ space key, ¬ (space = "kubeops_pack" ∧ key = "classifiers") →
    LastAgrees EntityClassifierRule.sortKey EntityClassifierRule.priority
      (EntityClassifierRule.valueSet space key)
      (contributed.filter (EntityClassifierRule.admits search document))
  recorded : ∀ rule ∈ contributed.filter (EntityClassifierRule.admits search document),
    (rule.valueSet "kubeops_pack" "classifiers").isSome = true →
      ∃ top, GreatestSetter EntityClassifierRule.priority
        (EntityClassifierRule.valueSet "kubeops_pack" "classifiers")
          (contributed.filter (EntityClassifierRule.admits search document)) top ∧
        top.valueSet "kubeops_pack" "classifiers" = some (some (Json.strings
          (((sortedBy EntityClassifierRule.sortKey contributed).filter
            (EntityClassifierRule.admits search document)).map
            EntityClassifierRule.classifierId)))

/-- The rules that match, in the order in which they are run. -/
def PackRuntime.matching (runtime : PackRuntime) (search : String → String → Bool)
    (document : ResourceDocument) :
    List EntityClassifierRule :=
  runtime.entityClassifiers.filter (EntityClassifierRule.admits search document)

theorem matching_perm : (runtime.matching search document).Perm
    (runtime.contributed.filter (EntityClassifierRule.admits search document)) :=
  (perm_sortedBy EntityClassifierRule.sortKey runtime.contributed).filter _

theorem nodup_sortKey {rules : List EntityClassifierRule}
    (hdistinct : (rules.map EntityClassifierRule.classifierId).Nodup) :
    (rules.map EntityClassifierRule.sortKey).Nodup := by
  have hids : (rules.map EntityClassifierRule.sortKey).map (fun key => (ofLex key).2) =
      rules.map EntityClassifierRule.classifierId := by
    rw [List.map_map]
    rfl
  rw [← hids] at hdistinct
  exact hdistinct.of_map _

theorem matching_sorted (hdistinct : (runtime.contributed.map EntityClassifierRule.classifierId).Nodup) :
    (runtime.matching search document).Pairwise fun one two => one.sortKey < two.sortKey := by
  have hkeys : (runtime.entityClassifiers.map EntityClassifierRule.sortKey).Nodup :=
    (((perm_sortedBy EntityClassifierRule.sortKey runtime.contributed).map _).nodup_iff).mpr
      (nodup_sortKey hdistinct)
  have hsorted := pairwise_sortedBy EntityClassifierRule.sortKey runtime.contributed
  apply List.Pairwise.filter
  exact (hsorted.and (List.pairwise_map.mp hkeys)).imp fun h => lt_of_le_of_ne h.1 h.2

theorem classifyEntity_of_perm (hdistinct : (runtime.contributed.map EntityClassifierRule.classifierId).Nodup)
    {manifests : List ActiveManifest} (hperm : manifests.Perm runtime.manifests) :
    PackRuntime.classifyEntity python search ⟨manifests⟩ document entity =
      runtime.classifyEntity python search document entity := by
  have hcontributed : runtime.contributed.Perm (PackRuntime.contributed ⟨manifests⟩) :=
    hperm.symm.flatMap_right ActiveManifest.entityClassifiers
  unfold PackRuntime.classifyEntity PackRuntime.entityClassifiers
  rw [sortedBy_eq_of_perm (nodup_sortKey hdistinct) hcontributed]

theorem classifyEntity_eq_ok_iff : runtime.classifyEntity python search document entity = .ok result ↔
    (∀ rule ∈ runtime.matching search document, rule.planeReadable) ∧
      (marksOf entity (runtime.matching search document)).finish entity = result := by
  unfold PackRuntime.classifyEntity
  constructor
  · intro h
    obtain ⟨marks, hmarks, hresult⟩ := except_bind_eq_ok h
    have hplanes := planeReadable_of_foldlM hmarks
    rw [foldlM_apply hplanes] at hmarks
    obtain rfl := Except.ok.inj hmarks
    exact ⟨hplanes, Except.ok.inj hresult⟩
  · rintro ⟨hplanes, rfl⟩
    rw [foldlM_apply hplanes]
    rfl

theorem marksOf_matched_eq_nil : (marksOf entity rules).matched = [] ↔ rules = [] := by
  rw [matched_marksOf, List.map_eq_nil_iff]

theorem entityType_finish : ((marksOf entity rules).finish entity).entityType =
    overwritten EntityClassifierRule.typeSet entity.entityType rules := by
  unfold Marks.finish
  split
  · next hnone => rw [marksOf_matched_eq_nil.mp hnone]; rfl
  · exact entityType_marksOf

theorem plane_finish : ((marksOf entity rules).finish entity).plane =
    overwritten EntityClassifierRule.planeSet entity.plane rules := by
  unfold Marks.finish
  split
  · next hnone => rw [marksOf_matched_eq_nil.mp hnone]; rfl
  · exact plane_marksOf

theorem provider_finish : ((marksOf entity rules).finish entity).provider =
    overwritten EntityClassifierRule.providerSet entity.provider rules := by
  unfold Marks.finish
  split
  · next hnone => rw [marksOf_matched_eq_nil.mp hnone]; rfl
  · exact provider_marksOf

theorem extension_finish {space key : String} (hother : ¬ (space = "kubeops_pack" ∧ key = "classifiers")) :
    (sectionOf ((marksOf entity rules).finish entity).extensions space).get? key =
      overwritten (EntityClassifierRule.valueSet space key)
        ((sectionOf entity.extensions space).get? key) rules := by
  unfold Marks.finish
  split
  · next hnone => rw [marksOf_matched_eq_nil.mp hnone]; rfl
  · rw [← extension_marksOf, get?_sectionOf_extend]
    split
    · next hspace =>
      have hkey : key ≠ "classifiers" := fun hkey => hother ⟨hspace, hkey⟩
      rw [hspace, Dict.get?_ofList]
      simp [hkey.symm]
    · rfl

theorem recorded_finish (hrules : rules ≠ []) :
    (sectionOf ((marksOf entity rules).finish entity).extensions "kubeops_pack").get? "classifiers" =
      some (Json.strings (rules.map EntityClassifierRule.classifierId)) := by
  unfold Marks.finish
  rw [if_neg (marksOf_matched_eq_nil.not.mpr hrules), get?_sectionOf_extend, if_pos rfl, matched_marksOf,
    Dict.get?_ofList]
  simp

theorem mem_entityTypes_finish {name : String} (h : name ∈ entityTypes entity ∨ ∃ rule ∈ rules,
    rule.typeSet = some name) :
    name ∈ entityTypes ((marksOf entity rules).finish entity) := by
  unfold Marks.finish
  split
  · next hnone =>
    rw [marksOf_matched_eq_nil.mp hnone] at h
    simpa using h
  · rw [entityTypes, List.mem_cons] at h
    exact List.mem_cons_of_mem _ (mem_typeLineage_marksOf.mpr h)

theorem priorityDecides_iff (hdistinct : (runtime.contributed.map EntityClassifierRule.classifierId).Nodup)
    (hplanes : ∀ rule ∈ runtime.matching search document, rule.planeReadable) :
    PriorityDecides search runtime.contributed document entity
        ((marksOf entity (runtime.matching search document)).finish entity) ↔
      ClassifiersAgree search runtime.contributed document := by
  have hperm := @matching_perm search runtime document
  have hsorted := @matching_sorted search runtime document hdistinct
  have hdecided : ∀ {β : Type} {sets : EntityClassifierRule → Option β} {start : β},
      SetByRank EntityClassifierRule.priority sets
        (runtime.contributed.filter (EntityClassifierRule.admits search document))
          start (overwritten sets start (runtime.matching search document)) ↔
        LastAgrees EntityClassifierRule.sortKey EntityClassifierRule.priority sets
          (runtime.contributed.filter (EntityClassifierRule.admits search document)) := by
    intro β sets start
    rw [← setByRank_perm hperm, ← lastAgrees_perm hperm]
    exact setByRank_overwritten_iff hsorted
  have hrecorded : ∀ rule ∈ runtime.contributed.filter (EntityClassifierRule.admits search document),
      (sectionOf ((marksOf entity (runtime.matching search document)).finish entity).extensions
        "kubeops_pack").get?
        "classifiers" =
          some (Json.strings ((runtime.matching search document).map EntityClassifierRule.classifierId)) :=
    fun rule hrule => recorded_finish (List.ne_nil_of_mem (hperm.mem_iff.mpr hrule))
  constructor
  · intro h
    exact {
      planes := fun rule hrule => hplanes rule (hperm.mem_iff.mpr hrule)
      entityType := hdecided.mp (entityType_finish ▸ h.entityType)
      plane := hdecided.mp (plane_finish ▸ h.plane)
      provider := hdecided.mp (provider_finish ▸ h.provider)
      extension := fun space key hother => hdecided.mp (extension_finish hother ▸ h.extension space key hother)
      recorded := fun rule hrule hsets => hrecorded rule hrule ▸ h.recorded rule hrule hsets }
  · intro h
    exact {
      entityType := entityType_finish ▸ hdecided.mpr h.entityType
      plane := plane_finish ▸ hdecided.mpr h.plane
      provider := provider_finish ▸ hdecided.mpr h.provider
      extension := fun space key hother => extension_finish hother ▸ hdecided.mpr (h.extension space key hother)
      recorded := fun rule hrule hsets => hrecorded rule hrule ▸ h.recorded rule hrule hsets
      lineage := by
        intro name hname
        apply mem_entityTypes_finish
        apply hname.imp_right
        rintro ⟨rule, hrule, htype⟩
        exact ⟨rule, hperm.mem_iff.mpr hrule, htype⟩ }

end Priority


section CoreDns

def coreDnsRule : EntityClassifierRule where
  classifierId := "coredns.component.v1"
  priority := 100
  resourceKinds := ["DaemonSet", "Deployment", "StatefulSet"]
  namespaces := ["kube-system"]
  nameRegex := some "coredns"
  setEntityType := some "platform.coredns"
  setPlane := some "platform"
  setProvider := some "coredns"
  addCapabilities := ["coredns.component"]
  extensionNamespace := some "coredns"

/-- A rule for every deployment, which names a type of its own. -/
def workloadRule : EntityClassifierRule where
  classifierId := "generic.workload.v1"
  resourceKinds := ["Deployment"]
  setEntityType := some "generic.workload"

def packOf (packId : String) (rules : List EntityClassifierRule) : ActiveManifest where
  manifest := {
    packId
    version := "1.0.0"
    contributions := { entityClassifiers := rules.map EntityClassifierRule.classifierId }
    canonicalJson := ""
    notSelfDependent := by simp
    dependencies_nodup := by simp
    notSelfConflicting := by simp }
  entityClassifiers := rules
  named := rfl

def coreDnsDocument : ResourceDocument where
  resourceId := "k8s/deployment/kube-system/coredns"
  apiVersion := "apps/v1"
  resourceKind := "Deployment"
  name := "coredns"
  namespaceName := some "kube-system"
  payload := ∅
  source := "fixture"
  observedAtIso := "2026-07-23T00:00:00+00:00"

def coreDnsEntity : NormalizedEntity where
  entityId := "k8s/deployment/kube-system/coredns"
  entityType := "kubernetes.deployment"
  entityTypeLineage := ["kubernetes.deployment"]
  name := "coredns"
  plane := .platform
  namespaceName := some "kube-system"
  provider := some "kubernetes"
  capabilities := ["observable", "kubernetes_resource"]

end CoreDns

end KubeOps.Packs
