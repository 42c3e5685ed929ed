import KubeOps.Scenarios.Families

/-! What a family leaves to its parents: in a dump, a field that its document leaves out stands with the
default of its model, which then comes over what a parent has set. -/
namespace KubeOps.Scenarios

open KubeOps.Foundation KubeOps.Models

section Fields

inductive ParameterPart where
  | required | default | options
deriving DecidableEq, Repr

def ParameterPart.key : ParameterPart → String
  | .required => "required"
  | .default => "default"
  | .options => "options"

/-- The default of the part in `ParameterSpec`. -/
def ParameterPart.fallback : ParameterPart → Json
  | .required => .bool true
  | .default => .null
  | .options => .list []

def ParameterDocument.value? (document : ParameterDocument) : ParameterPart → Option Json
  | .required => document.required.map .bool
  | .default => document.default
  | .options => document.options.map .list

inductive SignatureList where
  | topologyPatterns | observationProfiles | recoveryStrategyClasses | coverageLabels
deriving DecidableEq, Repr

def SignatureList.key : SignatureList → String
  | .topologyPatterns => "topology_patterns"
  | .observationProfiles => "observation_profiles"
  | .recoveryStrategyClasses => "recovery_strategy_classes"
  | .coverageLabels => "coverage_labels"

def SignatureDocument.value? (document : SignatureDocument) : SignatureList → Option (List String)
  | .topologyPatterns => document.topologyPatterns
  | .observationProfiles => document.observationProfiles
  | .recoveryStrategyClasses => document.recoveryStrategyClasses
  | .coverageLabels => document.coverageLabels

inductive BlueprintPart where
  | entities | relationships | invariants | transitionRules | observationProfiles
deriving DecidableEq, Repr

def BlueprintPart.identity : BlueprintPart → String
  | .entities => "entity_id"
  | .relationships => "relationship_id"
  | .invariants => "invariant_id"
  | .transitionRules => "rule_id"
  | .observationProfiles => "profile_id"

def ScenarioBlueprint.items (blueprint : ScenarioBlueprint) : BlueprintPart → List JsonObject
  | .entities => blueprint.entities
  | .relationships => blueprint.relationships
  | .invariants => blueprint.invariants
  | .transitionRules => blueprint.transitionRules
  | .observationProfiles => blueprint.observationProfiles

/-- What a family can leave to its parents: for an item of the blueprint, one key of it. -/
inductive Field where
  | observationProfile
  | parameter (name : String) (part : ParameterPart)
  | signature (list : SignatureList)
  | item (part : BlueprintPart) (name key : String)
deriving DecidableEq, Repr

def FamilyDocument.parameter? (document : FamilyDocument) (name : String) : Option ParameterDocument :=
  (document.parameters.filter fun parameter => parameter.name = name).getLast?

def Field.value? (document : FamilyDocument) : Field → Option Json
  | .observationProfile => document.defaultObservationProfileId.map .str
  | .parameter name part => (document.parameter? name).bind fun parameter => parameter.value? part
  | .signature list => (document.signature.value? list).map Json.strings
  | .item part name key => ((document.blueprint.items part).filter fun item =>
      identity? part.identity item = some name).findSome? fun item => item.get? key

/-- What the models make of a field that is left out. -/
def Field.fallback : Field → Option Json
  | .observationProfile => some (.str "full")
  | .parameter _ part => some part.fallback
  | .signature _ => some (.list [])
  | .item _ _ _ => none

def Field.Dumped (document : FamilyDocument) : Field → Prop
  | .observationProfile => True
  | .parameter name _ => ∃ parameter ∈ document.parameters, parameter.name = name
  | .signature _ => True
  | .item _ _ _ => False

def Field.read (payload : FamilyPayload) : Field → Option Json
  | .observationProfile => some (.str payload.defaultObservationProfileId)
  | .parameter name part => ((named "name" payload.parameters).get? name).bind fun item => item.get? part.key
  | .signature list => payload.signature.get? list.key
  | .item part name key => ((named part.identity (payload.blueprint.items part)).get? name).bind
      fun item => item.get? key

/-- Where the families at the end leave the field out, it has the value that it has up to the last that sets
it. -/
def Field.Kept (field : Field) (root : FamilyDocument) (rest : List FamilyDocument) : Prop :=
  ∀ middle back : List FamilyDocument, rest = middle ++ back →
    (field.value? (middle.getLastD root)).isSome = true → (∀ document ∈ back, field.value? document = none) →
    ∀ upTo whole, effectiveFamily root middle = .ok upTo → effectiveFamily root rest = .ok whole →
      field.read whole = field.read upTo

/-- Where the field is set to something else than the default of its model, it is not dumped below, where
it is left out. -/
def Field.DefaultHidden (field : Field) (root : FamilyDocument) (rest : List FamilyDocument) : Prop :=
  ∀ (middle back : List FamilyDocument) (value : Json), rest = middle ++ back →
    field.value? (middle.getLastD root) = some value → (∀ document ∈ back, field.value? document = none) →
    field.fallback = some value ∨ ∀ document ∈ back, ¬ field.Dumped document

end Fields

section Steps

variable {payload next upTo whole : FamilyPayload} {document root : FamilyDocument} {field : Field}
variable {rest middle back : List FamilyDocument} {value : Json}

theorem mergeFamilyPayload_eq_ok {parent child : FamilyPayload}
    (h : mergeFamilyPayload parent child = .ok next) :
    mergeNamed "name" parent.parameters child.parameters = .ok next.parameters ∧
      (∀ part : BlueprintPart, mergeNamed part.identity (parent.blueprint.items part)
        (child.blueprint.items part) =
        .ok (next.blueprint.items part)) ∧
      next.signature = deepMerge parent.signature child.signature ∧
      next.defaultObservationProfileId = child.defaultObservationProfileId := by
  obtain ⟨parameters, hparameters, h⟩ := except_bind_eq_ok h
  obtain ⟨blueprint, hblueprint, h⟩ := except_bind_eq_ok h
  obtain ⟨disturbances, -, h⟩ := except_bind_eq_ok h
  obtain rfl := Except.ok.inj h
  obtain ⟨entities, hentities, hblueprint⟩ := except_bind_eq_ok hblueprint
  obtain ⟨relationships, hrelationships, hblueprint⟩ := except_bind_eq_ok hblueprint
  obtain ⟨invariants, hinvariants, hblueprint⟩ := except_bind_eq_ok hblueprint
  obtain ⟨transitionRules, htransitionRules, hblueprint⟩ := except_bind_eq_ok hblueprint
  obtain ⟨observationProfiles, hobservationProfiles, hblueprint⟩ := except_bind_eq_ok hblueprint
  obtain rfl := Except.ok.inj hblueprint
  refine ⟨hparameters, ?_, rfl, rfl⟩
  intro part
  cases part with
  | entities => exact hentities
  | relationships => exact hrelationships
  | invariants => exact hinvariants
  | transitionRules => exact htransitionRules
  | observationProfiles => exact hobservationProfiles

theorem nodup_parameter_fields (parameter : ParameterDocument) : (parameter.fields.map Prod.fst).Nodup := by
  show ["name", "title", "parameter_type", "description", "required", "default", "options"].Nodup
  decide

theorem nodup_signature_fields (signature : SignatureDocument) : (signature.fields.map Prod.fst).Nodup := by
  show ["invariant_families", "disturbance_mechanisms", "temporal_forms", "topology_patterns",
    "observation_profiles",
    "recovery_strategy_classes", "coverage_labels"].Nodup
  decide

theorem withIdentity_dump (parameter : ParameterDocument) :
    withIdentity "name" parameter.dump = .ok (parameter.name, parameter.dump) := by
  have hname : parameter.dump.get? "name" = some (.str parameter.name) :=
    (Dict.get?_ofList_eq_some (nodup_parameter_fields parameter)).mpr List.mem_cons_self
  rw [withIdentity, identity?, hname]

theorem mapM_withIdentity_dump (parameters : List ParameterDocument) :
    (parameters.map ParameterDocument.dump).mapM (withIdentity "name") =
      .ok (parameters.map fun parameter => (parameter.name, parameter.dump)) := by
  induction parameters with
  | nil => rfl
  | cons parameter parameters ih =>
    rw [List.map_cons, List.mapM_cons, ih, withIdentity_dump]
    rfl

theorem get?_dump_parameter (parameter : ParameterDocument) (part : ParameterPart) :
    parameter.dump.get? part.key = some ((parameter.value? part).getD part.fallback) := by
  apply (Dict.get?_ofList_eq_some (nodup_parameter_fields parameter)).mpr
  cases part with
  | required => cases hrequired : parameter.required <;>
      simp [ParameterDocument.fields, ParameterPart.key, ParameterDocument.value?,
        ParameterPart.fallback, hrequired]
  | default => simp [ParameterDocument.fields, ParameterPart.key, ParameterDocument.value?,
      ParameterPart.fallback]
  | options => cases hoptions : parameter.options <;>
      simp [ParameterDocument.fields, ParameterPart.key, ParameterDocument.value?,
        ParameterPart.fallback, hoptions]

theorem get?_dump_signature (signature : SignatureDocument) (list : SignatureList) :
    signature.dump.get? list.key = some (((signature.value? list).map Json.strings).getD (.list [])) := by
  have hstrings : ∀ found : Option (List String), (found.map Json.strings).getD (.list []) =
    Json.strings (found.getD []) := by
    intro found
    cases found <;> rfl
  rw [hstrings]
  apply (Dict.get?_ofList_eq_some (nodup_signature_fields signature)).mpr
  cases list <;> simp [SignatureDocument.fields, SignatureList.key, SignatureDocument.value?]

theorem mergedInto_of_lacking {name key : String} {added : List (String × JsonObject)} (old : Option JsonObject)
    (h : ∀ entry ∈ added, entry.1 = name → entry.2.get? key = none) :
    ((mergedInto name old added).bind fun item => item.get? key) = old.bind fun item => item.get? key := by
  unfold mergedInto
  induction added generalizing old with
  | nil => rfl
  | cons entry rest ih =>
    have hrest : ∀ other ∈ rest, other.1 = name → other.2.get? key = none :=
      fun other hother => h other (List.mem_cons_of_mem _ hother)
    rw [List.filter_cons]
    split
    · rename_i hname
      rw [List.foldl_cons, ih _ hrest]
      show (deepMerge (old.getD ∅) entry.2).get? key = _
      rw [get?_deepMerge, h entry List.mem_cons_self (of_decide_eq_true hname)]
      cases old with
      | none => rfl
      | some found => rfl
    · exact ih old hrest

theorem mergedInto_last {name key : String} {added : List (String × JsonObject)} (old : Option JsonObject)
    {last : String × JsonObject} {value : Json}
    (hlast : (added.filter fun entry => entry.1 = name).getLast? = some last)
    (hvalue : last.2.get? key = some value) :
    ∃ before, ((mergedInto name old added).bind fun item => item.get? key) = some (mergeInto value before) := by
  obtain ⟨front, hfront⟩ := List.getLast?_eq_some_iff.mp hlast
  rw [mergedInto, hfront, List.foldl_append]
  generalize front.foldl (fun found entry => some (deepMerge (found.getD ∅) entry.2)) old = reached
  refine ⟨(reached.getD ∅).get? key, ?_⟩
  show (deepMerge (reached.getD ∅) last.2).get? key = _
  rw [get?_deepMerge, hvalue]
  rfl

theorem getLast?_dumped (document : FamilyDocument) (name : String) :
    ((document.parameters.map fun parameter => (parameter.name, parameter.dump)).filter
        fun entry => entry.1 = name).getLast? =
      (document.parameter? name).map fun parameter => (parameter.name, parameter.dump) := by
  rw [List.filter_map, List.getLast?_map]
  rfl

theorem read_parameter_step {name : String} {part : ParameterPart}
    (h : mergeFamilyPayload payload document.dump = .ok next) :
    (document.parameter? name = none →
        Field.read next (.parameter name part) = Field.read payload (.parameter name part)) ∧
      ∀ parameter, document.parameter? name = some parameter → ∃ before,
        Field.read next (.parameter name part) =
          some (mergeInto ((parameter.value? part).getD part.fallback) before) := by
  obtain ⟨hparameters, -⟩ := mergeFamilyPayload_eq_ok h
  obtain ⟨added, hadded, hnamed⟩ := @get?_named_mergeNamed _ name _ _ _ hparameters
  obtain rfl := Except.ok.inj (hadded.symm.trans (mapM_withIdentity_dump document.parameters))
  constructor
  · intro hnone
    show ((named "name" next.parameters).get? name).bind _ = _
    rw [hnamed]
    apply mergedInto_of_lacking
    intro entry hentry hname
    obtain ⟨parameter, hparameter, rfl⟩ := List.mem_map.mp hentry
    rw [FamilyDocument.parameter?, List.getLast?_eq_none_iff, List.filter_eq_nil_iff] at hnone
    exact absurd (decide_eq_true hname) (hnone parameter hparameter)
  · intro parameter hparameter
    have hlast := getLast?_dumped document name
    rw [hparameter] at hlast
    show ∃ before, ((named "name" next.parameters).get? name).bind _ = _
    rw [hnamed]
    exact mergedInto_last _ hlast (get?_dump_parameter parameter part)

theorem dumped_parameter_iff {name : String} {part : ParameterPart} :
    Field.Dumped document (.parameter name part) ↔ document.parameter? name ≠ none := by
  rw [Ne, FamilyDocument.parameter?, List.getLast?_eq_none_iff, List.filter_eq_nil_iff]
  simp [Field.Dumped]

theorem read_step_of_not_dumped (h : mergeFamilyPayload payload document.dump = .ok next)
    (hunset : field.value? document = none) (hdumped : ¬ field.Dumped document) : field.read next =
      field.read payload := by
  cases field with
  | observationProfile => exact absurd trivial hdumped
  | signature list => exact absurd trivial hdumped
  | parameter name part =>
    exact (read_parameter_step h).1 (not_not.mp fun hsome => hdumped (dumped_parameter_iff.mpr hsome))
  | item part name key =>
    obtain ⟨-, hitems, -⟩ := mergeFamilyPayload_eq_ok h
    obtain ⟨added, hadded, hnamed⟩ := @get?_named_mergeNamed _ name _ _ _ (hitems part)
    show ((named part.identity (next.blueprint.items part)).get? name).bind _ = _
    rw [hnamed]
    apply mergedInto_of_lacking
    intro entry hentry hname
    obtain ⟨item, hitem, hok⟩ := mem_of_mapM hadded hentry
    obtain ⟨rfl, hidentity⟩ := withIdentity_eq_ok hok
    have hlacking := List.findSome?_eq_none_iff.mp hunset
    apply hlacking
    exact List.mem_filter.mpr ⟨hitem, decide_eq_true (hname ▸ hidentity)⟩

theorem read_step_of_dumped (h : mergeFamilyPayload payload document.dump = .ok next)
    (hunset : field.value? document = none) (hdumped : field.Dumped document) : field.read next =
      field.fallback := by
  obtain ⟨-, -, hsignature, hobservation⟩ := mergeFamilyPayload_eq_ok h
  cases field with
  | observationProfile =>
    show some (Json.str next.defaultObservationProfileId) = _
    rw [hobservation]
    show some (Json.str (document.defaultObservationProfileId.getD "full")) = _
    rw [Option.map_eq_none_iff.mp hunset]
    rfl
  | signature list =>
    show next.signature.get? list.key = _
    rw [hsignature, get?_deepMerge]
    show ((document.signature.dump.get? list.key).map _).or _ = _
    rw [get?_dump_signature, show (document.signature.value? list).map Json.strings = none from hunset]
    rfl
  | parameter name part =>
    obtain ⟨parameter, hparameter⟩ := Option.ne_none_iff_exists'.mp (dumped_parameter_iff.mp hdumped)
    obtain ⟨before, hread⟩ := (read_parameter_step h).2 parameter hparameter
    have hnone : parameter.value? part = none := by
      have hvalue : (document.parameter? name).bind (fun parameter => parameter.value? part) = none := hunset
      rw [hparameter] at hvalue
      exact hvalue
    rw [hread, hnone, Option.getD_none]
    cases part with
    | required => rfl
    | default => rfl
    | options => rfl
  | item part name key => cases hdumped

theorem read_step_of_set (h : mergeFamilyPayload payload document.dump = .ok next)
    (hset : field.value? document = some value) (hmodel : field.fallback ≠ none) :
    ∃ before, field.read next = some (mergeInto value before) := by
  obtain ⟨-, -, hsignature, hobservation⟩ := mergeFamilyPayload_eq_ok h
  cases field with
  | observationProfile =>
    refine ⟨none, ?_⟩
    show some (Json.str next.defaultObservationProfileId) = _
    rw [hobservation]
    show some (Json.str (document.defaultObservationProfileId.getD "full")) = _
    obtain ⟨profileId, hprofile, rfl⟩ := Option.map_eq_some_iff.mp hset
    rw [hprofile]
    rfl
  | signature list =>
    refine ⟨payload.signature.get? list.key, ?_⟩
    show next.signature.get? list.key = _
    rw [hsignature, get?_deepMerge]
    show ((document.signature.dump.get? list.key).map _).or _ = _
    rw [get?_dump_signature, show (document.signature.value? list).map Json.strings = some value from hset]
    rfl
  | parameter name part =>
    obtain ⟨parameter, hparameter, hvalue⟩ := Option.bind_eq_some_iff.mp hset
    obtain ⟨before, hread⟩ := (read_parameter_step h).2 parameter hparameter
    rw [hvalue] at hread
    exact ⟨before, hread⟩
  | item part name key => exact absurd rfl hmodel

theorem read_root_of_set (hset : field.value? root = some value) (hmodel : field.fallback ≠ none) :
    field.read root.dump = some value := by
  cases field with
  | observationProfile =>
    show some (Json.str (root.defaultObservationProfileId.getD "full")) = _
    obtain ⟨profileId, hprofile, rfl⟩ := Option.map_eq_some_iff.mp hset
    rw [hprofile]
    rfl
  | signature list =>
    show root.signature.dump.get? list.key = _
    rw [get?_dump_signature, show (root.signature.value? list).map Json.strings = some value from hset]
    rfl
  | parameter name part =>
    obtain ⟨parameter, hparameter, hvalue⟩ := Option.bind_eq_some_iff.mp hset
    have hlast := getLast?_dumped root name
    rw [hparameter, Option.map_some] at hlast
    have hnamed : (named "name" root.dump.parameters).get? name = some parameter.dump := by
      rw [FamilyDocument.dump, named_of_mapM (mapM_withIdentity_dump root.parameters), Dict.get?_ofList, hlast,
        Option.map_some]
    rw [Field.read, hnamed, Option.bind_some, get?_dump_parameter, hvalue, Option.getD_some]
  | item part name key => exact absurd rfl hmodel

end Steps

section Runs

variable {payload upTo whole : FamilyPayload} {root : FamilyDocument} {field : Field} {value : Json}
variable {rest middle back : List FamilyDocument}

theorem mergeInto_none (value : Json) : mergeInto value none = value := by
  cases value with
  | dict entries => rfl
  | null => rfl
  | bool value => rfl
  | int value => rfl
  | float value => rfl
  | str value => rfl
  | list items => rfl

theorem isDict_fallback (h : field.fallback = some value) : isDict value = false := by
  cases field with
  | observationProfile => cases h; rfl
  | signature list => cases h; rfl
  | parameter name part =>
    cases h
    cases part with
    | required => rfl
    | default => rfl
    | options => rfl
  | item part name key => cases h

theorem read_of_not_dumped
    (h : back.foldlM (fun payload document => mergeFamilyPayload payload document.dump) payload = .ok whole)
    (hunset : ∀ document ∈ back, field.value? document = none)
    (hdumped : ∀ document ∈ back, ¬ field.Dumped document) :
    field.read whole = field.read payload := by
  induction back generalizing payload with
  | nil => rw [← Except.ok.inj h]
  | cons document back ih =>
    rw [List.foldlM_cons] at h
    obtain ⟨next, hnext, h⟩ := except_bind_eq_ok h
    have hhead := read_step_of_not_dumped hnext (hunset document List.mem_cons_self)
      (hdumped document List.mem_cons_self)
    rw [← hhead]
    apply ih h
    · exact fun other hother => hunset other (List.mem_cons_of_mem _ hother)
    · exact fun other hother => hdumped other (List.mem_cons_of_mem _ hother)

theorem read_of_dumped
    (h : back.foldlM (fun payload document => mergeFamilyPayload payload document.dump) payload = .ok whole)
    (hunset : ∀ document ∈ back, field.value? document = none)
    (hdumped : ∃ document ∈ back, field.Dumped document) :
    field.read whole = field.fallback := by
  induction back generalizing payload with
  | nil => obtain ⟨document, hdocument, -⟩ := hdumped; cases hdocument
  | cons document back ih =>
    rw [List.foldlM_cons] at h
    obtain ⟨next, hnext, h⟩ := except_bind_eq_ok h
    have hrest : ∀ other ∈ back, field.value? other = none :=
      fun other hother => hunset other (List.mem_cons_of_mem _ hother)
    by_cases hback : ∃ other ∈ back, field.Dumped other
    · exact ih h hrest hback
    · -- the first is the last to dump it
      obtain ⟨found, hfound, hits⟩ := hdumped
      have hhead : field.Dumped document := by
        rcases List.mem_cons.mp hfound with rfl | hlater
        · exact hits
        · exact absurd ⟨found, hlater, hits⟩ hback
      rw [read_of_not_dumped h hrest fun other hother hother' => hback ⟨other, hother, hother'⟩]
      exact read_step_of_dumped hnext (hunset document List.mem_cons_self) hhead

theorem effectiveFamily_append : effectiveFamily root (middle ++ back) =
    effectiveFamily root middle >>= fun upTo =>
    back.foldlM (fun payload document => mergeFamilyPayload payload document.dump) upTo :=
  List.foldlM_append

theorem read_of_set (h : effectiveFamily root middle = .ok upTo)
    (hset : field.value? (middle.getLastD root) = some value)
    (hmodel : field.fallback ≠ none) : ∃ before, field.read upTo = some (mergeInto value before) := by
  induction middle using List.reverseRecOn with
  | nil =>
    refine ⟨none, ?_⟩
    rw [mergeInto_none, ← Except.ok.inj h]
    exact read_root_of_set hset hmodel
  | append_singleton front document =>
    rw [effectiveFamily_append] at h
    obtain ⟨reached, -, h⟩ := except_bind_eq_ok h
    rw [List.foldlM_cons] at h
    obtain ⟨next, hnext, h⟩ := except_bind_eq_ok h
    obtain rfl := Except.ok.inj h
    rw [List.getLastD_concat] at hset
    exact read_step_of_set hnext hset hmodel

theorem fallback_of_dumped (hdumped : ∃ document ∈ back, field.Dumped document) :
    ∃ default, field.fallback = some default := by
  obtain ⟨document, -, hdocument⟩ := hdumped
  cases field with
  | observationProfile => exact ⟨_, rfl⟩
  | signature list => exact ⟨_, rfl⟩
  | parameter name part => exact ⟨_, rfl⟩
  | item part name key => cases hdocument

theorem read_eq_iff (hupTo : effectiveFamily root middle = .ok upTo)
    (hwhole : effectiveFamily root (middle ++ back) = .ok whole)
    (hset : field.value? (middle.getLastD root) = some value) (hunset : ∀ document ∈ back,
      field.value? document = none) :
    field.read whole = field.read upTo ↔ field.fallback = some value ∨ ∀ document ∈ back,
      ¬ field.Dumped document := by
  rw [effectiveFamily_append, hupTo] at hwhole
  by_cases hdumped : ∃ document ∈ back, field.Dumped document
  · obtain ⟨default, hdefault⟩ := fallback_of_dumped hdumped
    obtain ⟨before, hread⟩ := read_of_set hupTo hset (by rw [hdefault]; exact Option.some_ne_none default)
    have hnone : ¬ ∀ document ∈ back, ¬ field.Dumped document := by
      intro hall
      obtain ⟨document, hdocument, hits⟩ := hdumped
      exact hall document hdocument hits
    rw [read_of_dumped hwhole hunset hdumped, hread, hdefault, or_iff_left hnone, Option.some_inj,
      Option.some_inj,
      eq_comm, mergeInto_eq_iff (isDict_fallback hdefault), eq_comm]
  · have hall : ∀ document ∈ back, ¬ field.Dumped document :=
      fun document hdocument hits => hdumped ⟨document, hdocument, hits⟩
    exact iff_of_true (read_of_not_dumped hwhole hunset hall) (Or.inr hall)

/-- A field is kept exactly where no default of its model comes over what was set. -/
theorem kept_iff (h : effectiveFamily root rest = .ok whole) (field : Field) :
    field.Kept root rest ↔ field.DefaultHidden root rest := by
  constructor
  · intro hkept middle back value hrest hset hunset
    subst hrest
    have hsplit := h
    rw [effectiveFamily_append] at hsplit
    obtain ⟨upTo, hupTo, -⟩ := except_bind_eq_ok hsplit
    have hread := hkept middle back rfl (by rw [hset]; rfl) hunset upTo whole hupTo h
    exact (read_eq_iff hupTo h hset hunset).mp hread
  · intro hhidden middle back hrest hset hunset upTo whole hupTo hwhole
    subst hrest
    obtain ⟨value, hvalue⟩ := Option.isSome_iff_exists.mp hset
    exact (read_eq_iff hupTo hwhole hvalue hunset).mpr (hhidden middle back value rfl hvalue hunset)

end Runs

section Examples

def readinessSignature : SignatureDocument where
  invariantFamilies := ["readiness"]
  disturbanceMechanisms := ["state_mutation"]
  temporalForms := ["persistent"]

def databaseFamily : FamilyDocument where
  familyId := "database"
  version := "1.0.0"
  title := "Database"
  description := "A database that stops"
  parameters :=
    [{ name := "replicas", title := "Replicas", parameterType := "integer", default := some (.int 2) }]
  signature := readinessSignature
  blueprint := { entities := [], observationProfiles := [Dict.ofList [("profile_id", .str "full")],
    Dict.ofList [("profile_id", .str "partial")]] }
  disturbances := []
  defaultDisturbanceId := "stop"
  defaultObservationProfileId := some "partial"

def replicatedFamily : FamilyDocument where
  familyId := "replicated-database"
  version := "1.0.0"
  title := "Replicated database"
  description := "One replica of a database stops"
  parentFamilyId := some "database"
  signature := readinessSignature
  blueprint := { entities := [] }
  disturbances := []
  defaultDisturbanceId := "stop"

theorem exists_replicated : ∃ whole, effectiveFamily databaseFamily [replicatedFamily] = .ok whole ∧
    whole.defaultObservationProfileId = "full" := exists_ok_of_toOption (by decide)

/-- A parameter that only the parent declares is kept. -/
theorem replicas_kept : Field.Kept (.parameter "replicas" .default) databaseFamily [replicatedFamily] := by
  obtain ⟨whole, hwhole, -⟩ := exists_replicated
  apply (kept_iff hwhole _).mpr
  intro middle back value hrest _ _
  right
  intro document hdocument hdumped
  have hmem : document ∈ [replicatedFamily] := hrest ▸ List.mem_append_right middle hdocument
  obtain rfl := List.mem_singleton.mp hmem
  obtain ⟨parameter, hparameter, -⟩ := hdumped
  cases hparameter

/-- The family below names no profile, and is observed in full. -/
theorem observationProfile_not_kept : ¬ Field.Kept .observationProfile databaseFamily [replicatedFamily] := by
  intro hkept
  obtain ⟨whole, hwhole, hfull⟩ := exists_replicated
  have hread := hkept [] [replicatedFamily] rfl rfl (by decide) databaseFamily.dump whole rfl hwhole
  have hpartial : some (Json.str whole.defaultObservationProfileId) = some (Json.str "partial") := hread
  rw [hfull] at hpartial
  exact absurd hpartial (by decide)

end Examples

end KubeOps.Scenarios
