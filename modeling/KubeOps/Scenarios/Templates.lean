import KubeOps.Models.JsonTree
import KubeOps.Scenarios.Families

/-! Templates of scenarios: their slots, the bindings that a family accepts, and that a family whose
slots are all sure to be bound is never stuck on one. -/
namespace KubeOps.Scenarios

open KubeOps.Foundation KubeOps.Models

/-- `ScenarioCompileError`, `TemplateResolutionError` and a missing key. -/
inductive CompileError where
  | compile (errors : List String)
  | template (key : String)
  | missing (key : String)
deriving DecidableEq, Repr

def CompileError.message : CompileError → String
  | .compile errors => "; ".intercalate errors
  | .template key => s!"missing template binding {key}"
  | .missing key => s!"'{key}'"

section Slots

def isSlotChar (char : Char) : Bool := char.isAlphanum || char ∈ ['_', '.', '-']

/-- The name in a slot that the text begins with. -/
def slotAt : List Char → Option (List Char)
  | '$' :: '{' :: rest =>
    let name := rest.takeWhile isSlotChar
    if name ≠ [] ∧ (rest.drop name.length).head? = some '}' then some name else none
  | _ => none

inductive TemplatePart where
  | char (char : Char)
  | slot (key : String)
deriving DecidableEq

/-- The parts of a text, of which so many characters belong to the slot before. -/
def templateParts : Nat → List Char → List TemplatePart
  | _, [] => []
  | skipped + 1, _ :: rest => templateParts skipped rest
  | 0, first :: rest =>
    match slotAt (first :: rest) with
    | some name => .slot (String.ofList name) :: templateParts (name.length + 2) rest
    | none => .char first :: templateParts 0 rest

/-- `_FULL.match`, whose `$` is also found before a line end that is the last character. -/
def fullSlot (text : String) : Option String :=
  (slotAt text.toList).bind fun name =>
    if text.toList.drop (name.length + 3) ∈ [[], ['\n']] then some (String.ofList name) else none

def TemplatePart.slot? : TemplatePart → Option String
  | .char _ => none
  | .slot key => some key

def textSlots (text : String) : List String :=
  match fullSlot text with
  | some key => [key]
  | none => (templateParts 0 text.toList).filterMap TemplatePart.slot?

variable (python : Python) (bindings : JsonObject)

def boundTo (key : String) : Except CompileError Json :=
  match bindings.get? key with
  | some value => .ok value
  | none => .error (.template key)

def resolvePart : TemplatePart → Except CompileError String
  | .char char => .ok char.toString
  | .slot key => (boundTo bindings key).map python.str

def resolveText (text : String) : Except CompileError Json :=
  match fullSlot text with
  | some key => boundTo bindings key
  | none => do
    let parts ← (templateParts 0 text.toList).mapM (resolvePart python bindings)
    return .str (String.join parts)

mutual

/-- `resolve_template` -/
def resolveTemplate : Json → Except CompileError Json
  | .null => .ok .null
  | .bool value => .ok (.bool value)
  | .int value => .ok (.int value)
  | .float value => .ok (.float value)
  | .str text => resolveText python bindings text
  | .list items => (resolveItems items).map .list
  | .dict entries => (resolveEntries entries).map .dict

def resolveItems : List Json → Except CompileError (List Json)
  | [] => .ok []
  | item :: items => do
    let first ← resolveTemplate item
    let rest ← resolveItems items
    return first :: rest

def resolveEntries : List (String × Json) → Except CompileError (List (String × Json))
  | [] => .ok []
  | (key, value) :: entries => do
    let first ← resolveTemplate value
    let rest ← resolveEntries entries
    return (key, first) :: rest

end

mutual

def slotsOf : Json → List String
  | .str text => textSlots text
  | .list items => slotsOfItems items
  | .dict entries => slotsOfEntries entries
  | _ => []

def slotsOfItems : List Json → List String
  | [] => []
  | item :: items => slotsOf item ++ slotsOfItems items

def slotsOfEntries : List (String × Json) → List String
  | [] => []
  | (_, value) :: entries => slotsOf value ++ slotsOfEntries entries

end

variable {python bindings}

/-- What goes wrong names a slot that nothing is bound to. -/
def Unbound (bindings : JsonObject) (slots : List String) (error : CompileError) : Prop :=
  ∃ key ∈ slots, key ∉ bindings.keys ∧ error = .template key

theorem Unbound.mono {slots more : List String} {error : CompileError} (h : Unbound bindings slots error)
    (hsubset : slots ⊆ more) : Unbound bindings more error := by
  obtain ⟨key, hmem, hkey⟩ := h
  exact ⟨key, hsubset hmem, hkey⟩

theorem unbound_of_boundTo {key : String} {error : CompileError} (h : boundTo bindings key = .error error) :
    Unbound bindings [key] error := by
  unfold boundTo at h
  split at h
  · cases h
  · rename_i hnone
    exact ⟨key, List.mem_singleton_self key, Dict.get?_eq_none.mp hnone, (Except.error.inj h).symm⟩

theorem exists_of_mapM_error {ε α β : Type} {f : α → Except ε β} {items : List α} {error : ε}
    (h : items.mapM f = .error error) : ∃ item ∈ items, f item = .error error := by
  induction items with
  | nil => cases h
  | cons item items ih =>
    rw [List.mapM_cons] at h
    cases hitem : f item with
    | error failure =>
      rw [hitem] at h
      exact ⟨item, List.mem_cons_self, hitem.trans (congrArg _ (Except.error.inj h))⟩
    | ok value =>
      rw [hitem] at h
      cases hrest : items.mapM f with
      | error failure =>
        rw [hrest] at h
        obtain ⟨other, hmem, hother⟩ := ih (hrest.trans (congrArg _ (Except.error.inj h)))
        exact ⟨other, List.mem_cons_of_mem _ hmem, hother⟩
      | ok values =>
        rw [hrest] at h
        cases h

theorem error_of_map {ε α β : Type} {result : Except ε α} {f : α → β} {error : ε}
    (h : result.map f = .error error) : result = .error error := by
  cases result with
  | error failure => exact congrArg _ (Except.error.inj h)
  | ok value => cases h

theorem unbound_of_resolveText {text : String} {error : CompileError}
    (h : resolveText python bindings text = .error error) : Unbound bindings (textSlots text) error := by
  unfold resolveText at h
  unfold textSlots
  split at h
  · exact unbound_of_boundTo h
  · obtain ⟨part, hpart, hfails⟩ := exists_of_mapM_error (error_of_map h)
    cases part with
    | char char => cases hfails
    | slot key =>
      apply (unbound_of_boundTo (error_of_map hfails)).mono
      rw [List.cons_subset]
      exact ⟨List.mem_filterMap.mpr ⟨_, hpart, rfl⟩, List.nil_subset _⟩

theorem resolveItems_eq (items : List Json) :
    resolveItems python bindings items = items.mapM (resolveTemplate python bindings) := by
  induction items with
  | nil => rfl
  | cons item items ih =>
    rw [resolveItems, List.mapM_cons, ih]

theorem resolveEntries_eq (entries : List (String × Json)) : resolveEntries python bindings entries =
    entries.mapM fun entry => (resolveTemplate python bindings entry.2).map (Prod.mk entry.1) := by
  induction entries with
  | nil => rfl
  | cons entry entries ih =>
    obtain ⟨key, value⟩ := entry
    rw [resolveEntries, List.mapM_cons, ih]
    cases resolveTemplate python bindings value <;> rfl

theorem slotsOfItems_eq (items : List Json) : slotsOfItems items = items.flatMap slotsOf := by
  induction items with
  | nil => rfl
  | cons item items ih => rw [slotsOfItems, List.flatMap_cons, ih]

theorem slotsOfEntries_eq (entries : List (String × Json)) :
    slotsOfEntries entries = entries.flatMap fun entry => slotsOf entry.2 := by
  induction entries with
  | nil => rfl
  | cons entry entries ih => rw [slotsOfEntries, List.flatMap_cons, ih]

theorem unbound_of_resolveTemplate {template : Json} {error : CompileError}
    (h : resolveTemplate python bindings template = .error error) :
    Unbound bindings (slotsOf template) error := by
  induction template using Json.induct with
  | null | bool _ | int _ | float _ => cases h
  | str text => exact unbound_of_resolveText h
  | list items ih =>
    rw [resolveTemplate, resolveItems_eq] at h
    obtain ⟨item, hmem, hitem⟩ := exists_of_mapM_error (error_of_map h)
    rw [slotsOf, slotsOfItems_eq]
    exact (ih item hmem hitem).mono fun key hkey => List.mem_flatMap.mpr ⟨item, hmem, hkey⟩
  | dict entries ih =>
    rw [resolveTemplate, resolveEntries_eq] at h
    obtain ⟨entry, hmem, hentry⟩ := exists_of_mapM_error (error_of_map h)
    rw [slotsOf, slotsOfEntries_eq]
    exact (ih entry hmem (error_of_map hentry)).mono fun key hkey => List.mem_flatMap.mpr ⟨entry, hmem, hkey⟩

end Slots

section Bindings

inductive ParameterType where
  | string | integer | boolean | enum
deriving DecidableEq, Repr

structure ParameterSpec where
  name : String
  parameterType : ParameterType
  required : Bool := true
  default : Json := .null
  options : List Json := []
  options_some : parameterType = .enum → options ≠ []

inductive ConstraintType where
  | required | notEqual | oneOf
deriving DecidableEq, Repr

structure ConstraintSpec where
  constraintType : ConstraintType
  parameters : List String
  values : List Json := []
  message : String

/-- What a merged family is compiled from; title and description are those of the family itself. -/
structure FamilyTemplates where
  familyId : String
  abstract : Bool := false
  parameters : List ParameterSpec
  constraints : List ConstraintSpec := []
  blueprint : Json
  disturbances : List Json
  defaultDisturbanceId : String
  title : String
  description : String

variable (python : Python) (family : FamilyTemplates) (bindings supplied : JsonObject)

/-- `isinstance(value, int)` holds of a truth value. -/
def ParameterType.accepts (parameter : ParameterSpec) (value : Json) : Bool :=
  match parameter.parameterType, value with
  | .integer, .int _ | .integer, .bool _ | .boolean, .bool _ | .string, .str _ => true
  | .enum, value => parameter.options.any fun option => value.pyEq option
  | _, _ => false

def typeError (parameter : ParameterSpec) : String :=
  match parameter.parameterType with
  | .integer => s!"binding {parameter.name} must be an integer"
  | .boolean => s!"binding {parameter.name} must be a boolean"
  | .string => s!"binding {parameter.name} must be a string"
  | .enum => s!"binding {parameter.name} must be one of {python.str (.list parameter.options)}"

def parameterErrors (parameter : ParameterSpec) : List String :=
  match bindings.get? parameter.name with
  | none => if parameter.required then [s!"missing required binding {parameter.name}"] else []
  | some value =>
    if ParameterType.accepts parameter value then [] else [typeError python parameter]

/-- `_evaluate_constraint` -/
def evaluateConstraint (constraint : ConstraintSpec) : List String :=
  let bound name := (bindings.get? name).getD .null
  let values := constraint.parameters.map bound
  let violated := match constraint.constraintType with
    | .required => values.any fun value => value.pyEq .null || value.pyEq (.str "")
    | .notEqual => 2 ≤ values.length && (values.map python.str).dedup.length ≠ values.length
    | .oneOf => values.any fun value => !constraint.values.any fun allowed => value.pyEq allowed
  if violated then [constraint.message] else []

def unknownErrors : List String :=
  let unknown := (bindings.keys.filter (· ∉ family.parameters.map ParameterSpec.name)).insertionSort (· ≤ ·)
  if unknown = [] then [] else ["unknown bindings: " ++ ", ".intercalate unknown]

/-- `_validate_bindings` -/
def validateBindings : List String :=
  unknownErrors family bindings ++ family.parameters.flatMap (parameterErrors python bindings) ++
    family.constraints.flatMap (evaluateConstraint python bindings)

def completeWith (result : JsonObject) (parameter : ParameterSpec) : JsonObject :=
  if parameter.name ∉ result.keys ∧ parameter.default.isNull = false then
    result.set parameter.name parameter.default
  else result

/-- `_complete_bindings` -/
def completeBindings : JsonObject := family.parameters.foldl completeWith supplied

/-- `next(item for item in disturbance_payloads if ...)` -/
def findDisturbance (requested : String) : List Json → Except CompileError (Option Json)
  | [] => .ok none
  | payload :: payloads =>
    match Json.entry? "disturbance_id" payload with
    | none => .error (.missing "disturbance_id")
    | some id => if id.pyEq (.str requested) then .ok (some payload) else findDisturbance requested payloads

structure ResolvedFamily where
  bindings : JsonObject
  blueprint : Json
  disturbance : Json
  title : Json
  description : Json

/-- What `compile` makes of the templates under bindings that are accepted. -/
def resolveWith (disturbanceId : Option String) : Except CompileError ResolvedFamily := do
  let blueprint ← resolveTemplate python bindings family.blueprint
  let disturbances ← family.disturbances.mapM (resolveTemplate python bindings)
  let requested := (disturbanceId.filter (· ≠ "")).getD family.defaultDisturbanceId
  match ← findDisturbance requested disturbances with
  | none => .error (.compile [s!"unknown disturbance {requested}"])
  | some disturbance => do
    let title ← resolveText python bindings family.title
    let description ← resolveText python bindings family.description
    return { bindings, blueprint, disturbance, title, description }

/-- `ScenarioCompiler.compile`, up to the validation of what the templates become. -/
def resolveFamily (disturbanceId : Option String) : Except CompileError ResolvedFamily :=
  if family.abstract then
    .error (.compile [s!"scenario family {family.familyId} is abstract and cannot be compiled directly"])
  else
    let bindings := completeBindings family supplied
    let errors := validateBindings python family bindings
    if errors = [] then resolveWith python family bindings disturbanceId else .error (.compile errors)

end Bindings

section Acceptance

variable {python : Python} {family : FamilyTemplates} {bindings supplied result : JsonObject} {key : String}
  {parameter : ParameterSpec} {parameters : List ParameterSpec}

structure FamilyTemplates.Accepts (python : Python) (family : FamilyTemplates) (bindings : JsonObject) :
    Prop where
  declared : ∀ key ∈ bindings.keys, key ∈ family.parameters.map ParameterSpec.name
  required : ∀ parameter ∈ family.parameters, parameter.required = true → parameter.name ∈ bindings.keys
  typed : ∀ parameter ∈ family.parameters, ∀ value, bindings.get? parameter.name = some value →
    ParameterType.accepts parameter value = true
  constrained : ∀ constraint ∈ family.constraints, evaluateConstraint python bindings constraint = []

theorem unknownErrors_eq_nil : unknownErrors family bindings = [] ↔
    ∀ key ∈ bindings.keys, key ∈ family.parameters.map ParameterSpec.name := by
  unfold unknownErrors
  dsimp only
  have hnil : (bindings.keys.filter (· ∉ family.parameters.map ParameterSpec.name)).insertionSort (· ≤ ·) = [] ↔
      bindings.keys.filter (· ∉ family.parameters.map ParameterSpec.name) = [] := by
    rw [← List.length_eq_zero_iff, List.length_insertionSort, List.length_eq_zero_iff]
  split
  · rename_i hunknown
    rw [hnil, List.filter_eq_nil_iff] at hunknown
    simpa using hunknown
  · rename_i hunknown
    rw [hnil, List.filter_eq_nil_iff] at hunknown
    simpa using hunknown

theorem parameterErrors_eq_nil : parameterErrors python bindings parameter = [] ↔
    (parameter.required = true → parameter.name ∈ bindings.keys) ∧
      ∀ value, bindings.get? parameter.name = some value → ParameterType.accepts parameter value = true := by
  unfold parameterErrors
  cases hvalue : bindings.get? parameter.name with
  | none => simp [Dict.get?_eq_none.mp hvalue]
  | some value => simp [Dict.isSome_get?_iff.mp (Option.isSome_of_eq_some hvalue)]

theorem validateBindings_eq_nil : validateBindings python family bindings = [] ↔ family.Accepts python bindings := by
  unfold validateBindings
  rw [List.append_eq_nil_iff, List.append_eq_nil_iff, unknownErrors_eq_nil, List.flatMap_eq_nil_iff,
    List.flatMap_eq_nil_iff]
  constructor
  · rintro ⟨⟨hdeclared, hparameters⟩, hconstraints⟩
    exact ⟨hdeclared, fun parameter hmem => (parameterErrors_eq_nil.mp (hparameters parameter hmem)).1,
      fun parameter hmem => (parameterErrors_eq_nil.mp (hparameters parameter hmem)).2, hconstraints⟩
  · intro h
    exact ⟨⟨h.declared, fun parameter hmem => parameterErrors_eq_nil.mpr
      ⟨h.required parameter hmem, h.typed parameter hmem⟩⟩, h.constrained⟩

theorem mem_keys_completeWith : key ∈ (completeWith result parameter).keys ↔
    key ∈ result.keys ∨ key = parameter.name ∧ parameter.default.isNull = false := by
  unfold completeWith
  split
  · rename_i hmissing
    rw [Dict.mem_keys_set, and_iff_left hmissing.2]
    exact or_comm
  · rename_i hkept
    constructor
    · exact .inl
    · rintro (hmem | ⟨rfl, hdefault⟩)
      · exact hmem
      · by_contra hmissing
        exact hkept ⟨hmissing, hdefault⟩

theorem mem_keys_foldl : key ∈ (parameters.foldl completeWith result).keys ↔ key ∈ result.keys ∨
    ∃ parameter ∈ parameters, key = parameter.name ∧ parameter.default.isNull = false := by
  induction parameters generalizing result with
  | nil => simp
  | cons parameter parameters ih =>
    rw [List.foldl_cons, ih, mem_keys_completeWith, or_assoc]
    simp only [List.mem_cons, exists_eq_or_imp]

theorem get?_foldl {value : Json} (h : result.get? key = some value) :
    (parameters.foldl completeWith result).get? key = some value := by
  induction parameters generalizing result with
  | nil => exact h
  | cons parameter parameters ih =>
    apply ih
    unfold completeWith
    split
    · rename_i hmissing
      rw [Dict.get?_set_ne]
      · exact h
      · rintro rfl
        exact hmissing.1 (Dict.isSome_get?_iff.mp (Option.isSome_of_eq_some h))
    · exact h

/-- Whatever is supplied, bindings that are accepted have a value for the key. -/
def FamilyTemplates.Guarantees (family : FamilyTemplates) (key : String) : Prop :=
  (∃ parameter ∈ family.parameters, parameter.name = key ∧
    (parameter.required = true ∨ parameter.default.isNull = false)) ∨
  ∃ constraint ∈ family.constraints, constraint.constraintType = .required ∧ key ∈ constraint.parameters

theorem bound_of_guarantees (haccepts : family.Accepts python (completeBindings family supplied))
    (h : family.Guarantees key) : key ∈ (completeBindings family supplied).keys := by
  rcases h with ⟨parameter, hmem, rfl, hrequired | hdefault⟩ | ⟨constraint, hmem, htype, hkey⟩
  · exact haccepts.required parameter hmem hrequired
  · exact mem_keys_foldl.mpr (.inr ⟨parameter, hmem, rfl, hdefault⟩)
  · have hnone := haccepts.constrained constraint hmem
    unfold evaluateConstraint at hnone
    simp only [htype] at hnone
    split at hnone
    · cases hnone
    · rename_i hviolated
      by_contra hmissing
      apply hviolated
      rw [List.any_map, List.any_eq_true]
      refine ⟨key, hkey, ?_⟩
      rw [Function.comp_apply, Dict.get?_eq_none.mpr hmissing]
      rfl

def FamilyTemplates.slots (family : FamilyTemplates) : List String :=
  slotsOf family.blueprint ++ family.disturbances.flatMap slotsOf ++ textSlots family.title ++
    textSlots family.description

theorem findDisturbance_error {requested : String} {payloads : List Json} {error : CompileError}
    (h : findDisturbance requested payloads = .error error) : error = .missing "disturbance_id" := by
  induction payloads with
  | nil => cases h
  | cons payload payloads ih =>
    unfold findDisturbance at h
    split at h
    · exact (Except.error.inj h).symm
    · split at h
      · cases h
      · exact ih h

theorem exists_resolveTemplate (python : Python) {template : Json} (hbound : slotsOf template ⊆ bindings.keys) :
    ∃ value, resolveTemplate python bindings template = .ok value := by
  cases h : resolveTemplate python bindings template with
  | ok value => exact ⟨value, rfl⟩
  | error error =>
    obtain ⟨key, hmem, hmissing, -⟩ := unbound_of_resolveTemplate h
    exact absurd (hbound hmem) hmissing

theorem exists_resolveText (python : Python) {text : String} (hbound : textSlots text ⊆ bindings.keys) :
    ∃ value, resolveText python bindings text = .ok value := by
  cases h : resolveText python bindings text with
  | ok value => exact ⟨value, rfl⟩
  | error error =>
    obtain ⟨key, hmem, hmissing, -⟩ := unbound_of_resolveText h
    exact absurd (hbound hmem) hmissing

theorem resolveWith_cases (python : Python) (disturbanceId : Option String) (hbound : family.slots ⊆ bindings.keys) :
    (∃ errors, resolveWith python family bindings disturbanceId = .error (.compile errors)) ∨
      (∃ key, resolveWith python family bindings disturbanceId = .error (.missing key)) ∨
      ∃ resolved, resolveWith python family bindings disturbanceId = .ok resolved ∧
        resolved.bindings = bindings := by
  have hslots := hbound
  unfold FamilyTemplates.slots at hslots
  rw [List.append_subset, List.append_subset, List.append_subset] at hslots
  obtain ⟨⟨⟨hblueprint, hdisturbances⟩, htitle⟩, hdescription⟩ := hslots
  obtain ⟨blueprint, hblueprint⟩ := exists_resolveTemplate python hblueprint
  obtain ⟨disturbances, hresolved⟩ : ∃ values,
      family.disturbances.mapM (resolveTemplate python bindings) = .ok values := by
    apply exists_mapM_ok
    intro disturbance hmem
    exact exists_resolveTemplate python fun key hkey => hdisturbances (List.mem_flatMap.mpr ⟨disturbance, hmem, hkey⟩)
  obtain ⟨title, htitle⟩ := exists_resolveText python htitle
  obtain ⟨description, hdescription⟩ := exists_resolveText python hdescription
  unfold resolveWith
  rw [hblueprint, hresolved]
  cases hfound : findDisturbance ((disturbanceId.filter (· ≠ "")).getD family.defaultDisturbanceId)
    disturbances with
  | error error =>
    rw [findDisturbance_error hfound] at hfound
    refine .inr (.inl ⟨"disturbance_id", ?_⟩)
    change (findDisturbance _ disturbances >>= _) = _
    rw [hfound]
    rfl
  | ok found =>
    cases found with
    | none =>
      let requested := (disturbanceId.filter (· ≠ "")).getD family.defaultDisturbanceId
      refine .inl ⟨[s!"unknown disturbance {requested}"], ?_⟩
      change (findDisturbance _ disturbances >>= _) = _
      rw [hfound]
      rfl
    | some disturbance =>
      refine .inr (.inr ⟨⟨bindings, blueprint, disturbance, title, description⟩, ?_, rfl⟩)
      change (findDisturbance _ disturbances >>= _) = _
      rw [hfound]
      change (resolveText python bindings family.title >>= _) = _
      rw [htitle]
      change (resolveText python bindings family.description >>= _) = _
      rw [hdescription]
      rfl

/-- A family each slot of which is a parameter that is required or has a default, or is named by a
constraint that requires it, is never stuck on a slot, whatever is supplied. What it is compiled with
are declared parameters with values of their types that meet its constraints, and what was supplied is
kept. -/
theorem resolveFamily_sound (hslots : ∀ key ∈ family.slots, family.Guarantees key) (supplied : JsonObject)
    (disturbanceId : Option String) :
    (∀ key, resolveFamily python family supplied disturbanceId ≠ .error (.template key)) ∧
      ∀ resolved, resolveFamily python family supplied disturbanceId = .ok resolved →
        family.Accepts python resolved.bindings ∧
          ∀ key value, supplied.get? key = some value → resolved.bindings.get? key = some value := by
  unfold resolveFamily
  dsimp only
  split
  · exact ⟨nofun, nofun⟩
  · split
    · rename_i herrors
      have haccepts := validateBindings_eq_nil.mp herrors
      have hbound : family.slots ⊆ (completeBindings family supplied).keys :=
        fun key hmem => bound_of_guarantees haccepts (hslots key hmem)
      rcases resolveWith_cases python disturbanceId hbound with
        ⟨errors, hfails⟩ | ⟨key, hfails⟩ | ⟨resolved, hresolved, hbindings⟩
      · rw [hfails]
        exact ⟨nofun, nofun⟩
      · rw [hfails]
        exact ⟨nofun, nofun⟩
      · rw [hresolved]
        refine ⟨nofun, ?_⟩
        intro other hother
        rw [← Except.ok.inj hother, hbindings]
        exact ⟨haccepts, fun key value hvalue => get?_foldl hvalue⟩
    · exact ⟨nofun, nofun⟩

end Acceptance

section Example

theorem options_some_of_ne {kind : ParameterType} {options : List Json} (h : (kind == .enum) = false) :
    kind = .enum → options ≠ [] := by
  intro henum
  rw [henum] at h
  cases h

def podFamily : FamilyTemplates where
  familyId := "pod"
  parameters := [
    { name := "pod", parameterType := .string, options_some := options_some_of_ne rfl },
    { name := "delay", parameterType := .integer, required := false, default := .int 2, options_some := options_some_of_ne rfl }]
  blueprint := .dict [("entities", .list [.dict [("entity_id", .str "pod-$\x7bpod\x7d")]])]
  disturbances := [.dict [("disturbance_id", .str "late"), ("at_seconds", .str "$\x7bdelay\x7d")]]
  defaultDisturbanceId := "late"
  title := "Pod $\x7bpod\x7d"
  description := ""

example : textSlots "$$\x7bpod\x7d$\x7bpod-x" = ["pod"] ∧ textSlots "$\x7bpod\x7d\n" = ["pod"] := by decide

theorem podFamily_sound : ∃ resolved,
    resolveFamily .plain podFamily ((∅ : JsonObject).set "pod" (.str "a")) none = .ok resolved ∧
      podFamily.Accepts .plain resolved.bindings := by
  have hresolved : (resolveFamily .plain podFamily ((∅ : JsonObject).set "pod" (.str "a")) none).toOption.isSome =
      true := by decide
  obtain ⟨resolved, hresolved⟩ := Option.isSome_iff_exists.mp hresolved
  have hok := except_toOption_eq_some.mp hresolved
  refine ⟨resolved, hok, ((resolveFamily_sound ?_ _ none).2 resolved hok).1⟩
  have hslots : podFamily.slots = ["pod", "delay", "pod"] := by decide
  rw [hslots]
  intro key hkey
  left
  rcases List.mem_cons.mp hkey with rfl | hkey
  · exact ⟨_, List.mem_cons_self, rfl, .inl rfl⟩
  · rcases List.mem_cons.mp hkey with rfl | hkey
    · exact ⟨_, List.mem_cons_of_mem _ List.mem_cons_self, rfl, .inr rfl⟩
    · obtain rfl := List.mem_singleton.mp hkey
      exact ⟨_, List.mem_cons_self, rfl, .inl rfl⟩

end Example

end KubeOps.Scenarios
