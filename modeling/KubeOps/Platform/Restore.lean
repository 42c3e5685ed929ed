import KubeOps.Platform.BackupVerification

/-! The command that restores the control plane from a backup. What it destroys it has replaced by
a file whose hash it has verified, where each component has its own file under its id. -/
namespace KubeOps.Platform

open KubeOps.Foundation KubeOps.Models

section Files

inductive CommandFailure where
  | commandError (message : String)
  | exception (error : PyError)

structure BackupFiles where
  isAbsolute : String → Bool
  /-- `(directory / candidate).resolve()` -/
  resolve : String → String
  /-- The directory is the path itself or among its parents. -/
  inDirectory : String → Bool
  /-- What is in the file, if there is one. -/
  content : String → Option (List UInt8)

variable (python : Python) (files : BackupFiles) (hashing : Hashing)

/-- `_component_path` -/
def componentPath (source : String) : Except CommandFailure String :=
  if files.isAbsolute source then
    .error (.commandError s!"backup component source must be relative: {python.repr (.str source)}")
  else if files.inDirectory (files.resolve source) then .ok (files.resolve source)
  else .error (.commandError s!"backup component escapes its backup directory: {python.repr (.str source)}")

/-- One turn of the loop over the components. -/
def addPayload (payloads : Dict String String) (component : BackupComponent) :
    Except CommandFailure (Dict String String) := do
  let path ← componentPath python files component.source
  return if (files.content path).isSome then payloads.set component.componentId path else payloads

/-- `_payloads` -/
def payloadPaths (manifest : ControlPlaneBackupManifest) : Except CommandFailure (Dict String String) :=
  manifest.components.foldlM (addPayload python files) ∅

def payloadsAt (paths : Dict String String) : Dict String Payload :=
  paths.mapValues fun path => .path (files.content path)

end Files

section Command

structure RestoreOptions where
  targetVersion : String := "1.0.0"
  apply : Bool := false
  confirmBackupId : String := ""

/-- What the command finds when it runs. -/
structure RestoreSettings where
  verifiedAtIso : String
  restoreEnabled : Bool
  hasActiveOperations : Bool
  artifactBackend : String
  artifactDirExists : Bool

/-- How the steps end that the command leaves to Django, `shutil` and `tarfile`. -/
structure RestoreOutcomes where
  flushed : Except CommandFailure Unit
  loaded : String → Except CommandFailure Unit
  removed : Except CommandFailure Unit
  prepared : Except CommandFailure Unit
  inspected : List UInt8 → Except CommandFailure Unit
  extracted : List UInt8 → Except CommandFailure Unit

/-- What the command does to the control plane. -/
inductive RestoreEffect where
  | flush
  | loaddata (path : String)
  | removeArtifacts
  | extractArtifacts (path : String)
  | extractConfiguration (path : String)
deriving DecidableEq, Repr

structure RestoreStep where
  effect : Option RestoreEffect := none
  outcome : Except CommandFailure Unit

def performed : List RestoreStep → List RestoreEffect
  | [] => []
  | step :: steps =>
    step.effect.toList ++
      match step.outcome with
      | .ok () => performed steps
      | .error _ => []

variable (python : Python) (files : BackupFiles) (hashing : Hashing) (settings : RestoreSettings)
variable (options : RestoreOptions) (outcomes : RestoreOutcomes) (manifest : ControlPlaneBackupManifest)

def liftError {α : Type} (result : Except PyError α) : Except CommandFailure α := result.mapError .exception

/-- `component_by_type.get(...)` -/
def componentByType (componentType : String) : Option BackupComponent :=
  (Dict.ofList (manifest.components.map fun component =>
    (component.componentType, component))).get? componentType

/-- What comes before the flush: nothing where nothing is to be applied, else the path of the database. -/
def gate : Except CommandFailure (Option String) := do
  let paths ← payloadPaths python files manifest
  let fresh ← liftError (verifyManifest hashing settings.verifiedAtIso manifest (payloadsAt files paths))
  let plan ← liftError (restorePlan python fresh options.targetVersion)
  if options.apply = false then return none
  else if settings.restoreEnabled = false then
    throw (.commandError
      "restore is disabled; set KUBEOPS_RESTORE_ENABLED=1 only in a controlled recovery window")
  else if options.confirmBackupId ≠ manifest.backupId then
    throw (.commandError "--confirm-backup-id must exactly match the manifest backup_id")
  else if manifest.status ≠ .verified ∨ fresh.status ≠ .verified ∨ plan.compatible = false then
    throw (.commandError ("backup failed fresh verification or target version is incompatible: "
      ++ python.str ((fresh.metadata.get? "verification_failures").getD (.list []))))
  else if settings.hasActiveOperations then
    throw (.commandError "active operations must be drained before control-plane restore")
  else match componentByType manifest "database" with
    | none => throw (.commandError "database backup component is unavailable")
    | some database => do
      let path ← componentPath python files database.source
      return some path

/-- `tarfile.open` and `_safe_extract` -/
def extraction (effect : String → RestoreEffect) (source : String) : List RestoreStep :=
  match componentPath python files source with
  | .error failure => [{ outcome := .error failure }]
  | .ok path =>
    match files.content path with
    | none => [{ outcome := .error (.exception .fileNotFoundError) }]
    | some content => [{ outcome := outcomes.inspected content },
        { effect := some (effect path), outcome := outcomes.extracted content }]

def removalSteps (artifact : BackupComponent) : List RestoreStep :=
  [{ outcome := (componentPath python files artifact.source).map fun _ => () }] ++
    (if settings.artifactDirExists then
      [{ effect := some .removeArtifacts, outcome := outcomes.removed }] else []) ++
    [{ outcome := outcomes.prepared }]

def artifactSteps : List RestoreStep :=
  match componentByType manifest "artifact_store" with
  | none => []
  | some artifact =>
    if settings.artifactBackend ≠ "file" then []
    else removalSteps python files settings outcomes artifact ++
      extraction python files outcomes .extractArtifacts artifact.source

def configurationSteps : List RestoreStep :=
  match componentByType manifest "configuration" with
  | none => []
  | some configuration => extraction python files outcomes .extractConfiguration configuration.source

def databaseSteps (databasePath : String) : List RestoreStep := [
  { effect := some .flush, outcome := outcomes.flushed },
  { effect := some (.loaddata databasePath), outcome := outcomes.loaded databasePath }]

def applySteps (databasePath : String) : List RestoreStep :=
  databaseSteps outcomes databasePath ++
    (artifactSteps python files settings outcomes manifest ++ configurationSteps python files outcomes manifest)

/-- `Command.handle`, by what it does to the control plane. -/
def handle : List RestoreEffect :=
  match gate python files hashing settings options manifest with
  | .ok (some databasePath) => performed (applySteps python files settings outcomes manifest databasePath)
  | .ok none | .error _ => []

end Command

section Payloads

variable {python : Python} {files : BackupFiles} {components : List BackupComponent}
  {paths : Dict String String}
variable {componentId path : String}

def hasFile (python : Python) (files : BackupFiles) (componentId : String)
    (component : BackupComponent) : Bool :=
  component.componentId = componentId &&
    ((componentPath python files component.source).toOption.bind files.content).isSome

def lastPath (python : Python) (files : BackupFiles) (components : List BackupComponent)
    (componentId : String) :
    Option String :=
  (components.filter (hasFile python files componentId)).getLast?.bind fun component =>
    (componentPath python files component.source).toOption

theorem lastPath_cons (component : BackupComponent) (components : List BackupComponent) :
    lastPath python files (component :: components) componentId =
      (lastPath python files components componentId).or
      (if hasFile python files componentId component = true then
        (componentPath python files component.source).toOption
      else none) := by
  unfold lastPath
  rw [List.filter_cons]
  cases hlast : (components.filter (hasFile python files componentId)).getLast? with
  | none =>
    rw [List.getLast?_eq_none_iff.mp hlast]
    split_ifs with hown
    · rfl
    · rfl
  | some last =>
    have hfile : hasFile python files componentId last = true :=
      (List.mem_filter.mp (List.mem_of_getLast? hlast)).2
    have hpath : ((componentPath python files last.source).toOption).isSome = true := by
      cases hpath : (componentPath python files last.source).toOption with
      | some path => rfl
      | none =>
        rw [hasFile, hpath, Option.bind_none, Option.isSome_none, Bool.and_false] at hfile
        cases hfile
    obtain ⟨path, hpath⟩ := Option.isSome_iff_exists.mp hpath
    have hwhole : (if hasFile python files componentId component = true then
        component :: components.filter (hasFile python files componentId)
        else components.filter (hasFile python files componentId)).getLast? = some last := by
      split_ifs
      · rw [List.getLast?_cons, hlast]
        rfl
      · exact hlast
    rw [hwhole, Option.bind_some, hpath]
    rfl

theorem get?_foldlM_addPayload {start : Dict String String}
    (h : components.foldlM (addPayload python files) start = .ok paths) :
    paths.get? componentId = (lastPath python files components componentId).or (start.get? componentId) := by
  induction components generalizing start with
  | nil =>
    obtain rfl := Except.ok.inj h
    rfl
  | cons component components ih =>
    rw [List.foldlM_cons] at h
    obtain ⟨next, hnext, hrest⟩ := except_bind_eq_ok h
    obtain ⟨found, hfound, hnext⟩ := except_bind_eq_ok hnext
    obtain rfl := Except.ok.inj hnext
    have hpath : (componentPath python files component.source).toOption = some found := by
      rw [hfound]
      rfl
    rw [ih hrest, lastPath_cons, Option.or_assoc, hasFile, hpath, Option.bind_some]
    congr 1
    by_cases hfile : (files.content found).isSome = true
    · by_cases hid : component.componentId = componentId
      · simp [hfile, hid]
      · simp [hfile, hid, Dict.get?_set_ne _ _ (Ne.symm hid)]
    · simp [hfile]

theorem get?_payloadPaths {manifest : ControlPlaneBackupManifest}
    (h : payloadPaths python files manifest = .ok paths) :
    paths.get? componentId = lastPath python files manifest.components componentId := by
  rw [get?_foldlM_addPayload h, Dict.get?_empty, Option.or_none]

end Payloads

section Steps

variable {steps others : List RestoreStep} {effect : RestoreEffect}

theorem mem_performed_append (h : effect ∈ performed (steps ++ others)) :
    effect ∈ performed steps ∨ (∀ step ∈ steps, step.outcome = .ok ()) ∧ effect ∈ performed others := by
  induction steps with
  | nil => exact Or.inr ⟨nofun, h⟩
  | cons step steps ih =>
    rw [List.cons_append, performed, List.mem_append] at h
    rw [performed, List.mem_append, List.forall_mem_cons]
    rcases h with hown | hlater
    · exact Or.inl (Or.inl hown)
    · cases houtcome : step.outcome with
      | error failure =>
        rw [houtcome] at hlater
        cases hlater
      | ok done =>
        rw [houtcome] at hlater
        exact (ih hlater).imp Or.inr fun hrest => ⟨⟨rfl, hrest.1⟩, hrest.2⟩

theorem mem_performed_left (h : effect ∈ performed steps) : effect ∈ performed (steps ++ others) := by
  induction steps with
  | nil => cases h
  | cons step steps ih =>
    rw [performed, List.mem_append] at h
    rw [List.cons_append, performed, List.mem_append]
    refine h.imp_right fun hlater => ?_
    cases houtcome : step.outcome with
    | error failure =>
      rw [houtcome] at hlater
      cases hlater
    | ok done =>
      rw [houtcome] at hlater
      exact ih hlater

theorem mem_of_mem_performed (h : effect ∈ performed steps) : ∃ step ∈ steps, step.effect = some effect := by
  induction steps with
  | nil => cases h
  | cons step steps ih =>
    rw [performed, List.mem_append] at h
    rcases h with hown | hlater
    · exact ⟨step, List.mem_cons_self, Option.mem_toList.mp hown⟩
    · cases houtcome : step.outcome with
      | error failure =>
        rw [houtcome] at hlater
        cases hlater
      | ok done =>
        rw [houtcome] at hlater
        obtain ⟨found, hfound, heffect⟩ := ih hlater
        exact ⟨found, List.mem_cons_of_mem _ hfound, heffect⟩

theorem performed_append_of_ok (h : ∀ step ∈ steps, step.outcome = .ok ()) :
    performed (steps ++ others) = steps.filterMap RestoreStep.effect ++ performed others := by
  induction steps with
  | nil => rfl
  | cons step steps ih =>
    rw [List.forall_mem_cons] at h
    rw [List.cons_append, performed, h.1, ih h.2, List.filterMap_cons]
    cases step.effect with
    | none => rfl
    | some effect => rfl

end Steps

section Safety

variable (python : Python) (files : BackupFiles) (hashing : Hashing) (settings : RestoreSettings)
variable (options : RestoreOptions) (manifest : ControlPlaneBackupManifest)

def Proven (component : BackupComponent) : Prop :=
  ∃ path content paths, componentPath python files component.source = .ok path ∧
    files.content path = some content ∧
    payloadPaths python files manifest = .ok paths ∧ paths.get? component.componentId = some path ∧
    hashing.sha256 content = component.payloadHash

def ProvenByType (componentType : String) : Prop :=
  ∃ component, componentByType manifest componentType = some component ∧
    Proven python files hashing manifest component

def Covered : RestoreEffect → Prop
  | .flush | .loaddata _ => ProvenByType python files hashing manifest "database"
  | .removeArtifacts | .extractArtifacts _ => ProvenByType python files hashing manifest "artifact_store"
  | .extractConfiguration _ => ProvenByType python files hashing manifest "configuration"

/-- However Django, `shutil` and `tarfile` do, nothing is destroyed that is not proven replaceable. -/
def RestoresSafely : Prop :=
  ∀ outcomes, ∀ effect ∈ handle python files hashing settings options outcomes manifest,
    Covered python files hashing manifest effect

def HasFile (component : BackupComponent) : Prop :=
  ∃ path, componentPath python files component.source = .ok path ∧ (files.content path).isSome = true

def OwnFile (component : BackupComponent) : Prop :=
  ∃ path, componentPath python files component.source = .ok path ∧
    lastPath python files manifest.components component.componentId = some path

def ArtifactsPass : Prop :=
  settings.artifactBackend = "file" →
    ∀ artifact, componentByType manifest "artifact_store" = some artifact → HasFile python files artifact

/-- Each component that is restored from has its own file under its id. -/
structure RestoresOwnFiles : Prop where
  database : ∀ database, componentByType manifest "database" = some database →
    OwnFile python files manifest database
  artifacts : settings.artifactBackend = "file" →
    ∀ artifact, componentByType manifest "artifact_store" = some artifact →
      settings.artifactDirExists = true ∨ HasFile python files artifact → OwnFile python files manifest artifact
  configuration : ArtifactsPass python files settings manifest →
    ∀ configuration, componentByType manifest "configuration" = some configuration →
      HasFile python files configuration → OwnFile python files manifest configuration

variable {python files hashing settings options manifest}
variable {componentType databasePath path : String} {component : BackupComponent} {outcomes : RestoreOutcomes}
variable {effect : RestoreEffect}

theorem mem_of_componentByType (h : componentByType manifest componentType = some component) :
    component ∈ manifest.components := by
  have hmem := Dict.mem_of_mem_ofList (Dict.get?_eq_some.mp h)
  obtain ⟨found, hfound, heq⟩ := List.mem_map.mp hmem
  rw [← (Prod.mk.inj heq).2]
  exact hfound

theorem gate_eq_ok (h : gate python files hashing settings options manifest = .ok (some databasePath)) :
    ∃ paths database, payloadPaths python files manifest = .ok paths ∧
      Restorable hashing (payloadsAt files paths) manifest.components ∧
      componentByType manifest "database" = some database ∧
      componentPath python files database.source = .ok databasePath := by
  obtain ⟨paths, hpaths, h⟩ := except_bind_eq_ok h
  obtain ⟨fresh, hfresh, h⟩ := except_bind_eq_ok h
  obtain ⟨plan, hplan, h⟩ := except_bind_eq_ok h
  have hverify : verifyManifest hashing settings.verifiedAtIso manifest (payloadsAt files paths) =
    .ok fresh := by
    cases hresult : verifyManifest hashing settings.verifiedAtIso manifest (payloadsAt files paths) with
    | error error =>
      rw [hresult] at hfresh
      cases hfresh
    | ok result =>
      rw [hresult] at hfresh
      cases hfresh
      rfl
  by_cases happly : options.apply = false
  · rw [if_pos happly] at h
    cases h
  rw [if_neg happly] at h
  by_cases henabled : settings.restoreEnabled = false
  · rw [if_pos henabled] at h
    cases h
  rw [if_neg henabled] at h
  by_cases hconfirm : options.confirmBackupId ≠ manifest.backupId
  · rw [if_pos hconfirm] at h
    cases h
  rw [if_neg hconfirm] at h
  by_cases hrefused : manifest.status ≠ .verified ∨ fresh.status ≠ .verified ∨ plan.compatible = false
  · rw [if_pos hrefused] at h
    cases h
  rw [if_neg hrefused] at h
  by_cases hactive : settings.hasActiveOperations = true
  · rw [if_pos hactive] at h
    cases h
  rw [if_neg hactive] at h
  have hstatus : fresh.status = .verified := by
    by_contra hother
    exact hrefused (Or.inr (Or.inl hother))
  cases hdatabase : componentByType manifest "database" with
  | none =>
    rw [hdatabase] at h
    cases h
  | some database =>
    rw [hdatabase] at h
    obtain ⟨path, hpath, h⟩ := except_bind_eq_ok h
    obtain rfl := Option.some.inj (Except.ok.inj h)
    exact ⟨paths, database, hpaths, (verified_iff.mp ⟨fresh, hverify, hstatus⟩).2, rfl, hpath⟩

theorem Proven.ownFile (h : Proven python files hashing manifest component) :
    OwnFile python files manifest component := by
  obtain ⟨path, content, paths, hpath, hcontent, hpaths, hfound, hhash⟩ := h
  exact ⟨path, hpath, by rw [← get?_payloadPaths hpaths, hfound]⟩

theorem OwnFile.proven {paths : Dict String String} (h : OwnFile python files manifest component)
    (hpaths : payloadPaths python files manifest = .ok paths)
    (hsupplied : Supplied hashing (payloadsAt files paths) component) :
    Proven python files hashing manifest component := by
  obtain ⟨path, hpath, hlast⟩ := h
  have hfound : paths.get? component.componentId = some path := by rw [get?_payloadPaths hpaths, hlast]
  have hdigest := hsupplied.hashed (.path (files.content path))
    (by rw [payloadsAt, Dict.get?_mapValues, hfound]; rfl)
  cases hcontent : files.content path with
  | none =>
    rw [hcontent] at hdigest
    cases hdigest
  | some content =>
    rw [hcontent] at hdigest
    exact ⟨path, content, paths, hpath, hcontent, hpaths, hfound, Except.ok.inj hdigest⟩

theorem effect_of_extraction {made : String → RestoreEffect} {source : String}
    (h : effect ∈ performed (extraction python files outcomes made source)) :
    ∃ path, componentPath python files source = .ok path ∧ (files.content path).isSome = true ∧
      effect = made path := by
  unfold extraction at h
  cases hpath : componentPath python files source with
  | error failure =>
    rw [hpath] at h
    cases h
  | ok path =>
    rw [hpath] at h
    dsimp only at h
    cases hcontent : files.content path with
    | none =>
      rw [hcontent] at h
      cases h
    | some content =>
      rw [hcontent] at h
      obtain ⟨step, hstep, heffect⟩ := mem_of_mem_performed h
      rcases List.mem_pair.mp hstep with rfl | rfl
      · cases heffect
      · exact ⟨path, rfl, by rw [hcontent]; rfl, (Option.some.inj heffect).symm⟩

theorem effect_of_artifactSteps
    (h : effect ∈ performed (artifactSteps python files settings outcomes manifest)) :
    settings.artifactBackend = "file" ∧ ∃ artifact, componentByType manifest "artifact_store" = some artifact ∧
      (settings.artifactDirExists = true ∧ effect = .removeArtifacts ∨
        HasFile python files artifact ∧ ∃ path, effect = .extractArtifacts path) := by
  unfold artifactSteps at h
  cases hartifact : componentByType manifest "artifact_store" with
  | none =>
    rw [hartifact] at h
    cases h
  | some artifact =>
    rw [hartifact] at h
    dsimp only at h
    by_cases hbackend : settings.artifactBackend = "file"
    · rw [if_neg (not_not.mpr hbackend)] at h
      refine ⟨hbackend, artifact, rfl, ?_⟩
      rcases mem_performed_append h with hfirst | ⟨-, hlater⟩
      · left
        obtain ⟨step, hstep, heffect⟩ := mem_of_mem_performed hfirst
        simp only [removalSteps, List.mem_append, List.mem_singleton] at hstep
        rcases hstep with (rfl | hremoval) | rfl
        · cases heffect
        · by_cases hexists : settings.artifactDirExists = true
          · rw [if_pos hexists, List.mem_singleton] at hremoval
            rw [hremoval] at heffect
            exact ⟨hexists, (Option.some.inj heffect).symm⟩
          · rw [if_neg hexists] at hremoval
            cases hremoval
        · cases heffect
      · right
        obtain ⟨path, hpath, hcontent, rfl⟩ := effect_of_extraction hlater
        exact ⟨⟨path, hpath, hcontent⟩, path, rfl⟩
    · rw [if_pos hbackend] at h
      cases h

theorem effect_of_configurationSteps
    (h : effect ∈ performed (configurationSteps python files outcomes manifest)) :
    ∃ configuration path, componentByType manifest "configuration" = some configuration ∧
      HasFile python files configuration ∧ effect = .extractConfiguration path := by
  unfold configurationSteps at h
  cases hconfiguration : componentByType manifest "configuration" with
  | none =>
    rw [hconfiguration] at h
    cases h
  | some configuration =>
    rw [hconfiguration] at h
    obtain ⟨path, hpath, hcontent, rfl⟩ := effect_of_extraction h
    exact ⟨configuration, path, rfl, ⟨path, hpath, hcontent⟩, rfl⟩

theorem hasFile_of_extraction {made : String → RestoreEffect}
    (h : ∀ step ∈ extraction python files outcomes made component.source, step.outcome = .ok ()) :
    HasFile python files component := by
  unfold extraction at h
  cases hpath : componentPath python files component.source with
  | error failure =>
    rw [hpath] at h
    cases h _ (List.mem_singleton_self _)
  | ok path =>
    rw [hpath] at h
    dsimp only at h
    cases hcontent : files.content path with
    | none =>
      rw [hcontent] at h
      cases h _ (List.mem_singleton_self _)
    | some content => exact ⟨path, hpath, by rw [hcontent]; rfl⟩

theorem artifactsPass_of_ok
    (h : ∀ step ∈ artifactSteps python files settings outcomes manifest, step.outcome = .ok ()) :
    ArtifactsPass python files settings manifest := by
  intro hbackend artifact hartifact
  unfold artifactSteps at h
  rw [hartifact] at h
  dsimp only at h
  rw [if_neg (not_not.mpr hbackend)] at h
  exact hasFile_of_extraction fun step hstep => h step (List.mem_append_right _ hstep)

theorem covered_of_ownFiles (hgate : gate python files hashing settings options manifest =
    .ok (some databasePath))
    (hown : RestoresOwnFiles python files settings manifest)
    (h : effect ∈ performed (applySteps python files settings outcomes manifest databasePath)) :
    Covered python files hashing manifest effect := by
  obtain ⟨paths, database, hpaths, hrestorable, hdatabase, -⟩ := gate_eq_ok hgate
  have hproven : ∀ componentType component, componentByType manifest componentType = some component →
      OwnFile python files manifest component → ProvenByType python files hashing manifest componentType :=
    fun componentType component hselected hfile => ⟨component, hselected, hfile.proven hpaths
      (hrestorable.2 component (mem_of_componentByType hselected))⟩
  have hdatabaseProven := hproven "database" database hdatabase (hown.database database hdatabase)
  rcases mem_performed_append h with hfirst | ⟨-, hlater⟩
  · obtain ⟨step, hstep, heffect⟩ := mem_of_mem_performed hfirst
    rcases List.mem_pair.mp hstep with rfl | rfl
    · rw [← Option.some.inj heffect]
      exact hdatabaseProven
    · rw [← Option.some.inj heffect]
      exact hdatabaseProven
  · rcases mem_performed_append hlater with hartifacts | ⟨hpassed, hconfiguration⟩
    · obtain ⟨hbackend, artifact, hartifact, hcase⟩ := effect_of_artifactSteps hartifacts
      rcases hcase with ⟨hexists, rfl⟩ | ⟨hfile, path, rfl⟩
      · exact hproven _ artifact hartifact (hown.artifacts hbackend artifact hartifact (Or.inl hexists))
      · exact hproven _ artifact hartifact (hown.artifacts hbackend artifact hartifact (Or.inr hfile))
    · obtain ⟨configuration, path, hselected, hfile, rfl⟩ := effect_of_configurationSteps hconfiguration
      exact hproven _ configuration hselected
        (hown.configuration (artifactsPass_of_ok hpassed) configuration hselected hfile)

/-- All goes well. -/
def smoothOutcomes : RestoreOutcomes :=
  ⟨.ok (), fun _ => .ok (), .ok (), .ok (), fun _ => .ok (), fun _ => .ok ()⟩

theorem extraction_smooth (made : String → RestoreEffect) (h : HasFile python files component) :
    (∀ step ∈ extraction python files smoothOutcomes made component.source, step.outcome = .ok ()) ∧
      ∃ path, made path ∈ performed (extraction python files smoothOutcomes made component.source) := by
  obtain ⟨path, hpath, hcontent⟩ := h
  obtain ⟨content, hcontent⟩ := Option.isSome_iff_exists.mp hcontent
  unfold extraction
  rw [hpath]
  dsimp only
  rw [hcontent]
  refine ⟨?_, path, List.mem_singleton_self _⟩
  intro step hstep
  rcases List.mem_pair.mp hstep with rfl | rfl
  · rfl
  · rfl

theorem componentPath_ok {paths : Dict String String} (hpaths : payloadPaths python files manifest = .ok paths)
    (hcomponent : component ∈ manifest.components) : ∃ path, componentPath python files component.source =
      .ok path := by
  obtain ⟨value, next, hturn⟩ := foldlM_ok_turn hpaths hcomponent
  obtain ⟨path, hpath, -⟩ := except_bind_eq_ok hturn
  exact ⟨path, hpath⟩

theorem removalSteps_smooth (h : ∃ path, componentPath python files component.source = .ok path) :
    ∀ step ∈ removalSteps python files settings smoothOutcomes component, step.outcome = .ok () := by
  obtain ⟨path, hpath⟩ := h
  intro step hstep
  simp only [removalSteps, List.mem_append, List.mem_singleton] at hstep
  rcases hstep with (rfl | hremoval) | rfl
  · rw [hpath]
    rfl
  · by_cases hexists : settings.artifactDirExists = true
    · rw [if_pos hexists, List.mem_singleton] at hremoval
      rw [hremoval]
      rfl
    · rw [if_neg hexists] at hremoval
      cases hremoval
  · rfl

theorem artifactSteps_eq {artifact : BackupComponent} (hbackend : settings.artifactBackend = "file")
    (hartifact : componentByType manifest "artifact_store" = some artifact) :
    artifactSteps python files settings outcomes manifest =
      removalSteps python files settings outcomes artifact ++
      extraction python files outcomes .extractArtifacts artifact.source := by
  unfold artifactSteps
  rw [hartifact]
  exact if_neg (not_not.mpr hbackend)

theorem artifactSteps_smooth {paths : Dict String String}
    (hpaths : payloadPaths python files manifest = .ok paths)
    (hpass : ArtifactsPass python files settings manifest) :
    ∀ step ∈ artifactSteps python files settings smoothOutcomes manifest, step.outcome = .ok () := by
  cases hartifact : componentByType manifest "artifact_store" with
  | none =>
    unfold artifactSteps
    rw [hartifact]
    exact nofun
  | some artifact =>
    by_cases hbackend : settings.artifactBackend = "file"
    · rw [artifactSteps_eq hbackend hartifact]
      intro step hstep
      rcases List.mem_append.mp hstep with hremoval | hextraction
      · exact removalSteps_smooth (componentPath_ok hpaths (mem_of_componentByType hartifact)) step hremoval
      · exact (extraction_smooth _ (hpass hbackend artifact hartifact)).1 step hextraction
    · unfold artifactSteps
      rw [hartifact]
      dsimp only
      rw [if_pos hbackend]
      exact nofun

theorem performed_smooth : performed (applySteps python files settings smoothOutcomes manifest databasePath) =
    [.flush, .loaddata databasePath] ++ performed
      (artifactSteps python files settings smoothOutcomes manifest ++
      configurationSteps python files smoothOutcomes manifest) := by
  apply performed_append_of_ok
  intro step hstep
  rcases List.mem_pair.mp hstep with rfl | rfl
  · rfl
  · rfl

theorem ProvenByType.ownFile (h : ProvenByType python files hashing manifest componentType)
    (hselected : componentByType manifest componentType = some component) :
    OwnFile python files manifest component := by
  obtain ⟨found, hfound, hproven⟩ := h
  obtain rfl := Option.some.inj (hselected.symm.trans hfound)
  exact hproven.ownFile

theorem ownFiles_of_covered (hgate : gate python files hashing settings options manifest =
    .ok (some databasePath))
    (h : ∀ effect ∈ performed (applySteps python files settings smoothOutcomes manifest databasePath),
      Covered python files hashing manifest effect) : RestoresOwnFiles python files settings manifest := by
  obtain ⟨paths, -, hpaths, -, -, -⟩ := gate_eq_ok hgate
  rw [performed_smooth] at h
  have hlater : ∀ effect ∈ performed (artifactSteps python files settings smoothOutcomes manifest ++
      configurationSteps python files smoothOutcomes manifest), Covered python files hashing manifest effect :=
    fun effect heffect => h effect (List.mem_append_right _ heffect)
  constructor
  · intro database hdatabase
    have hflush := h .flush (List.mem_append_left _ List.mem_cons_self)
    exact hflush.ownFile hdatabase
  · intro hbackend artifact hartifact hcase
    rw [artifactSteps_eq hbackend hartifact, List.append_assoc,
      performed_append_of_ok
        (removalSteps_smooth (componentPath_ok hpaths (mem_of_componentByType hartifact)))] at hlater
    rcases hcase with hexists | hfile
    · have hremoved : Covered python files hashing manifest .removeArtifacts := by
        apply hlater
        apply List.mem_append_left
        simp [removalSteps, hexists]
      exact hremoved.ownFile hartifact
    · obtain ⟨-, path, hextracted⟩ := extraction_smooth .extractArtifacts hfile
      have hcovered : Covered python files hashing manifest (.extractArtifacts path) := by
        apply hlater
        apply List.mem_append_right
        exact mem_performed_left hextracted
      exact hcovered.ownFile hartifact
  · intro hpass configuration hconfiguration hfile
    obtain ⟨-, path, hextracted⟩ := extraction_smooth .extractConfiguration hfile
    rw [performed_append_of_ok (artifactSteps_smooth hpaths hpass)] at hlater
    have hcovered : Covered python files hashing manifest (.extractConfiguration path) := by
      apply hlater
      apply List.mem_append_right
      rw [configurationSteps, hconfiguration]
      exact hextracted
    exact hcovered.ownFile hconfiguration

/-- The command destroys nothing unproven if and only if it stops before the flush or each component
that is restored from has its own file. -/
theorem restoresSafely_iff : RestoresSafely python files hashing settings options manifest ↔
    ∀ databasePath, gate python files hashing settings options manifest = .ok (some databasePath) →
      RestoresOwnFiles python files settings manifest := by
  constructor
  · intro h databasePath hgate
    apply ownFiles_of_covered hgate
    intro effect heffect
    apply h smoothOutcomes
    rw [handle, hgate]
    exact heffect
  · intro h outcomes effect heffect
    unfold handle at heffect
    split at heffect
    · rename_i databasePath hgate
      exact covered_of_ownFiles hgate (h databasePath hgate) heffect
    · cases heffect
    · cases heffect

end Safety

section Example

theorem calculateManifestHash_sealed {hashing : Hashing} (manifest : ControlPlaneBackupManifest)
    (manifestHash : String) :
    calculateManifestHash hashing { manifest with manifestHash } = calculateManifestHash hashing manifest := rfl

theorem gate_of_confirmed {python : Python} {files : BackupFiles} {hashing : Hashing}
    {settings : RestoreSettings}
    {options : RestoreOptions} {manifest fresh : ControlPlaneBackupManifest} {paths : Dict String String}
    {plan : ControlPlaneRestorePlan} {database : BackupComponent} {path : String}
    (hpaths : payloadPaths python files manifest = .ok paths)
    (hverify : verifyManifest hashing settings.verifiedAtIso manifest (payloadsAt files paths) = .ok fresh)
    (hplan : restorePlan python fresh options.targetVersion = .ok plan) (happly : options.apply = true)
    (henabled : settings.restoreEnabled = true) (hconfirm : options.confirmBackupId = manifest.backupId)
    (hstatus : manifest.status = .verified) (hfresh : fresh.status = .verified)
    (hcompatible : plan.compatible = true)
    (hactive : settings.hasActiveOperations = false)
    (hdatabase : componentByType manifest "database" = some database)
    (hpath : componentPath python files database.source = .ok path) :
    gate python files hashing settings options manifest = .ok (some path) := by
  simp [gate, hpaths, hverify, hplan, happly, henabled, hconfirm, hstatus, hfresh, hcompatible,
    hactive, hdatabase,
    hpath, liftError, Except.mapError, bind, Except.bind, pure, Except.pure]

def decimalPython : Python :=
  { Python.plain with
    parseInt text :=
      if text.toList ≠ [] ∧ text.toList.all Char.isDigit = true then some
        (Packs.Version.number text.toList) else none }

theorem restorePlan_compatible {manifest : ControlPlaneBackupManifest}
    (hversion : manifest.kubeopsVersion = "1.0.0")
    (hstatus : manifest.status = .verified) :
    ∃ plan, restorePlan decimalPython manifest "1.0.0" = .ok plan ∧ plan.compatible = true := by
  have hmajor : decimalPython.parseInt (String.ofList ("1.0.0".toList.takeWhile (· ≠ '.'))) =
    some 1 := by decide
  have hsatisfies : Packs.satisfies decimalPython "1.0.0" (some s!">={(1 : Int)}.0.0,<{(1 : Int) + 1}.0.0") =
    .ok true := by
    decide
  refine ⟨{
    backupId := manifest.backupId
    targetKubeopsVersion := "1.0.0"
    compatible := true
    blockers := [] }, ?_, rfl⟩
  simp only [restorePlan, hversion, hmajor, hstatus, if_true, hsatisfies, bind, Except.bind, pure, Except.pure]

def optionalBackup : ControlPlaneBackupManifest where
  backupId := "platform-backup:1"
  organizationId := "default"
  workspaceId := "default"
  createdAtIso := "2026-07-22T12:00:00Z"
  kubeopsVersion := "1.0.0"
  schemaVersion := "0006"
  components := [{
    componentId := "database"
    componentType := "database"
    source := "control-plane.json"
    payloadHash := "4f53cda18c2baa0c0354bb5f9a3ecbe5ed12ab4d8e11ba873c2f11161202b945"
    requiredForRestore := false }]
  status := .verified
  manifestHash := ""

def optionalManifest : ControlPlaneBackupManifest :=
  { optionalBackup with manifestHash := calculateManifestHash localHashing optionalBackup }

def noFiles : BackupFiles where
  isAbsolute _ := false
  resolve source := "/backups/" ++ source
  inDirectory _ := true
  content _ := none

def controlledRecovery : RestoreSettings where
  verifiedAtIso := "2026-07-23T12:00:00Z"
  restoreEnabled := true
  hasActiveOperations := false
  artifactBackend := "file"
  artifactDirExists := true

def confirmed : RestoreOptions where
  apply := true
  confirmBackupId := "platform-backup:1"

theorem gate_optionalManifest :
    gate decimalPython noFiles localHashing controlledRecovery confirmed optionalManifest =
      .ok (some "/backups/control-plane.json") := by
  have hpaths : payloadPaths decimalPython noFiles optionalManifest = .ok ∅ := rfl
  have hrestorable : Restorable localHashing (payloadsAt noFiles ∅) optionalManifest.components := by
    refine ⟨List.cons_ne_nil _ _, ?_⟩
    intro component hcomponent
    rw [List.mem_singleton.mp hcomponent]
    exact ⟨nofun, nofun, nofun⟩
  have hhash : calculateManifestHash localHashing optionalManifest = optionalManifest.manifestHash := by
    rw [optionalManifest, calculateManifestHash_sealed]
  have hverify : verifyManifest localHashing controlledRecovery.verifiedAtIso optionalManifest
    (payloadsAt noFiles ∅) =
      .ok _ := verifyManifest_eq hhash hrestorable
  obtain ⟨plan, hplan, hcompatible⟩ := @restorePlan_compatible { optionalManifest with
    status := .verified
    metadata := (optionalManifest.metadata.set "verification_failures" (Json.strings [])).set "verified_at_iso"
      (.str controlledRecovery.verifiedAtIso) } rfl rfl
  exact gate_of_confirmed hpaths hverify hplan rfl rfl rfl rfl rfl hcompatible rfl rfl rfl

/-- The database is flushed, and there is nothing to load. -/
theorem optionalManifest_not_restoresSafely :
    handle decimalPython noFiles localHashing controlledRecovery confirmed smoothOutcomes optionalManifest =
      [.flush, .loaddata "/backups/control-plane.json"] ∧
    ¬ RestoresSafely decimalPython noFiles localHashing controlledRecovery confirmed optionalManifest := by
  refine ⟨by rw [handle, gate_optionalManifest]; rfl, fun h => ?_⟩
  have hflush := h smoothOutcomes .flush (by rw [handle, gate_optionalManifest]; exact List.mem_cons_self)
  obtain ⟨database, -, path, content, -, -, hcontent, -⟩ := hflush
  cases hcontent

end Example

end KubeOps.Platform
