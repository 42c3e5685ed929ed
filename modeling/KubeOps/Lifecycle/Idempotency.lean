import KubeOps.Execution.DockerHost
import KubeOps.Foundation.Segments
import KubeOps.Lifecycle.Compilation

/-! What an idempotency key says about the action that carries it. The key names
the action type and the entity, but neither the stage nor the parameters. -/
namespace KubeOps.Lifecycle

open KubeOps.Foundation KubeOps.Models KubeOps.Actions KubeOps.Execution

structure SameEffect (left right : ActionInstance) : Prop where
  actionTypeId : left.actionTypeId = right.actionTypeId
  targetIds : left.targetIds = right.targetIds
  parameters : (Json.dict left.parameters.entries).pyEq (.dict right.parameters.entries) = true

def KeysIdentifyEffects (plan : RecoveryPlan) : Prop :=
  ∀ left ∈ plan.actions, ∀ right ∈ plan.actions, left.idempotencyKey = right.idempotencyKey →
    SameEffect left right

namespace LifecyclePlanner

variable {planner : LifecyclePlanner} {snapshot : EnvironmentSnapshot}
  {profile : LifecycleProfile} {plan : RecoveryPlan} {mode : PlanMode} {policyId : Option String}
  {definition : ActionTypeDefinition} {template other : LifecycleActionTemplate}
  {entity target : Option OperationalEntity} {action : ActionInstance}

def Occurs (planner : LifecyclePlanner) (snapshot : EnvironmentSnapshot) (profile : LifecycleProfile)
    (template : LifecycleActionTemplate) (entity : Option OperationalEntity) : Prop :=
  ∃ stage ∈ profile.stages, template ∈ stage.actionTemplates ∧
    planner.CompiledFor snapshot template entity

def rendered (planner : LifecyclePlanner) (snapshot : EnvironmentSnapshot)
    (template : LifecycleActionTemplate) (entity : Option OperationalEntity) : Json :=
  .dict (renderParameters planner.python (bindings snapshot entity) template.parameters).entries

/-- Templates of one action type render equal parameters for one subject, no entity
has the id of a template compiled for the environment, and the colons in action types
and subjects leave no doubt where the type ends. -/
structure SubjectsDistinguish (planner : LifecyclePlanner) (snapshot : EnvironmentSnapshot)
    (profile : LifecycleProfile) : Prop where
  parameters : ∀ template entity other target, Occurs planner snapshot profile template entity →
    Occurs planner snapshot profile other target → template.actionTypeId = other.actionTypeId →
    subject template entity = subject other target →
      (rendered planner snapshot template entity).pyEq (rendered planner snapshot other target) = true
  targets : ∀ template other entity, Occurs planner snapshot profile template none →
    Occurs planner snapshot profile other (some entity) →
    template.actionTypeId = other.actionTypeId → template.templateId ≠ entity.entityId
  separated : ∀ template entity other target, Occurs planner snapshot profile template entity →
    Occurs planner snapshot profile other target → ∀ middle,
      template.actionTypeId = other.actionTypeId ++ ":" ++ middle →
      subject other target ≠ middle ++ ":" ++ subject template entity

theorem subject_none (template : LifecycleActionTemplate) : subject template none = template.templateId := rfl

theorem subject_some (template : LifecycleActionTemplate) (entity : OperationalEntity) :
    subject template (some entity) = entity.entityId := by
  have hjoined : String.intercalate ":" (targetIds (some entity)) = entity.entityId :=
    String.intercalate_singleton
  simp only [subject, hjoined, if_neg entity.entityId_ne]

theorem idempotencyKey_eq_iff :
    idempotencyKey snapshot template entity = idempotencyKey snapshot other target ↔
      template.actionTypeId ++ ":" ++ subject template entity =
        other.actionTypeId ++ ":" ++ subject other target := by
  have hassoc : ∀ (template : LifecycleActionTemplate) (entity : Option OperationalEntity),
      idempotencyKey snapshot template entity = snapshot.environmentId ++ ":" ++
        (template.actionTypeId ++ ":" ++ subject template entity) := by
    intro template entity
    change snapshot.environmentId ++ ":" ++ template.actionTypeId ++ ":" ++ subject template entity = _
    simp only [String.append_assoc]
  rw [hassoc, hassoc, String.append_right_inj]

section Plans

variable (hplan : planner.plan snapshot profile mode policyId = .ok plan)

include hplan

theorem exists_occurs (hmem : action ∈ plan.actions) : ∃ template entity,
    planner.Occurs snapshot profile template entity ∧
      action.idempotencyKey = some (idempotencyKey snapshot template entity) ∧
      action.actionTypeId = template.actionTypeId ∧ action.targetIds = targetIds entity ∧
      Json.dict action.parameters.entries = planner.rendered snapshot template entity := by
  obtain ⟨stage, hstage, template, htemplate, entity, hentity, definition, index, heq⟩ :=
    mem_plan_actions hplan hmem
  refine ⟨template, entity, ⟨stage, hstage, htemplate, hentity⟩, ?_⟩
  exact ⟨(congrArg ActionInstance.idempotencyKey heq :), (congrArg ActionInstance.actionTypeId heq :),
    (congrArg ActionInstance.targetIds heq :),
    congrArg (fun action => Json.dict action.parameters.entries) heq⟩

theorem exists_action (h : planner.Occurs snapshot profile template entity) : ∃ action ∈ plan.actions,
    action.idempotencyKey = some (idempotencyKey snapshot template entity) ∧
      action.actionTypeId = template.actionTypeId ∧ action.targetIds = targetIds entity ∧
      Json.dict action.parameters.entries = planner.rendered snapshot template entity := by
  obtain ⟨stage, hstage, htemplate, hentity⟩ := h
  obtain ⟨action, hmem, definition, index, heq⟩ :=
    exists_mem_plan_actions hplan hstage htemplate hentity
  refine ⟨action, hmem, ?_⟩
  exact ⟨(congrArg ActionInstance.idempotencyKey heq :), (congrArg ActionInstance.actionTypeId heq :),
    (congrArg ActionInstance.targetIds heq :),
    congrArg (fun action => Json.dict action.parameters.entries) heq⟩

theorem keysIdentifyEffects_occurs : KeysIdentifyEffects plan ↔
    ∀ template entity other target, planner.Occurs snapshot profile template entity →
      planner.Occurs snapshot profile other target →
      idempotencyKey snapshot template entity = idempotencyKey snapshot other target →
        template.actionTypeId = other.actionTypeId ∧ targetIds entity = targetIds target ∧
          (planner.rendered snapshot template entity).pyEq (planner.rendered snapshot other target) =
            true := by
  constructor
  · intro h template entity other target hleft hright hkey
    obtain ⟨left, hleftMem, hleftKey, hleftType, hleftTargets, hleftParameters⟩ := exists_action hplan hleft
    obtain ⟨right, hrightMem, hrightKey, hrightType, hrightTargets, hrightParameters⟩ :=
      exists_action hplan hright
    have hsame := h left hleftMem right hrightMem (by rw [hleftKey, hrightKey, hkey])
    rw [← hleftType, ← hrightType, ← hleftTargets, ← hrightTargets, ← hleftParameters,
      ← hrightParameters]
    exact ⟨hsame.actionTypeId, hsame.targetIds, hsame.parameters⟩
  · intro h left hleftMem right hrightMem hkey
    obtain ⟨template, entity, hleft, hleftKey, hleftType, hleftTargets, hleftParameters⟩ :=
      exists_occurs hplan hleftMem
    obtain ⟨other, target, hright, hrightKey, hrightType, hrightTargets, hrightParameters⟩ :=
      exists_occurs hplan hrightMem
    rw [hleftKey, hrightKey, Option.some.injEq] at hkey
    obtain ⟨htype, htargets, hparameters⟩ := h template entity other target hleft hright hkey
    constructor
    · rw [hleftType, hrightType, htype]
    · rw [hleftTargets, hrightTargets, htargets]
    · rw [hleftParameters, hrightParameters]
      exact hparameters

theorem keysIdentifyEffects_iff :
    KeysIdentifyEffects plan ↔ SubjectsDistinguish planner snapshot profile := by
  rw [keysIdentifyEffects_occurs hplan]
  constructor
  · intro h
    constructor
    · intro template entity other target hleft hright htype hsubject
      refine (h template entity other target hleft hright ?_).2.2
      rw [idempotencyKey_eq_iff, htype, hsubject]
    · intro template other entity hleft hright htype hid
      have hsame := h template none other (some entity) hleft hright (by
        rw [idempotencyKey_eq_iff, htype, subject_none, subject_some, hid])
      cases hsame.2.1
    · intro template entity other target hleft hright middle htype hsubject
      have hsame := h template entity other target hleft hright (by
        rw [idempotencyKey_eq_iff, htype, hsubject]
        simp only [String.append_assoc])
      rw [hsame.1, String.append_assoc] at htype
      have hlength := congrArg String.length htype
      simp only [String.length_append] at hlength
      have hcolon : ":".length = 1 := rfl
      omega
  · intro h template entity other target hleft hright hkey
    rw [idempotencyKey_eq_iff] at hkey
    rcases (join_eq_join ':').mp hkey with ⟨htype, hsubject⟩ | ⟨middle, htype, hsubject⟩ |
        ⟨middle, htype, hsubject⟩
    · refine ⟨htype, ?_, h.parameters template entity other target hleft hright htype hsubject⟩
      cases entity with
      | none =>
        cases target with
        | none => rfl
        | some target =>
          rw [subject_none, subject_some] at hsubject
          exact absurd hsubject (h.targets template other target hleft hright htype)
      | some entity =>
        cases target with
        | none =>
          rw [subject_none, subject_some] at hsubject
          exact absurd hsubject.symm (h.targets other template entity hright hleft htype.symm)
        | some target =>
          rw [subject_some, subject_some] at hsubject
          simp [targetIds, hsubject]
    · exact absurd hsubject (h.separated other target template entity hright hleft middle htype)
    · exact absurd hsubject (h.separated template entity other target hleft hright middle htype)

end Plans

end LifecyclePlanner

namespace LocalDevelopment

open LifecyclePlanner

def processTemplate (templateId : String) (argv : List String) : LifecycleActionTemplate where
  templateId := templateId
  actionTypeId := processStart.actionTypeId
  title := "Start local process"
  targetSelector := Dict.ofList [("entity_id", .str host.entityId)]
  parameters := Dict.ofList [("argv", Json.strings argv)]

/-- Start a process, then wait for it. -/
def oneProcess : LifecycleProfile := startup [
  { stageId := "processes", actionTemplates := [processTemplate "api" ["api"]] },
  { stageId := "ready", dependsOnStageIds := ["processes"], actionTemplates := [waitTemplate "ready"] }]

theorem occurs_oneProcess {template : LifecycleActionTemplate} {entity : Option OperationalEntity}
    (h : Occurs planner snapshot oneProcess template entity) :
    template = processTemplate "api" ["api"] ∧ entity = some host ∨
      template = waitTemplate "ready" ∧ entity = none := by
  obtain ⟨stage, hstage, htemplate, -, found, hfound, hentity⟩ := h
  simp only [oneProcess, startup, List.mem_cons, List.not_mem_nil, or_false] at hstage
  rcases hstage with rfl | rfl
  · obtain rfl := List.mem_singleton.mp htemplate
    have hhost : candidates snapshot (processTemplate "api" ["api"]) = .ok [some host] := rfl
    obtain rfl := Except.ok.inj (hhost.symm.trans hfound)
    exact Or.inl ⟨rfl, List.mem_singleton.mp hentity⟩
  · obtain rfl := List.mem_singleton.mp htemplate
    have hnone : candidates snapshot (waitTemplate "ready") = .ok [none] := rfl
    obtain rfl := Except.ok.inj (hnone.symm.trans hfound)
    exact Or.inr ⟨rfl, List.mem_singleton.mp hentity⟩

theorem oneProcess_keysIdentifyEffects : ∃ plan,
    planner.plan snapshot oneProcess .dryRun none = .ok plan ∧ plan.actions.length = 2 ∧
      KeysIdentifyEffects plan := by
  have hlength : (planner.plan snapshot oneProcess .dryRun none).map
      (fun plan => plan.actions.length) = .ok 2 := by
    decide +kernel
  obtain ⟨plan, hplan, hactions⟩ := except_map_eq_ok hlength
  refine ⟨plan, hplan, hactions, ?_⟩
  apply (keysIdentifyEffects_iff hplan).mpr
  constructor
  · intro template entity other target hleft hright htype _
    rcases occurs_oneProcess hleft with ⟨rfl, rfl⟩ | ⟨rfl, rfl⟩
    · rcases occurs_oneProcess hright with ⟨rfl, rfl⟩ | ⟨rfl, rfl⟩
      · decide
      · exact absurd htype (by decide)
    · rcases occurs_oneProcess hright with ⟨rfl, rfl⟩ | ⟨rfl, rfl⟩
      · exact absurd htype (by decide)
      · decide
  · intro template other entity hleft hright htype
    rcases occurs_oneProcess hleft with ⟨-, hnone⟩ | ⟨rfl, -⟩
    · cases hnone
    · rcases occurs_oneProcess hright with ⟨rfl, -⟩ | ⟨-, hsome⟩
      · exact absurd htype (by decide)
      · cases hsome
  · intro template entity other target hleft _ middle htype
    have hunbroken : Unbroken ':' template.actionTypeId := by
      rcases occurs_oneProcess hleft with ⟨rfl, -⟩ | ⟨rfl, -⟩ <;> decide
    exact absurd htype (hunbroken.ne_join)

def twoProcesses : LifecycleProfile := startup [
  { stageId := "processes"
    actionTemplates := [processTemplate "api" ["api"], processTemplate "worker" ["worker"]] }]

def runtime : OperationRuntime := { DockerHost.runtime with actions := planner.actions }

def context : RuntimeContext :=
  { DockerHost.context with
    policyContext := { DockerHost.context.policyContext with capabilities := ["host.process.start"] }
    executionContext := { DockerHost.context.executionContext with
      operationId := "operation:local:5971f9f8af94" } }

def receipts (plan : RecoveryPlan) : Option (List (String × ReceiptStatus)) :=
  (latest (runtime.session ⟨snapshot.environmentId, plan, .guardedExecution, []⟩
    [.run DockerHost.policy context none true]).log).map fun operation =>
      operation.actionReceipts.map fun receipt => (receipt.actionId, receipt.status)

/-- The second process is not started: the key of the first one has succeeded. -/
theorem twoProcesses_not_keysIdentifyEffects : twoProcesses.Accepted planner.python ∧
    ∃ plan, planner.plan snapshot twoProcesses .guardedExecution none = .ok plan ∧
      ¬ KeysIdentifyEffects plan ∧ receipts plan = some [
        ("action:processes:api:0:5971f9f8", .completed),
        ("action:processes:worker:0:5971f9f8", .alreadySatisfied)] := by
  let agree (left right : ActionInstance) : Bool :=
    left.idempotencyKey ≠ right.idempotencyKey ||
      (Json.dict left.parameters.entries).pyEq (.dict right.parameters.entries)
  have hresult : (planner.plan snapshot twoProcesses .guardedExecution none).map (fun plan =>
      (plan.actions.all fun left => plan.actions.all fun right => agree left right, receipts plan)) =
        .ok (false, some [("action:processes:api:0:5971f9f8", .completed),
          ("action:processes:worker:0:5971f9f8", .alreadySatisfied)]) := by
    decide +kernel
  obtain ⟨plan, hplan, hrest⟩ := except_map_eq_ok hresult
  obtain ⟨hagree, hreceipts⟩ := Prod.mk.inj hrest
  refine ⟨by decide, plan, hplan, fun h => ?_, hreceipts⟩
  have hall : (plan.actions.all fun left => plan.actions.all fun right => agree left right) = true := by
    simp only [List.all_eq_true]
    intro left hleft right hright
    by_cases hkey : left.idempotencyKey = right.idempotencyKey
    · simp [agree, (h left hleft right hright hkey).parameters]
    · simp [agree, hkey]
  rw [hall] at hagree
  cases hagree

end LocalDevelopment

end KubeOps.Lifecycle
