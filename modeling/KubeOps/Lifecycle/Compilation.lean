import KubeOps.Foundation.Program
import KubeOps.Lifecycle.Planner

/-! What a compiled plan is made of: the instances of its templates, and for each
stage its actions behind those of the stages compiled before it. -/
namespace KubeOps.Lifecycle.LifecyclePlanner

open KubeOps.Foundation KubeOps.Models KubeOps.Actions

variable {planner : LifecyclePlanner} {snapshot : EnvironmentSnapshot}
  {definition : ActionTypeDefinition} {template : LifecycleActionTemplate}
  {stage : LifecycleStageDefinition} {profile : LifecycleProfile} {stageId : String}
  {onFailure : FailureBehavior} {external : List String} {action : ActionInstance}
  {actions compiled stageActions : List ActionInstance} {compilation : Compilation}

section Templates

theorem compileCandidates_eq {index : Nat} {candidates : List (Option OperationalEntity)}
    (h : planner.compileCandidates snapshot definition template stageId onFailure index candidates =
      .ok compiled) :
    compiled = [] ∧ (candidates = [] ∨ planner.applies snapshot template = .ok false) ∨
      planner.applies snapshot template = .ok true ∧ compiled = candidates.mapIdx fun i entity =>
        planner.instantiate snapshot definition template stageId onFailure (index + i) entity := by
  induction candidates generalizing index compiled with
  | nil =>
    obtain rfl := Except.ok.inj h
    exact Or.inl ⟨rfl, Or.inl rfl⟩
  | cons entity rest ih =>
    rw [compileCandidates] at h
    obtain ⟨applied, happlies, h⟩ := except_bind_eq_ok h
    cases applied with
    | false =>
      rcases ih h with ⟨hnone, -⟩ | ⟨htrue, -⟩
      · exact Or.inl ⟨hnone, Or.inr happlies⟩
      · rw [happlies] at htrue
        cases htrue
    | true =>
      obtain ⟨found, -, h⟩ := except_bind_eq_ok h
      obtain ⟨later, hlater, h⟩ := except_bind_eq_ok h
      obtain rfl := Except.ok.inj h
      refine Or.inr ⟨happlies, ?_⟩
      rw [List.mapIdx_cons]
      congr 1
      rcases ih hlater with ⟨rfl, rfl | hfalse⟩ | ⟨-, rfl⟩
      · rfl
      · rw [happlies] at hfalse
        cases hfalse
      · simp only [Nat.add_assoc, Nat.add_comm 1]

theorem mem_compileTemplate (h : planner.compileTemplate snapshot template stageId onFailure =
    .ok compiled) (hmem : action ∈ compiled) :
    ∃ definition found index entity, planner.actions.get template.actionTypeId = .ok definition ∧
      planner.applies snapshot template = .ok true ∧ candidates snapshot template = .ok found ∧
      entity ∈ found ∧
      action = planner.instantiate snapshot definition template stageId onFailure index entity := by
  obtain ⟨definition, hdefinition, h⟩ := except_bind_eq_ok h
  obtain ⟨found, hfound, h⟩ := except_bind_eq_ok h
  rcases compileCandidates_eq h with ⟨rfl, -⟩ | ⟨happlies, rfl⟩
  · cases hmem
  · obtain ⟨index, hindex, rfl⟩ := List.mem_mapIdx.mp hmem
    exact ⟨definition, found, _, found[index], hdefinition, happlies, hfound,
      List.getElem_mem hindex, rfl⟩

theorem exists_mem_compileTemplate (h : planner.compileTemplate snapshot template stageId onFailure =
    .ok compiled) (happlies : planner.applies snapshot template = .ok true)
    {found : List (Option OperationalEntity)} (hfound : candidates snapshot template = .ok found)
    {entity : Option OperationalEntity} (hmem : entity ∈ found) :
    ∃ definition index,
      planner.instantiate snapshot definition template stageId onFailure index entity ∈ compiled := by
  obtain ⟨definition, -, h⟩ := except_bind_eq_ok h
  obtain ⟨others, hothers, h⟩ := except_bind_eq_ok h
  obtain rfl : others = found := Except.ok.inj (hothers.symm.trans hfound)
  rcases compileCandidates_eq h with ⟨-, rfl | hfalse⟩ | ⟨-, rfl⟩
  · cases hmem
  · rw [happlies] at hfalse
    cases hfalse
  · obtain ⟨index, hindex, rfl⟩ := List.getElem_of_mem hmem
    exact ⟨definition, _, List.mem_mapIdx.mpr ⟨index, hindex, rfl⟩⟩

end Templates

section Stages

structure Linked (stageId : String) (external : List String) (stageActions : List ActionInstance) :
    Prop where
  staged : ∀ action ∈ stageActions, action.stageId = some stageId
  behind : ∀ action ∈ stageActions, external ⊆ action.dependsOnActionIds
  known : ∀ action ∈ stageActions, ∀ dependency ∈ action.dependsOnActionIds,
    dependency ∈ external ∨ ∃ other ∈ stageActions, other.actionId = dependency

theorem Linked.link (h : Linked stageId external stageActions) (hstage : action.stageId = some stageId) :
    Linked stageId external (link external template stageActions action) := by
  constructor
  · intro candidate hmem
    rcases List.mem_append.mp hmem with hold | hnew
    · exact h.staged candidate hold
    · rw [List.mem_singleton.mp hnew]
      exact hstage
  · intro candidate hmem
    rcases List.mem_append.mp hmem with hold | hnew
    · exact h.behind candidate hold
    · rw [List.mem_singleton.mp hnew]
      intro dependency hdependency
      exact mem_sortedSet.mpr (List.mem_append_left _ hdependency)
  · intro candidate hmem dependency hdependency
    rcases List.mem_append.mp hmem with hold | hnew
    · refine (h.known candidate hold dependency hdependency).imp_right fun hother => ?_
      obtain ⟨other, hother, hid⟩ := hother
      exact ⟨other, List.mem_append_left _ hother, hid⟩
    · rw [List.mem_singleton.mp hnew] at hdependency
      refine (List.mem_append.mp (mem_sortedSet.mp hdependency)).imp_right fun hinternal => ?_
      obtain ⟨other, hother, hid⟩ := List.mem_map.mp hinternal
      exact ⟨other, List.mem_append_left _ (List.mem_filter.mp hother).1, hid⟩

theorem Linked.foldl_link (h : Linked stageId external stageActions)
    (hstaged : ∀ action ∈ compiled, action.stageId = some stageId) :
    Linked stageId external (compiled.foldl (LifecyclePlanner.link external template) stageActions) := by
  induction compiled generalizing stageActions with
  | nil => exact h
  | cons action compiled ih =>
    obtain ⟨hfirst, hrest⟩ := List.forall_mem_cons.mp hstaged
    exact ih (h.link hfirst) hrest

theorem compileStage_linked (h : planner.compileStage snapshot external stage = .ok stageActions) :
    Linked stage.stageId external stageActions := by
  refine foldlM_ok h ⟨?_, ?_, ?_⟩ fun template _ earlier later hearlier hbody => ?_
  · exact fun _ hmem => absurd hmem List.not_mem_nil
  · exact fun _ hmem => absurd hmem List.not_mem_nil
  · exact fun _ hmem => absurd hmem List.not_mem_nil
  · obtain ⟨compiled, hcompiled, hbody⟩ := except_bind_eq_ok hbody
    obtain rfl := Except.ok.inj hbody
    apply hearlier.foldl_link
    intro action hmem
    obtain ⟨definition, found, index, entity, -, -, -, -, rfl⟩ := mem_compileTemplate hcompiled hmem
    rfl

end Stages

section Plans

variable {plan : RecoveryPlan} {mode : PlanMode} {policyId : Option String}

def unlinked (action : ActionInstance) : ActionInstance := { action with dependsOnActionIds := [] }

theorem map_unlinked_foldl_link :
    (compiled.foldl (LifecyclePlanner.link external template) stageActions).map unlinked =
      stageActions.map unlinked ++ compiled.map unlinked := by
  induction compiled generalizing stageActions with
  | nil => simp
  | cons action compiled ih =>
    rw [List.foldl_cons, ih, LifecyclePlanner.link, List.map_append]
    simp [unlinked]

def CompiledFor (planner : LifecyclePlanner) (snapshot : EnvironmentSnapshot)
    (template : LifecycleActionTemplate) (entity : Option OperationalEntity) : Prop :=
  planner.applies snapshot template = .ok true ∧
    ∃ found, candidates snapshot template = .ok found ∧ entity ∈ found

theorem mem_map_unlinked_addTemplates {templates : List LifecycleActionTemplate}
    {start : List ActionInstance}
    (h : templates.foldlM (planner.addTemplate snapshot external stage) start = .ok stageActions) :
    action ∈ stageActions.map unlinked ↔ action ∈ start.map unlinked ∨
      ∃ template ∈ templates, ∃ compiled,
        planner.compileTemplate snapshot template stage.stageId stage.onFailure = .ok compiled ∧
        action ∈ compiled.map unlinked := by
  induction templates generalizing start with
  | nil =>
    obtain rfl := Except.ok.inj h
    simp
  | cons template templates ih =>
    rw [List.foldlM_cons] at h
    obtain ⟨next, hnext, h⟩ := except_bind_eq_ok h
    obtain ⟨compiled, hcompiled, hnext⟩ := except_bind_eq_ok hnext
    obtain rfl := Except.ok.inj hnext
    rw [ih h, map_unlinked_foldl_link, List.mem_append, List.exists_mem_cons_iff, or_assoc, hcompiled]
    simp only [Except.ok.injEq, exists_eq_left']

theorem mem_map_unlinked_compileStage
    (h : planner.compileStage snapshot external stage = .ok stageActions) :
    action ∈ stageActions.map unlinked ↔ ∃ template ∈ stage.actionTemplates, ∃ compiled,
      planner.compileTemplate snapshot template stage.stageId stage.onFailure = .ok compiled ∧
      action ∈ compiled.map unlinked := by
  rw [mem_map_unlinked_addTemplates h]
  simp

theorem mem_map_unlinked_addStages {stages : List LifecycleStageDefinition} {start : Compilation}
    (h : stages.foldlM (planner.addStage snapshot) start = .ok compilation) :
    action ∈ compilation.actions.map unlinked ↔ action ∈ start.actions.map unlinked ∨
      ∃ stage ∈ stages, ∃ template ∈ stage.actionTemplates, ∃ compiled,
        planner.compileTemplate snapshot template stage.stageId stage.onFailure = .ok compiled ∧
        action ∈ compiled.map unlinked := by
  induction stages generalizing start with
  | nil =>
    obtain rfl := Except.ok.inj h
    simp
  | cons stage stages ih =>
    rw [List.foldlM_cons] at h
    obtain ⟨next, hnext, h⟩ := except_bind_eq_ok h
    obtain ⟨stageActions, hstage, hnext⟩ := except_bind_eq_ok hnext
    obtain rfl := Except.ok.inj hnext
    rw [ih h, Compilation.add, List.map_append, List.mem_append, mem_map_unlinked_compileStage hstage,
      List.exists_mem_cons_iff, or_assoc]

theorem plan_eq_ok (h : planner.plan snapshot profile mode policyId = .ok plan) :
    ∃ compilation, planner.compile snapshot profile = .ok compilation ∧
      plan.actions = compilation.actions ∧ plan.planId = planner.planId snapshot profile ∧
      plan.Accepted planner.python := by
  obtain ⟨compilation, hcompilation, h⟩ := except_bind_eq_ok h
  obtain ⟨valid, hvalid, h⟩ := except_bind_eq_ok h
  obtain rfl := Except.ok.inj h
  exact ⟨compilation, hcompilation, rfl, rfl, hvalid⟩

theorem mem_plan_actions (h : planner.plan snapshot profile mode policyId = .ok plan)
    (hmem : action ∈ plan.actions) :
    ∃ stage ∈ profile.stages, ∃ template ∈ stage.actionTemplates, ∃ entity,
      planner.CompiledFor snapshot template entity ∧ ∃ definition index, unlinked action =
        planner.instantiate snapshot definition template stage.stageId stage.onFailure index entity := by
  obtain ⟨compilation, hcompilation, hactions, -⟩ := plan_eq_ok h
  have hunlinked : unlinked action ∈ compilation.actions.map unlinked :=
    List.mem_map_of_mem (hactions ▸ hmem)
  rw [mem_map_unlinked_addStages hcompilation] at hunlinked
  rcases hunlinked with hnone | ⟨stage, hstage, template, htemplate, compiled, hcompiled, haction⟩
  · cases hnone
  obtain ⟨instance', hinstance, heq⟩ := List.mem_map.mp haction
  obtain ⟨definition, found, index, entity, -, happlies, hfound, hentity, rfl⟩ :=
    mem_compileTemplate hcompiled hinstance
  exact ⟨stage, hstage, template, htemplate, entity, ⟨happlies, found, hfound, hentity⟩,
    definition, index, heq.symm⟩

theorem exists_mem_plan_actions (h : planner.plan snapshot profile mode policyId = .ok plan)
    (hstage : stage ∈ profile.stages) (htemplate : template ∈ stage.actionTemplates)
    {entity : Option OperationalEntity} (hentity : planner.CompiledFor snapshot template entity) :
    ∃ action ∈ plan.actions, ∃ definition index, unlinked action =
      planner.instantiate snapshot definition template stage.stageId stage.onFailure index entity := by
  obtain ⟨compilation, hcompilation, hactions, -⟩ := plan_eq_ok h
  obtain ⟨happlies, found, hfound, hmem⟩ := hentity
  obtain ⟨earlier, later, hturn⟩ := foldlM_ok_turn hcompilation hstage
  obtain ⟨stageActions, hstageActions, -⟩ := except_bind_eq_ok hturn
  obtain ⟨before, after, hturn⟩ := foldlM_ok_turn hstageActions htemplate
  obtain ⟨compiled, hcompiled, -⟩ := except_bind_eq_ok hturn
  obtain ⟨definition, index, hinstance⟩ := exists_mem_compileTemplate hcompiled happlies hfound hmem
  have hunlinked := (mem_map_unlinked_addStages hcompilation).mpr (Or.inr ⟨stage, hstage, template,
    htemplate, compiled, hcompiled, List.mem_map_of_mem (f := unlinked) hinstance⟩)
  obtain ⟨action, hmem, heq⟩ := List.mem_map.mp hunlinked
  exact ⟨action, hactions ▸ hmem, definition, index, heq⟩

end Plans

end KubeOps.Lifecycle.LifecyclePlanner
