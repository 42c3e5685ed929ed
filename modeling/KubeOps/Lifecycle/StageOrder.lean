import KubeOps.Lifecycle.Compilation
import KubeOps.Models.PlanGraph

/-! The order of the stages in a compiled plan. A stage stands behind a stage it
depends on only along dependencies the profile lists before their dependents. -/
namespace KubeOps.Lifecycle

open KubeOps.Foundation KubeOps.Models KubeOps.Actions

def DependsOnStage (profile : LifecycleProfile) (stageId dependency : String) : Prop :=
  ∃ stage ∈ profile.stages, stage.stageId = stageId ∧ dependency ∈ stage.dependsOnStageIds

def LinkedStage (profile : LifecycleProfile) (stageId dependency : String) : Prop :=
  DependsOnStage profile stageId dependency ∧
    profile.stageIds.idxOf dependency < profile.stageIds.idxOf stageId

/-- Every action of a stage depends on every action of the stages it depends on. -/
def StagesOrdered (profile : LifecycleProfile) (plan : RecoveryPlan) : Prop :=
  ∀ stageId dependency, Relation.TransGen (DependsOnStage profile) stageId dependency →
    ∀ action ∈ plan.actions, action.stageId = some stageId →
    ∀ earlier ∈ plan.actions, earlier.stageId = some dependency →
      Relation.TransGen plan.Depends action.actionId earlier.actionId

namespace LifecyclePlanner

variable {planner : LifecyclePlanner} {snapshot : EnvironmentSnapshot}
  {profile : LifecycleProfile} {plan : RecoveryPlan} {order : List String}
  {stage : LifecycleStageDefinition} {front back : List LifecycleStageDefinition}
  {stageId dependency actionId : String} {external : List String} {action : ActionInstance}
  {stageActions : List ActionInstance} {compilation next : Compilation}

def Compiles (planner : LifecyclePlanner) (snapshot : EnvironmentSnapshot)
    (profile : LifecycleProfile) (stageId : String) : Prop :=
  ∃ stage ∈ profile.stages, stage.stageId = stageId ∧
    ∃ template ∈ stage.actionTemplates, ∃ entity, planner.CompiledFor snapshot template entity

section Stages

theorem exists_terminal (horder : plan.DependencyOrder order) (hsub : stageActions ⊆ plan.actions)
    (hmem : action ∈ stageActions) :
    ∃ terminal ∈ terminalActions stageActions external,
      Relation.ReflTransGen plan.Depends terminal action.actionId := by
  have hids : ∀ other ∈ stageActions, other.actionId ∈ order := fun other hother =>
    (horder.covers _).mpr (List.mem_map_of_mem (hsub hother))
  obtain ⟨terminal, ⟨⟨last, hlast, rfl⟩, hreach⟩, hfree⟩ := horder.ordered.exists_last
    (fun id => (∃ other ∈ stageActions, other.actionId = id) ∧
      Relation.ReflTransGen plan.Depends id action.actionId)
    ⟨action.actionId, hids action hmem, ⟨action, hmem, rfl⟩, .refl⟩
  have hterminal : last.actionId ∈ (stageActions.filter fun action =>
      ¬ stageActions.any fun other => action.actionId ∈ other.dependsOnActionIds).map
        ActionInstance.actionId := by
    apply List.mem_map_of_mem
    rw [List.mem_filter]
    refine ⟨hlast, ?_⟩
    simp only [List.any_eq_true, decide_eq_true_eq, not_exists, not_and]
    intro other hother hdependency
    have hdepends : plan.Depends other.actionId last.actionId :=
      ⟨other, hsub hother, rfl, hdependency⟩
    exact hfree other.actionId (hids other hother) hdepends
      ⟨⟨other, hother, rfl⟩, Relation.ReflTransGen.head hdepends hreach⟩
  refine ⟨last.actionId, ?_, hreach⟩
  rw [terminalActions, if_neg (List.ne_nil_of_mem hterminal)]
  exact hterminal

theorem exists_terminal_external (horder : plan.DependencyOrder order)
    (hsub : stageActions ⊆ plan.actions) (hlinked : Linked stageId external stageActions)
    (hmem : actionId ∈ external) :
    ∃ terminal ∈ terminalActions stageActions external,
      Relation.ReflTransGen plan.Depends terminal actionId := by
  cases stageActions with
  | nil => exact ⟨actionId, hmem, .refl⟩
  | cons action rest =>
    have haction : action ∈ action :: rest := List.mem_cons_self ..
    obtain ⟨terminal, hterminal, hreach⟩ := exists_terminal horder hsub haction
    exact ⟨terminal, hterminal, hreach.tail
      ⟨action, hsub haction, rfl, hlinked.behind action haction hmem⟩⟩

theorem mem_terminalActions (h : actionId ∈ terminalActions stageActions external) :
    actionId ∈ external ∨ ∃ action ∈ stageActions, action.actionId = actionId := by
  rw [terminalActions] at h
  split at h
  · exact Or.inl h
  · obtain ⟨action, haction, rfl⟩ := List.mem_map.mp h
    exact Or.inr ⟨action, (List.mem_filter.mp haction).1, rfl⟩

end Stages

section Listing

theorem mem_map_front_iff (hsplit : profile.stages = front ++ back) :
    stageId ∈ front.map LifecycleStageDefinition.stageId ↔
      profile.stageIds.idxOf stageId < front.length := by
  rw [LifecycleProfile.stageIds, hsplit, List.map_append]
  by_cases hmem : stageId ∈ front.map LifecycleStageDefinition.stageId
  · rw [List.idxOf_append_of_mem hmem]
    simpa [hmem] using List.idxOf_lt_length_of_mem hmem
  · rw [List.idxOf_append_of_notMem hmem]
    simp [hmem]

theorem LinkedStage.mem_front (hsplit : profile.stages = front ++ back)
    (hmem : stageId ∈ front.map LifecycleStageDefinition.stageId)
    (h : Relation.ReflTransGen (LinkedStage profile) stageId dependency) :
    dependency ∈ front.map LifecycleStageDefinition.stageId := by
  induction h with
  | refl => exact hmem
  | tail _ hlast ih =>
    rw [mem_map_front_iff hsplit] at ih ⊢
    exact hlast.2.trans ih

theorem transGen_linkedStage (hlisted : ∀ stage ∈ profile.stages, ∀ dependency ∈ stage.dependsOnStageIds,
      profile.stageIds.idxOf dependency < profile.stageIds.idxOf stage.stageId)
    (h : Relation.TransGen (DependsOnStage profile) stageId dependency) :
    Relation.TransGen (LinkedStage profile) stageId dependency := by
  have hlink : ∀ later earlier, DependsOnStage profile later earlier →
      LinkedStage profile later earlier := by
    intro later earlier hdeclared
    refine ⟨hdeclared, ?_⟩
    obtain ⟨stage, hstage, rfl, hdependency⟩ := hdeclared
    exact hlisted stage hstage earlier hdependency
  exact Relation.TransGen.mono hlink stageId dependency h

end Listing

section Prefixes

/-- `stage_terminal_actions.get(stageId, [])` -/
def terminals (compilation : Compilation) (stageId : String) : List String :=
  (compilation.stageTerminalActions.get? stageId).getD []

/-- The stages compiled so far, each behind those it is linked to. -/
structure Ordered (profile : LifecycleProfile) (plan : RecoveryPlan)
    (front : List LifecycleStageDefinition) (compilation : Compilation) : Prop where
  staged : ∀ action ∈ compilation.actions, ∃ stageId ∈ front.map LifecycleStageDefinition.stageId,
    action.stageId = some stageId
  unlisted : ∀ stageId ∉ front.map LifecycleStageDefinition.stageId, terminals compilation stageId = []
  reached : ∀ stageId ∈ front.map LifecycleStageDefinition.stageId, ∀ dependency,
    Relation.ReflTransGen (LinkedStage profile) stageId dependency →
    ∀ action ∈ compilation.actions, action.stageId = some dependency →
      ∃ terminal ∈ terminals compilation stageId,
        Relation.ReflTransGen plan.Depends terminal action.actionId
  behind : ∀ action ∈ compilation.actions, ∀ stageId, action.stageId = some stageId →
    ∀ dependency, LinkedStage profile stageId dependency →
      terminals compilation dependency ⊆ action.dependsOnActionIds
  confined : ∀ stageId, ∀ terminal ∈ terminals compilation stageId,
    ∃ action ∈ compilation.actions, action.actionId = terminal ∧
      ∃ dependency, action.stageId = some dependency ∧
        Relation.ReflTransGen (LinkedStage profile) stageId dependency
  known : ∀ action ∈ compilation.actions, ∀ stageId, action.stageId = some stageId →
    ∀ id ∈ action.dependsOnActionIds, ∃ earlier ∈ compilation.actions, earlier.actionId = id ∧
      ∃ dependency, earlier.stageId = some dependency ∧
        Relation.ReflTransGen (LinkedStage profile) stageId dependency

theorem Ordered.nil : Ordered profile plan [] {} where
  staged _ hmem := absurd hmem List.not_mem_nil
  unlisted _ _ := rfl
  reached _ hmem := absurd hmem List.not_mem_nil
  behind _ hmem := absurd hmem List.not_mem_nil
  confined _ _ hmem := absurd hmem List.not_mem_nil
  known _ hmem := absurd hmem List.not_mem_nil

end Prefixes

section Step

theorem fresh_of_nodup (hnodup : profile.stageIds.Nodup)
    (hsplit : profile.stages = front ++ stage :: back)
    (hmem : stageId ∈ front.map LifecycleStageDefinition.stageId) : stageId ≠ stage.stageId := by
  rw [LifecycleProfile.stageIds, hsplit, List.map_append, List.map_cons] at hnodup
  exact (List.nodup_append.mp hnodup).2.2 _ hmem _ (List.mem_cons_self ..)

theorem linkedStage_iff (hnodup : profile.stageIds.Nodup)
    (hsplit : profile.stages = front ++ stage :: back) :
    LinkedStage profile stage.stageId dependency ↔ dependency ∈ stage.dependsOnStageIds ∧
      dependency ∈ front.map LifecycleStageDefinition.stageId := by
  have hstage : stage ∈ profile.stages := by simp [hsplit]
  have hindex : profile.stageIds.idxOf stage.stageId = front.length := by
    rw [LifecycleProfile.stageIds, hsplit, List.map_append,
      List.idxOf_append_of_notMem fun hmem => fresh_of_nodup hnodup hsplit hmem rfl]
    simp
  rw [mem_map_front_iff hsplit, LinkedStage, hindex]
  apply and_congr_left
  intro _
  constructor
  · intro h
    obtain ⟨other, hother, hid, hdependency⟩ := h
    rw [← List.inj_on_of_nodup_map hnodup hother hstage hid]
    exact hdependency
  · intro hdependency
    exact ⟨stage, hstage, rfl, hdependency⟩

theorem Ordered.mem_externalDependencies (h : Ordered profile plan front compilation)
    (hnodup : profile.stageIds.Nodup) (hsplit : profile.stages = front ++ stage :: back) :
    actionId ∈ externalDependencies compilation stage ↔
      ∃ dependency, LinkedStage profile stage.stageId dependency ∧
        actionId ∈ terminals compilation dependency := by
  simp only [externalDependencies, List.mem_flatMap, linkedStage_iff hnodup hsplit]
  refine exists_congr fun dependency => ?_
  rw [and_assoc, and_congr_right_iff]
  intro _
  change actionId ∈ terminals compilation dependency ↔ _
  constructor
  · intro hmem
    refine ⟨?_, hmem⟩
    by_contra hunlisted
    rw [h.unlisted dependency hunlisted] at hmem
    cases hmem
  · exact And.right

@[simp] theorem terminals_add_self : terminals (compilation.add stage stageActions) stage.stageId =
    terminalActions stageActions (externalDependencies compilation stage) := by
  simp [terminals, Compilation.add]

theorem terminals_add_of_ne (hne : stageId ≠ stage.stageId) :
    terminals (compilation.add stage stageActions) stageId = terminals compilation stageId := by
  rw [terminals, Compilation.add, Dict.get?_set_ne _ _ hne]
  rfl

theorem mem_actions_add : action ∈ (compilation.add stage stageActions).actions ↔
    action ∈ compilation.actions ∨ action ∈ stageActions := List.mem_append

theorem Ordered.mem_of_mem_add (h : Ordered profile plan front compilation)
    (hlinked : Linked stage.stageId external stageActions)
    (hmem : action ∈ (compilation.add stage stageActions).actions)
    (hstageId : action.stageId = some stageId) :
    action ∈ compilation.actions ∧ stageId ∈ front.map LifecycleStageDefinition.stageId ∨
      action ∈ stageActions ∧ stageId = stage.stageId := by
  rcases mem_actions_add.mp hmem with hold | hnew
  · obtain ⟨own, hown, heq⟩ := h.staged action hold
    rw [hstageId, Option.some.injEq] at heq
    exact Or.inl ⟨hold, heq ▸ hown⟩
  · have heq := hlinked.staged action hnew
    rw [hstageId, Option.some.injEq] at heq
    exact Or.inr ⟨hnew, heq⟩

theorem Ordered.external_confined (h : Ordered profile plan front compilation)
    (hnodup : profile.stageIds.Nodup) (hsplit : profile.stages = front ++ stage :: back)
    (hmem : actionId ∈ externalDependencies compilation stage) :
    ∃ earlier ∈ compilation.actions, earlier.actionId = actionId ∧
      ∃ dependency, earlier.stageId = some dependency ∧
        Relation.ReflTransGen (LinkedStage profile) stage.stageId dependency := by
  obtain ⟨middle, hmiddle, hterminal⟩ := (h.mem_externalDependencies hnodup hsplit).mp hmem
  obtain ⟨earlier, hearlier, hid, dependency, hstageId, hpath⟩ :=
    h.confined middle actionId hterminal
  exact ⟨earlier, hearlier, hid, dependency, hstageId, hpath.head hmiddle⟩

theorem Ordered.reached_add (h : Ordered profile plan front compilation)
    (hnodup : profile.stageIds.Nodup) (hsplit : profile.stages = front ++ stage :: back)
    (horder : plan.DependencyOrder order) (hsub : stageActions ⊆ plan.actions)
    (hlinked : Linked stage.stageId (externalDependencies compilation stage) stageActions)
    (hpath : Relation.ReflTransGen (LinkedStage profile) stage.stageId dependency)
    (hmem : action ∈ (compilation.add stage stageActions).actions)
    (hstageId : action.stageId = some dependency) :
    ∃ terminal ∈ terminalActions stageActions (externalDependencies compilation stage),
      Relation.ReflTransGen plan.Depends terminal action.actionId := by
  rcases h.mem_of_mem_add hlinked hmem hstageId with ⟨hold, hfront⟩ | ⟨hnew, -⟩
  · rcases Relation.ReflTransGen.cases_head hpath with rfl | ⟨middle, hmiddle, hpath⟩
    · exact absurd rfl (fresh_of_nodup hnodup hsplit hfront)
    · have hmiddleFront := ((linkedStage_iff hnodup hsplit).mp hmiddle).2
      obtain ⟨terminal, hterminal, hreach⟩ :=
        h.reached middle hmiddleFront dependency hpath action hold hstageId
      have hexternal : terminal ∈ externalDependencies compilation stage :=
        (h.mem_externalDependencies hnodup hsplit).mpr ⟨middle, hmiddle, hterminal⟩
      obtain ⟨last, hlast, hfirst⟩ := exists_terminal_external horder hsub hlinked hexternal
      exact ⟨last, hlast, hfirst.trans hreach⟩
  · exact exists_terminal horder hsub hnew

theorem Ordered.add (h : Ordered profile plan front compilation)
    (hnodup : profile.stageIds.Nodup) (hsplit : profile.stages = front ++ stage :: back)
    (horder : plan.DependencyOrder order)
    (hsub : (compilation.add stage stageActions).actions ⊆ plan.actions)
    (hlinked : Linked stage.stageId (externalDependencies compilation stage) stageActions) :
    Ordered profile plan (front ++ [stage]) (compilation.add stage stageActions) := by
  have hstageSub : stageActions ⊆ plan.actions := fun _ hmem =>
    hsub (mem_actions_add.mpr (Or.inr hmem))
  have hsame {id : String} (hid : id ∈ front.map LifecycleStageDefinition.stageId) :
      terminals (compilation.add stage stageActions) id = terminals compilation id :=
    terminals_add_of_ne (fresh_of_nodup hnodup hsplit hid)
  have hsplitFront : profile.stages = front ++ (stage :: back) := hsplit
  constructor
  · intro action hmem
    rcases mem_actions_add.mp hmem with hold | hnew
    · obtain ⟨own, hown, heq⟩ := h.staged action hold
      exact ⟨own, by simp [hown], heq⟩
    · exact ⟨stage.stageId, by simp, hlinked.staged action hnew⟩
  · intro stageId hunlisted
    simp only [List.map_append, List.mem_append, not_or, List.map_cons, List.map_nil,
      List.mem_singleton] at hunlisted
    rw [terminals_add_of_ne hunlisted.2]
    exact h.unlisted stageId hunlisted.1
  · intro stageId hlisted dependency hpath action hmem hstageId
    simp only [List.map_append, List.mem_append, List.map_cons, List.map_nil,
      List.mem_singleton] at hlisted
    rcases hlisted with hfront | rfl
    · have hdependency := LinkedStage.mem_front hsplitFront hfront hpath
      rcases h.mem_of_mem_add hlinked hmem hstageId with ⟨hold, -⟩ | ⟨-, rfl⟩
      · rw [hsame hfront]
        exact h.reached stageId hfront dependency hpath action hold hstageId
      · exact absurd rfl (fresh_of_nodup hnodup hsplit hdependency)
    · rw [terminals_add_self]
      exact h.reached_add hnodup hsplit horder hstageSub hlinked hpath hmem hstageId
  · intro action hmem stageId hstageId dependency hlink
    rcases h.mem_of_mem_add hlinked hmem hstageId with ⟨hold, hfront⟩ | ⟨hnew, rfl⟩
    · rw [hsame (LinkedStage.mem_front hsplitFront hfront (.single hlink))]
      exact h.behind action hold stageId hstageId dependency hlink
    · rw [hsame ((linkedStage_iff hnodup hsplit).mp hlink).2]
      intro id hid
      exact hlinked.behind action hnew
        ((h.mem_externalDependencies hnodup hsplit).mpr ⟨dependency, hlink, hid⟩)
  · intro stageId terminal hterminal
    by_cases hself : stageId = stage.stageId
    · subst hself
      rw [terminals_add_self] at hterminal
      rcases mem_terminalActions hterminal with hexternal | ⟨action, hnew, hid⟩
      · obtain ⟨earlier, hearlier, hrest⟩ := h.external_confined hnodup hsplit hexternal
        exact ⟨earlier, mem_actions_add.mpr (Or.inl hearlier), hrest⟩
      · exact ⟨action, mem_actions_add.mpr (Or.inr hnew), hid, stage.stageId,
          hlinked.staged action hnew, .refl⟩
    · rw [terminals_add_of_ne hself] at hterminal
      obtain ⟨earlier, hearlier, hrest⟩ := h.confined stageId terminal hterminal
      exact ⟨earlier, mem_actions_add.mpr (Or.inl hearlier), hrest⟩
  · intro action hmem stageId hstageId id hid
    rcases h.mem_of_mem_add hlinked hmem hstageId with ⟨hold, -⟩ | ⟨hnew, rfl⟩
    · obtain ⟨earlier, hearlier, hrest⟩ := h.known action hold stageId hstageId id hid
      exact ⟨earlier, mem_actions_add.mpr (Or.inl hearlier), hrest⟩
    · rcases hlinked.known action hnew id hid with hexternal | ⟨other, hother, hotherId⟩
      · obtain ⟨earlier, hearlier, hrest⟩ := h.external_confined hnodup hsplit hexternal
        exact ⟨earlier, mem_actions_add.mpr (Or.inl hearlier), hrest⟩
      · exact ⟨other, mem_actions_add.mpr (Or.inr hother), hotherId, stage.stageId,
          hlinked.staged other hother, .refl⟩

end Step

section Plans

variable {mode : PlanMode} {policyId : Option String}

theorem actions_subset_addStages (h : back.foldlM (planner.addStage snapshot) compilation = .ok next) :
    compilation.actions ⊆ next.actions := by
  apply foldlM_ok h (List.Subset.refl _)
  intro stage _ value later hvalue hturn
  obtain ⟨stageActions, -, hturn⟩ := except_bind_eq_ok hturn
  obtain rfl := Except.ok.inj hturn
  exact List.Subset.trans hvalue (List.subset_append_left _ _)

theorem addStages_ordered (hnodup : profile.stageIds.Nodup) (horder : plan.DependencyOrder order)
    (hsplit : profile.stages = front ++ back) (h : Ordered profile plan front compilation)
    (hrun : back.foldlM (planner.addStage snapshot) compilation = .ok next)
    (hsub : next.actions ⊆ plan.actions) : Ordered profile plan profile.stages next := by
  induction back generalizing front compilation with
  | nil =>
    obtain rfl := Except.ok.inj hrun
    rw [List.append_nil] at hsplit
    rwa [hsplit]
  | cons stage back ih =>
    rw [List.foldlM_cons] at hrun
    obtain ⟨middle, hturn, hrest⟩ := except_bind_eq_ok hrun
    obtain ⟨stageActions, hcompiled, hturn⟩ := except_bind_eq_ok hturn
    obtain rfl := Except.ok.inj hturn
    have hmiddle := List.Subset.trans (actions_subset_addStages hrest) hsub
    apply ih _ (h.add hnodup hsplit horder hmiddle (compileStage_linked hcompiled)) hrest
    rw [hsplit, List.append_assoc, List.singleton_append]

variable (hplan : planner.plan snapshot profile mode policyId = .ok plan)

include hplan

theorem plan_ordered (hnodup : profile.stageIds.Nodup) (horder : plan.DependencyOrder order) :
    ∃ compilation, plan.actions = compilation.actions ∧
      Ordered profile plan profile.stages compilation := by
  obtain ⟨compilation, hcompilation, hactions, -⟩ := plan_eq_ok hplan
  refine ⟨compilation, hactions, ?_⟩
  apply addStages_ordered hnodup horder (List.nil_append _).symm Ordered.nil hcompilation
  rw [hactions]
  exact List.Subset.refl _

theorem compiles_iff {stageId : String} : planner.Compiles snapshot profile stageId ↔
    ∃ action ∈ plan.actions, action.stageId = some stageId := by
  constructor
  · intro h
    obtain ⟨stage, hstage, rfl, template, htemplate, entity, hentity⟩ := h
    obtain ⟨action, hmem, definition, index, heq⟩ :=
      exists_mem_plan_actions hplan hstage htemplate hentity
    exact ⟨action, hmem, (congrArg ActionInstance.stageId heq :)⟩
  · intro h
    obtain ⟨action, hmem, hstageId⟩ := h
    obtain ⟨stage, hstage, template, htemplate, entity, hentity, definition, index, heq⟩ :=
      mem_plan_actions hplan hmem
    have hid : action.stageId = some stage.stageId := (congrArg ActionInstance.stageId heq :)
    rw [hstageId, Option.some.injEq] at hid
    exact ⟨stage, hstage, hid.symm, template, htemplate, entity, hentity⟩

theorem linked_of_depends (hnodup : profile.stageIds.Nodup) (hmem : action ∈ plan.actions)
    (hstageId : action.stageId = some stageId)
    (h : Relation.TransGen plan.Depends action.actionId actionId) :
    ∃ earlier ∈ plan.actions, earlier.actionId = actionId ∧
      ∃ dependency, earlier.stageId = some dependency ∧
        Relation.ReflTransGen (LinkedStage profile) stageId dependency := by
  obtain ⟨-, -, -, -, haccepted⟩ := plan_eq_ok hplan
  obtain ⟨order, horder⟩ := haccepted.exists_order
  obtain ⟨compilation, hactions, hordered⟩ := plan_ordered hplan hnodup horder
  have hstep : ∀ action ∈ plan.actions, ∀ stageId, action.stageId = some stageId →
      ∀ id, plan.Depends action.actionId id → ∃ earlier ∈ plan.actions, earlier.actionId = id ∧
        ∃ dependency, earlier.stageId = some dependency ∧
          Relation.ReflTransGen (LinkedStage profile) stageId dependency := by
    intro action hmem stageId hstageId id hdepends
    obtain ⟨other, hother, hid, hdependency⟩ := hdepends
    obtain rfl := List.inj_on_of_nodup_map horder.distinct hother hmem hid
    rw [hactions] at hmem ⊢
    exact hordered.known other hmem stageId hstageId id hdependency
  induction h with
  | single hdepends => exact hstep action hmem stageId hstageId _ hdepends
  | tail _ hdepends ih =>
    obtain ⟨middle, hmiddle, rfl, between, hbetween, hfirst⟩ := ih
    obtain ⟨earlier, hearlier, hid, dependency, hdependency, hlast⟩ :=
      hstep middle hmiddle between hbetween _ hdepends
    exact ⟨earlier, hearlier, hid, dependency, hdependency, hfirst.trans hlast⟩

theorem depends_of_linked (hnodup : profile.stageIds.Nodup)
    (h : Relation.TransGen (LinkedStage profile) stageId dependency)
    (hmem : action ∈ plan.actions) (hstageId : action.stageId = some stageId)
    {earlier : ActionInstance} (hearlier : earlier ∈ plan.actions)
    (hdependency : earlier.stageId = some dependency) :
    Relation.TransGen plan.Depends action.actionId earlier.actionId := by
  obtain ⟨-, -, -, -, haccepted⟩ := plan_eq_ok hplan
  obtain ⟨order, horder⟩ := haccepted.exists_order
  obtain ⟨compilation, hactions, hordered⟩ := plan_ordered hplan hnodup horder
  obtain ⟨middle, hmiddle, hpath⟩ := Relation.TransGen.head'_iff.mp h
  have hlisted : middle ∈ profile.stages.map LifecycleStageDefinition.stageId := by
    rw [mem_map_front_iff (List.append_nil profile.stages).symm]
    exact hmiddle.2.trans_le (List.idxOf_le_length.trans_eq (List.length_map _))
  obtain ⟨terminal, hterminal, hreach⟩ :=
    hordered.reached middle hlisted dependency hpath earlier (hactions ▸ hearlier) hdependency
  have hbehind := hordered.behind action (hactions ▸ hmem) stageId hstageId middle hmiddle hterminal
  exact Relation.TransGen.head' ⟨action, hmem, rfl, hbehind⟩ hreach

theorem stagesOrdered_iff (haccepted : profile.Accepted planner.python) :
    StagesOrdered profile plan ↔ ∀ stageId dependency,
      Relation.TransGen (DependsOnStage profile) stageId dependency →
      planner.Compiles snapshot profile stageId → planner.Compiles snapshot profile dependency →
        Relation.TransGen (LinkedStage profile) stageId dependency := by
  have hnodup := haccepted.nodup
  constructor
  · intro h stageId dependency hdeclared hdependent hcompiled
    obtain ⟨action, hmem, hstageId⟩ := (compiles_iff hplan).mp hdependent
    obtain ⟨earlier, hearlier, hdependency⟩ := (compiles_iff hplan).mp hcompiled
    have hreach := h stageId dependency hdeclared action hmem hstageId earlier hearlier hdependency
    obtain ⟨last, hlast, hid, own, hown, hpath⟩ :=
      linked_of_depends hplan hnodup hmem hstageId hreach
    obtain ⟨-, -, -, -, hvalid⟩ := plan_eq_ok hplan
    obtain ⟨order, horder⟩ := hvalid.exists_order
    obtain rfl := List.inj_on_of_nodup_map horder.distinct hlast hearlier hid
    obtain rfl := Option.some.inj (hown.symm.trans hdependency)
    rcases Relation.reflTransGen_iff_eq_or_transGen.mp hpath with rfl | htrans
    · -- a stage that depends on itself would have an action that does
      have hself := h own own hdeclared action hmem hstageId action hmem hstageId
      have hlisted := (horder.covers action.actionId).mpr (List.mem_map_of_mem hmem)
      exact absurd hself (horder.ordered.not_transGen_self hlisted)
    · exact htrans
  · intro h stageId dependency hdeclared action hmem hstageId earlier hearlier hdependency
    have hlinked := h stageId dependency hdeclared
      ((compiles_iff hplan).mpr ⟨action, hmem, hstageId⟩)
      ((compiles_iff hplan).mpr ⟨earlier, hearlier, hdependency⟩)
    exact depends_of_linked hplan hnodup hlinked hmem hstageId hearlier hdependency

end Plans

end LifecyclePlanner

namespace LocalDevelopment

open LifecyclePlanner

/-- A stage without actions stands between the two others. -/
def throughEmptyStage : LifecycleProfile := startup [
  { stageId := "platform", actionTemplates := [waitTemplate "ready"] },
  { stageId := "settle", dependsOnStageIds := ["platform"] },
  { stageId := "workloads", dependsOnStageIds := ["settle"], actionTemplates := [waitTemplate "healthy"] }]

theorem throughEmptyStage_stagesOrdered : ∃ plan,
    planner.plan snapshot throughEmptyStage .dryRun none = .ok plan ∧ plan.actions.length = 2 ∧
      StagesOrdered throughEmptyStage plan := by
  have hlength : (planner.plan snapshot throughEmptyStage .dryRun none).map
      (fun plan => plan.actions.length) = .ok 2 := by
    decide +kernel
  obtain ⟨plan, hplan, hactions⟩ := except_map_eq_ok hlength
  refine ⟨plan, hplan, hactions, ?_⟩
  apply (stagesOrdered_iff hplan (by decide)).mpr
  intro stageId dependency hdeclared _ _
  exact transGen_linkedStage (by decide) hdeclared

def dependentFirst : LifecycleProfile := startup [
  { stageId := "workloads", dependsOnStageIds := ["platform"], actionTemplates := [waitTemplate "healthy"] },
  { stageId := "platform", actionTemplates := [waitTemplate "ready"] }]

theorem dependentFirst_not_stagesOrdered : dependentFirst.Accepted planner.python ∧
    ∃ plan, planner.plan snapshot dependentFirst .dryRun none = .ok plan ∧
      ¬ StagesOrdered dependentFirst plan := by
  have hresult : (planner.plan snapshot dependentFirst .dryRun none).map (fun plan =>
      plan.actions.map fun action => (action.stageId, action.dependsOnActionIds)) =
        .ok [(some "workloads", []), (some "platform", [])] := by
    decide +kernel
  obtain ⟨plan, hplan, hactions⟩ := except_map_eq_ok hresult
  refine ⟨by decide, plan, hplan, fun h => ?_⟩
  have hfirst : (some "workloads", []) ∈ plan.actions.map fun action =>
      (action.stageId, action.dependsOnActionIds) := by
    simp [hactions]
  have hsecond : (some "platform", []) ∈ plan.actions.map fun action =>
      (action.stageId, action.dependsOnActionIds) := by
    simp [hactions]
  obtain ⟨action, hmem, haction⟩ := List.mem_map.mp hfirst
  obtain ⟨earlier, hearlier, heq⟩ := List.mem_map.mp hsecond
  have hdeclared : DependsOnStage dependentFirst "workloads" "platform" :=
    ⟨_, List.mem_cons_self .., rfl, List.mem_singleton.mpr rfl⟩
  have hpath := h "workloads" "platform" (.single hdeclared) action hmem (congrArg Prod.fst haction)
    earlier hearlier (congrArg Prod.fst heq)
  obtain ⟨id, hdepends, -⟩ := Relation.TransGen.head'_iff.mp hpath
  obtain ⟨other, hother, -, hid⟩ := hdepends
  have hnone : (other.stageId, other.dependsOnActionIds) ∈
      [((some "workloads", []) : Option String × List String), (some "platform", [])] := by
    rw [← hactions]
    exact List.mem_map_of_mem hother
  simp only [List.mem_cons, Prod.mk.injEq, List.not_mem_nil, or_false] at hnone
  rcases hnone with ⟨-, hnone⟩ | ⟨-, hnone⟩
  · rw [hnone] at hid
    cases hid
  · rw [hnone] at hid
    cases hid

end LocalDevelopment

end KubeOps.Lifecycle
