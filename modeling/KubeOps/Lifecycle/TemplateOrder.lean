import KubeOps.Foundation.Segments
import KubeOps.Lifecycle.StageOrder

/-! The order of the templates in a compiled stage. The actions of a template stand behind those
of a template it depends on only along templates that are listed before, compile to something
and are found under the id that is asked for. -/
namespace KubeOps.Lifecycle

open KubeOps.Foundation KubeOps.Models KubeOps.Actions

namespace LifecyclePlanner

section Definitions

variable (planner : LifecyclePlanner) (snapshot : EnvironmentSnapshot) (stage : LifecycleStageDefinition)

def templateIds : List String := stage.actionTemplates.map LifecycleActionTemplate.templateId

def DependsOnTemplate (template dependency : LifecycleActionTemplate) : Prop :=
  template ∈ stage.actionTemplates ∧ dependency ∈ stage.actionTemplates ∧
    dependency.templateId ∈ template.dependsOnTemplateIds

def ListedBefore (template other : LifecycleActionTemplate) : Prop :=
  (templateIds stage).idxOf template.templateId < (templateIds stage).idxOf other.templateId

def CompilesTemplate (template : LifecycleActionTemplate) : Prop :=
  ∃ entity, planner.CompiledFor snapshot template entity

/-- What the metadata of the actions of `other` calls their template is one that `template` depends on. -/
def FindsTemplate (template other : LifecycleActionTemplate) : Prop :=
  ∃ dependency ∈ template.dependsOnTemplateIds,
    (templateMetadata other stage.onFailure).get? "template_id" = some (.str dependency)

/-- The template finds the actions of one that is listed before it and compiles to some. -/
structure LinkedTemplate (template other : LifecycleActionTemplate) : Prop where
  template_mem : template ∈ stage.actionTemplates
  mem : other ∈ stage.actionTemplates
  listed : ListedBefore stage other template
  finds : FindsTemplate stage template other
  compiles : CompilesTemplate planner snapshot other

def InstanceOf (template : LifecycleActionTemplate) (action : ActionInstance) : Prop :=
  ∃ definition index entity, unlinked action =
    planner.instantiate snapshot definition template stage.stageId stage.onFailure index entity

/-- In each stage the actions of a template depend on those of the templates it depends on. -/
def TemplatesOrdered (profile : LifecycleProfile) (plan : RecoveryPlan) : Prop :=
  ∀ stage ∈ profile.stages, ∀ template dependency,
    Relation.TransGen (DependsOnTemplate stage) template dependency →
    ∀ action ∈ plan.actions, InstanceOf planner snapshot stage template action →
    ∀ earlier ∈ plan.actions, InstanceOf planner snapshot stage dependency earlier →
      Relation.TransGen plan.Depends action.actionId earlier.actionId

end Definitions

variable {planner : LifecyclePlanner} {snapshot : EnvironmentSnapshot} {profile : LifecycleProfile}
variable {plan : RecoveryPlan} {stage : LifecycleStageDefinition} {external : List String}
variable {template other dependency : LifecycleActionTemplate} {action earlier : ActionInstance}
variable {actions stageActions compiled : List ActionInstance}

section Instances

theorem InstanceOf.stageId (h : InstanceOf planner snapshot stage template action) :
    action.stageId = some stage.stageId := by
  obtain ⟨definition, index, entity, heq⟩ := h
  exact (congrArg ActionInstance.stageId heq :)

theorem InstanceOf.metadata (h : InstanceOf planner snapshot stage template action) :
    action.metadata = templateMetadata template stage.onFailure := by
  obtain ⟨definition, index, entity, heq⟩ := h
  exact (congrArg ActionInstance.metadata heq :)

theorem InstanceOf.actionId (h : InstanceOf planner snapshot stage template action) : ∃ index : Nat,
    action.actionId.toList =
      ("action:".toList ++ stage.stageId.toList ++ ":".toList ++ template.templateId.toList ++
      ':' :: (toString index).toList) ++
        (":".toList ++ (slice (snapshot.contentHash planner.python) 8).toList) := by
  obtain ⟨definition, index, entity, heq⟩ := h
  have hid : action.actionId =
      s!"action:{stage.stageId}:{template.templateId}:{index}:{slice (snapshot.contentHash planner.python) 8}" :=
    congrArg ActionInstance.actionId heq
  refine ⟨index, ?_⟩
  rw [hid]
  simp [toString]

theorem InstanceOf.templateId_inj (h : InstanceOf planner snapshot stage template action)
    (hother : InstanceOf planner snapshot stage other action) : template.templateId = other.templateId := by
  obtain ⟨index, hid⟩ := h.actionId
  obtain ⟨otherIndex, hotherId⟩ := hother.actionId
  have hfront := List.append_cancel_right (hid.symm.trans hotherId)
  have hreversed := congrArg List.reverse hfront
  simp only [List.reverse_append, List.reverse_cons, List.append_assoc, List.singleton_append] at hreversed
  have hdigits (number : Nat) : ':' ∉ (toString number).toList.reverse := fun hmem =>
    Unbroken.toString number (List.mem_reverse.mp hmem)
  have htext := (append_cons_inj (hdigits index) (hdigits otherIndex) hreversed).2
  exact String.toList_injective (List.reverse_injective (List.append_cancel_right htext))

theorem pyEq_text_iff {text : String} {value : Json} : (Json.str text).pyEq value = true ↔
    value = .str text := by
  cases value with
  | str other => simp [Json.pyEq, eq_comm]
  | _ => simp [Json.pyEq, Json.number?]

theorem InstanceOf.isInternal_iff (h : InstanceOf planner snapshot stage other action) :
    isInternal template action = true ↔ FindsTemplate stage template other := by
  rw [isInternal, h.metadata, FindsTemplate, Option.any_eq_true]
  simp only [List.any_eq_true, pyEq_text_iff]
  constructor
  · rintro ⟨tag, htag, dependency, hdependency, rfl⟩
    exact ⟨dependency, hdependency, htag⟩
  · rintro ⟨dependency, hdependency, htag⟩
    exact ⟨_, htag, dependency, hdependency, rfl⟩

end Instances

section Stages

theorem foldl_link_spec (external : List String) (template : LifecycleActionTemplate)
    (stageActions compiled : List ActionInstance) : ∃ added,
      compiled.foldl (link external template) stageActions = stageActions ++ added ∧
    ∀ action ∈ added, unlinked action ∈ compiled.map unlinked ∧
      (∀ earlier ∈ stageActions, isInternal template earlier = true →
        earlier.actionId ∈ action.dependsOnActionIds) ∧
      ∀ actionId ∈ action.dependsOnActionIds, actionId ∈ external ∨
        ∃ earlier ∈ stageActions ++ added, isInternal template earlier = true ∧
          earlier.actionId = actionId := by
  induction compiled generalizing stageActions with
  | nil => exact ⟨[], (List.append_nil _).symm, fun _ hmem => absurd hmem List.not_mem_nil⟩
  | cons first compiled ih =>
    let internal := (stageActions.filter (isInternal template)).map ActionInstance.actionId
    let linked : ActionInstance := { first with dependsOnActionIds := sortedSet (external ++ internal) }
    obtain ⟨added, hresult, hadded⟩ := ih (stageActions ++ [linked])
    have hsplit : stageActions ++ [linked] ++ added = stageActions ++ linked :: added := by simp
    refine ⟨linked :: added, ?_, ?_⟩
    · rw [List.foldl_cons, ← hsplit]
      exact hresult
    rw [List.forall_mem_cons]
    constructor
    · refine ⟨List.mem_map.mpr ⟨first, List.mem_cons_self, rfl⟩, ?_, ?_⟩
      · intro earlier hearlier hinternal
        apply mem_sortedSet.mpr
        exact List.mem_append_right _ (List.mem_map_of_mem (List.mem_filter.mpr ⟨hearlier, hinternal⟩))
      · intro actionId hid
        refine (List.mem_append.mp (mem_sortedSet.mp hid)).imp_right fun hinternal => ?_
        obtain ⟨earlier, hearlier, rfl⟩ := List.mem_map.mp hinternal
        rw [List.mem_filter] at hearlier
        exact ⟨earlier, List.mem_append_left _ hearlier.1, hearlier.2, rfl⟩
    · intro action haction
      obtain ⟨hcompiled, hbefore, hknown⟩ := hadded action haction
      rw [hsplit] at hknown
      refine ⟨List.mem_cons_of_mem _ hcompiled, ?_, hknown⟩
      intro earlier hearlier
      exact hbefore earlier (List.mem_append_left _ hearlier)

/-- The action is an instance of the template and depends, within its stage, on the actions of the
templates before that this one finds, and at most on actions of the template itself besides. -/
structure ChainedAt (planner : LifecyclePlanner) (snapshot : EnvironmentSnapshot)
    (stage : LifecycleStageDefinition)
    (external : List String) (stageActions : List ActionInstance) (template : LifecycleActionTemplate)
    (action : ActionInstance) : Prop where
  ofTemplate : InstanceOf planner snapshot stage template action
  behind : ∀ earlier ∈ stageActions, ∀ other ∈ stage.actionTemplates,
    InstanceOf planner snapshot stage other earlier →
    ListedBefore stage other template → FindsTemplate stage template other →
      earlier.actionId ∈ action.dependsOnActionIds
  known : ∀ actionId ∈ action.dependsOnActionIds, actionId ∈ external ∨
    ∃ earlier ∈ stageActions, earlier.actionId = actionId ∧ ∃ other ∈ stage.actionTemplates,
      InstanceOf planner snapshot stage other earlier ∧
        (other = template ∨ ListedBefore stage other template ∧ FindsTemplate stage template other)

variable {front back : List LifecycleActionTemplate}

theorem listedBefore_of_split (hnodup : (templateIds stage).Nodup)
    (hsplit : stage.actionTemplates = front ++ template :: back) (hmem : other ∈ front) :
    ListedBefore stage other template := by
  have hids : templateIds stage = front.map LifecycleActionTemplate.templateId ++
      template.templateId :: back.map LifecycleActionTemplate.templateId := by
    rw [templateIds, hsplit, List.map_append, List.map_cons]
  have hother : other.templateId ∈ front.map LifecycleActionTemplate.templateId := List.mem_map_of_mem hmem
  have hfresh : template.templateId ∉ front.map LifecycleActionTemplate.templateId := by
    intro hagain
    rw [hids] at hnodup
    exact (List.nodup_append.mp hnodup).2.2 _ hagain _ List.mem_cons_self rfl
  rw [ListedBefore, hids, List.idxOf_append_of_mem hother, List.idxOf_append_of_notMem hfresh,
    List.idxOf_cons_self,
    Nat.add_zero]
  exact List.idxOf_lt_length_of_mem hother

theorem InstanceOf.unique (hnodup : (templateIds stage).Nodup)
    (h : InstanceOf planner snapshot stage template action)
    (hother : InstanceOf planner snapshot stage other action) (hmem : template ∈ stage.actionTemplates)
    (hotherMem : other ∈ stage.actionTemplates) : template = other :=
  List.inj_on_of_nodup_map hnodup hmem hotherMem (h.templateId_inj hother)

def Chained (planner : LifecyclePlanner) (snapshot : EnvironmentSnapshot) (stage : LifecycleStageDefinition)
    (external : List String) (front : List LifecycleActionTemplate)
      (stageActions : List ActionInstance) : Prop :=
  ∀ action ∈ stageActions, ∃ template ∈ front,
    ChainedAt planner snapshot stage external stageActions template action

theorem Chained.add (h : Chained planner snapshot stage external front stageActions)
    (hnodup : (templateIds stage).Nodup) (hsplit : stage.actionTemplates = front ++ template :: back)
    (hcompiled : planner.compileTemplate snapshot template stage.stageId stage.onFailure = .ok compiled) :
    Chained planner snapshot stage external (front ++ [template])
      (compiled.foldl (link external template) stageActions) := by
  have htemplate : template ∈ stage.actionTemplates := by simp [hsplit]
  have hfront : front ⊆ stage.actionTemplates := by simp [hsplit]
  obtain ⟨added, hresult, hadded⟩ := foldl_link_spec external template stageActions compiled
  have hinstance : ∀ action ∈ added, InstanceOf planner snapshot stage template action := by
    intro action haction
    obtain ⟨first, hfirst, heq⟩ := List.mem_map.mp (hadded action haction).1
    obtain ⟨definition, found, index, entity, -, -, -, -, rfl⟩ := mem_compileTemplate hcompiled hfirst
    exact ⟨definition, index, entity, heq.symm⟩
  rw [hresult]
  intro action haction
  rcases List.mem_append.mp haction with hold | hnew
  · obtain ⟨own, hown, hchained⟩ := h action hold
    refine ⟨own, List.mem_append_left _ hown, hchained.ofTemplate, ?_, ?_⟩
    · intro earlier hearlier other hother hotherInstance hbefore hfinds
      rcases List.mem_append.mp hearlier with hfirst | hlater
      · exact hchained.behind earlier hfirst other hother hotherInstance hbefore hfinds
      · obtain rfl := (hinstance earlier hlater).unique hnodup hotherInstance htemplate hother
        exact absurd hbefore (Nat.lt_asymm (listedBefore_of_split hnodup hsplit hown))
    · intro actionId hid
      refine (hchained.known actionId hid).imp_right fun hknown => ?_
      obtain ⟨earlier, hearlier, hrest⟩ := hknown
      exact ⟨earlier, List.mem_append_left _ hearlier, hrest⟩
  · obtain ⟨-, hinternal, hknown⟩ := hadded action hnew
    refine ⟨template, by simp, hinstance action hnew, ?_, ?_⟩
    · intro earlier hearlier other hother hotherInstance hbefore hfinds
      rcases List.mem_append.mp hearlier with hfirst | hlater
      · exact hinternal earlier hfirst (hotherInstance.isInternal_iff.mpr hfinds)
      · obtain rfl := (hinstance earlier hlater).unique hnodup hotherInstance htemplate hother
        exact absurd hbefore (Nat.lt_irrefl _)
    · intro actionId hid
      refine (hknown actionId hid).imp_right fun hfound => ?_
      obtain ⟨earlier, hearlier, hinside, rfl⟩ := hfound
      refine ⟨earlier, hearlier, rfl, ?_⟩
      rcases List.mem_append.mp hearlier with hfirst | hlater
      · obtain ⟨own, hown, hchained⟩ := h earlier hfirst
        exact ⟨own, hfront hown, hchained.ofTemplate, Or.inr ⟨listedBefore_of_split hnodup hsplit hown,
          hchained.ofTemplate.isInternal_iff.mp hinside⟩⟩
      · exact ⟨template, htemplate, hinstance earlier hlater, Or.inl rfl⟩

theorem compileStage_chained (hnodup : (templateIds stage).Nodup)
    (h : planner.compileStage snapshot external stage = .ok stageActions) :
    Chained planner snapshot stage external stage.actionTemplates stageActions := by
  refine foldlM_ok_prefix (fun _ hmem => absurd hmem List.not_mem_nil) ?_ h
  intro front template back earlier later hsplit hearlier hbody
  obtain ⟨compiled, hcompiled, hbody⟩ := except_bind_eq_ok hbody
  obtain rfl := Except.ok.inj hbody
  exact hearlier.add hnodup hsplit hcompiled

end Stages

section Plans

variable {compilation : Compilation} {front back : List LifecycleStageDefinition}

/-- Among these actions those of the stage are what it was compiled to, behind actions of others. -/
def StageWithin (planner : LifecyclePlanner) (snapshot : EnvironmentSnapshot) (actions : List ActionInstance)
    (stage : LifecycleStageDefinition) : Prop :=
  ∃ external stageActions, planner.compileStage snapshot external stage = .ok stageActions ∧
    (∀ action, action ∈ stageActions ↔ action ∈ actions ∧ action.stageId = some stage.stageId) ∧
    ∀ actionId ∈ external, ∃ action ∈ actions, action.actionId = actionId ∧ action.stageId ≠ some stage.stageId

structure StagesWithin (planner : LifecyclePlanner) (snapshot : EnvironmentSnapshot)
    (front : List LifecycleStageDefinition) (compilation : Compilation) : Prop where
  staged : ∀ action ∈ compilation.actions, ∃ stageId ∈ front.map LifecycleStageDefinition.stageId,
    action.stageId = some stageId
  terminal : ∀ stageId, ∀ actionId ∈ terminals compilation stageId,
    ∃ action ∈ compilation.actions, action.actionId = actionId
  within : ∀ stage ∈ front, StageWithin planner snapshot compilation.actions stage

theorem StagesWithin.exists_external (h : StagesWithin planner snapshot front compilation) {actionId : String}
    (hmem : actionId ∈ externalDependencies compilation stage) :
    ∃ action ∈ compilation.actions, action.actionId = actionId := by
  obtain ⟨dependency, -, hterminal⟩ := List.mem_flatMap.mp hmem
  exact h.terminal dependency actionId hterminal

theorem StagesWithin.add (h : StagesWithin planner snapshot front compilation) (hnodup : profile.stageIds.Nodup)
    (hsplit : profile.stages = front ++ stage :: back)
    (hcompiled : planner.compileStage snapshot (externalDependencies compilation stage) stage =
      .ok stageActions) :
    StagesWithin planner snapshot (front ++ [stage]) (compilation.add stage stageActions) := by
  have hlinked := compileStage_linked hcompiled
  have hfresh : ∀ action ∈ compilation.actions, action.stageId ≠ some stage.stageId := by
    intro action hmem hsame
    obtain ⟨own, hown, hstageId⟩ := h.staged action hmem
    rw [hsame, Option.some.injEq] at hstageId
    exact fresh_of_nodup hnodup hsplit hown hstageId.symm
  constructor
  · intro action hmem
    rcases mem_actions_add.mp hmem with hold | hnew
    · obtain ⟨own, hown, hstageId⟩ := h.staged action hold
      exact ⟨own, by simp [hown], hstageId⟩
    · exact ⟨stage.stageId, by simp, hlinked.staged action hnew⟩
  · intro stageId actionId hterminal
    by_cases hself : stageId = stage.stageId
    · subst hself
      rw [terminals_add_self] at hterminal
      rcases mem_terminalActions hterminal with hexternal | ⟨action, hnew, hid⟩
      · obtain ⟨action, hmem, hid⟩ := h.exists_external hexternal
        exact ⟨action, mem_actions_add.mpr (Or.inl hmem), hid⟩
      · exact ⟨action, mem_actions_add.mpr (Or.inr hnew), hid⟩
    · rw [terminals_add_of_ne hself] at hterminal
      obtain ⟨action, hmem, hid⟩ := h.terminal stageId actionId hterminal
      exact ⟨action, mem_actions_add.mpr (Or.inl hmem), hid⟩
  · intro other hother
    rcases List.mem_append.mp hother with hold | hnew
    · obtain ⟨external, others, hothers, hmem, hexternal⟩ := h.within other hold
      refine ⟨external, others, hothers, ?_, ?_⟩
      · intro action
        rw [hmem, mem_actions_add, or_and_right, or_iff_left]
        rintro ⟨hadded, hstageId⟩
        rw [hlinked.staged action hadded, Option.some.injEq] at hstageId
        exact fresh_of_nodup hnodup hsplit (List.mem_map_of_mem hold) hstageId.symm
      · intro actionId hid
        obtain ⟨action, haction, hrest⟩ := hexternal actionId hid
        exact ⟨action, mem_actions_add.mpr (Or.inl haction), hrest⟩
    · obtain rfl := List.mem_singleton.mp hnew
      refine ⟨_, stageActions, hcompiled, ?_, ?_⟩
      · intro action
        rw [mem_actions_add]
        constructor
        · intro hmem
          exact ⟨Or.inr hmem, hlinked.staged action hmem⟩
        · rintro ⟨hold | hadded, hstageId⟩
          · exact absurd hstageId (hfresh action hold)
          · exact hadded
      · intro actionId hid
        obtain ⟨action, hmem, heq⟩ := h.exists_external hid
        exact ⟨action, mem_actions_add.mpr (Or.inl hmem), heq, hfresh action hmem⟩

variable {mode : PlanMode} {policyId : Option String}

theorem plan_stageWithin (hplan : planner.plan snapshot profile mode policyId = .ok plan)
    (hnodup : profile.stageIds.Nodup) (hstage : stage ∈ profile.stages) :
    StageWithin planner snapshot plan.actions stage := by
  obtain ⟨compilation, hcompilation, hactions, -⟩ := plan_eq_ok hplan
  suffices h : StagesWithin planner snapshot profile.stages compilation by
    rw [hactions]
    exact h.within stage hstage
  refine foldlM_ok_prefix ⟨?_, ?_, ?_⟩ ?_ hcompilation
  · exact fun _ hmem => absurd hmem List.not_mem_nil
  · exact fun _ _ hmem => absurd hmem List.not_mem_nil
  · exact fun _ hmem => absurd hmem List.not_mem_nil
  · intro front stage back earlier later hsplit hearlier hbody
    obtain ⟨stageActions, hcompiled, hbody⟩ := except_bind_eq_ok hbody
    obtain rfl := Except.ok.inj hbody
    exact hearlier.add hnodup hsplit hcompiled

theorem templateIds_nodup (haccepted : profile.Accepted planner.python) (hstage : stage ∈ profile.stages) :
    (templateIds stage).Nodup := by
  have hstages : profile.stages.forM
    (LifecycleProfile.checkStage planner.python profile.stageIds) = .ok () := by
    have hids : profile.stageIds.dedup.length = profile.stages.length := by
      rw [haccepted.nodup.dedup, LifecycleProfile.stageIds, List.length_map]
    rw [LifecycleProfile.Accepted, LifecycleProfile.validateGraph, if_neg (not_not.mpr hids)] at haccepted
    obtain ⟨answer, hchecked, -⟩ := except_bind_eq_ok haccepted
    exact hchecked
  have hchecked := RecoveryPlan.forM_eq_ok.mp hstages stage hstage
  by_contra hrepeated
  have hlength : (stage.actionTemplates.map LifecycleActionTemplate.templateId).dedup.length ≠
      stage.actionTemplates.length := by
    intro hsame
    exact hrepeated (RecoveryPlan.dedup_length_eq_iff.mp (hsame.trans (List.length_map _).symm))
  unfold LifecycleProfile.checkStage at hchecked
  dsimp only at hchecked
  split at hchecked
  · cases hchecked
  · split at hchecked
    · cases hchecked
    · cases hchecked

theorem exists_instance (hplan : planner.plan snapshot profile mode policyId = .ok plan)
    (hstage : stage ∈ profile.stages) (htemplate : template ∈ stage.actionTemplates)
    (h : CompilesTemplate planner snapshot template) :
    ∃ action ∈ plan.actions, InstanceOf planner snapshot stage template action := by
  obtain ⟨entity, hentity⟩ := h
  obtain ⟨action, hmem, definition, index, heq⟩ := exists_mem_plan_actions hplan hstage htemplate hentity
  exact ⟨action, hmem, definition, index, entity, heq⟩

theorem depends_of_linkedTemplate (hplan : planner.plan snapshot profile mode policyId = .ok plan)
    (haccepted : profile.Accepted planner.python) (hstage : stage ∈ profile.stages)
    (h : Relation.TransGen (LinkedTemplate planner snapshot stage) template dependency)
    (hmem : action ∈ plan.actions) (hinstance : InstanceOf planner snapshot stage template action)
    (hearlier : earlier ∈ plan.actions) (hdependency : InstanceOf planner snapshot stage dependency earlier) :
    Relation.TransGen plan.Depends action.actionId earlier.actionId := by
  have hnodup := templateIds_nodup haccepted hstage
  obtain ⟨external, stageActions, hcompiled, hactions, -⟩ := plan_stageWithin hplan haccepted.nodup hstage
  have hchained := compileStage_chained hnodup hcompiled
  have hlink : ∀ template other action found, LinkedTemplate planner snapshot stage template other →
      action ∈ plan.actions → InstanceOf planner snapshot stage template action → found ∈ plan.actions →
      InstanceOf planner snapshot stage other found → plan.Depends action.actionId found.actionId := by
    intro template other action found hlinked hmem hinstance hfound hother
    obtain ⟨own, hown, hat⟩ := hchained action ((hactions action).mpr ⟨hmem, hinstance.stageId⟩)
    obtain rfl := hat.ofTemplate.unique hnodup hinstance hown hlinked.template_mem
    exact ⟨action, hmem, rfl,
      hat.behind found ((hactions found).mpr ⟨hfound, hother.stageId⟩) other hlinked.mem hother
      hlinked.listed hlinked.finds⟩
  induction h using Relation.TransGen.head_induction_on generalizing action with
  | single hlinked => exact .single (hlink _ _ action earlier hlinked hmem hinstance hearlier hdependency)
  | head hlinked _ ih =>
    obtain ⟨found, hfound, hother⟩ := exists_instance hplan hstage hlinked.mem hlinked.compiles
    exact .head (hlink _ _ action found hlinked hmem hinstance hfound hother) (ih hfound hother)

theorem compilesTemplate_of_instance (hplan : planner.plan snapshot profile mode policyId = .ok plan)
    (haccepted : profile.Accepted planner.python) (hstage : stage ∈ profile.stages)
    (htemplate : template ∈ stage.actionTemplates) (hmem : action ∈ plan.actions)
    (hinstance : InstanceOf planner snapshot stage template action) :
    CompilesTemplate planner snapshot template := by
  obtain ⟨own, hown, other, hother, entity, hentity, definition, index, heq⟩ := mem_plan_actions hplan hmem
  have hstageId : action.stageId = some own.stageId := (congrArg ActionInstance.stageId heq :)
  rw [hinstance.stageId, Option.some.injEq] at hstageId
  obtain rfl := List.inj_on_of_nodup_map haccepted.nodup hstage hown hstageId
  obtain rfl := hinstance.unique (templateIds_nodup haccepted hstage)
    ⟨definition, index, _, heq⟩ htemplate hother
  exact ⟨entity, hentity⟩

theorem linkedTemplate_of_dependency (hplan : planner.plan snapshot profile mode policyId = .ok plan)
    (haccepted : profile.Accepted planner.python) (hstage : stage ∈ profile.stages)
    (hmem : action ∈ plan.actions) (htemplate : template ∈ stage.actionTemplates)
    (hinstance : InstanceOf planner snapshot stage template action)
    (hearlier : earlier ∈ plan.actions) (hother : other ∈ stage.actionTemplates)
    (hotherInstance : InstanceOf planner snapshot stage other earlier)
    (hdepends : earlier.actionId ∈ action.dependsOnActionIds) :
    Relation.ReflTransGen (LinkedTemplate planner snapshot stage) template other := by
  have hnodup := templateIds_nodup haccepted hstage
  obtain ⟨-, -, -, -, hvalid⟩ := plan_eq_ok hplan
  obtain ⟨order, horder⟩ := hvalid.exists_order
  obtain ⟨external, stageActions, hcompiled, hactions, hexternal⟩ :=
    plan_stageWithin hplan haccepted.nodup hstage
  obtain ⟨own, hown, hat⟩ :=
    compileStage_chained hnodup hcompiled action ((hactions action).mpr ⟨hmem, hinstance.stageId⟩)
  obtain rfl := hat.ofTemplate.unique hnodup hinstance hown htemplate
  rcases hat.known _ hdepends with houtside | ⟨found, hfound, hid, between, hbetween, hbetweenInstance, hcase⟩
  · obtain ⟨outer, houter, hid, hne⟩ := hexternal _ houtside
    obtain rfl := List.inj_on_of_nodup_map horder.distinct houter hearlier hid
    exact absurd hotherInstance.stageId hne
  · obtain rfl := List.inj_on_of_nodup_map horder.distinct ((hactions found).mp hfound).1 hearlier hid
    obtain rfl := hbetweenInstance.unique hnodup hotherInstance hbetween hother
    rcases hcase with rfl | ⟨hbefore, hfinds⟩
    · exact .refl
    · exact .single ⟨htemplate, hother, hbefore, hfinds,
        compilesTemplate_of_instance hplan haccepted hstage hother hearlier hotherInstance⟩

theorem linkedStage_antisymm {stageId dependency : String}
    (h : Relation.ReflTransGen (LinkedStage profile) stageId dependency)
    (hback : Relation.ReflTransGen (LinkedStage profile) dependency stageId) : stageId = dependency := by
  have hless : ∀ {one two : String}, Relation.TransGen (LinkedStage profile) one two →
      profile.stageIds.idxOf two < profile.stageIds.idxOf one := by
    intro one two hpath
    induction hpath with
    | single hlink => exact hlink.2
    | tail _ hlink ih => exact hlink.2.trans ih
  rcases Relation.reflTransGen_iff_eq_or_transGen.mp h with rfl | hpath
  · rfl
  · rcases Relation.reflTransGen_iff_eq_or_transGen.mp hback with rfl | hreturn
    · rfl
    · exact absurd (hless hpath) (Nat.lt_asymm (hless hreturn))

theorem linkedTemplate_of_depends (hplan : planner.plan snapshot profile mode policyId = .ok plan)
    (haccepted : profile.Accepted planner.python) (hstage : stage ∈ profile.stages)
    (hmem : action ∈ plan.actions) (htemplate : template ∈ stage.actionTemplates)
    (hinstance : InstanceOf planner snapshot stage template action) {actionId : String}
    (h : Relation.TransGen plan.Depends action.actionId actionId) (hearlier : earlier ∈ plan.actions)
    (hid : earlier.actionId = actionId) (hother : other ∈ stage.actionTemplates)
    (hotherInstance : InstanceOf planner snapshot stage other earlier) :
    Relation.ReflTransGen (LinkedTemplate planner snapshot stage) template other := by
  obtain ⟨-, -, -, -, hvalid⟩ := plan_eq_ok hplan
  obtain ⟨order, horder⟩ := hvalid.exists_order
  induction h generalizing earlier other with
  | single hdepends =>
    obtain ⟨own, hown, hownId, hdependency⟩ := hdepends
    obtain rfl := List.inj_on_of_nodup_map horder.distinct hown hmem hownId
    rw [← hid] at hdependency
    exact linkedTemplate_of_dependency hplan haccepted hstage hown htemplate hinstance hearlier hother
      hotherInstance
      hdependency
  | tail hpath hdepends ih =>
    obtain ⟨middle, hmiddle, rfl, hdependency⟩ := hdepends
    rw [← hid] at hdependency
    -- a walk that comes back to the stage has not left it
    obtain ⟨found, hfound, hfoundId, between, hbetween, hthere⟩ :=
      linked_of_depends hplan haccepted.nodup hmem hinstance.stageId hpath
    obtain rfl := List.inj_on_of_nodup_map horder.distinct hfound hmiddle hfoundId
    obtain ⟨last, hlast, hlastId, final, hfinal, hback⟩ :=
      linked_of_depends hplan haccepted.nodup hfound hbetween (.single ⟨found, hfound, rfl, hdependency⟩)
    obtain rfl := List.inj_on_of_nodup_map horder.distinct hlast hearlier hlastId
    rw [hotherInstance.stageId, Option.some.injEq] at hfinal
    rw [← hfinal] at hback
    rw [← linkedStage_antisymm hthere hback] at hbetween
    obtain ⟨external, stageActions, hcompiled, hactions, -⟩ := plan_stageWithin hplan haccepted.nodup hstage
    obtain ⟨own, hown, hat⟩ := compileStage_chained (templateIds_nodup haccepted hstage) hcompiled found
      ((hactions found).mpr ⟨hfound, hbetween⟩)
    exact (ih hfound rfl hown hat.ofTemplate).trans
      (linkedTemplate_of_dependency hplan haccepted hstage hfound hown
      hat.ofTemplate hearlier hother hotherInstance hdependency)

/-- The templates are ordered if and only if a template that depends on another one is linked to it
wherever both are compiled for something. -/
theorem templatesOrdered_iff (hplan : planner.plan snapshot profile mode policyId = .ok plan)
    (haccepted : profile.Accepted planner.python) :
    TemplatesOrdered planner snapshot profile plan ↔ ∀ stage ∈ profile.stages, ∀ template dependency,
      Relation.TransGen (DependsOnTemplate stage) template dependency →
      CompilesTemplate planner snapshot template → CompilesTemplate planner snapshot dependency →
        Relation.TransGen (LinkedTemplate planner snapshot stage) template dependency := by
  constructor
  · intro h stage hstage template dependency hdeclared hdependent hcompiled
    obtain ⟨middle, hfirst, -⟩ := Relation.TransGen.head'_iff.mp hdeclared
    obtain ⟨before, -, hlast⟩ := Relation.TransGen.tail'_iff.mp hdeclared
    obtain ⟨action, hmem, hinstance⟩ := exists_instance hplan hstage hfirst.1 hdependent
    obtain ⟨earlier, hearlier, hdependency⟩ := exists_instance hplan hstage hlast.2.1 hcompiled
    have hpath :=
      h stage hstage template dependency hdeclared action hmem hinstance earlier hearlier hdependency
    have hlinked := linkedTemplate_of_depends hplan haccepted hstage hmem hfirst.1 hinstance hpath hearlier rfl
      hlast.2.1 hdependency
    rcases Relation.reflTransGen_iff_eq_or_transGen.mp hlinked with rfl | htrans
    · -- a template that depends on itself would have an action that does
      obtain ⟨-, -, -, -, hvalid⟩ := plan_eq_ok hplan
      obtain ⟨order, horder⟩ := hvalid.exists_order
      have hself := h stage hstage _ _ hdeclared action hmem hinstance action hmem hinstance
      exact absurd hself (horder.ordered.not_transGen_self ((horder.covers action.actionId).mpr
        (List.mem_map_of_mem hmem)))
    · exact htrans
  · intro h stage hstage template dependency hdeclared action hmem hinstance earlier hearlier hdependency
    obtain ⟨middle, hfirst, -⟩ := Relation.TransGen.head'_iff.mp hdeclared
    obtain ⟨before, -, hlast⟩ := Relation.TransGen.tail'_iff.mp hdeclared
    have hlinked := h stage hstage template dependency hdeclared
      (compilesTemplate_of_instance hplan haccepted hstage hfirst.1 hmem hinstance)
      (compilesTemplate_of_instance hplan haccepted hstage hlast.2.1 hearlier hdependency)
    exact depends_of_linkedTemplate hplan haccepted hstage hlinked hmem hinstance hearlier hdependency

end Plans

end LifecyclePlanner

namespace LocalDevelopment

open LifecyclePlanner

def readyThenHealthy : LifecycleProfile := startup [{
  stageId := "platform"
  actionTemplates :=
    [waitTemplate "ready", { waitTemplate "healthy" with dependsOnTemplateIds := ["ready"] }] }]

theorem compilesTemplate_waitTemplate (templateId : String) :
    CompilesTemplate planner snapshot (waitTemplate templateId) :=
  ⟨none, rfl, [none], rfl, List.mem_singleton_self none⟩

theorem readyThenHealthy_templatesOrdered : ∃ plan,
    planner.plan snapshot readyThenHealthy .dryRun none = .ok plan ∧ plan.actions.length = 2 ∧
      TemplatesOrdered planner snapshot readyThenHealthy plan := by
  have hlength : (planner.plan snapshot readyThenHealthy .dryRun none).map
      (fun plan => plan.actions.length) = .ok 2 := by
    decide +kernel
  obtain ⟨plan, hplan, hactions⟩ := except_map_eq_ok hlength
  refine ⟨plan, hplan, hactions, ?_⟩
  apply (templatesOrdered_iff hplan (by decide)).mpr
  intro stage hstage template dependency hdeclared _ _
  obtain rfl := List.mem_singleton.mp hstage
  refine Relation.TransGen.mono ?_ _ _ hdeclared
  rintro template other ⟨htemplate, hother, hdepends⟩
  rcases List.mem_pair.mp htemplate with rfl | rfl
  · cases hdepends
  · rcases List.mem_pair.mp hother with rfl | rfl
    · exact ⟨htemplate, hother, Nat.lt_of_sub_eq_succ rfl,
        ⟨"ready", List.mem_singleton_self _, by decide⟩, compilesTemplate_waitTemplate "ready"⟩
    · exact absurd hdepends (by decide)

def settled : LifecycleActionTemplate :=
  { waitTemplate "settled" with
    targetSelector := Dict.ofList [("name", .str "absent")]
    dependsOnTemplateIds := ["ready"] }

def healthy : LifecycleActionTemplate := { waitTemplate "healthy" with dependsOnTemplateIds := ["settled"] }

def platform : LifecycleStageDefinition where
  stageId := "platform"
  actionTemplates := [waitTemplate "ready", settled, healthy]

/-- A template for a host that is not there stands between the two others. -/
def throughEmptyTemplate : LifecycleProfile := startup [platform]

theorem throughEmptyTemplate_not_templatesOrdered : throughEmptyTemplate.Accepted planner.python ∧
    ∃ plan, planner.plan snapshot throughEmptyTemplate .dryRun none = .ok plan ∧
      ¬ TemplatesOrdered planner snapshot throughEmptyTemplate plan := by
  have hresult : (planner.plan snapshot throughEmptyTemplate .dryRun none).map (fun plan =>
      plan.actions.map fun action => action.dependsOnActionIds) = .ok [[], []] := by
    decide +kernel
  have haccepted : throughEmptyTemplate.Accepted planner.python := by decide
  obtain ⟨plan, hplan, hactions⟩ := except_map_eq_ok hresult
  refine ⟨haccepted, plan, hplan, fun h => ?_⟩
  have hstage : platform ∈ throughEmptyTemplate.stages := List.mem_singleton_self _
  have hready : waitTemplate "ready" ∈ platform.actionTemplates := List.mem_cons_self
  have hsettled : settled ∈ platform.actionTemplates := List.mem_cons_of_mem _ List.mem_cons_self
  have hhealthy : healthy ∈ platform.actionTemplates :=
    List.mem_cons_of_mem _ (List.mem_cons_of_mem _ List.mem_cons_self)
  have hfirst : DependsOnTemplate platform healthy settled := ⟨hhealthy, hsettled, List.mem_singleton_self _⟩
  have hsecond : DependsOnTemplate platform settled (waitTemplate "ready") :=
    ⟨hsettled, hready, List.mem_singleton_self _⟩
  have hdeclared := Relation.TransGen.tail (.single hfirst) hsecond
  have hcompiles : CompilesTemplate planner snapshot healthy :=
    ⟨none, rfl, [none], rfl, List.mem_singleton_self none⟩
  obtain ⟨action, hmem, hinstance⟩ := exists_instance hplan hstage hhealthy hcompiles
  obtain ⟨earlier, hearlier, hdependency⟩ :=
    exists_instance hplan hstage hready (compilesTemplate_waitTemplate "ready")
  have hpath :=
    h platform hstage healthy (waitTemplate "ready") hdeclared action hmem hinstance earlier hearlier
    hdependency
  obtain ⟨id, ⟨other, hother, -, hid⟩, -⟩ := Relation.TransGen.head'_iff.mp hpath
  have hnone : other.dependsOnActionIds ∈ [([] : List String), []] := by
    rw [← hactions]
    exact List.mem_map_of_mem hother
  rcases List.mem_pair.mp hnone with hnone | hnone
  · rw [hnone] at hid
    cases hid
  · rw [hnone] at hid
    cases hid

end LocalDevelopment

end KubeOps.Lifecycle
