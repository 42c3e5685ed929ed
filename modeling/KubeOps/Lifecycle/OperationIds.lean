import KubeOps.Lifecycle.Idempotency

/-! The ids and paths of operations created from compiled plans. Of a plan id only
the last part gets into them, which is cut from the hash of the snapshot. -/
namespace KubeOps.Lifecycle

open KubeOps.Foundation KubeOps.Models KubeOps.Actions KubeOps.Execution
open OperationRuntime (Creation)

theorem lastSegment_join {separator : Char} {left text : String} (h : Unbroken separator text) :
    Text.lastSegment (left ++ String.singleton separator ++ text) separator = text := by
  have hall : ∀ c ∈ text.toList.reverse, (decide (c ≠ separator)) = true := by
    intro c hmem
    rw [decide_eq_true_eq]
    intro heq
    exact h (heq ▸ List.mem_reverse.mp hmem)
  rw [Text.lastSegment, toList_join, List.reverse_append, List.reverse_cons, List.append_assoc,
    List.takeWhile_append_of_pos hall]
  simp

theorem replaceChar_append (left right : String) (pattern : Char) (replacement : String) :
    Text.replaceChar (left ++ right) pattern replacement =
      Text.replaceChar left pattern replacement ++ Text.replaceChar right pattern replacement := by
  simp [Text.replaceChar, String.toList_append, List.flatMap_append, String.ofList_append]

theorem replaceChar_eq_self {pattern : Char} {text replacement : String} (h : Unbroken pattern text) :
    Text.replaceChar text pattern replacement = text := by
  have hsame : ∀ c ∈ text.toList, (if c = pattern then replacement.toList else [c]) = [c] := by
    intro c hmem
    apply if_neg
    intro heq
    subst heq
    exact h hmem
  rw [Text.replaceChar, List.flatMap_congr hsame, List.flatMap_singleton', String.ofList_toList]

/-- `hexdigest()` has nothing but hexadecimal digits in it. -/
def HexDigests (python : Python) : Prop :=
  ∀ text, ∀ c ∈ (python.sha256 text).toList, c ∈ "0123456789abcdef".toList

/-- Two operations of one store: neither takes the id or the path of the other, and
with the second one written, the first and whatever had started is as it was. -/
structure Separate (first second : OperationRun) (before after : Log) : Prop where
  operationId : first.operationId ≠ second.operationId
  path : FileOperationStore.pathFor first.operationId ≠ FileOperationStore.pathFor second.operationId
  kept : FileOperationStore.content after (FileOperationStore.pathFor first.operationId) =
    FileOperationStore.content before (FileOperationStore.pathFor first.operationId)
  started : ∀ path operation, FileOperationStore.content before path = some operation →
    operation.startedAtIso ≠ none → FileOperationStore.content after path = some operation

def operationIdFor (environmentId hash : String) : String :=
  s!"operation:{environmentId}:{slice hash 12}"

namespace LifecyclePlanner

variable {planner : LifecyclePlanner} {snapshot other : EnvironmentSnapshot}
  {profile : LifecycleProfile} {plan : RecoveryPlan} {mode : PlanMode} {policyId : Option String}
  {environmentId left right : String}

theorem unbroken_hash (h : HexDigests planner.python) {separator : Char}
    (hseparator : separator ∉ "0123456789abcdef".toList) (count : Nat) :
    Unbroken separator (slice (snapshot.contentHash planner.python) count) := by
  intro hmem
  rw [slice, String.toList_ofList] at hmem
  exact hseparator (h _ _ (List.mem_of_mem_take hmem))

theorem lastSegment_planId (h : HexDigests planner.python)
    (hplan : planner.plan snapshot profile mode policyId = .ok plan) :
    Text.lastSegment plan.planId ':' = slice (snapshot.contentHash planner.python) 12 := by
  obtain ⟨-, -, -, hid, -⟩ := plan_eq_ok hplan
  rw [hid]
  exact lastSegment_join (unbroken_hash h (by decide) 12)

theorem pathFor_operationIdFor (hcolon : Unbroken ':' (slice left 12))
    (hslash : Unbroken '/' (slice left 12)) :
    FileOperationStore.pathFor (operationIdFor environmentId left) =
      FileOperationStore.pathFor s!"operation:{environmentId}:" ++ slice left 12 := by
  change FileOperationStore.pathFor (s!"operation:{environmentId}:" ++ slice left 12) = _
  simp only [FileOperationStore.pathFor, replaceChar_append]
  rw [replaceChar_eq_self hslash, replaceChar_eq_self hcolon]

theorem pathFor_operationIdFor_inj (hleft : Unbroken ':' (slice left 12) ∧ Unbroken '/' (slice left 12))
    (hright : Unbroken ':' (slice right 12) ∧ Unbroken '/' (slice right 12)) :
    FileOperationStore.pathFor (operationIdFor environmentId left) =
      FileOperationStore.pathFor (operationIdFor environmentId right) ↔
        slice left 12 = slice right 12 := by
  rw [pathFor_operationIdFor hleft.1 hleft.2, pathFor_operationIdFor hright.1 hright.2,
    String.append_right_inj]

section Creations

variable {runtime : OperationRuntime} {createMode : OperationMode} {approvals : List ApprovalRecord}
  {trace reached : Trace Effect} {operation : OperationRun}

theorem create_ok (hhex : HexDigests planner.python)
    (hplan : planner.plan snapshot profile mode policyId = .ok plan)
    (hcreate : (runtime.create environmentId plan createMode approvals).exec trace =
      (.ok operation, reached)) :
    operation.operationId = operationIdFor environmentId (snapshot.contentHash planner.python) ∧
      operation.startedAtIso = none ∧ reached.log = trace.log ++ [.saved operation] := by
  have hout := create_rule runtime ⟨environmentId, plan, createMode, approvals⟩ trace.log trace rfl
  dsimp only at hout
  rw [hcreate] at hout
  obtain ⟨⟨-, hstarted, hid⟩, hlog⟩ := hout
  refine ⟨?_, hstarted, hlog⟩
  rw [hid, lastSegment_planId hhex hplan]
  rfl

theorem separate_iff {otherProfile : LifecycleProfile} {otherPlan : RecoveryPlan}
    {otherMode : PlanMode} {otherPolicyId : Option String} {otherCreateMode : OperationMode}
    {otherApprovals : List ApprovalRecord} {before after : Trace Effect} {second : OperationRun}
    (hhex : HexDigests planner.python)
    (hplan : planner.plan snapshot profile mode policyId = .ok plan)
    (hother : planner.plan other otherProfile otherMode otherPolicyId = .ok otherPlan)
    (hfirst : (runtime.create environmentId plan createMode approvals).exec trace =
      (.ok operation, reached))
    (hsecond : (runtime.create environmentId otherPlan otherCreateMode otherApprovals).exec before =
      (.ok second, after)) :
    Separate operation second before.log after.log ↔
      slice (snapshot.contentHash planner.python) 12 ≠ slice (other.contentHash planner.python) 12 ∧
        ∀ stored, FileOperationStore.content before.log (FileOperationStore.pathFor
          (operationIdFor environmentId (other.contentHash planner.python))) = some stored →
            stored.startedAtIso = none := by
  obtain ⟨hid, -, -⟩ := create_ok hhex hplan hfirst
  obtain ⟨hsecondId, hunstarted, hlog⟩ := create_ok hhex hother hsecond
  have hpaths : FileOperationStore.pathFor
        (operationIdFor environmentId (snapshot.contentHash planner.python)) =
      FileOperationStore.pathFor
        (operationIdFor environmentId (other.contentHash planner.python)) ↔ _ :=
    pathFor_operationIdFor_inj
      ⟨unbroken_hash hhex (by decide) 12, unbroken_hash hhex (by decide) 12⟩
      ⟨unbroken_hash hhex (by decide) 12, unbroken_hash hhex (by decide) 12⟩
  constructor
  · intro h
    refine ⟨fun hsame => h.path ?_, fun stored hstored => ?_⟩
    · rw [hid, hsecondId]
      exact hpaths.mpr hsame
    · by_contra hstarted
      have hkept := h.started _ stored hstored hstarted
      rw [hlog, FileOperationStore.content_concat_saved, hsecondId, if_pos rfl,
        Option.some.injEq] at hkept
      exact hstarted (hkept ▸ hunstarted)
  · intro h
    obtain ⟨hdifferent, hfree⟩ := h
    have hpath : FileOperationStore.pathFor operation.operationId ≠
        FileOperationStore.pathFor second.operationId := by
      rw [hid, hsecondId]
      exact fun hsame => hdifferent (hpaths.mp hsame)
    refine ⟨fun hsame => hpath (congrArg _ hsame), hpath, ?_, ?_⟩
    · rw [hlog, FileOperationStore.content_concat_saved, if_neg hpath.symm]
    · intro path stored hstored hstarted
      rw [hlog, FileOperationStore.content_concat_saved, if_neg]
      · exact hstored
      · intro heq
        rw [← heq, hsecondId] at hstored
        exact hstarted (hfree stored hstored)

end Creations

end LifecyclePlanner

namespace LocalDevelopment

open LifecyclePlanner

theorem planner_hexDigests : HexDigests planner.python := by
  intro text
  have hfirst : ("5971f9f8af9448b672ee3f69220910467a1b814c70ed33963274dd43eabf0111".toList.all fun c =>
      c ∈ "0123456789abcdef".toList) = true := by
    decide +kernel
  have hlater : ("b175e8600f455e3aebd635c3d648c1be8a1c7c544264a95791678354fce9c71f".toList.all fun c =>
      c ∈ "0123456789abcdef".toList) = true := by
    decide +kernel
  simp only [List.all_eq_true, decide_eq_true_eq] at hfirst hlater
  change ∀ c ∈ (if text = snapshot.canonicalJson then _ else _ : String).toList, _
  split
  · exact hfirst
  · exact hlater

def createBoth (plan other : RecoveryPlan) : Runtime (OperationRun × OperationRun) := do
  let first ← runtime.create "local" plan .guardedExecution []
  let second ← runtime.create "local" other .guardedExecution []
  return (first, second)

theorem exists_createBoth (snapshot other : EnvironmentSnapshot) (profile otherProfile : LifecycleProfile)
    (h : (planner.plan snapshot profile .guardedExecution none).map (fun plan =>
      (planner.plan other otherProfile .guardedExecution none).map fun otherPlan =>
        (createBoth plan otherPlan).returns (Trace.start Effect) fun _ => plan.planId ≠ otherPlan.planId) =
          .ok (.ok true)) :
    ∃ plan otherPlan first second between after,
      planner.plan snapshot profile .guardedExecution none = .ok plan ∧
      planner.plan other otherProfile .guardedExecution none = .ok otherPlan ∧
      plan.planId ≠ otherPlan.planId ∧
      (runtime.create "local" plan .guardedExecution []).exec (Trace.start Effect) =
        (.ok first, between) ∧
      (runtime.create "local" otherPlan .guardedExecution []).exec between = (.ok second, after) := by
  obtain ⟨plan, hplan, h⟩ := except_map_eq_ok h
  obtain ⟨otherPlan, hother, h⟩ := except_map_eq_ok h
  obtain ⟨both, after, hexec, hdistinct⟩ := Program.exists_of_returns h
  obtain ⟨first, between, hfirst, hexec⟩ := Program.exec_bind_ok hexec
  obtain ⟨second, later, hsecond, -⟩ := Program.exec_bind_ok hexec
  exact ⟨plan, otherPlan, first, second, between, later, hplan, hother, of_decide_eq_true hdistinct,
    hfirst, hsecond⟩

/-- The same profile planned for two snapshots. -/
theorem laterSnapshot_separate : ∃ plan otherPlan first second between after,
    planner.plan snapshot oneProcess .guardedExecution none = .ok plan ∧
    planner.plan laterSnapshot oneProcess .guardedExecution none = .ok otherPlan ∧
    (runtime.create "local" plan .guardedExecution []).exec (Trace.start Effect) =
      (.ok first, between) ∧
    (runtime.create "local" otherPlan .guardedExecution []).exec between = (.ok second, after) ∧
    Separate first second between.log after.log := by
  obtain ⟨plan, otherPlan, first, second, between, after, hplan, hother, -, hfirst, hsecond⟩ :=
    exists_createBoth snapshot laterSnapshot oneProcess oneProcess (by decide +kernel)
  refine ⟨plan, otherPlan, first, second, between, after, hplan, hother, hfirst, hsecond, ?_⟩
  apply (separate_iff planner_hexDigests hplan hother hfirst hsecond).mpr
  refine ⟨by decide +kernel, fun stored hstored => ?_⟩
  obtain ⟨-, hunstarted, hlog⟩ := create_ok planner_hexDigests hplan hfirst
  rw [hlog, FileOperationStore.content_concat_saved] at hstored
  split at hstored
  · exact Option.some.inj hstored ▸ hunstarted
  · cases hstored

/-- Two profiles planned for one snapshot: the second operation takes the place of the first. -/
theorem sameSnapshot_not_separate : ∃ plan otherPlan first second between after,
    planner.plan snapshot oneProcess .guardedExecution none = .ok plan ∧
    planner.plan snapshot (shutdown oneProcess.stages) .guardedExecution none = .ok otherPlan ∧
    plan.planId ≠ otherPlan.planId ∧
    (runtime.create "local" plan .guardedExecution []).exec (Trace.start Effect) =
      (.ok first, between) ∧
    (runtime.create "local" otherPlan .guardedExecution []).exec between = (.ok second, after) ∧
    first.operationId = second.operationId ∧ ¬ Separate first second between.log after.log := by
  obtain ⟨plan, otherPlan, first, second, between, after, hplan, hother, hdistinct, hfirst, hsecond⟩ :=
    exists_createBoth snapshot snapshot oneProcess (shutdown oneProcess.stages) (by decide +kernel)
  have hsame : first.operationId = second.operationId := by
    rw [(create_ok planner_hexDigests hplan hfirst).1, (create_ok planner_hexDigests hother hsecond).1]
  exact ⟨plan, otherPlan, first, second, between, after, hplan, hother, hdistinct, hfirst, hsecond,
    hsame, fun h => h.operationId hsame⟩

end LocalDevelopment

end KubeOps.Lifecycle
