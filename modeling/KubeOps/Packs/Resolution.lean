import KubeOps.Foundation.Program
import KubeOps.Packs.Manager

/-! What a resolution of knowledge packs contains: the dependency closure of the
packs asked for, ordered after their dependencies and divided into active and
blocked packs. -/
namespace KubeOps.Packs.PackManager

open KubeOps.Foundation KubeOps.Models KubeOps.SupplyChain

def InClosure (manager : PackManager) (requested : List String) (packId : String) : Prop :=
  Reached manager.installedDependencies requested packId

def DependsOn (manager : PackManager) (packId dependency : String) : Prop :=
  Leads manager.installedDependencies packId dependency

def Acyclic (manager : PackManager) (requested : List String) : Prop :=
  ∀ packId, manager.InClosure requested packId → ¬ Relation.TransGen manager.DependsOn packId packId

def Installed (manager : PackManager) (requested : List String) : Prop :=
  ∀ packId ∈ requested, packId ∈ manager.manifests.keys

variable {python : Python} {crypto : Cryptography} {manager : PackManager} {requested : List String}
  {packId : String}

section Closure

theorem mem_installedDependencies {dependency : String} :
    dependency ∈ manager.installedDependencies packId ↔
      dependency ∈ (manager.dependencies packId).map PackDependency.packId ∧
        dependency ∈ manager.manifests.keys := by
  rw [installedDependencies, List.mem_filter, installed, Dict.contains, decide_eq_true_eq]

theorem installedDependencies_subset (packId : String) :
    manager.installedDependencies packId ⊆ manager.manifests.keys :=
  fun _ hmem => (mem_installedDependencies.mp hmem).2

theorem mem_closure (h : manager.Installed requested) :
    packId ∈ manager.closure requested ↔ manager.InClosure requested packId := by
  apply @mem_visitAll _ _ manager.manifests.keys
  · exact fun packId _ => installedDependencies_subset packId
  · exact h
  · rw [Dict.length_keys]
    exact Nat.lt_succ_self _

theorem closure_nodup : (manager.closure requested).Nodup := visitAll_nodup

theorem closure_installed (h : manager.Installed requested) :
    ∀ packId ∈ manager.closure requested, packId ∈ manager.manifests.keys := by
  apply visitAll_forall
  · exact fun packId _ dependency hmem => installedDependencies_subset packId hmem
  · exact h

theorem closure_closed (h : manager.Installed requested) {dependency : String}
    (hmem : packId ∈ manager.closure requested) (hdepends : manager.DependsOn packId dependency) :
    dependency ∈ manager.closure requested := by
  rw [mem_closure h] at hmem ⊢
  obtain ⟨seed, hseed, hpath⟩ := hmem
  exact ⟨seed, hseed, hpath.tail hdepends⟩

end Closure

section Order

theorem get?_dependencySets {closure waits : List String} (h : closure.Nodup) :
    (manager.dependencySets closure).get? packId = some waits ↔ packId ∈ closure ∧
      waits = ((manager.dependencies packId).map PackDependency.packId).filter (· ∈ closure) := by
  have hkeys : (closure.map fun packId => (packId,
      ((manager.dependencies packId).map PackDependency.packId).filter (· ∈ closure))).map Prod.fst =
      closure := by
    rw [List.map_map]
    exact List.map_id _
  rw [dependencySets, Dict.get?_ofList_eq_some (by rw [hkeys]; exact h), List.mem_map]
  constructor
  · rintro ⟨found, hfound, heq⟩
    obtain ⟨rfl, rfl⟩ := Prod.mk.inj heq
    exact ⟨hfound, rfl⟩
  · rintro ⟨hmem, rfl⟩
    exact ⟨packId, hmem, rfl⟩

theorem mem_keys_dependencySets {closure : List String} (h : closure.Nodup) :
    packId ∈ (manager.dependencySets closure).keys ↔ packId ∈ closure := by
  rw [Dict.mem_keys]
  simp only [← Dict.get?_eq_some, get?_dependencySets h, exists_and_left, exists_eq, and_true]

theorem waitsFor_iff (h : manager.Installed requested) {dependency : String} :
    WaitsFor (manager.dependencySets (manager.closure requested)) packId dependency ↔
      packId ∈ manager.closure requested ∧ manager.DependsOn packId dependency := by
  constructor
  · rintro ⟨waits, hwaits, hmem⟩
    obtain ⟨hpack, rfl⟩ := (get?_dependencySets closure_nodup).mp hwaits
    obtain ⟨hdependency, hclosure⟩ := List.mem_filter.mp hmem
    refine ⟨hpack, mem_installedDependencies.mpr ⟨hdependency, ?_⟩⟩
    exact closure_installed h dependency (by simpa using hclosure)
  · rintro ⟨hpack, hdepends⟩
    refine ⟨_, (get?_dependencySets closure_nodup).mpr ⟨hpack, rfl⟩, List.mem_filter.mpr ?_⟩
    exact ⟨(mem_installedDependencies.mp hdepends).1, by simpa using closure_closed h hpack hdepends⟩

def layering (manager : PackManager) (requested : List String) : Layering String :=
  layers manager.packLe (manager.dependencySets (manager.closure requested))

theorem mem_remaining_iff (h : manager.Installed requested) :
    packId ∈ (manager.layering requested).remaining.keys ↔
      manager.InClosure requested packId ∧ LeadsToCycle manager.DependsOn packId := by
  have hclosed : ∀ packId dependency,
      WaitsFor (manager.dependencySets (manager.closure requested)) packId dependency →
      dependency ∈ (manager.dependencySets (manager.closure requested)).keys := by
    intro packId dependency hwaits
    obtain ⟨hpack, hdepends⟩ := (waitsFor_iff h).mp hwaits
    exact (mem_keys_dependencySets closure_nodup).mpr (closure_closed h hpack hdepends)
  have hwaits : WaitsFor (manager.dependencySets (manager.closure requested)) =
      fun packId dependency => packId ∈ manager.closure requested ∧ manager.DependsOn packId dependency := by
    funext packId dependency
    exact propext (waitsFor_iff h)
  have hinside : ∀ packId dependency, packId ∈ manager.closure requested →
      manager.DependsOn packId dependency → dependency ∈ manager.closure requested :=
    fun packId dependency => closure_closed h
  rw [layering, Layering.mem_keys_remaining_iff hclosed, hwaits, ← mem_closure h]
  exact leadsToCycle_within_iff hinside

theorem remaining_eq_nil_iff (h : manager.Installed requested) :
    (manager.layering requested).remaining.keys = [] ↔ manager.Acyclic requested := by
  rw [List.eq_nil_iff_forall_not_mem]
  constructor
  · exact fun hnone packId hpack hcycle => hnone packId ((mem_remaining_iff h).mpr ⟨hpack, .of_cycle hcycle⟩)
  · intro hacyclic packId hleft
    obtain ⟨⟨seed, hseed, hpack⟩, other, hpath, hcycle⟩ := (mem_remaining_iff h).mp hleft
    exact hacyclic other ⟨seed, hseed, hpack.trans hpath⟩ hcycle

/-- The order of the closure in which every pack stands after its dependencies. -/
structure Ordered (manager : PackManager) (requested ordered : List String) : Prop where
  nodup : ordered.Nodup
  mem : ∀ packId, packId ∈ ordered ↔ packId ∈ manager.closure requested
  precedence : Precedence manager.DependsOn ordered

theorem layering_ordered (h : manager.Installed requested)
    (hdone : (manager.layering requested).remaining.keys = []) :
    manager.Ordered requested (manager.layering requested).ordered := by
  have hsound : (manager.layering requested).Sound (manager.dependencySets (manager.closure requested)) :=
    Layering.layers_sound _
  have hmem : ∀ packId, packId ∈ (manager.layering requested).ordered ↔
      packId ∈ manager.closure requested := by
    intro packId
    rw [← mem_keys_dependencySets closure_nodup, hsound.split, layering, or_iff_left]
    rw [layering] at hdone
    rw [hdone]
    exact List.not_mem_nil
  refine ⟨hsound.nodup, hmem, ?_⟩
  intro before packId after heq dependency hdepends
  apply hsound.precedence before packId after heq dependency
  apply (waitsFor_iff h).mpr ⟨(hmem packId).mp ?_, hdepends⟩
  rw [heq]
  exact List.mem_append_right _ (List.mem_cons_self ..)

end Order

section Issues

def Errors (issues : List PackValidationIssue) : Prop := ∀ issue ∈ issues, issue.severity = .error

def PackIssues (issues : List PackValidationIssue) : Prop :=
  ∀ issue ∈ issues, issue.severity = .error ∧ issue.code ≠ "dependency_cycle"

theorem PackIssues.errors {issues : List PackValidationIssue} (h : PackIssues issues) : Errors issues :=
  fun issue hmem => (h issue hmem).1

theorem PackIssues.append {issues others : List PackValidationIssue} (h : PackIssues issues)
    (hothers : PackIssues others) : PackIssues (issues ++ others) := by
  intro issue hmem
  rcases List.mem_append.mp hmem with hfirst | hsecond
  · exact h issue hfirst
  · exact hothers issue hsecond

theorem PackIssues.map {α : Type} {items : List α} {f : α → PackValidationIssue}
    (h : ∀ item, (f item).severity = .error ∧ (f item).code ≠ "dependency_cycle") :
    PackIssues (items.map f) := by
  intro issue hmem
  obtain ⟨item, -, rfl⟩ := List.mem_map.mp hmem
  exact h item

theorem PackIssues.filter {issues : List PackValidationIssue} (h : PackIssues issues)
    (chosen : PackValidationIssue → Bool) :
    PackIssues (issues.filter chosen) := fun issue hmem => h issue (List.mem_filter.mp hmem).1

theorem packIssues_ite {condition : Prop} [Decidable condition] {issue : PackValidationIssue}
    (h : issue.severity = .error ∧ issue.code ≠ "dependency_cycle") :
    PackIssues (if condition then [] else [issue]) := by
  intro found hmem
  split at hmem
  · exact absurd hmem List.not_mem_nil
  · rw [List.mem_singleton.mp hmem]
    exact h

variable {manifest : KnowledgePackManifest} {dependency : PackDependency}
  {issues known : List PackValidationIssue}
  {scope : Option (List String)}

theorem versionIssues_eq_ok {checked : Except PyError Bool} {issue : PackValidationIssue}
    (h : (do let compatible ← checked; return if compatible then [] else [issue]) = Except.ok issues) :
    checked = .ok true ∧ issues = [] ∨ checked = .ok false ∧ issues = [issue] := by
  obtain ⟨compatible, hchecked, hissues⟩ := except_bind_eq_ok h
  obtain rfl := Except.ok.inj hissues
  cases compatible with
  | true => exact .inl ⟨hchecked, rfl⟩
  | false => exact .inr ⟨hchecked, rfl⟩

theorem packIssues_of_versionIssues {checked : Except PyError Bool} {issue : PackValidationIssue}
    (hissue : issue.severity = .error ∧ issue.code ≠ "dependency_cycle")
    (h : (do let compatible ← checked; return if compatible then [] else [issue]) = Except.ok issues) :
    PackIssues issues := by
  rcases versionIssues_eq_ok h with ⟨-, rfl⟩ | ⟨-, rfl⟩
  · exact List.forall_mem_nil _
  · exact List.forall_mem_singleton.mpr hissue

theorem packIssues_kubernetesIssues (h : manager.kubernetesIssues python manifest = .ok issues) :
    PackIssues issues := by
  unfold kubernetesIssues at h
  split at h
  · split at h
    · rw [← Except.ok.inj h]
      exact List.forall_mem_nil _
    · exact packIssues_of_versionIssues ⟨rfl, by simp [errorIssue]⟩ h
  · rw [← Except.ok.inj h]
    exact List.forall_mem_nil _

theorem packIssues_dependencyIssues (h : manager.dependencyIssues python manifest dependency = .ok issues) :
    PackIssues issues := by
  unfold dependencyIssues at h
  split at h
  · rw [← Except.ok.inj h]
    exact packIssues_ite ⟨rfl, by simp [errorIssue]⟩
  · exact packIssues_of_versionIssues ⟨rfl, by simp [errorIssue]⟩ h

theorem validate_eq_ok (h : manager.validate python packId scope = .ok issues) :
    ∃ manifest kubeops kubernetes dependencies, manager.manifests.get? packId = some manifest ∧
      manager.kubeopsIssues python manifest = .ok kubeops ∧
      manager.kubernetesIssues python manifest = .ok kubernetes ∧
      manifest.dependencies.mapM (manager.dependencyIssues python manifest) = .ok dependencies ∧
      issues = kubeops ++ kubernetes ++ dependencies.flatten ++
        conflictIssues manifest (scope.getD manager.manifests.keys) ++ duplicateContributionIssues
          manifest := by
  obtain ⟨manifest, hmanifest, h⟩ := except_bind_eq_ok h
  obtain ⟨kubeops, hkubeops, h⟩ := except_bind_eq_ok h
  obtain ⟨kubernetes, hkubernetes, h⟩ := except_bind_eq_ok h
  obtain ⟨dependencies, hdependencies, h⟩ := except_bind_eq_ok h
  refine ⟨manifest, kubeops, kubernetes, dependencies, ?_, hkubeops, hkubernetes, hdependencies,
    (Except.ok.inj h).symm⟩
  unfold PackManager.get at hmanifest
  split at hmanifest
  · rename_i found hfound
    rw [hfound, Except.ok.inj hmanifest]
  · cases hmanifest

theorem packIssues_validate (h : manager.validate python packId scope = .ok issues) : PackIssues issues := by
  obtain ⟨manifest, kubeops, kubernetes, dependencies, -, hkubeops, hkubernetes, hdependencies, rfl⟩ :=
    validate_eq_ok h
  have hall : PackIssues dependencies.flatten := by
    intro issue hmem
    obtain ⟨part, hpart, hissue⟩ := List.mem_flatten.mp hmem
    obtain ⟨dependency, -, hdependency⟩ := mem_of_mapM hdependencies hpart
    exact packIssues_dependencyIssues hdependency issue hissue
  have hkubeopsIssues : PackIssues kubeops :=
    packIssues_of_versionIssues ⟨rfl, by simp [errorIssue]⟩ hkubeops
  have hconflicts : PackIssues (conflictIssues manifest (scope.getD manager.manifests.keys)) :=
    .map fun _ => ⟨rfl, by simp [errorIssue]⟩
  have hduplicates : PackIssues (duplicateContributionIssues manifest) :=
    .map fun _ => ⟨rfl, by simp [errorIssue]⟩
  have hversions := hkubeopsIssues.append (packIssues_kubernetesIssues hkubernetes)
  exact ((hversions.append hall).append hconflicts).append hduplicates

theorem packIssues_crossPackContributionIssues (packIds : List String) :
    PackIssues (manager.crossPackContributionIssues python packIds) := by
  intro issue hmem
  obtain ⟨entry, -, hissue⟩ := List.mem_flatMap.mp hmem
  split at hissue
  · exact absurd hissue List.not_mem_nil
  · obtain ⟨owner, -, rfl⟩ := List.mem_map.mp hissue
    exact ⟨rfl, by simp [collisionIssue]⟩

theorem packIssues_trustIssues (results : Dict String PackVerificationResult) :
    PackIssues (trustIssues python results) :=
  .map fun _ => ⟨rfl, by simp [untrustedIssue]⟩

theorem issuesOf_eq_ok {closure : List String} (h : manager.issuesOf python closure known packId = .ok issues) :
    ∃ validated, manager.validate python packId (some closure) = .ok validated ∧
      issues = validated ++ known.filter fun issue => issue.packId = some packId := by
  obtain ⟨validated, hvalidated, h⟩ := except_bind_eq_ok h
  exact ⟨validated, hvalidated, (Except.ok.inj h).symm⟩

theorem packIssues_issuesOf {closure : List String} (hknown : PackIssues known)
    (h : manager.issuesOf python closure known packId = .ok issues) : PackIssues issues := by
  obtain ⟨validated, hvalidated, rfl⟩ := issuesOf_eq_ok h
  exact (packIssues_validate hvalidated).append (hknown.filter _)

end Issues

section Activation

variable {closure before : List String} {known : List PackValidationIssue} {activation reached : Activation}

theorem activate_eq_ok (hknown : PackIssues known)
    (h : manager.activate python closure known activation packId = .ok reached) :
    manager.issuesOf python closure known packId = .ok [] ∧
        manager.dependencyBlocked activation.blocked packId = false ∧
        reached.active = activation.active ++ [packId] ∧ reached.blocked = activation.blocked ∨
      reached.active = activation.active ∧ reached.blocked = activation.blocked ++ [packId] := by
  obtain ⟨found, hfound, h⟩ := except_bind_eq_ok h
  have herrors := (packIssues_issuesOf hknown hfound).errors
  have hreached := Except.ok.inj h
  cases hblocked : manager.dependencyBlocked activation.blocked packId with
  | true =>
    rw [hblocked, if_pos rfl, if_pos (by simp [errorIssue])] at hreached
    rw [← hreached]
    exact .inr ⟨rfl, rfl⟩
  | false =>
    rw [hblocked, if_neg Bool.false_ne_true, List.append_nil] at hreached
    cases found with
    | nil =>
      rw [← hreached]
      exact .inl ⟨hfound, rfl, rfl, rfl⟩
    | cons issue found =>
      have hany : ((issue :: found).any fun issue => issue.severity = .error) = true :=
        List.any_eq_true.mpr ⟨issue, List.mem_cons_self .., by
          simpa using herrors issue (List.mem_cons_self ..)⟩
      rw [if_pos hany] at hreached
      rw [← hreached]
      exact .inr ⟨rfl, rfl⟩

structure Decided (python : Python) (manager : PackManager) (closure : List String)
    (known : List PackValidationIssue) (before : List String) (activation : Activation) : Prop where
  perm : (activation.active ++ activation.blocked).Perm before
  clear : ∀ packId ∈ activation.active, manager.issuesOf python closure known packId = .ok []
  required : ∀ packId ∈ activation.active, ∀ dependency ∈ manager.dependencies packId,
    dependency.isOptional = false → dependency.packId ∈ manager.manifests.keys →
    dependency.packId ∈ activation.active

theorem Decided.activate (h : Decided python manager closure known before activation)
    (hknown : PackIssues known)
    (hbefore : ∀ dependency, manager.DependsOn packId dependency → dependency ∈ before)
    (hstep : manager.activate python closure known activation packId = .ok reached) :
    Decided python manager closure known (before ++ [packId]) reached := by
  rcases activate_eq_ok hknown hstep with ⟨hclear, hfree, hactive, hblocked⟩ | ⟨hactive, hblocked⟩
  · refine ⟨?_, ?_, ?_⟩
    · rw [hactive, hblocked, List.append_assoc, List.singleton_append]
      have hmiddle : (activation.active ++ packId :: activation.blocked).Perm
          (packId :: (activation.active ++ activation.blocked)) := List.perm_middle
      exact (hmiddle.trans (h.perm.cons packId)).trans (List.perm_append_singleton packId before).symm
    · intro other hother
      rw [hactive, List.mem_append, List.mem_singleton] at hother
      rcases hother with hold | rfl
      · exact h.clear other hold
      · exact hclear
    · intro other hother dependency hdependency hrequired hinstalled
      rw [hactive, List.mem_append, List.mem_singleton] at hother
      rw [hactive, List.mem_append]
      left
      rcases hother with hold | rfl
      · exact h.required other hold dependency hdependency hrequired hinstalled
      · have hplaced := hbefore dependency.packId
          (mem_installedDependencies.mpr ⟨List.mem_map_of_mem hdependency, hinstalled⟩)
        rw [← h.perm.mem_iff, List.mem_append] at hplaced
        apply hplaced.resolve_right
        intro hstopped
        have hany : manager.dependencyBlocked activation.blocked other = true :=
          List.any_eq_true.mpr ⟨dependency, hdependency, by simp [hstopped, hrequired]⟩
        rw [hfree] at hany
        exact absurd hany (by decide)
  · refine ⟨?_, ?_, ?_⟩
    · rw [hactive, hblocked, ← List.append_assoc]
      exact h.perm.append_right [packId]
    · rw [hactive]
      exact h.clear
    · rw [hactive]
      exact h.required

theorem decided_of_foldlM {ordered : List String} (hknown : PackIssues known)
    (hordered : Precedence manager.DependsOn ordered)
    (h : ordered.foldlM (manager.activate python closure known) {} = .ok reached) :
    Decided python manager closure known ordered reached := by
  refine foldlM_ok_prefix ?_ ?_ h
  · exact ⟨List.Perm.refl _, List.forall_mem_nil _, List.forall_mem_nil _⟩
  · intro done packId rest activation later heq hdecided hstep
    exact hdecided.activate hknown (hordered done packId rest heq) hstep

end Activation

section Resolve

variable {ordered active blocked : List String} {issues : List PackValidationIssue}
  {results : Dict String PackVerificationResult} {trust : TrustMaterial} {fresh : Fresh}
  {resolution : PackResolution} {requestedPackIds : Option (List String)}

theorem status_eq_ok {status : PackStatus}
    (h : manager.status python ordered active issues results packId = .ok status) :
    status.packId = packId ∧ status.state = if packId ∈ active then .active else .blocked := by
  obtain ⟨manifest, -, h⟩ := except_bind_eq_ok h
  obtain ⟨source, -, h⟩ := except_bind_eq_ok h
  rw [← Except.ok.inj h]
  exact ⟨rfl, rfl⟩

variable (python ordered active issues results) in
theorem exists_status (h : packId ∈ manager.manifests.keys) :
    ∃ status, manager.status python ordered active issues results packId = .ok status := by
  obtain ⟨manifest, hmanifest⟩ := Dict.mem_keys.mp h
  obtain ⟨source, hsource⟩ := Dict.mem_keys.mp ((manager.sourced packId).mp h)
  rw [← Dict.get?_eq_some] at hmanifest hsource
  unfold status PackManager.get PackManager.source
  rw [hmanifest, hsource]
  exact ⟨_, rfl⟩

theorem resolution_eq_ok
    (h : manager.resolution python requested ordered active blocked issues results fresh = .ok resolution) :
    resolution.requestedPackIds = requested ∧ resolution.orderedPackIds = ordered ∧
      resolution.activePackIds = active ∧ resolution.blockedPackIds = blocked ∧
      resolution.issues = issues ∧ resolution.statuses.map PackStatus.packId = ordered ∧
      ∀ status ∈ resolution.statuses,
        status.state = if status.packId ∈ active then .active else .blocked := by
  obtain ⟨statuses, hstatuses, h⟩ := except_bind_eq_ok h
  obtain ⟨manifests, -, h⟩ := except_bind_eq_ok h
  rw [← Except.ok.inj h]
  refine ⟨rfl, rfl, rfl, rfl, rfl, ?_, ?_⟩
  · have hids : statuses.map PackStatus.packId = ordered.map id := map_eq_of_mapM hstatuses
      fun packId status hstatus => (status_eq_ok hstatus).1
    rwa [List.map_id] at hids
  · intro status hmem
    obtain ⟨packId, -, hstatus⟩ := mem_of_mapM hstatuses hmem
    obtain ⟨hid, hstate⟩ := status_eq_ok hstatus
    rw [hid, hstate]

variable (python requested blocked issues results fresh) in
theorem exists_resolution (hordered : ∀ packId ∈ ordered, packId ∈ manager.manifests.keys)
    (hactive : ∀ packId ∈ active, packId ∈ manager.manifests.keys) :
    ∃ resolution, manager.resolution python requested ordered active blocked issues results fresh =
      .ok resolution := by
  obtain ⟨statuses, hstatuses⟩ := exists_mapM_ok fun packId hmem =>
    exists_status python ordered active issues results (hordered packId hmem)
  have hget : ∀ packId ∈ active, ∃ manifest, manager.get python packId = .ok manifest := by
    intro packId hmem
    obtain ⟨manifest, hmanifest⟩ := Dict.mem_keys.mp (hactive packId hmem)
    rw [← Dict.get?_eq_some] at hmanifest
    exact ⟨manifest, by rw [PackManager.get, hmanifest]⟩
  obtain ⟨manifests, hmanifests⟩ := exists_mapM_ok hget
  unfold PackManager.resolution
  rw [hstatuses, hmanifests]
  exact ⟨_, rfl⟩

theorem unknown_eq_nil_iff :
    sortedSet (requested.filter fun packId => ¬ manager.installed packId) = [] ↔
      manager.Installed requested := by
  rw [sortedSet_eq_nil, List.filter_eq_nil_iff]
  simp [Installed, installed, Dict.contains]

variable (python crypto trust fresh) in
theorem resolve_of_unknown (h : ¬ manager.Installed (manager.requested requestedPackIds)) :
    ∃ message, manager.resolve python crypto requestedPackIds trust fresh = .error (.keyError message) := by
  unfold PackManager.resolve
  dsimp only
  rw [if_pos (mt unknown_eq_nil_iff.mp h)]
  exact ⟨_, rfl⟩

theorem resolve_of_acyclic (h : manager.Installed (manager.requested requestedPackIds))
    (hacyclic : manager.Acyclic (manager.requested requestedPackIds)) :
    manager.resolve python crypto requestedPackIds trust fresh =
      manager.resolveOrdered python crypto (manager.requested requestedPackIds)
        (manager.closure (manager.requested requestedPackIds))
        (manager.layering (manager.requested requestedPackIds)).ordered trust fresh := by
  have hdone := (remaining_eq_nil_iff h).mpr hacyclic
  unfold PackManager.resolve
  dsimp only
  rw [if_neg (not_not_intro (unknown_eq_nil_iff.mpr h))]
  exact if_neg (not_not_intro hdone)

variable (python crypto trust fresh) in
theorem resolve_of_cyclic (h : manager.Installed (manager.requested requestedPackIds))
    (hcyclic : ¬ manager.Acyclic (manager.requested requestedPackIds)) :
    ∃ issue, manager.resolve python crypto requestedPackIds trust fresh =
      manager.resolution python (manager.requested requestedPackIds)
        (manager.layering (manager.requested requestedPackIds)).ordered []
        ((manager.layering (manager.requested requestedPackIds)).remaining.keys.insertionSort (· ≤ ·))
        [issue] ∅ fresh ∧ issue.code = "dependency_cycle" := by
  have hleft := mt (remaining_eq_nil_iff h).mp hcyclic
  unfold PackManager.resolve
  dsimp only
  rw [if_neg (not_not_intro (unknown_eq_nil_iff.mpr h))]
  exact ⟨_, if_pos hleft, rfl⟩

theorem resolveOrdered_eq_ok {closure : List String}
    (h : manager.resolveOrdered python crypto requested closure ordered trust fresh = .ok resolution) :
    ∃ results activation, manager.trustResults python crypto trust fresh closure = .ok results ∧
      ordered.foldlM (manager.activate python closure (trustIssues python results ++
        manager.crossPackContributionIssues python closure)) {} = .ok activation ∧
      manager.resolution python requested ordered activation.active activation.blocked activation.issues
        results fresh = .ok resolution := by
  obtain ⟨results, hresults, h⟩ := except_bind_eq_ok h
  obtain ⟨activation, hactivation, h⟩ := except_bind_eq_ok h
  exact ⟨results, activation, hresults, hactivation, h⟩

/-- What every pack of an acyclic closure was decided to be, and on which grounds. -/
structure Settled (python : Python) (crypto : Cryptography) (manager : PackManager) (requested : List String)
    (trust : TrustMaterial) (fresh : Fresh) (resolution : PackResolution)
    (results : Dict String PackVerificationResult) : Prop where
  ordered : manager.Ordered requested resolution.orderedPackIds
  verified : manager.trustResults python crypto trust fresh (manager.closure requested) = .ok results
  decided : ∃ activation, activation.active = resolution.activePackIds ∧
    activation.blocked = resolution.blockedPackIds ∧
    Decided python manager (manager.closure requested) (trustIssues python results ++
      manager.crossPackContributionIssues python (manager.closure requested))
        resolution.orderedPackIds activation
  reported : resolution.statuses.map PackStatus.packId = resolution.orderedPackIds
  states : ∀ status ∈ resolution.statuses,
    status.state = if status.packId ∈ resolution.activePackIds then .active else .blocked

theorem resolve_settled (hinstalled : manager.Installed (manager.requested requestedPackIds))
    (hacyclic : manager.Acyclic (manager.requested requestedPackIds))
    (h : manager.resolve python crypto requestedPackIds trust fresh = .ok resolution) :
    ∃ results, Settled python crypto manager (manager.requested requestedPackIds) trust fresh
      resolution results := by
  rw [resolve_of_acyclic hinstalled hacyclic] at h
  have hordered := layering_ordered hinstalled ((remaining_eq_nil_iff hinstalled).mpr hacyclic)
  obtain ⟨results, activation, hresults, hactivation, h⟩ := resolveOrdered_eq_ok h
  obtain ⟨-, hlist, hactive, hblocked, -, hreported, hstates⟩ := resolution_eq_ok h
  have hknown : PackIssues (trustIssues python results ++ manager.crossPackContributionIssues python
      (manager.closure (manager.requested requestedPackIds))) :=
    (packIssues_trustIssues results).append (packIssues_crossPackContributionIssues _)
  have hdecided := decided_of_foldlM hknown hordered.precedence hactivation
  refine ⟨results, ⟨hlist ▸ hordered, hresults, ⟨activation, hactive.symm, hblocked.symm, ?_⟩, ?_, ?_⟩⟩
  · rw [hlist]
    exact hdecided
  · rw [hreported, hlist]
  · rw [hactive]
    exact hstates

end Resolve

end KubeOps.Packs.PackManager
