import KubeOps.Packs.Resolution

/-! Resolution divides the packs a request leads to: every one of them is active
or blocked, and reported as such. -/
namespace KubeOps.Packs

open KubeOps.Foundation KubeOps.Models KubeOps.SupplyChain

namespace PackManager

variable {python : Python} {crypto : Cryptography} {manager : PackManager} {requested : List String}
  {trust : TrustMaterial} {fresh : Fresh} {resolution : PackResolution}
  {results : Dict String PackVerificationResult} {requestedPackIds : Option (List String)}

/-- The packs a request leads to are divided into active and blocked ones, and each has one
status, which says the same. -/
structure Partitions (manager : PackManager) (requested : List String)
    (resolution : PackResolution) : Prop where
  nodup : (resolution.activePackIds ++ resolution.blockedPackIds).Nodup
  covers : ∀ packId, packId ∈ resolution.activePackIds ++ resolution.blockedPackIds ↔
    manager.InClosure requested packId
  statuses_nodup : (resolution.statuses.map PackStatus.packId).Nodup
  reported : ∀ packId, packId ∈ resolution.statuses.map PackStatus.packId ↔ manager.InClosure requested packId
  active : ∀ status ∈ resolution.statuses, status.packId ∈ resolution.activePackIds → status.state = .active
  blocked : ∀ status ∈ resolution.statuses, status.packId ∈ resolution.blockedPackIds → status.state = .blocked

theorem Settled.partitions (h : Settled python crypto manager requested trust fresh resolution results)
    (hinstalled : manager.Installed requested) : manager.Partitions requested resolution := by
  obtain ⟨activation, hactive, hblocked, hdecided⟩ := h.decided
  have hperm := hdecided.perm
  rw [hactive, hblocked] at hperm
  have hclosure : ∀ packId, packId ∈ resolution.orderedPackIds ↔ manager.InClosure requested packId :=
    fun packId => (h.ordered.mem packId).trans (mem_closure hinstalled)
  have hnodup := hperm.nodup_iff.mpr h.ordered.nodup
  refine ⟨hnodup, ?_, ?_, ?_, ?_, ?_⟩
  · exact fun packId => hperm.mem_iff.trans (hclosure packId)
  · rw [h.reported]
    exact h.ordered.nodup
  · intro packId
    rw [h.reported, hclosure]
  · intro status hstatus hmem
    rw [h.states status hstatus, if_pos hmem]
  · intro status hstatus hmem
    rw [h.states status hstatus, if_neg fun hother => (List.nodup_append.mp hnodup).2.2 _ hother _ hmem rfl]

/-- The version texts that the validation of a pack compares can be read. -/
structure Readable (python : Python) (manager : PackManager) (manifest : KnowledgePackManifest) : Prop where
  kubeops : ∃ answer,
    satisfies python manager.kubeopsVersion (some manifest.compatibility.kubeopsConstraint) = .ok answer
  kubernetes : ∀ version constraint, manager.kubernetesVersion = some version →
    manifest.compatibility.kubernetesConstraint = some constraint → version ≠ "" → constraint ≠ "" →
    ∃ answer, satisfies python version (some constraint) = .ok answer
  dependencies : ∀ dependency ∈ manifest.dependencies, ∀ found,
    manager.manifests.get? dependency.packId = some found →
    ∃ answer, satisfies python found.version (some dependency.versionConstraint) = .ok answer

theorem exists_versionIssues {checked : Except PyError Bool} {issue : PackValidationIssue}
    (h : ∃ answer, checked = .ok answer) :
    ∃ issues, (do let compatible ← checked; return if compatible then [] else [issue]) =
      (.ok issues : Except PyError (List PackValidationIssue)) := by
  obtain ⟨answer, rfl⟩ := h
  exact ⟨_, rfl⟩

theorem Readable.validate {manifest : KnowledgePackManifest} {packId : String} {scope : Option (List String)}
    (h : Readable python manager manifest) (hmanifest : manager.manifests.get? packId = some manifest) :
    ∃ issues, manager.validate python packId scope = .ok issues := by
  obtain ⟨kubeops, hkubeops⟩ : ∃ issues, manager.kubeopsIssues python manifest = .ok issues :=
    exists_versionIssues h.kubeops
  obtain ⟨kubernetes, hkubernetes⟩ : ∃ issues, manager.kubernetesIssues python manifest = .ok issues := by
    unfold kubernetesIssues
    split
    · rename_i version constraint hversion hconstraint
      split
      · exact ⟨[], rfl⟩
      · rename_i hne
        rw [not_or] at hne
        exact exists_versionIssues (h.kubernetes version constraint hversion hconstraint hne.1 hne.2)
    · exact ⟨[], rfl⟩
  have hall : ∀ dependency ∈ manifest.dependencies,
      ∃ issues, manager.dependencyIssues python manifest dependency = .ok issues := by
    intro dependency hmem
    unfold dependencyIssues
    split
    · exact ⟨_, rfl⟩
    · rename_i found hfound
      exact exists_versionIssues (h.dependencies dependency hmem found hfound)
  obtain ⟨dependencies, hdependencies⟩ := exists_mapM_ok hall
  unfold PackManager.validate PackManager.get
  rw [hmanifest]
  dsimp only [bind, Except.bind]
  rw [hkubeops, hkubernetes, hdependencies]
  exact ⟨_, rfl⟩

/-- Nothing that a resolution of these packs calls raises an exception. -/
structure Checkable (python : Python) (crypto : Cryptography) (manager : PackManager) (requested : List String)
    (trust : TrustMaterial) (fresh : Fresh) : Prop where
  readable : ∀ packId manifest, manager.InClosure requested packId →
    manager.manifests.get? packId = some manifest → Readable python manager manifest
  verifiable : ∀ policy packId, trust.policy = some policy → manager.InClosure requested packId →
    ∃ result, manager.verifyPack python crypto trust fresh policy packId = .ok result

theorem Checkable.trustResults (h : Checkable python crypto manager requested trust fresh)
    (hinstalled : manager.Installed requested) :
    ∃ results, manager.trustResults python crypto trust fresh (manager.closure requested) = .ok results := by
  unfold PackManager.trustResults
  cases hpolicy : trust.policy with
  | none => exact ⟨∅, rfl⟩
  | some policy =>
    have hall : ∀ packId ∈ manager.closure requested, ∃ entry : String × PackVerificationResult, (do
        let result ← manager.verifyPack python crypto trust fresh policy packId
        return (packId, result)) = .ok entry := by
      intro packId hmem
      obtain ⟨result, hresult⟩ := h.verifiable policy packId hpolicy ((mem_closure hinstalled).mp hmem)
      rw [hresult]
      exact ⟨_, rfl⟩
    obtain ⟨entries, hentries⟩ := exists_mapM_ok hall
    dsimp only
    rw [hentries]
    exact ⟨_, rfl⟩

theorem Checkable.resolve
    (h : Checkable python crypto manager (manager.requested requestedPackIds) trust fresh)
    (hinstalled : manager.Installed (manager.requested requestedPackIds))
    (hacyclic : manager.Acyclic (manager.requested requestedPackIds)) :
    ∃ resolution, manager.resolve python crypto requestedPackIds trust fresh = .ok resolution := by
  have hordered := layering_ordered hinstalled ((remaining_eq_nil_iff hinstalled).mpr hacyclic)
  obtain ⟨results, hresults⟩ := h.trustResults hinstalled
  have hsteps : ∀ packId ∈ (manager.layering (manager.requested requestedPackIds)).ordered, ∀ activation,
      ∃ later, manager.activate python (manager.closure (manager.requested requestedPackIds))
        (trustIssues python results ++ manager.crossPackContributionIssues python
          (manager.closure (manager.requested requestedPackIds))) activation packId = .ok later := by
    intro packId hmem activation
    have hclosure := (hordered.mem packId).mp hmem
    obtain ⟨manifest, hmanifest⟩ := Dict.mem_keys.mp (closure_installed hinstalled packId hclosure)
    rw [← Dict.get?_eq_some] at hmanifest
    have hreadable := h.readable packId manifest ((mem_closure hinstalled).mp hclosure) hmanifest
    obtain ⟨issues, hissues⟩ := hreadable.validate hmanifest
    unfold PackManager.activate issuesOf
    rw [hissues]
    exact ⟨_, rfl⟩
  obtain ⟨activation, hactivation⟩ := exists_foldlM_ok hsteps {}
  rw [resolve_of_acyclic hinstalled hacyclic]
  unfold PackManager.resolveOrdered
  rw [hresults]
  dsimp only [bind, Except.bind]
  rw [hactivation]
  have hknown : PackIssues (trustIssues python results ++ manager.crossPackContributionIssues python
      (manager.closure (manager.requested requestedPackIds))) :=
    (packIssues_trustIssues results).append (packIssues_crossPackContributionIssues _)
  have hdecided := decided_of_foldlM hknown hordered.precedence hactivation
  have hplaced : ∀ packId ∈ (manager.layering (manager.requested requestedPackIds)).ordered,
      packId ∈ manager.manifests.keys :=
    fun packId hmem => closure_installed hinstalled packId ((hordered.mem packId).mp hmem)
  exact exists_resolution _ _ _ _ _ _ hplaced fun packId hmem =>
    hplaced packId (hdecided.perm.mem_iff.mp (List.mem_append_left _ hmem))

theorem resolve_cyclic (hinstalled : manager.Installed (manager.requested requestedPackIds))
    (hcyclic : ¬ manager.Acyclic (manager.requested requestedPackIds)) :
    ∃ resolution, manager.resolve python crypto requestedPackIds trust fresh = .ok resolution ∧
      resolution.activePackIds = [] ∧
      (∃ issue ∈ resolution.issues, issue.code = "dependency_cycle") ∧
      ∀ packId, packId ∈ resolution.blockedPackIds ↔
        manager.InClosure (manager.requested requestedPackIds) packId ∧
          LeadsToCycle manager.DependsOn packId := by
  have hsound : (manager.layering (manager.requested requestedPackIds)).Sound
      (manager.dependencySets (manager.closure (manager.requested requestedPackIds))) := Layering.layers_sound _
  have hplaced : ∀ packId ∈ (manager.layering (manager.requested requestedPackIds)).ordered,
      packId ∈ manager.manifests.keys := by
    intro packId hmem
    apply closure_installed hinstalled
    rw [← mem_keys_dependencySets closure_nodup]
    exact (hsound.split packId).mpr (.inl hmem)
  obtain ⟨issue, hresolve, hcode⟩ := resolve_of_cyclic python crypto trust fresh hinstalled hcyclic
  obtain ⟨resolution, hresolution⟩ := exists_resolution python
    (manager.requested requestedPackIds)
    ((manager.layering (manager.requested requestedPackIds)).remaining.keys.insertionSort (· ≤ ·))
    [issue] ∅ fresh hplaced (List.forall_mem_nil _)
  obtain ⟨-, -, hactive, hblocked, hissues, -, -⟩ := resolution_eq_ok hresolution
  refine ⟨resolution, hresolve.trans hresolution, hactive, ⟨issue, ?_, hcode⟩, ?_⟩
  · rw [hissues]
    exact List.mem_singleton_self _
  · intro packId
    rw [hblocked, List.mem_insertionSort]
    exact mem_remaining_iff hinstalled

/-- An absent or an empty request stands for all installed packs. Without a dependency cycle the
packs it leads to are divided into active and blocked ones; a cycle leaves none active. -/
theorem resolve_partitions (python : Python) (crypto : Cryptography) (manager : PackManager)
    (requestedPackIds : Option (List String)) (trust : TrustMaterial) (fresh : Fresh) :
    (¬ manager.Installed (manager.requested requestedPackIds) → ∃ message,
      manager.resolve python crypto requestedPackIds trust fresh = .error (.keyError message)) ∧
    (manager.Installed (manager.requested requestedPackIds) →
      manager.Acyclic (manager.requested requestedPackIds) →
      (∀ resolution, manager.resolve python crypto requestedPackIds trust fresh = .ok resolution →
        manager.Partitions (manager.requested requestedPackIds) resolution) ∧
      (Checkable python crypto manager (manager.requested requestedPackIds) trust fresh →
        ∃ resolution, manager.resolve python crypto requestedPackIds trust fresh = .ok resolution)) ∧
    (manager.Installed (manager.requested requestedPackIds) →
      ¬ manager.Acyclic (manager.requested requestedPackIds) →
      ∃ resolution, manager.resolve python crypto requestedPackIds trust fresh = .ok resolution ∧
        resolution.activePackIds = [] ∧
        ∀ packId, manager.InClosure (manager.requested requestedPackIds) packId →
          Relation.TransGen manager.DependsOn packId packId → packId ∈ resolution.blockedPackIds) := by
  refine ⟨resolve_of_unknown python crypto trust fresh, ?_, ?_⟩
  · intro hinstalled hacyclic
    refine ⟨?_, fun hcheckable => hcheckable.resolve hinstalled hacyclic⟩
    intro resolution hresolution
    obtain ⟨results, hsettled⟩ := resolve_settled hinstalled hacyclic hresolution
    exact hsettled.partitions hinstalled
  · intro hinstalled hcyclic
    obtain ⟨resolution, hresolution, hactive, -, hblocked⟩ := resolve_cyclic hinstalled hcyclic
    refine ⟨resolution, hresolution, hactive, ?_⟩
    exact fun packId hpack hcycle => (hblocked packId).mpr ⟨hpack, .of_cycle hcycle⟩

end PackManager

/-! A few packs. -/
namespace Catalog

def independent (packId : String) : KnowledgePackManifest where
  packId := packId
  version := "0.5.0"
  dependencies := []
  canonicalJson := packId
  notSelfDependent := List.not_mem_nil
  dependencies_nodup := List.nodup_nil
  notSelfConflicting := List.not_mem_nil

def requiring (packId dependency : String) (h : packId ≠ dependency) : KnowledgePackManifest where
  packId := packId
  version := "0.5.0"
  dependencies := [{ packId := dependency }]
  canonicalJson := packId
  notSelfDependent := mt List.mem_singleton.mp h
  dependencies_nodup := List.nodup_singleton _
  notSelfConflicting := List.not_mem_nil

def empty : PackManager := .new "1.0.0" none

def queues : PackManager :=
  (empty.put (independent "redis") "memory").put (requiring "celery" "redis" (by decide)) "memory"

def circle : PackManager :=
  (empty.put (requiring "cycle-a" "cycle-b" (by decide)) "memory").put
    (requiring "cycle-b" "cycle-a" (by decide)) "memory"

def fresh : PackManager.Fresh where
  resolutionId := "pack-resolution:1"
  createdAtIso := "2026-07-23T00:00:00+00:00"
  verificationId packId := "pack-verification:" ++ packId
  verifiedAtIso _ := "2026-07-23T00:00:00+00:00"

theorem celery_partitions : ∃ resolution,
    queues.resolve Python.plain Cryptography.transparent (some ["celery"]) {} fresh = .ok resolution ∧
      resolution.activePackIds = ["redis", "celery"] ∧ queues.Partitions ["celery"] resolution := by
  have hinstalled : queues.Installed (queues.requested (some ["celery"])) := by
    unfold PackManager.Installed
    decide
  have hacyclic : queues.Acyclic (queues.requested (some ["celery"])) :=
    (PackManager.remaining_eq_nil_iff hinstalled).mp (by decide)
  have hactive : (queues.resolve Python.plain Cryptography.transparent (some ["celery"]) {} fresh).map
      PackResolution.activePackIds = .ok ["redis", "celery"] := by decide
  obtain ⟨resolution, hresolution, hlist⟩ := except_map_eq_ok hactive
  have hpartitions := (PackManager.resolve_partitions Python.plain Cryptography.transparent queues
    (some ["celery"]) {} fresh).2.1 hinstalled hacyclic
  exact ⟨resolution, hresolution, hlist, hpartitions.1 resolution hresolution⟩

/-- An empty request activates what is installed, and a cycle leaves its packs without a status. -/
theorem emptyRequest_and_cycle_not_partitions :
    (∃ resolution, queues.resolve Python.plain Cryptography.transparent (some []) {} fresh = .ok resolution ∧
      resolution.activePackIds = ["redis", "celery"] ∧ ¬ queues.Partitions [] resolution) ∧
    ∃ resolution, circle.resolve Python.plain Cryptography.transparent (some ["cycle-a"]) {} fresh =
      .ok resolution ∧ ¬ circle.Partitions ["cycle-a"] resolution := by
  constructor
  · have hactive : (queues.resolve Python.plain Cryptography.transparent (some []) {} fresh).map
        PackResolution.activePackIds = .ok ["redis", "celery"] := by decide
    obtain ⟨resolution, hresolution, hlist⟩ := except_map_eq_ok hactive
    refine ⟨resolution, hresolution, hlist, fun h => ?_⟩
    obtain ⟨seed, hseed, -⟩ := (h.covers "redis").mp (by simp [hlist])
    exact absurd hseed List.not_mem_nil
  · have hstatuses : (circle.resolve Python.plain Cryptography.transparent (some ["cycle-a"]) {} fresh).map
        (fun resolution => resolution.statuses.map PackStatus.packId) = .ok [] := by decide
    obtain ⟨resolution, hresolution, hlist⟩ := except_map_eq_ok hstatuses
    refine ⟨resolution, hresolution, fun h => ?_⟩
    have hmem := (h.reported "cycle-a").mpr ⟨"cycle-a", List.mem_singleton_self _, .refl⟩
    rw [hlist] at hmem
    exact absurd hmem List.not_mem_nil

end Catalog

end KubeOps.Packs
