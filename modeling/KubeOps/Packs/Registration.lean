import KubeOps.Packs.Consistency
import KubeOps.Packs.Partition

/-! Managers with the same manifests resolve alike, whatever order the manifests
were registered in. -/
namespace KubeOps.Packs

open KubeOps.Foundation KubeOps.Models KubeOps.SupplyChain

namespace PackManager

/-- The same versions and manifests, which may have come from different places and in
another order. -/
structure SameManifests (manager other : PackManager) : Prop where
  kubeops : manager.kubeopsVersion = other.kubeopsVersion
  kubernetes : manager.kubernetesVersion = other.kubernetesVersion
  manifests : ∀ packId, manager.manifests.get? packId = other.manifests.get? packId

namespace SameManifests

variable {python : Python} {crypto : Cryptography} {manager other : PackManager} {trust : TrustMaterial}
  {fresh : Fresh}

theorem keys_perm (h : SameManifests manager other) : manager.manifests.keys.Perm other.manifests.keys :=
  (Dict.perm_entries h.manifests).map Prod.fst

theorem packIds (h : SameManifests manager other) : manager.packIds = other.packIds := by
  apply List.Perm.eq_of_pairwise' (r := (· ≤ ·))
  · exact List.pairwise_insertionSort _ _
  · exact List.pairwise_insertionSort _ _
  · exact ((List.perm_insertionSort _ _).trans h.keys_perm).trans (List.perm_insertionSort _ _).symm

theorem requested (h : SameManifests manager other) (requestedPackIds : Option (List String)) :
    manager.requested requestedPackIds = other.requested requestedPackIds := by
  unfold PackManager.requested
  rw [h.packIds]

theorem installed (h : SameManifests manager other) (packId : String) :
    manager.installed packId = other.installed packId := by
  unfold PackManager.installed Dict.contains
  rw [decide_eq_decide]
  exact h.keys_perm.mem_iff

theorem dependencies (h : SameManifests manager other) (packId : String) :
    manager.dependencies packId = other.dependencies packId := by
  unfold PackManager.dependencies
  rw [h.manifests]

theorem installedDependencies (h : SameManifests manager other) :
    manager.installedDependencies = other.installedDependencies := by
  funext packId
  unfold PackManager.installedDependencies
  rw [h.dependencies, funext h.installed]

theorem closure (h : SameManifests manager other) (requested : List String) :
    manager.closure requested = other.closure requested := by
  have hsize : manager.manifests.size = other.manifests.size := (Dict.perm_entries h.manifests).length_eq
  unfold PackManager.closure
  rw [h.installedDependencies, hsize]

theorem dependencySets (h : SameManifests manager other) (closure : List String) :
    manager.dependencySets closure = other.dependencySets closure := by
  unfold PackManager.dependencySets
  rw [funext h.dependencies]

private theorem layers_congr {before later : String → String → Prop} [DecidableRel before] [DecidableRel later]
    (h : before = later) (initial : Dict String (List String)) : layers before initial =
      layers later initial := by
  subst h
  congr

theorem layering (h : SameManifests manager other) (requested : List String) :
    manager.layering requested = other.layering requested := by
  have hpriority : manager.priority = other.priority := by
    funext packId
    unfold PackManager.priority
    rw [h.manifests]
  have hle : manager.packLe = other.packLe := by
    unfold PackManager.packLe
    rw [hpriority]
  unfold PackManager.layering
  rw [h.closure, h.dependencySets]
  exact layers_congr hle _

theorem get (h : SameManifests manager other) (packId : String) :
    manager.get python packId = other.get python packId := by
  unfold PackManager.get
  rw [h.manifests]

theorem trustResults (h : SameManifests manager other) (closure : List String) :
    manager.trustResults python crypto trust fresh closure =
      other.trustResults python crypto trust fresh closure := by
  have hverify : ∀ policy, manager.verifyPack python crypto trust fresh policy =
      other.verifyPack python crypto trust fresh policy := by
    intro policy
    funext packId
    unfold PackManager.verifyPack
    rw [h.get]
  unfold PackManager.trustResults
  simp only [hverify]

theorem crossPackContributionIssues (h : SameManifests manager other) (closure : List String) :
    manager.crossPackContributionIssues python closure = other.crossPackContributionIssues python closure := by
  unfold PackManager.crossPackContributionIssues PackManager.owners
  rw [funext h.manifests]

theorem validate (h : SameManifests manager other) (packId : String) (closure : List String) :
    manager.validate python packId (some closure) = other.validate python packId (some closure) := by
  have hkubeops : manager.kubeopsIssues python = other.kubeopsIssues python := by
    funext manifest
    unfold PackManager.kubeopsIssues
    rw [h.kubeops]
  have hkubernetes : manager.kubernetesIssues python = other.kubernetesIssues python := by
    funext manifest
    unfold PackManager.kubernetesIssues
    rw [h.kubernetes]
  have hdependency : manager.dependencyIssues python = other.dependencyIssues python := by
    funext manifest dependency
    unfold PackManager.dependencyIssues
    rw [h.manifests]
  unfold PackManager.validate
  rw [h.get, hkubeops, hkubernetes, hdependency]
  rfl

theorem activate (h : SameManifests manager other) (closure : List String) (known : List PackValidationIssue) :
    manager.activate python closure known = other.activate python closure known := by
  funext activation packId
  unfold PackManager.activate PackManager.issuesOf PackManager.dependencyBlocked
  rw [h.validate, h.dependencies]

theorem resolution {requested ordered active blocked : List String} {issues : List PackValidationIssue}
    {results : Dict String PackVerificationResult} {resolution : PackResolution}
    (h : SameManifests manager other)
    (hresolution : manager.resolution python requested ordered active blocked issues results fresh =
      .ok resolution) (found : List PackValidationIssue) :
    ∃ reached, other.resolution python requested ordered active blocked found results fresh = .ok reached := by
  obtain ⟨statuses, hstatuses, hresolution⟩ := except_bind_eq_ok hresolution
  obtain ⟨manifests, hmanifests, -⟩ := except_bind_eq_ok hresolution
  have hinstalled : ∀ packId manifest, manager.get python packId = .ok manifest →
      packId ∈ other.manifests.keys := by
    intro packId manifest hget
    rw [PackManager.get, h.manifests] at hget
    split at hget
    · rename_i found hfound
      exact Dict.mem_keys_of_get? hfound
    · cases hget
  apply exists_resolution
  · intro packId hmem
    obtain ⟨status, -, hstatus⟩ := exists_mem_of_mapM hstatuses hmem
    obtain ⟨manifest, hmanifest, -⟩ := except_bind_eq_ok hstatus
    exact hinstalled packId manifest hmanifest
  · intro packId hmem
    obtain ⟨manifest, -, hmanifest⟩ := exists_mem_of_mapM hmanifests hmem
    exact hinstalled packId manifest hmanifest

theorem installed_iff (h : SameManifests manager other) (requested : List String) :
    manager.Installed requested ↔ other.Installed requested := by
  unfold Installed
  simp only [h.keys_perm.mem_iff]

theorem acyclic_iff (h : SameManifests manager other) (requested : List String) :
    manager.Acyclic requested ↔ other.Acyclic requested := by
  unfold Acyclic InClosure DependsOn
  rw [h.installedDependencies]

theorem resolve {requestedPackIds : Option (List String)} {resolution : PackResolution}
    (h : SameManifests manager other)
    (hresolve : manager.resolve python crypto requestedPackIds trust fresh = .ok resolution) :
    ∃ reached, other.resolve python crypto requestedPackIds trust fresh = .ok reached ∧
      reached.orderedPackIds = resolution.orderedPackIds ∧
      reached.activePackIds = resolution.activePackIds ∧
      reached.blockedPackIds = resolution.blockedPackIds := by
  have hagree {ordered active blocked issues results} (found) (hfirst : manager.resolution python
      (manager.requested requestedPackIds) ordered active blocked issues results fresh = .ok resolution)
      (hsecond : other.resolve python crypto requestedPackIds trust fresh = other.resolution python
        (manager.requested requestedPackIds) ordered active blocked found results fresh) :
      ∃ reached, other.resolve python crypto requestedPackIds trust fresh = .ok reached ∧
        reached.orderedPackIds = resolution.orderedPackIds ∧
        reached.activePackIds = resolution.activePackIds ∧
        reached.blockedPackIds = resolution.blockedPackIds := by
    obtain ⟨reached, hreached⟩ := h.resolution hfirst found
    obtain ⟨-, hordered, hactive, hblocked, -⟩ := resolution_eq_ok hfirst
    obtain ⟨-, hordered', hactive', hblocked', -⟩ := resolution_eq_ok hreached
    rw [hordered, hactive, hblocked]
    exact ⟨reached, hsecond.trans hreached, hordered', hactive', hblocked'⟩
  by_cases hinstalled : manager.Installed (manager.requested requestedPackIds)
  · have hother : other.Installed (other.requested requestedPackIds) := by
      rw [← h.requested]
      exact (h.installed_iff _).mp hinstalled
    by_cases hacyclic : manager.Acyclic (manager.requested requestedPackIds)
    · have hotherAcyclic : other.Acyclic (other.requested requestedPackIds) := by
        rw [← h.requested]
        exact (h.acyclic_iff _).mp hacyclic
      rw [resolve_of_acyclic hinstalled hacyclic] at hresolve
      obtain ⟨results, activation, hresults, hactivation, hresolution⟩ := resolveOrdered_eq_ok hresolve
      apply hagree activation.issues hresolution
      rw [resolve_of_acyclic hother hotherAcyclic, ← h.requested, ← h.closure, ← h.layering]
      unfold PackManager.resolveOrdered
      rw [← h.trustResults, ← h.crossPackContributionIssues, hresults]
      dsimp only [bind, Except.bind]
      rw [← h.activate, hactivation]
    · have hotherCyclic : ¬ other.Acyclic (other.requested requestedPackIds) := by
        rw [← h.requested]
        exact mt (h.acyclic_iff _).mpr hacyclic
      obtain ⟨issue, heq, -⟩ := resolve_of_cyclic python crypto trust fresh hinstalled hacyclic
      obtain ⟨found, hfound, -⟩ := resolve_of_cyclic python crypto trust fresh hother hotherCyclic
      rw [← h.requested, ← h.layering] at hfound
      rw [heq] at hresolve
      exact hagree _ hresolve hfound
  · obtain ⟨message, herror⟩ := resolve_of_unknown python crypto trust fresh hinstalled
    rw [herror] at hresolve
    cases hresolve

end SameManifests

section Registration

variable {python : Python} {manager reached : PackManager} {entries : List (KnowledgePackManifest × String)}

def registerAll (python : Python) (manager : PackManager) (entries : List (KnowledgePackManifest × String)) :
    Except PyError PackManager :=
  entries.foldlM (fun manager entry => manager.register python entry.1 entry.2 false) manager

theorem register_new {manifest : KnowledgePackManifest} {source : String}
    (hnew : manager.manifests.get? manifest.packId = none) :
    manager.register python manifest source false = .ok (manager.put manifest source) := by
  rw [register, hnew]

variable (python) in
theorem registerAll_new (hnodup : (entries.map fun entry => entry.1.packId).Nodup)
    (hnew : ∀ entry ∈ entries, manager.manifests.get? entry.1.packId = none) :
    ∃ reached, manager.registerAll python entries = .ok reached ∧
      reached.kubeopsVersion = manager.kubeopsVersion ∧ reached.kubernetesVersion = manager.kubernetesVersion ∧
      ∀ packId manifest, reached.manifests.get? packId = some manifest ↔
        manager.manifests.get? packId = some manifest ∨
          manifest.packId = packId ∧ manifest ∈ entries.map Prod.fst := by
  induction entries generalizing manager with
  | nil => exact ⟨manager, rfl, rfl, rfl, by simp⟩
  | cons entry entries ih =>
    rw [List.map_cons, List.nodup_cons] at hnodup
    rw [List.forall_mem_cons] at hnew
    have hrest : ∀ other ∈ entries, (manager.put entry.1 entry.2).manifests.get? other.1.packId = none := by
      intro other hother
      have hne : other.1.packId ≠ entry.1.packId := fun hsame =>
        hnodup.1 (List.mem_map.mpr ⟨other, hother, hsame⟩)
      rw [put, Dict.get?_set_ne _ _ hne]
      exact hnew.2 other hother
    obtain ⟨reached, hreached, hkubeops, hkubernetes, hlookup⟩ := ih hnodup.2 hrest
    refine ⟨reached, ?_, hkubeops, hkubernetes, ?_⟩
    · rw [registerAll, List.foldlM_cons, register_new hnew.1]
      exact hreached
    · intro packId manifest
      rw [hlookup, put, Dict.get?_set]
      by_cases hsame : packId = entry.1.packId
      · subst hsame
        simp only [if_true, Option.some.injEq, hnew.1, List.map_cons, List.mem_cons]
        constructor
        · rintro (rfl | ⟨hid, hmem⟩)
          · exact .inr ⟨rfl, .inl rfl⟩
          · exact .inr ⟨hid, .inr hmem⟩
        · rintro (hnone | ⟨hid, rfl | hmem⟩)
          · cases hnone
          · exact .inl rfl
          · exact .inr ⟨hid, hmem⟩
      · simp only [if_neg hsame, List.map_cons, List.mem_cons]
        constructor
        · rintro (hold | ⟨hid, hmem⟩)
          · exact .inl hold
          · exact .inr ⟨hid, .inr hmem⟩
        · rintro (hold | ⟨hid, rfl | hmem⟩)
          · exact .inl hold
          · exact absurd hid.symm hsame
          · exact .inr ⟨hid, hmem⟩

theorem registerAll_perm {others : List (KnowledgePackManifest × String)} (hperm : entries.Perm others)
    (hnodup : (entries.map fun entry => entry.1.packId).Nodup) (kubeopsVersion : String)
    (kubernetesVersion : Option String)
    (h : (PackManager.new kubeopsVersion kubernetesVersion).registerAll python entries = .ok manager) :
    ∃ other, (PackManager.new kubeopsVersion kubernetesVersion).registerAll python others = .ok other ∧
      SameManifests manager other := by
  have hnew : ∀ entry : KnowledgePackManifest × String,
      (PackManager.new kubeopsVersion kubernetesVersion).manifests.get? entry.1.packId = none := fun _ => rfl
  obtain ⟨found, hfound, hkubeops, hkubernetes, hlookup⟩ :=
    registerAll_new python hnodup fun entry _ => hnew entry
  obtain rfl := Except.ok.inj (h.symm.trans hfound)
  obtain ⟨other, hother, hkubeops', hkubernetes', hlookup'⟩ :=
    registerAll_new python ((hperm.map _).nodup_iff.mp hnodup) fun entry _ => hnew entry
  refine ⟨other, hother, hkubeops.trans hkubeops'.symm, hkubernetes.trans hkubernetes'.symm, ?_⟩
  intro packId
  apply Option.ext
  intro manifest
  rw [hlookup, hlookup', (hperm.map Prod.fst).mem_iff]

end Registration

/-- The active packs of an acyclic closure are consistent, and no list depends on the order in
which the manifests were registered. -/
theorem resolve_consistent (python : Python) (crypto : Cryptography) (manager : PackManager)
    (requestedPackIds : Option (List String)) (trust : TrustMaterial) (fresh : Fresh)
    (resolution : PackResolution)
    (hacyclic : manager.Acyclic (manager.requested requestedPackIds))
    (h : manager.resolve python crypto requestedPackIds trust fresh = .ok resolution) :
    Consistent python crypto manager (manager.requested requestedPackIds) trust fresh resolution ∧
    (∀ other, SameManifests manager other →
      ∃ reached, other.resolve python crypto requestedPackIds trust fresh = .ok reached ∧
        reached.orderedPackIds = resolution.orderedPackIds ∧
        reached.activePackIds = resolution.activePackIds ∧
        reached.blockedPackIds = resolution.blockedPackIds) ∧
    ∀ kubeopsVersion kubernetesVersion entries others, entries.Perm others →
      (entries.map fun entry : KnowledgePackManifest × String => entry.1.packId).Nodup →
      (PackManager.new kubeopsVersion kubernetesVersion).registerAll python entries = .ok manager →
      ∃ other reached, (PackManager.new kubeopsVersion kubernetesVersion).registerAll python
        others = .ok other ∧
        other.resolve python crypto requestedPackIds trust fresh = .ok reached ∧
        reached.orderedPackIds = resolution.orderedPackIds ∧
        reached.activePackIds = resolution.activePackIds ∧
        reached.blockedPackIds = resolution.blockedPackIds := by
  refine ⟨?_, fun other hsame => hsame.resolve h, ?_⟩
  · by_cases hinstalled : manager.Installed (manager.requested requestedPackIds)
    · obtain ⟨results, hsettled⟩ := resolve_settled hinstalled hacyclic h
      exact hsettled.consistent hinstalled
    · obtain ⟨message, herror⟩ := resolve_of_unknown python crypto trust fresh hinstalled
      rw [herror] at h
      cases h
  · intro kubeopsVersion kubernetesVersion entries others hperm hnodup hregister
    obtain ⟨other, hother, hsame⟩ := registerAll_perm hperm hnodup kubeopsVersion kubernetesVersion hregister
    obtain ⟨reached, hreached, hlists⟩ := hsame.resolve h
    exact ⟨other, reached, hother, hreached, hlists⟩

end PackManager

namespace Catalog

/-- A policy that names the packs it takes without a signature. -/
def lenient : PackManager.TrustMaterial where
  policy := some {
    policyId := "lenient", organizationId := "default-organization", workspaceId := "default-workspace",
    allowUnsignedPackIds := ["redis", "celery"] }

theorem celery_consistent : ∃ resolution,
    queues.resolve Python.plain Cryptography.transparent (some ["celery"]) lenient fresh = .ok resolution ∧
      resolution.activePackIds = ["redis", "celery"] ∧
      PackManager.Consistent Python.plain Cryptography.transparent queues
        ["celery"] lenient fresh resolution := by
  have hinstalled : queues.Installed (queues.requested (some ["celery"])) := by
    unfold PackManager.Installed
    decide
  have hacyclic : queues.Acyclic (queues.requested (some ["celery"])) :=
    (PackManager.remaining_eq_nil_iff hinstalled).mp (by decide)
  have hactive : (queues.resolve Python.plain Cryptography.transparent (some ["celery"]) lenient fresh).map
      PackResolution.activePackIds = .ok ["redis", "celery"] := by decide
  obtain ⟨resolution, hresolution, hlist⟩ := except_map_eq_ok hactive
  have hconsistent := PackManager.resolve_consistent Python.plain Cryptography.transparent queues
    (some ["celery"]) lenient fresh resolution hacyclic hresolution
  exact ⟨resolution, hresolution, hlist, hconsistent.1⟩

end Catalog

end KubeOps.Packs
