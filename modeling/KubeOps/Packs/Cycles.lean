import KubeOps.Packs.Partition

/-! Packs that depend on one another. A resolution puts packs after all their dependencies, and so
takes a cycle for one of requirements although an optional dependency closes it. -/
namespace KubeOps.Packs

open KubeOps.Foundation KubeOps.Models KubeOps.SupplyChain

namespace PackManager

def Requires (manager : PackManager) (packId dependency : String) : Prop :=
  dependency ∈ manager.manifests.keys ∧
    ∃ item ∈ manager.dependencies packId, item.packId = dependency ∧ item.isOptional = false

def ReportsCycle (resolution : PackResolution) : Prop :=
  ∃ issue ∈ resolution.issues, issue.code = "dependency_cycle"

/-- A cycle is reported exactly where packs of the closure require one another, and stops exactly
the packs on such a cycle and those that come to one through what they require. -/
structure JudgedByRequired (manager : PackManager) (requested : List String)
    (result : Except PyError PackResolution) : Prop where
  reported : (∃ resolution, result = .ok resolution ∧ ReportsCycle resolution) ↔
    ∃ packId, manager.InClosure requested packId ∧ Relation.TransGen manager.Requires packId packId
  blocked : ∀ resolution, result = .ok resolution → ReportsCycle resolution → ∀ packId,
    packId ∈ resolution.blockedPackIds ↔
      manager.InClosure requested packId ∧ LeadsToCycle manager.Requires packId

/-- Each pack of the closure from which dependencies of either kind lead to a cycle of them
requires a pack from which they do. -/
def NoOptionalWait (manager : PackManager) (requested : List String) : Prop :=
  ∀ packId, manager.InClosure requested packId → LeadsToCycle manager.DependsOn packId →
    ∃ dependency, manager.Requires packId dependency ∧ LeadsToCycle manager.DependsOn dependency

variable {python : Python} {crypto : Cryptography} {manager : PackManager} {requested : List String}
  {trust : TrustMaterial} {fresh : Fresh} {resolution : PackResolution} {packId : String}
  {requestedPackIds : Option (List String)}

theorem Requires.dependsOn {dependency : String} (h : manager.Requires packId dependency) :
    manager.DependsOn packId dependency := by
  obtain ⟨hinstalled, item, hitem, rfl, -⟩ := h
  exact mem_installedDependencies.mpr ⟨List.mem_map_of_mem hitem, hinstalled⟩

theorem leadsToCycle_dependsOn (h : LeadsToCycle manager.Requires packId) :
    LeadsToCycle manager.DependsOn packId := h.mono fun _ _ => Requires.dependsOn

theorem InClosure.dependsOn {dependency : String} (h : manager.InClosure requested packId)
    (hdepends : manager.DependsOn packId dependency) : manager.InClosure requested dependency := by
  obtain ⟨seed, hseed, hpath⟩ := h
  exact ⟨seed, hseed, hpath.tail hdepends⟩

theorem InClosure.requiring {other : String} (h : manager.InClosure requested packId)
    (hpath : Relation.ReflTransGen manager.Requires packId other) : manager.InClosure requested other := by
  induction hpath with
  | refl => exact h
  | tail _ hrequires ih => exact ih.dependsOn hrequires.dependsOn

theorem noOptionalWait_iff (hinstalled : manager.Installed requested) :
    manager.NoOptionalWait requested ↔ ∀ packId, manager.InClosure requested packId →
      LeadsToCycle manager.DependsOn packId → LeadsToCycle manager.Requires packId := by
  constructor
  · intro hwait packId hpack hcycle
    have hnext : ∀ packId ∈ (manager.layering requested).remaining.keys,
        ∃ dependency ∈ (manager.layering requested).remaining.keys, manager.Requires packId dependency := by
      intro packId hleft
      obtain ⟨hmem, hleads⟩ := (mem_remaining_iff hinstalled).mp hleft
      obtain ⟨dependency, hrequires, hnext⟩ := hwait packId hmem hleads
      have hdependency := hmem.dependsOn hrequires.dependsOn
      exact ⟨dependency, (mem_remaining_iff hinstalled).mpr ⟨hdependency, hnext⟩, hrequires⟩
    exact leadsToCycle_of_next hnext ((mem_remaining_iff hinstalled).mpr ⟨hpack, hcycle⟩)
  · intro hall packId hpack hcycle
    obtain ⟨dependency, hrequires, hnext⟩ := (hall packId hpack hcycle).exists_next
    exact ⟨dependency, hrequires, leadsToCycle_dependsOn hnext⟩

theorem activate_packIssues {closure : List String} {known : List PackValidationIssue}
    {activation reached : Activation} (hknown : PackIssues known) (hfound : PackIssues activation.issues)
    (h : manager.activate python closure known activation packId = .ok reached) :
    PackIssues reached.issues := by
  obtain ⟨found, hissues, h⟩ := except_bind_eq_ok h
  have hcurrent : PackIssues (found ++
      if manager.dependencyBlocked activation.blocked packId then
        [errorIssue "dependency_blocked" "one or more required dependencies are blocked" (some packId)]
      else []) := by
    apply (packIssues_issuesOf hknown hissues).append
    split
    · exact List.forall_mem_singleton.mpr ⟨rfl, by simp [errorIssue]⟩
    · exact List.forall_mem_nil _
  rw [← Except.ok.inj h, apply_ite Activation.issues, ite_self]
  exact hfound.append hcurrent

theorem not_reportsCycle (hinstalled : manager.Installed (manager.requested requestedPackIds))
    (hacyclic : manager.Acyclic (manager.requested requestedPackIds))
    (h : manager.resolve python crypto requestedPackIds trust fresh = .ok resolution) :
    ¬ ReportsCycle resolution := by
  rw [resolve_of_acyclic hinstalled hacyclic] at h
  obtain ⟨results, activation, -, hactivation, h⟩ := resolveOrdered_eq_ok h
  obtain ⟨-, -, -, -, hissues, -, -⟩ := resolution_eq_ok h
  have hknown : PackIssues (trustIssues python results ++ manager.crossPackContributionIssues python
      (manager.closure (manager.requested requestedPackIds))) :=
    (packIssues_trustIssues results).append (packIssues_crossPackContributionIssues _)
  have hstart : PackIssues ({} : Activation).issues := List.forall_mem_nil _
  have hall : PackIssues activation.issues :=
    foldlM_ok (p := fun activation => PackIssues activation.issues) hactivation hstart
      fun _ _ _ _ hfound hstep => activate_packIssues hknown hfound hstep
  rintro ⟨issue, hissue, hcode⟩
  rw [hissues] at hissue
  exact (hall issue hissue).2 hcode

/-- A request for packs that are not installed is refused. Otherwise a resolution judges cycles by
required dependencies if and only if no pack waits for a cycle through optional ones alone. -/
theorem resolve_judgedByRequired_iff (python : Python) (crypto : Cryptography) (manager : PackManager)
    (requestedPackIds : Option (List String)) (trust : TrustMaterial) (fresh : Fresh) :
    (¬ manager.Installed (manager.requested requestedPackIds) → ∃ message,
      manager.resolve python crypto requestedPackIds trust fresh = .error (.keyError message)) ∧
    (manager.Installed (manager.requested requestedPackIds) →
      (manager.JudgedByRequired (manager.requested requestedPackIds)
        (manager.resolve python crypto requestedPackIds trust fresh) ↔
      manager.NoOptionalWait (manager.requested requestedPackIds))) := by
  refine ⟨resolve_of_unknown python crypto trust fresh, fun hinstalled => ?_⟩
  rw [noOptionalWait_iff hinstalled]
  by_cases hacyclic : manager.Acyclic (manager.requested requestedPackIds)
  · -- nothing is reported, and nothing leads to a cycle of either kind
    have hnone : ∀ packId, manager.InClosure (manager.requested requestedPackIds) packId →
        ¬ LeadsToCycle manager.DependsOn packId := by
      rintro packId ⟨seed, hseed, hpack⟩ ⟨other, hpath, hcycle⟩
      exact hacyclic other ⟨seed, hseed, hpack.trans hpath⟩ hcycle
    apply iff_of_true
    · constructor
      · apply iff_of_false
        · rintro ⟨resolution, hresolution, hreports⟩
          exact not_reportsCycle hinstalled hacyclic hresolution hreports
        · rintro ⟨packId, hpack, hcycle⟩
          exact hnone packId hpack (leadsToCycle_dependsOn (.of_cycle hcycle))
      · intro resolution hresolution hreports
        exact absurd hreports (not_reportsCycle hinstalled hacyclic hresolution)
    · exact fun packId hpack hcycle => absurd hcycle (hnone packId hpack)
  · -- a cycle is reported, and what is blocked is what leads to one
    obtain ⟨resolution, hresolution, -, hreports, hblocked⟩ :=
      @resolve_cyclic python crypto manager trust fresh requestedPackIds hinstalled hacyclic
    rw [hresolution]
    constructor
    · intro hjudged packId hpack hcycle
      have hmem := (hblocked packId).mpr ⟨hpack, hcycle⟩
      exact ((hjudged.blocked resolution rfl hreports packId).mp hmem).2
    · intro hall
      constructor
      · apply iff_of_true ⟨resolution, rfl, hreports⟩
        simp only [Acyclic, not_forall, not_not] at hacyclic
        obtain ⟨packId, hpack, hcycle⟩ := hacyclic
        obtain ⟨other, hpath, hround⟩ := hall packId hpack (.of_cycle hcycle)
        exact ⟨other, hpack.requiring hpath, hround⟩
      · intro found hfound _ packId
        obtain rfl := Except.ok.inj hfound
        rw [hblocked]
        constructor
        · exact fun h => ⟨h.1, hall packId h.1 h.2⟩
        · exact fun h => ⟨h.1, leadsToCycle_dependsOn h.2⟩

end PackManager

namespace Catalog

def extending (packId extended : String) (h : packId ≠ extended) : KnowledgePackManifest where
  packId := packId
  version := "0.5.0"
  dependencies := [{ packId := extended, isOptional := true }]
  canonicalJson := packId
  notSelfDependent := mt List.mem_singleton.mp h
  dependencies_nodup := List.nodup_singleton _
  notSelfConflicting := List.not_mem_nil

/-- One pack requires another, which uses the first where it is installed. -/
def brokers : PackManager :=
  (empty.put (requiring "kafka" "zookeeper" (by decide)) "memory").put
    (extending "zookeeper" "kafka" (by decide)) "memory"

theorem circle_judgedByRequired : circle.JudgedByRequired ["cycle-a"]
    (circle.resolve Python.plain Cryptography.transparent (some ["cycle-a"]) {} fresh) := by
  have hinstalled : circle.Installed (circle.requested (some ["cycle-a"])) := by
    unfold PackManager.Installed
    decide
  have hfirst : circle.Requires "cycle-a" "cycle-b" := by
    unfold PackManager.Requires
    decide
  have hsecond : circle.Requires "cycle-b" "cycle-a" := by
    unfold PackManager.Requires
    decide
  have hround : ∀ packId ∈ circle.closure ["cycle-a"], ∃ dependency, circle.Requires packId dependency ∧
      circle.Requires dependency packId := by
    have hclosure : circle.closure ["cycle-a"] = ["cycle-a", "cycle-b"] := by decide
    rw [hclosure]
    simp only [List.forall_mem_cons]
    exact ⟨⟨_, hfirst, hsecond⟩, ⟨_, hsecond, hfirst⟩, List.forall_mem_nil _⟩
  apply ((PackManager.resolve_judgedByRequired_iff Python.plain Cryptography.transparent circle
    (some ["cycle-a"]) {} fresh).2 hinstalled).mpr
  intro packId hpack _
  obtain ⟨dependency, hrequires, hback⟩ := hround packId ((PackManager.mem_closure hinstalled).mpr hpack)
  have hcycle := Relation.TransGen.tail (.single hback) hrequires
  exact ⟨dependency, hrequires, PackManager.leadsToCycle_dependsOn (.of_cycle hcycle)⟩

/-- Two packs of which one requires the other, and is not required by it, are stopped as a cycle. -/
theorem brokers_not_judgedByRequired : ¬ brokers.JudgedByRequired ["kafka"]
    (brokers.resolve Python.plain Cryptography.transparent (some ["kafka"]) {} fresh) := by
  have hreported : (brokers.resolve Python.plain Cryptography.transparent (some ["kafka"]) {} fresh).map
      (fun resolution => (resolution.issues.map PackValidationIssue.code, resolution.blockedPackIds)) =
        .ok (["dependency_cycle"], ["kafka", "zookeeper"]) := by decide
  have hdependencies : ∀ dependency ∈ brokers.manifests.keys, ¬ brokers.Requires "zookeeper" dependency := by
    unfold PackManager.Requires
    decide
  have hnone : ¬ LeadsToCycle brokers.Requires "zookeeper" := by
    intro h
    obtain ⟨dependency, hrequires, -⟩ := h.exists_next
    exact hdependencies dependency hrequires.1 hrequires
  obtain ⟨resolution, hresolution, hlists⟩ := except_map_eq_ok hreported
  obtain ⟨hcodes, hblocked⟩ := Prod.mk.inj hlists
  intro h
  have hcycle : PackManager.ReportsCycle resolution := by
    have hcode : "dependency_cycle" ∈ resolution.issues.map PackValidationIssue.code :=
      hcodes ▸ List.mem_singleton_self _
    exact List.mem_map.mp hcode
  have hmem : "zookeeper" ∈ resolution.blockedPackIds := by
    rw [hblocked]
    decide
  exact hnone ((h.blocked resolution hresolution hcycle "zookeeper").mp hmem).2

end Catalog

end KubeOps.Packs
