import KubeOps.Packs.Resolution

/-! The active packs of a resolution fit together: what they require is active,
none of them conflicts with another, and nothing is contributed twice. -/
namespace KubeOps.Packs.PackManager

open KubeOps.Foundation KubeOps.Models KubeOps.SupplyChain

variable {python : Python} {crypto : Cryptography} {manager : PackManager} {requested closure : List String}
  {packId : String} {manifest : KnowledgePackManifest} {known : List PackValidationIssue}

section Clear

/-- What holds of a pack against which nothing was found. -/
structure Clear (python : Python) (manager : PackManager) (closure : List String)
    (known : List PackValidationIssue) (packId : String) (manifest : KnowledgePackManifest) : Prop where
  installed : manager.manifests.get? packId = some manifest
  dependencies : ∀ dependency ∈ manifest.dependencies,
    manager.dependencyIssues python manifest dependency = .ok []
  conflicts : conflictIssues manifest closure = []
  unknown : ∀ issue ∈ known, issue.packId ≠ some packId

theorem clear_of_issuesOf (h : manager.issuesOf python closure known packId = .ok []) :
    ∃ manifest, Clear python manager closure known packId manifest := by
  obtain ⟨validated, hvalidated, hnone⟩ := issuesOf_eq_ok h
  obtain ⟨hvalid, hknown⟩ := List.append_eq_nil_iff.mp hnone.symm
  obtain ⟨manifest, kubeops, kubernetes, dependencies, hmanifest, -, -, hdependencies, hparts⟩ :=
    validate_eq_ok hvalidated
  rw [hvalid, eq_comm, List.append_eq_nil_iff, List.append_eq_nil_iff, List.append_eq_nil_iff] at hparts
  obtain ⟨⟨⟨-, hflat⟩, hconflicts⟩, -⟩ := hparts
  refine ⟨manifest, hmanifest, ?_, hconflicts, ?_⟩
  · intro dependency hmem
    obtain ⟨part, hpart, hdependency⟩ := exists_mem_of_mapM hdependencies hmem
    rw [hdependency, List.flatten_eq_nil_iff.mp hflat part hpart]
  · intro issue hmem hsame
    exact List.filter_eq_nil_iff.mp hknown issue hmem (by simpa using hsame)

theorem dependencies_of_get? (h : manager.manifests.get? packId = some manifest) :
    manager.dependencies packId = manifest.dependencies := by
  rw [dependencies, h]

theorem satisfied_of_dependencyIssues {dependency : PackDependency} (hrequired : dependency.isOptional = false)
    (h : manager.dependencyIssues python manifest dependency = .ok []) :
    ∃ found, manager.manifests.get? dependency.packId = some found ∧
      satisfies python found.version (some dependency.versionConstraint) = .ok true := by
  unfold dependencyIssues at h
  split at h
  · rw [hrequired] at h
    exact absurd (Except.ok.inj h) (by simp)
  · rename_i found hfound
    refine ⟨found, hfound, ?_⟩
    rcases versionIssues_eq_ok h with ⟨htrue, -⟩ | ⟨-, hissue⟩
    · exact htrue
    · exact absurd hissue (List.cons_ne_nil _ _).symm

theorem conflictIssues_eq_nil {scope : List String} (h : conflictIssues manifest scope = []) :
    ∀ other ∈ scope, other ∉ manifest.conflictsWith := by
  intro other hscope hconflict
  rw [conflictIssues, List.map_eq_nil_iff, List.filter_eq_nil_iff] at h
  exact h other hconflict (by simpa using hscope)

end Clear

section Collisions

private theorem mem_foldl_owners {owners : Dict (ContributionCategory × String) (List String)}
    {identities : List (ContributionCategory × String)} {owner : String}
    {identity : ContributionCategory × String} :
    owner ∈ ((identities.foldl (fun owners identity =>
        owners.set identity ((owners.get? identity).getD [] ++ [packId])) owners).get? identity).getD [] ↔
      owner ∈ (owners.get? identity).getD [] ∨ owner = packId ∧ identity ∈ identities := by
  induction identities generalizing owners with
  | nil => simp
  | cons first identities ih =>
    rw [List.foldl_cons, ih, Dict.get?_set]
    by_cases hsame : identity = first
    · subst hsame
      simp only [if_true, Option.getD_some, List.mem_append, List.mem_cons]
      tauto
    · simp [hsame]

def identifiersOf (manager : PackManager) (packId : String) : List (ContributionCategory × String) :=
  (manager.manifests.get? packId).elim [] contributionIdentifiers

theorem mem_owners {packIds : List String} {owner : String} {identity : ContributionCategory × String} :
    owner ∈ ((manager.owners packIds).get? identity).getD [] ↔
      owner ∈ packIds ∧ identity ∈ manager.identifiersOf owner := by
  suffices h : ∀ owners : Dict (ContributionCategory × String) (List String),
      owner ∈ ((packIds.foldl (fun owners packId => (manager.identifiersOf packId).foldl (fun owners identity =>
        owners.set identity ((owners.get? identity).getD [] ++ [packId])) owners) owners).get?
          identity).getD [] ↔
      owner ∈ (owners.get? identity).getD [] ∨ owner ∈ packIds ∧ identity ∈ manager.identifiersOf owner by
    have hall := h ∅
    rw [Dict.get?_empty, Option.getD_none, or_iff_right List.not_mem_nil] at hall
    exact hall
  intro owners
  induction packIds generalizing owners with
  | nil => simp
  | cons first packIds ih =>
    rw [List.foldl_cons, ih, mem_foldl_owners, List.mem_cons]
    constructor
    · rintro ((hold | ⟨rfl, hidentity⟩) | ⟨hlater, hidentity⟩)
      · exact .inl hold
      · exact .inr ⟨.inl rfl, hidentity⟩
      · exact .inr ⟨.inr hlater, hidentity⟩
    · rintro (hold | ⟨rfl | hlater, hidentity⟩)
      · exact .inl (.inl hold)
      · exact .inl (.inr ⟨rfl, hidentity⟩)
      · exact .inr ⟨hlater, hidentity⟩

private theorem two_le_length {owners : List String} {owner other : String} (howner : owner ∈ owners)
    (hother : other ∈ owners) (hne : owner ≠ other) : ¬ owners.length < 2 := by
  intro hfew
  match owners with
  | [] => exact absurd howner List.not_mem_nil
  | [only] =>
    rw [List.mem_singleton] at howner hother
    exact hne (howner.trans hother.symm)
  | _ :: _ :: rest =>
    rw [List.length_cons, List.length_cons] at hfew
    omega

variable (python) in
theorem exists_collision {other : String} {identity : ContributionCategory × String}
    (hpack : packId ∈ closure) (hother : other ∈ closure) (hne : packId ≠ other)
    (hmem : identity ∈ manager.identifiersOf packId) (hshared : identity ∈ manager.identifiersOf other) :
    ∃ issue ∈ manager.crossPackContributionIssues python closure, issue.packId = some packId := by
  let owners := ((manager.owners (closure.insertionSort (· ≤ ·))).get? identity).getD []
  have howner : packId ∈ owners := mem_owners.mpr ⟨(List.mem_insertionSort _).mpr hpack, hmem⟩
  have hsecond : other ∈ owners := mem_owners.mpr ⟨(List.mem_insertionSort _).mpr hother, hshared⟩
  have hmany : ¬ owners.length < 2 := two_le_length howner hsecond hne
  have hentry : (identity, owners) ∈ (manager.owners (closure.insertionSort (· ≤ ·))).entries := by
    rw [← Dict.get?_eq_some]
    cases hfound : (manager.owners (closure.insertionSort (· ≤ ·))).get? identity with
    | none => exact absurd howner (by simp [owners, hfound])
    | some found => simp [owners, hfound]
  refine ⟨collisionIssue python identity owners packId, ?_, rfl⟩
  rw [crossPackContributionIssues, List.mem_flatMap]
  refine ⟨(identity, owners), (List.mem_insertionSort _).mpr hentry, ?_⟩
  rw [if_neg hmany]
  exact List.mem_map_of_mem howner

end Collisions

section Trust

variable {trust : TrustMaterial} {fresh : Fresh} {policy : PackTrustPolicy}
  {results : Dict String PackVerificationResult}

theorem verified_of_trustResults (hclosure : closure.Nodup) (hpolicy : trust.policy = some policy)
    (h : manager.trustResults python crypto trust fresh closure = .ok results) (hmem : packId ∈ closure) :
    ∃ result, manager.verifyPack python crypto trust fresh policy packId = .ok result ∧
      (result.outcome ≠ .trusted → ∃ issue ∈ trustIssues python results, issue.packId = some packId) := by
  unfold trustResults at h
  rw [hpolicy] at h
  obtain ⟨entries, hentries, h⟩ := except_bind_eq_ok h
  obtain rfl := Except.ok.inj h
  have hkeys : entries.map Prod.fst = closure := by
    have hids : entries.map Prod.fst = closure.map id := map_eq_of_mapM hentries fun packId entry hentry => by
      obtain ⟨result, -, hentry⟩ := except_bind_eq_ok hentry
      rw [← Except.ok.inj hentry]
      rfl
    rwa [List.map_id] at hids
  obtain ⟨entry, hentry, hfound⟩ := exists_mem_of_mapM hentries hmem
  obtain ⟨result, hresult, hfound⟩ := except_bind_eq_ok hfound
  obtain rfl := Except.ok.inj hfound
  refine ⟨result, hresult, fun houtcome => ⟨untrustedIssue python packId result, ?_, rfl⟩⟩
  rw [trustIssues, Dict.entries_ofList (by rw [hkeys]; exact hclosure), List.mem_map]
  exact ⟨(packId, result), List.mem_filter.mpr ⟨hentry, by simpa using houtcome⟩, rfl⟩

end Trust

section Consistent

variable {trust : TrustMaterial} {fresh : Fresh} {resolution : PackResolution}
  {results : Dict String PackVerificationResult}

structure Consistent (python : Python) (crypto : Cryptography) (manager : PackManager) (requested : List String)
    (trust : TrustMaterial) (fresh : Fresh) (resolution : PackResolution) : Prop where
  nodup : resolution.orderedPackIds.Nodup
  closure : ∀ packId, packId ∈ resolution.orderedPackIds ↔ manager.InClosure requested packId
  topological : ∀ before packId after, resolution.orderedPackIds = before ++ packId :: after →
    ∀ dependency, manager.DependsOn packId dependency → dependency ∈ before
  required : ∀ packId ∈ resolution.activePackIds, ∀ manifest, manager.manifests.get? packId = some manifest →
    ∀ dependency ∈ manifest.dependencies, dependency.isOptional = false →
    ∃ found, manager.manifests.get? dependency.packId = some found ∧
      dependency.packId ∈ resolution.activePackIds ∧
      satisfies python found.version (some dependency.versionConstraint) = .ok true
  conflicts : ∀ packId ∈ resolution.activePackIds, ∀ manifest, manager.manifests.get? packId = some manifest →
    ∀ other ∈ resolution.activePackIds, other ∉ manifest.conflictsWith
  contributions : ∀ packId ∈ resolution.activePackIds, ∀ other ∈ resolution.activePackIds, packId ≠ other →
    ∀ manifest otherManifest, manager.manifests.get? packId = some manifest →
    manager.manifests.get? other = some otherManifest →
    ∀ identity ∈ contributionIdentifiers manifest, identity ∉ contributionIdentifiers otherManifest
  trusted : ∀ policy, trust.policy = some policy → ∀ packId ∈ resolution.activePackIds, ∃ result,
    manager.verifyPack python crypto trust fresh policy packId = .ok result ∧ result.outcome = .trusted

theorem Settled.active (h : Settled python crypto manager requested trust fresh resolution results)
    (hmem : packId ∈ resolution.activePackIds) : packId ∈ manager.closure requested ∧
      ∃ manifest, Clear python manager (manager.closure requested) (trustIssues python results ++
        manager.crossPackContributionIssues python (manager.closure requested)) packId manifest := by
  obtain ⟨activation, hactive, -, hdecided⟩ := h.decided
  rw [← hactive] at hmem
  refine ⟨(h.ordered.mem packId).mp (hdecided.perm.mem_iff.mp (List.mem_append_left _ hmem)), ?_⟩
  exact clear_of_issuesOf (hdecided.clear packId hmem)

theorem Settled.consistent (h : Settled python crypto manager requested trust fresh resolution results)
    (hinstalled : manager.Installed requested) :
    Consistent python crypto manager requested trust fresh resolution where
  nodup := h.ordered.nodup
  closure := fun packId => (h.ordered.mem packId).trans (mem_closure hinstalled)
  topological := h.ordered.precedence
  required := by
    intro packId hmem manifest hmanifest dependency hdependency hrequired
    obtain ⟨-, found, hclear⟩ := h.active hmem
    obtain rfl := Option.some.inj (hmanifest.symm.trans hclear.installed)
    obtain ⟨target, htarget, hsatisfied⟩ :=
      satisfied_of_dependencyIssues hrequired (hclear.dependencies dependency hdependency)
    obtain ⟨activation, hactive, -, hdecided⟩ := h.decided
    rw [← hactive] at hmem ⊢
    refine ⟨target, htarget, ?_, hsatisfied⟩
    rw [← dependencies_of_get? hmanifest] at hdependency
    exact hdecided.required packId hmem dependency hdependency hrequired (Dict.mem_keys_of_get? htarget)
  conflicts := by
    intro packId hmem manifest hmanifest other hother
    obtain ⟨-, found, hclear⟩ := h.active hmem
    obtain rfl := Option.some.inj (hmanifest.symm.trans hclear.installed)
    exact conflictIssues_eq_nil hclear.conflicts other (h.active hother).1
  contributions := by
    intro packId hmem other hother hne manifest otherManifest hmanifest hotherManifest identity
      hidentity hshared
    obtain ⟨hpack, found, hclear⟩ := h.active hmem
    obtain ⟨issue, hissue, hreported⟩ := exists_collision python hpack (h.active hother).1 hne
      (by rwa [identifiersOf, hmanifest]) (by rwa [identifiersOf, hotherManifest])
    exact hclear.unknown issue (List.mem_append_right _ hissue) hreported
  trusted := by
    intro policy hpolicy packId hmem
    obtain ⟨hpack, manifest, hclear⟩ := h.active hmem
    obtain ⟨result, hresult, hreported⟩ := verified_of_trustResults closure_nodup hpolicy h.verified hpack
    refine ⟨result, hresult, ?_⟩
    by_contra houtcome
    obtain ⟨issue, hissue, hsame⟩ := hreported houtcome
    exact hclear.unknown issue (List.mem_append_left _ hissue) hsame

theorem trusted_of_resolve {requestedPackIds : Option (List String)} {policy : PackTrustPolicy}
    (hpolicy : trust.policy = some policy)
    (h : manager.resolve python crypto requestedPackIds trust fresh = .ok resolution)
    (hmem : packId ∈ resolution.activePackIds) :
    ∃ result, manager.verifyPack python crypto trust fresh policy packId = .ok result ∧
      result.outcome = .trusted := by
  by_cases hinstalled : manager.Installed (manager.requested requestedPackIds)
  · by_cases hacyclic : manager.Acyclic (manager.requested requestedPackIds)
    · obtain ⟨results, hsettled⟩ := resolve_settled hinstalled hacyclic h
      exact (hsettled.consistent hinstalled).trusted policy hpolicy packId hmem
    · obtain ⟨issue, hcycle, -⟩ := resolve_of_cyclic python crypto trust fresh hinstalled hacyclic
      obtain ⟨-, -, hactive, -⟩ := resolution_eq_ok (hcycle.symm.trans h)
      rw [hactive] at hmem
      exact absurd hmem List.not_mem_nil
  · obtain ⟨message, herror⟩ := resolve_of_unknown python crypto trust fresh hinstalled
    rw [herror] at h
    cases h

end Consistent

end KubeOps.Packs.PackManager
