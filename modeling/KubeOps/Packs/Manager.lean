import KubeOps.Foundation.DepthFirst
import KubeOps.Foundation.Layers
import KubeOps.Packs.Versioning
import KubeOps.SupplyChain.Signing

/-! The manager of knowledge packs: registration, validation of one pack, and the
resolution of the packs a request asks for. -/
namespace KubeOps.Packs

open KubeOps.Foundation KubeOps.Models KubeOps.SupplyChain

/-- Manifests are kept under their own ids, each with the place it came from. -/
structure PackManager where
  kubeopsVersion : String := "1.0.0"
  kubernetesVersion : Option String := none
  manifests : Dict String KnowledgePackManifest := ∅
  sources : Dict String String := ∅
  keyed : ∀ packId manifest, manifests.get? packId = some manifest → manifest.packId = packId
  sourced : ∀ packId, packId ∈ manifests.keys ↔ packId ∈ sources.keys

namespace PackManager

variable (python : Python) (crypto : Cryptography)

def new (kubeopsVersion : String) (kubernetesVersion : Option String) : PackManager where
  kubeopsVersion := kubeopsVersion
  kubernetesVersion := kubernetesVersion
  keyed := by simp
  sourced := by simp

def put (manager : PackManager) (manifest : KnowledgePackManifest) (source : String) : PackManager where
  kubeopsVersion := manager.kubeopsVersion
  kubernetesVersion := manager.kubernetesVersion
  manifests := manager.manifests.set manifest.packId manifest
  sources := manager.sources.set manifest.packId source
  keyed := by
    intro packId found h
    rw [Dict.get?_set] at h
    split at h
    · rename_i hsame
      rw [← Option.some.inj h, hsame]
    · exact manager.keyed packId found h
  sourced := by
    intro packId
    rw [Dict.mem_keys_set, Dict.mem_keys_set, manager.sourced]

def register (manager : PackManager) (manifest : KnowledgePackManifest) (source : String) (replace : Bool) :
    Except PyError PackManager :=
  match manager.manifests.get? manifest.packId with
  | some existing =>
    if replace then .ok (manager.put manifest source)
    else if existing.contentHash python ≠ manifest.contentHash python then
      .error (.valueError
        s!"pack {python.repr (.str manifest.packId)} already registered with different content")
    else .ok manager
  | none => .ok (manager.put manifest source)

/-- `sorted(self._manifests)` -/
def packIds (manager : PackManager) : List String := manager.manifests.keys.insertionSort (· ≤ ·)

def get (manager : PackManager) (packId : String) : Except PyError KnowledgePackManifest :=
  match manager.manifests.get? packId with
  | some manifest => .ok manifest
  | none => .error (.keyError s!"unknown knowledge pack {python.repr (.str packId)}")

def source (manager : PackManager) (packId : String) : Except PyError String :=
  match manager.sources.get? packId with
  | some source => .ok source
  | none => .error (.keyError (python.repr (.str packId)))

def dependencies (manager : PackManager) (packId : String) : List PackDependency :=
  match manager.manifests.get? packId with
  | some manifest => manifest.dependencies
  | none => []

def installed (manager : PackManager) (packId : String) : Bool := manager.manifests.contains packId

section Validation

def errorIssue (code message : String) (packId : Option String) : PackValidationIssue :=
  { code, severity := .error, message, packId }

def contributionIdentifiers (manifest : KnowledgePackManifest) : List (ContributionCategory × String) :=
  let fields := manifest.contributions
  fields.entityClassifiers.map (.entityClassifier, ·) ++
  fields.relationshipResolvers.map (.relationshipResolver, ·) ++
  fields.operationalProfiles.map (.operationalProfile, ·) ++
  fields.evidenceIntents.map (.evidenceIntent, ·) ++
  fields.collectors.map (.collector, ·) ++
  fields.causalTemplates.map (.causalTemplate, ·) ++
  fields.actionTypes.map (.actionType, ·) ++
  fields.lifecycleProfiles.map (.lifecycleProfile, ·) ++
  fields.verificationTemplates.map (.verificationTemplate, ·) ++
  fields.redactionRules.map (.redactionRule, ·)

/-- A `Counter` keeps the identities in the order of their first appearance. -/
def duplicateContributionIssues (manifest : KnowledgePackManifest) : List PackValidationIssue :=
  let identifiers := contributionIdentifiers manifest
  (identifiers.eraseDups.filter fun identity => 1 < identifiers.count identity).map fun identity =>
    { errorIssue "duplicate_contribution" s!"duplicate {identity.1.text} contribution {identity.2}"
        (some manifest.packId) with
      contributionId := some identity.2 }

def kubeopsIssues (manager : PackManager) (manifest : KnowledgePackManifest) :
    Except PyError (List PackValidationIssue) := do
  let constraint := manifest.compatibility.kubeopsConstraint
  let compatible ← satisfies python manager.kubeopsVersion (some constraint)
  return if compatible then []
    else [errorIssue "kubeops_version_incompatible"
      s!"KubeOps {manager.kubeopsVersion} does not satisfy {constraint}" (some manifest.packId)]

/-- Nothing is checked without a version or without a constraint; both are falsy when empty. -/
def kubernetesIssues (manager : PackManager) (manifest : KnowledgePackManifest) :
    Except PyError (List PackValidationIssue) :=
  match manager.kubernetesVersion, manifest.compatibility.kubernetesConstraint with
  | some version, some constraint =>
    if version = "" ∨ constraint = "" then .ok []
    else do
      let compatible ← satisfies python version (some constraint)
      return if compatible then []
        else [errorIssue "kubernetes_version_incompatible"
          s!"Kubernetes {version} does not satisfy {constraint}" (some manifest.packId)]
  | _, _ => .ok []

def dependencyIssues (manager : PackManager) (manifest : KnowledgePackManifest) (dependency : PackDependency) :
    Except PyError (List PackValidationIssue) :=
  match manager.manifests.get? dependency.packId with
  | none =>
    .ok (if dependency.isOptional then []
      else [errorIssue "missing_dependency" s!"required pack {dependency.packId} is not installed"
        (some manifest.packId)])
  | some found => do
    let compatible ← satisfies python found.version (some dependency.versionConstraint)
    return if compatible then []
      else [errorIssue "dependency_version_incompatible"
        s!"{dependency.packId} {found.version} does not satisfy {dependency.versionConstraint}"
        (some manifest.packId)]

def conflictIssues (manifest : KnowledgePackManifest) (scope : List String) : List PackValidationIssue :=
  (manifest.conflictsWith.filter (· ∈ scope)).map fun conflict =>
    { errorIssue "pack_conflict" s!"conflicts with selected pack {conflict}" (some manifest.packId) with
      details := [("conflicting_pack_id", .str conflict)] }

/-- `manager.validate(pack_id, active_pack_ids=scope)`. Without a scope all installed packs count. -/
def validate (manager : PackManager) (packId : String) (activePackIds : Option (List String)) :
    Except PyError (List PackValidationIssue) := do
  let manifest ← manager.get python packId
  let kubeops ← manager.kubeopsIssues python manifest
  let kubernetes ← manager.kubernetesIssues python manifest
  let dependencies ← manifest.dependencies.mapM (manager.dependencyIssues python manifest)
  return kubeops ++ kubernetes ++ dependencies.flatten ++
    conflictIssues manifest (activePackIds.getD manager.manifests.keys) ++
    duplicateContributionIssues manifest

end Validation

section Collisions

def owners (manager : PackManager) (packIds : List String) :
    Dict (ContributionCategory × String) (List String) :=
  packIds.foldl (fun owners packId =>
    ((manager.manifests.get? packId).elim [] contributionIdentifiers).foldl
      (fun owners identity => owners.set identity ((owners.get? identity).getD [] ++ [packId])) owners) ∅

def identityLe (left right : ContributionCategory × String) : Prop :=
  left.1.text < right.1.text ∨ left.1.text = right.1.text ∧ left.2 ≤ right.2

instance : DecidableRel identityLe := fun left right =>
  inferInstanceAs (Decidable (left.1.text < right.1.text ∨ left.1.text = right.1.text ∧ left.2 ≤ right.2))

def collisionIssue (identity : ContributionCategory × String) (packOwners : List String) (packId : String) :
    PackValidationIssue :=
  let others := sortedSet (packOwners.filter (· ≠ packId))
  { code := "cross_pack_contribution_collision", severity := .error,
    message :=
      s!"{identity.1.text} contribution {python.repr (.str identity.2)} is also provided by {python.repr (Json.strings others)}",
    packId := some packId, contributionId := some identity.2,
    details := [("category", .str identity.1.text), ("owners", Json.strings packOwners)] }

def crossPackContributionIssues (manager : PackManager) (packIds : List String) : List PackValidationIssue :=
  let sorted := (manager.owners (packIds.insertionSort (· ≤ ·))).entries.insertionSort
    fun left right => identityLe left.1 right.1
  sorted.flatMap fun entry =>
    if entry.2.length < 2 then [] else entry.2.map (collisionIssue python entry.1 entry.2)

end Collisions

/-- What a resolution is given to judge signatures by, with nothing for what it is not given. -/
structure TrustMaterial where
  policy : Option PackTrustPolicy := none
  signatures : Dict String PackSignature := ∅
  trustedSecrets : Dict String String := ∅
  trustedPublicKeys : Dict String String := ∅

/-- The identifiers drawn and the times read in one resolution. -/
structure Fresh where
  resolutionId : String
  createdAtIso : String
  verificationId : String → String
  verifiedAtIso : String → String

section Order

/-- `list(requested_pack_ids or sorted(self._manifests))` -/
def requested (manager : PackManager) : Option (List String) → List String
  | some (packId :: rest) => packId :: rest
  | _ => manager.packIds

/-- The dependencies that `include` goes on to. -/
def installedDependencies (manager : PackManager) (packId : String) : List String :=
  ((manager.dependencies packId).map PackDependency.packId).filter manager.installed

def closure (manager : PackManager) (requested : List String) : List String :=
  visitAll manager.installedDependencies (manager.manifests.size + 1) requested

def dependencySets (manager : PackManager) (closure : List String) : Dict String (List String) :=
  Dict.ofList (closure.map fun packId =>
    (packId, ((manager.dependencies packId).map PackDependency.packId).filter (· ∈ closure)))

def priority (manager : PackManager) (packId : String) : Int :=
  (manager.manifests.get? packId).elim 0 KnowledgePackManifest.priority

/-- Comparison of `(self.get(key).priority, key)`. -/
def packLe (manager : PackManager) (left right : String) : Prop :=
  manager.priority left < manager.priority right ∨
    manager.priority left = manager.priority right ∧ left ≤ right

instance (manager : PackManager) : DecidableRel manager.packLe := fun left right =>
  inferInstanceAs (Decidable (manager.priority left < manager.priority right ∨
    manager.priority left = manager.priority right ∧ left ≤ right))

end Order

section Trust

def verifyPack (manager : PackManager) (trust : TrustMaterial) (fresh : Fresh) (policy : PackTrustPolicy)
    (packId : String) : Except PyError PackVerificationResult := do
  let manifest ← manager.get python packId
  PackSigner.verify python crypto manifest (trust.signatures.get? packId) policy trust.trustedSecrets
    trust.trustedPublicKeys (fresh.verificationId packId) (fresh.verifiedAtIso packId)

/-- Nothing is verified without a policy. -/
def trustResults (manager : PackManager) (trust : TrustMaterial) (fresh : Fresh) (closure : List String) :
    Except PyError (Dict String PackVerificationResult) :=
  match trust.policy with
  | none => .ok ∅
  | some policy => do
    let results ← closure.mapM fun packId => do
      let result ← manager.verifyPack python crypto trust fresh policy packId
      return (packId, result)
    return Dict.ofList results

def untrustedIssue (packId : String) (result : PackVerificationResult) : PackValidationIssue :=
  { code := "pack_untrusted", severity := .error,
    message :=
      s!"pack trust verification returned {result.outcome.text}: {python.repr (Json.strings result.reasons)}",
    packId := some packId,
    details := match result.dump with
      | .dict entries => entries
      | _ => [] }

def trustIssues (results : Dict String PackVerificationResult) : List PackValidationIssue :=
  (results.entries.filter fun entry => entry.2.outcome ≠ .trusted).map fun entry =>
    untrustedIssue python entry.1 entry.2

end Trust

section Activation

structure Activation where
  active : List String := []
  blocked : List String := []
  issues : List PackValidationIssue := []

/-- What stands against a pack besides its dependencies; `known` are the issues found before. -/
def issuesOf (manager : PackManager) (closure : List String) (known : List PackValidationIssue)
    (packId : String) : Except PyError (List PackValidationIssue) := do
  let validated ← manager.validate python packId (some closure)
  return validated ++ known.filter fun issue => issue.packId = some packId

def dependencyBlocked (manager : PackManager) (blocked : List String) (packId : String) : Bool :=
  (manager.dependencies packId).any fun dependency => dependency.packId ∈ blocked && !dependency.isOptional

def activate (manager : PackManager) (closure : List String) (known : List PackValidationIssue)
    (activation : Activation) (packId : String) : Except PyError Activation := do
  let found ← manager.issuesOf python closure known packId
  let current := found ++
    if manager.dependencyBlocked activation.blocked packId then
      [errorIssue "dependency_blocked" "one or more required dependencies are blocked" (some packId)] else []
  let issues := activation.issues ++ current
  return if current.any fun issue => issue.severity = .error then
    { activation with blocked := activation.blocked ++ [packId], issues }
  else { activation with active := activation.active ++ [packId], issues }

end Activation

section Resolution

def status (manager : PackManager) (ordered active : List String) (issues : List PackValidationIssue)
    (results : Dict String PackVerificationResult) (packId : String) : Except PyError PackStatus := do
  let manifest ← manager.get python packId
  let source ← manager.source python packId
  return {
    packId, version := manifest.version,
    state := if packId ∈ active then .active else .blocked, source, enabled := true,
    resolvedDependencies := (manifest.dependencies.map PackDependency.packId).filter (· ∈ ordered),
    contributionCounts := manifest.contributions.counts,
    issues := issues.filter fun issue => issue.packId = none ∨ issue.packId = some packId,
    manifestHash := manifest.contentHash python,
    trustOutcome := (results.get? packId).map PackVerificationResult.outcome,
    signatureId := (results.get? packId).bind PackVerificationResult.signatureId }

def contributionCounts (manifests : List KnowledgePackManifest) : List (String × Nat) :=
  let counter : Dict String Nat := (manifests.flatMap fun manifest => manifest.contributions.counts).foldl
    (fun counter count => counter.set count.1 ((counter.get? count.1).getD 0 + count.2)) ∅
  counter.entries.insertionSort fun left right => left.1 ≤ right.1

/-- `_resolution` -/
def resolution (manager : PackManager) (requested ordered active blocked : List String)
    (issues : List PackValidationIssue) (results : Dict String PackVerificationResult) (fresh : Fresh) :
    Except PyError PackResolution := do
  let statuses ← ordered.mapM (manager.status python ordered active issues results)
  let manifests ← active.mapM (manager.get python)
  return {
    resolutionId := fresh.resolutionId, createdAtIso := fresh.createdAtIso,
    requestedPackIds := requested, orderedPackIds := ordered, activePackIds := active,
    blockedPackIds := blocked, statuses, issues,
    contributionCounts := contributionCounts manifests }

/-- The part of `resolve` after the packs of the closure were ordered. -/
def resolveOrdered (manager : PackManager) (requested closure ordered : List String) (trust : TrustMaterial)
    (fresh : Fresh) : Except PyError PackResolution := do
  let results ← manager.trustResults python crypto trust fresh closure
  let known := trustIssues python results ++ manager.crossPackContributionIssues python closure
  let activation ← ordered.foldlM (manager.activate python closure known) {}
  manager.resolution python requested ordered activation.active activation.blocked activation.issues
    results fresh

def resolve (manager : PackManager) (requestedPackIds : Option (List String)) (trust : TrustMaterial)
    (fresh : Fresh) : Except PyError PackResolution :=
  let requested := manager.requested requestedPackIds
  let unknown := sortedSet (requested.filter fun packId => ¬ manager.installed packId)
  if unknown ≠ [] then
    .error (.keyError s!"unknown requested packs: {python.repr (Json.strings unknown)}")
  else
    let closure := manager.closure requested
    let layering := layers manager.packLe (manager.dependencySets closure)
    if layering.remaining.keys ≠ [] then
      let cycle := layering.remaining.keys.insertionSort (· ≤ ·)
      let issue := errorIssue "dependency_cycle"
        s!"pack dependency cycle: {python.repr (Json.strings cycle)}" none
      manager.resolution python requested layering.ordered [] cycle [issue] ∅ fresh
    else manager.resolveOrdered python crypto requested closure layering.ordered trust fresh

end Resolution

end PackManager

end KubeOps.Packs
