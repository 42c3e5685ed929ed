import KubeOps.Models.Python

/-! Knowledge packs: their signatures and the policies that say which of them to trust, what a manifest
declares, and what a resolution of packs reports about them. -/
namespace KubeOps.Models

section Security

inductive SignatureScheme where
  | hmacSha256 | ed25519
deriving DecidableEq, Repr

def SignatureScheme.text : SignatureScheme → String
  | .hmacSha256 => "hmac-sha256"
  | .ed25519 => "ed25519"

structure PackSignature where
  signatureId : String
  packId : String
  packVersion : String
  manifestHash : String
  scheme : SignatureScheme := .hmacSha256
  keyId : String
  signature : String
  signedAtIso : String
  signer : String
deriving DecidableEq

/-- Sets are kept as lists. An empty set of trusted keys or signers trusts them all. -/
structure PackTrustPolicy where
  policyId : String
  organizationId : String
  workspaceId : String
  requireSignature : Bool := true
  allowedSchemes : List String := ["hmac-sha256", "ed25519"]
  requireAsymmetric : Bool := false
  trustedKeyIds : List String := []
  trustedSigners : List String := []
  allowUnsignedPackIds : List String := []
deriving DecidableEq

inductive TrustOutcome where
  | trusted | untrusted | unsigned | invalid
deriving DecidableEq, Repr

def TrustOutcome.text : TrustOutcome → String
  | .trusted => "trusted"
  | .untrusted => "untrusted"
  | .unsigned => "unsigned"
  | .invalid => "invalid"

structure PackVerificationResult where
  verificationId : String
  packId : String
  packVersion : String
  manifestHash : String
  outcome : TrustOutcome
  signatureId : Option String := none
  keyId : Option String := none
  reasons : List String := []
  verifiedAtIso : String
  /-- The one entry of `metadata`. -/
  scheme : Option SignatureScheme := none
deriving DecidableEq

/-- `result.model_dump(mode="json")` -/
def PackVerificationResult.dump (result : PackVerificationResult) : Json :=
  let text (value : Option String) : Json := (value.map Json.str).getD .null
  .dict [("schema_version", .str "kubeops.io/v1"),
    ("verification_id", .str result.verificationId),
    ("pack_id", .str result.packId),
    ("pack_version", .str result.packVersion),
    ("manifest_hash", .str result.manifestHash),
    ("outcome", .str result.outcome.text),
    ("signature_id", text result.signatureId),
    ("key_id", text result.keyId),
    ("reasons", Json.strings result.reasons),
    ("verified_at_iso", .str result.verifiedAtIso),
    ("metadata", .dict (match result.scheme with
      | some scheme => [("scheme", .str scheme.text)]
      | none => []))]

end Security

section Packs

structure PackDependency where
  packId : String
  versionConstraint : String := ">=0.0.0"
  isOptional : Bool := false
deriving DecidableEq

structure PackCompatibility where
  kubeopsConstraint : String := ">=0.5.0,<2.0.0"
  kubernetesConstraint : Option String := none
deriving DecidableEq

inductive ContributionCategory where
  | entityClassifier | relationshipResolver | operationalProfile | evidenceIntent | collector
  | causalTemplate | actionType | lifecycleProfile | verificationTemplate | redactionRule
deriving DecidableEq, Repr

def ContributionCategory.text : ContributionCategory → String
  | .entityClassifier => "entity_classifier"
  | .relationshipResolver => "relationship_resolver"
  | .operationalProfile => "operational_profile"
  | .evidenceIntent => "evidence_intent"
  | .collector => "collector"
  | .causalTemplate => "causal_template"
  | .actionType => "action_type"
  | .lifecycleProfile => "lifecycle_profile"
  | .verificationTemplate => "verification_template"
  | .redactionRule => "redaction_rule"

/-- Every contribution by its identifier, and scenario coverage, which has none. -/
structure PackContributions where
  entityClassifiers : List String := []
  relationshipResolvers : List String := []
  operationalProfiles : List String := []
  evidenceIntents : List String := []
  collectors : List String := []
  causalTemplates : List String := []
  actionTypes : List String := []
  lifecycleProfiles : List String := []
  verificationTemplates : List String := []
  redactionRules : List String := []
  scenarioCoverage : List Json := []

def PackContributions.counts (contributions : PackContributions) : List (String × Nat) :=
  [("entity_classifiers", contributions.entityClassifiers.length),
    ("relationship_resolvers", contributions.relationshipResolvers.length),
    ("operational_profiles", contributions.operationalProfiles.length),
    ("evidence_intents", contributions.evidenceIntents.length),
    ("collectors", contributions.collectors.length),
    ("causal_templates", contributions.causalTemplates.length),
    ("action_types", contributions.actionTypes.length),
    ("lifecycle_profiles", contributions.lifecycleProfiles.length),
    ("verification_templates", contributions.verificationTemplates.length),
    ("redaction_rules", contributions.redactionRules.length),
    ("scenario_coverage", contributions.scenarioCoverage.length)]

/-- The last fields are what `validate_dependencies` checks. `canonicalJson` is the text
of the whole document, and `conflictsWith` lists a set as it is iterated. -/
structure KnowledgePackManifest where
  packId : String
  version : String
  priority : Int := 0
  dependencies : List PackDependency := []
  conflictsWith : List String := []
  compatibility : PackCompatibility := {}
  contributions : PackContributions := {}
  canonicalJson : String
  notSelfDependent : packId ∉ dependencies.map PackDependency.packId
  dependencies_nodup : (dependencies.map PackDependency.packId).Nodup
  notSelfConflicting : packId ∉ conflictsWith

def KnowledgePackManifest.contentHash (python : Python) (manifest : KnowledgePackManifest) : String :=
  python.sha256 manifest.canonicalJson

inductive IssueSeverity where
  | info | warning | error
deriving DecidableEq, Repr

structure PackValidationIssue where
  code : String
  severity : IssueSeverity
  message : String
  packId : Option String := none
  contributionId : Option String := none
  details : List (String × Json) := []

inductive PackState where
  | discovered | resolved | active | incompatible | blocked | disabled
deriving DecidableEq, Repr

structure PackStatus where
  packId : String
  version : String
  state : PackState
  source : String
  enabled : Bool := true
  resolvedDependencies : List String := []
  contributionCounts : List (String × Nat) := []
  issues : List PackValidationIssue := []
  manifestHash : String
  trustOutcome : Option TrustOutcome := none
  signatureId : Option String := none

structure PackResolution where
  resolutionId : String
  createdAtIso : String
  requestedPackIds : List String
  orderedPackIds : List String
  activePackIds : List String
  blockedPackIds : List String
  statuses : List PackStatus
  issues : List PackValidationIssue := []
  contributionCounts : List (String × Nat) := []

end Packs

end KubeOps.Models
