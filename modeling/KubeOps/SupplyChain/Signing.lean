import KubeOps.Models.Pack

/-! Signing of pack manifests, and the verification of a signature under a trust
policy. -/
namespace KubeOps.SupplyChain

open KubeOps.Foundation KubeOps.Models

/-- `InvalidSignature`, `ValueError`, `TypeError` and their subclasses, by name, and the
exceptions that `PackSigner.verify` does not catch. -/
inductive KeyFailure where
  | caught (className : String)
  | other (error : PyError)

/-- `hmac` and `cryptography`. A key file is `none` where it holds a key of another kind than
Ed25519. Signatures are base64 texts, and `verify` decodes them. -/
structure Cryptography where
  PrivateKey : Type
  PublicKey : Type
  hmacSha256 : String → String → String
  loadPrivateKey : String → Except PyError (Option PrivateKey)
  sign : PrivateKey → String → String
  loadPublicKey : String → Except KeyFailure (Option PublicKey)
  verify : PublicKey → String → String → Except KeyFailure Unit

/-- Signatures that show the key and the text they were made with. -/
def Cryptography.transparent : Cryptography where
  PrivateKey := String
  PublicKey := String
  hmacSha256 secret payload := secret ++ ":" ++ payload
  loadPrivateKey pem := .ok (some pem)
  sign key payload := key ++ "/" ++ payload
  loadPublicKey pem := .ok (some pem)
  verify key signature payload :=
    if signature = key ++ "/" ++ payload then .ok () else .error (.caught "InvalidSignature")

namespace PackSigner

variable (python : Python) (crypto : Cryptography)

/-- The identifier and the time are those of the call. -/
def sign (manifest : KnowledgePackManifest) (keyId secret signer scheme signatureId signedAtIso : String) :
    Except PyError PackSignature := do
  let payload := manifest.contentHash python
  let signed (scheme : SignatureScheme) (signature : String) : PackSignature :=
    { signatureId, packId := manifest.packId, packVersion := manifest.version,
      manifestHash := payload, scheme, keyId, signature, signedAtIso, signer }
  if scheme = "hmac-sha256" then
    return signed .hmacSha256 (crypto.hmacSha256 secret payload)
  else if scheme = "ed25519" then
    match ← crypto.loadPrivateKey secret with
    | none => throw (.valueError "Ed25519 signing requires an Ed25519 PEM private key")
    | some key => return signed .ed25519 (crypto.sign key payload)
  else throw (.valueError s!"unsupported pack signature scheme {python.repr (.str scheme)}")

/-- What the policy and the manifest have against a signature before its text is looked at. -/
def objections (manifest : KnowledgePackManifest) (signature : PackSignature) (policy : PackTrustPolicy) :
    List String :=
  (if signature.scheme.text ∉ policy.allowedSchemes then
    [s!"signature scheme {signature.scheme.text} is not allowed"] else []) ++
  (if policy.requireAsymmetric ∧ signature.scheme ≠ .ed25519 then
    ["policy requires an asymmetric signature scheme"] else []) ++
  (if policy.trustedKeyIds ≠ [] ∧ signature.keyId ∉ policy.trustedKeyIds then
    [s!"key {signature.keyId} is not trusted"] else []) ++
  (if policy.trustedSigners ≠ [] ∧ signature.signer ∉ policy.trustedSigners then
    [s!"signer {signature.signer} is not trusted"] else []) ++
  if signature.manifestHash ≠ manifest.contentHash python then
    ["signature manifest hash does not match current manifest"] else []

/-- `hmac.compare_digest`, which takes texts of ASCII characters only. -/
def compareDigest (given expected : String) : Except PyError Bool :=
  if given.toList.all fun c => c.toNat < 128 then .ok (given = expected)
  else .error (.typeError "comparing strings with non-ASCII characters is not supported")

def checkEd25519 (material signature payload : String) : Except KeyFailure Unit := do
  match ← crypto.loadPublicKey material with
  | none => throw (.caught "ValueError")
  | some key => crypto.verify key signature payload

/-- The check of the signature's text, with the reasons against it. -/
def checkSignature (manifest : KnowledgePackManifest) (signature : PackSignature)
    (trustedSecrets trustedPublicKeys : Dict String String) : Except PyError (List String) :=
  match signature.scheme with
  | .hmacSha256 =>
    match trustedSecrets.get? signature.keyId with
    | none => .ok ["trusted HMAC verification material is unavailable"]
    | some secret => do
      let valid ← compareDigest signature.signature
        (crypto.hmacSha256 secret (manifest.contentHash python))
      return if valid then [] else ["signature is invalid"]
  | .ed25519 =>
    match trustedPublicKeys.get? signature.keyId with
    | none => .ok ["trusted Ed25519 public key is unavailable"]
    | some material =>
      match checkEd25519 crypto material signature.signature (manifest.contentHash python) with
      | .ok () => .ok []
      | .error (.caught className) => .ok [s!"signature is invalid: {className}"]
      | .error (.other error) => .error error

/-- The text of a signature is checked only when nothing else stands against it. -/
def verificationReasons (manifest : KnowledgePackManifest) (signature : PackSignature)
    (policy : PackTrustPolicy)
    (trustedSecrets trustedPublicKeys : Dict String String) : Except PyError (List String) :=
  match objections python manifest signature policy with
  | [] => checkSignature python crypto manifest signature trustedSecrets trustedPublicKeys
  | reasons => .ok reasons

/-- `PackSigner.verify`, with the identifier and the time of the call. -/
def verify (manifest : KnowledgePackManifest) (signature : Option PackSignature) (policy : PackTrustPolicy)
    (trustedSecrets trustedPublicKeys : Dict String String) (verificationId verifiedAtIso : String) :
    Except PyError PackVerificationResult :=
  let result (outcome : TrustOutcome) (reasons : List String) : PackVerificationResult :=
    { verificationId, packId := manifest.packId, packVersion := manifest.version,
      manifestHash := manifest.contentHash python, outcome, reasons, verifiedAtIso }
  match signature with
  | none =>
    if manifest.packId ∈ policy.allowUnsignedPackIds ∨ ¬ policy.requireSignature then
      .ok (result .trusted [])
    else .ok (result .unsigned ["pack signature is required by policy"])
  | some signature => do
    let reasons ← verificationReasons python crypto manifest signature policy trustedSecrets trustedPublicKeys
    let outcome : TrustOutcome := if reasons = [] then .trusted else .invalid
    return { result outcome reasons with
      signatureId := some signature.signatureId, keyId := some signature.keyId,
      scheme := some signature.scheme }

end PackSigner

end KubeOps.SupplyChain
