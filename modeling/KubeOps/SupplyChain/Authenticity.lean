import KubeOps.Foundation.Program
import KubeOps.SupplyChain.Signing
import Mathlib.Data.Fintype.EquivFin

/-! What a trusted signature shows, when signatures can only be made by the
holders of the keys. -/
namespace KubeOps.SupplyChain

open KubeOps.Foundation KubeOps.Models

/-- One call of `PackSigner.sign` by the holder of a key. -/
structure Signing where
  manifest : KnowledgePackManifest
  keyId : String
  secret : String
  signer : String
  scheme : String
  signatureId : String
  signedAtIso : String

structure Verifier where
  manifest : KnowledgePackManifest
  policy : PackTrustPolicy
  trustedSecrets : Dict String String
  trustedPublicKeys : Dict String String

variable (python : Python) (crypto : Cryptography)

def Signing.result (call : Signing) : Except PyError PackSignature :=
  PackSigner.sign python crypto call.manifest call.keyId call.secret call.signer call.scheme call.signatureId
    call.signedAtIso

def Signing.Made (call : Signing) (signature : PackSignature) : Prop :=
  call.result python crypto = .ok signature

namespace Verifier

/-- The cryptographic check, which looks at the scheme, the key and the text of a signature. -/
def Accepts (verifier : Verifier) (signature : PackSignature) : Prop :=
  PackSigner.checkSignature python crypto verifier.manifest signature verifier.trustedSecrets
    verifier.trustedPublicKeys = .ok []

def Trusts (verifier : Verifier) (signature : PackSignature) : Prop :=
  ∃ verificationId verifiedAtIso result, PackSigner.verify python crypto verifier.manifest (some signature)
    verifier.policy verifier.trustedSecrets verifier.trustedPublicKeys verificationId verifiedAtIso =
      .ok result ∧ result.outcome = .trusted

/-- The ideal scheme: a text is accepted under a key only if a holder made it under that key, for
the content it is accepted for. -/
def Unforged (verifier : Verifier) (history : List Signing) (signature : PackSignature) : Prop :=
  verifier.Accepts python crypto signature → ∃ call ∈ history, ∃ genuine, call.Made python crypto genuine ∧
    genuine.scheme = signature.scheme ∧ genuine.keyId = signature.keyId ∧
    genuine.signature = signature.signature ∧
    call.manifest.contentHash python = verifier.manifest.contentHash python

/-- Another signature than the genuine one, with the signer, the pack id, the version or the
manifest changed. -/
def Altered (genuine signature : PackSignature) : Prop :=
  signature ≠ genuine ∧ signature = { genuine with
    signer := signature.signer, packId := signature.packId, packVersion := signature.packVersion,
    manifestHash := signature.manifestHash }

/-- Every trusted signature was made for this manifest, under its key and in its signer's name. -/
def Signed (verifier : Verifier) (history : List Signing) : Prop :=
  ∀ signature, verifier.Unforged python crypto history signature → verifier.Trusts python crypto signature →
    ∃ call ∈ history, call.keyId = signature.keyId ∧
      call.manifest.contentHash python = verifier.manifest.contentHash python ∧ call.signer = signature.signer

/-- No alteration of a genuine signature is trusted. -/
def Unaltered (verifier : Verifier) (history : List Signing) : Prop :=
  ∀ call ∈ history, ∀ genuine, call.Made python crypto genuine →
    ∀ signature, verifier.Unforged python crypto history signature → Altered genuine signature →
    ¬ verifier.Trusts python crypto signature

/-- A signature of this manifest, by a scheme and a key the policy allows, that passes the check. -/
structure Usable (verifier : Verifier) (signature : PackSignature) : Prop where
  scheme : signature.scheme.text ∈ verifier.policy.allowedSchemes
  asymmetric : verifier.policy.requireAsymmetric = true → signature.scheme = .ed25519
  key : verifier.policy.trustedKeyIds ≠ [] → signature.keyId ∈ verifier.policy.trustedKeyIds
  content : signature.manifestHash = verifier.manifest.contentHash python
  accepted : verifier.Accepts python crypto signature

variable {python : Python} {crypto : Cryptography} {verifier : Verifier} {history : List Signing}
  {signature genuine : PackSignature} {call : Signing}

theorem trusts_iff : verifier.Trusts python crypto signature ↔
    PackSigner.objections python verifier.manifest signature verifier.policy = [] ∧
      verifier.Accepts python crypto signature := by
  constructor
  · rintro ⟨verificationId, verifiedAtIso, result, hverify, houtcome⟩
    obtain ⟨reasons, hreasons, hresult⟩ := except_bind_eq_ok hverify
    have hnone : reasons = [] := by
      by_contra hsome
      rw [← Except.ok.inj hresult] at houtcome
      simp [hsome] at houtcome
    rw [hnone] at hreasons
    unfold PackSigner.verificationReasons at hreasons
    split at hreasons
    · rename_i hobjections
      exact ⟨hobjections, hreasons⟩
    · rename_i hobjections
      exact absurd (Except.ok.inj hreasons) hobjections
  · rintro ⟨hobjections, haccepted⟩
    have hreasons : PackSigner.verificationReasons python crypto verifier.manifest signature verifier.policy
        verifier.trustedSecrets verifier.trustedPublicKeys = .ok [] := by
      unfold PackSigner.verificationReasons
      rw [hobjections]
      exact haccepted
    unfold Trusts PackSigner.verify
    dsimp only
    rw [hreasons]
    exact ⟨"", "", _, rfl, rfl⟩

theorem objections_eq_nil_iff :
    PackSigner.objections python verifier.manifest signature verifier.policy = [] ↔
      signature.scheme.text ∈ verifier.policy.allowedSchemes ∧
      (verifier.policy.requireAsymmetric = true → signature.scheme = .ed25519) ∧
      (verifier.policy.trustedKeyIds ≠ [] → signature.keyId ∈ verifier.policy.trustedKeyIds) ∧
      (verifier.policy.trustedSigners ≠ [] → signature.signer ∈ verifier.policy.trustedSigners) ∧
      signature.manifestHash = verifier.manifest.contentHash python := by
  simp [PackSigner.objections]

theorem trusts_iff_usable : verifier.Trusts python crypto signature ↔
    verifier.Usable python crypto signature ∧
      (verifier.policy.trustedSigners ≠ [] → signature.signer ∈ verifier.policy.trustedSigners) := by
  rw [trusts_iff, objections_eq_nil_iff]
  constructor
  · rintro ⟨⟨hscheme, hasymmetric, hkey, hsigner, hcontent⟩, haccepted⟩
    exact ⟨⟨hscheme, hasymmetric, hkey, hcontent, haccepted⟩, hsigner⟩
  · rintro ⟨h, hsigner⟩
    exact ⟨⟨h.scheme, h.asymmetric, h.key, hsigner, h.content⟩, h.accepted⟩

theorem accepts_congr (hscheme : genuine.scheme = signature.scheme) (hkey : genuine.keyId = signature.keyId)
    (htext : genuine.signature = signature.signature) :
    verifier.Accepts python crypto genuine ↔ verifier.Accepts python crypto signature := by
  unfold Accepts PackSigner.checkSignature
  rw [hscheme, hkey, htext]

theorem fields_of_made (h : call.Made python crypto genuine) :
    genuine.keyId = call.keyId ∧ genuine.manifestHash = call.manifest.contentHash python ∧
      genuine.signer = call.signer := by
  unfold Signing.Made Signing.result PackSigner.sign at h
  dsimp only at h
  split at h
  · rw [← Except.ok.inj h]
    exact ⟨rfl, rfl, rfl⟩
  · split at h
    · obtain ⟨key, -, h⟩ := except_bind_eq_ok h
      cases key with
      | none => cases h
      | some key =>
        rw [← Except.ok.inj h]
        exact ⟨rfl, rfl, rfl⟩
    · cases h

theorem exists_altered (h : verifier.Usable python crypto genuine) :
    ∃ signature, Altered genuine signature ∧ verifier.Trusts python crypto signature ∧
      genuine.scheme = signature.scheme ∧ genuine.keyId = signature.keyId ∧
      genuine.signature = signature.signature := by
  have haltered : ∀ signer, Altered genuine { genuine with packId := genuine.packId.push 'x', signer } := by
    intro signer
    refine ⟨fun hsame => ?_, rfl⟩
    have hlength := congrArg (fun signature => signature.packId.length) hsame
    simp at hlength
  have husable : ∀ signer, verifier.Usable python crypto
      { genuine with packId := genuine.packId.push 'x', signer } :=
    fun signer => ⟨h.scheme, h.asymmetric, h.key, h.content, h.accepted⟩
  cases hsigners : verifier.policy.trustedSigners with
  | nil =>
    refine ⟨_, haltered genuine.signer, trusts_iff_usable.mpr ⟨husable _, ?_⟩, rfl, rfl, rfl⟩
    exact fun hsome => absurd hsigners hsome
  | cons signer signers =>
    refine ⟨_, haltered signer, trusts_iff_usable.mpr ⟨husable _, fun _ => ?_⟩, rfl, rfl, rfl⟩
    rw [hsigners]
    exact List.mem_cons_self ..

theorem usable_of_trusts (hunforged : verifier.Unforged python crypto history signature)
    (htrusted : verifier.Trusts python crypto signature) :
    ∃ call ∈ history, ∃ genuine, call.Made python crypto genuine ∧ verifier.Usable python crypto genuine ∧
      genuine.keyId = signature.keyId := by
  obtain ⟨husable, -⟩ := trusts_iff_usable.mp htrusted
  obtain ⟨call, hcall, genuine, hmade, hscheme, hkey, htext, hcontent⟩ := hunforged husable.accepted
  refine ⟨call, hcall, genuine, hmade, ⟨?_, ?_, ?_, ?_, ?_⟩, hkey⟩
  · rw [hscheme]
    exact husable.scheme
  · rw [hscheme]
    exact husable.asymmetric
  · rw [hkey]
    exact husable.key
  · rw [(fields_of_made hmade).2.1, hcontent]
  · exact (accepts_congr hscheme hkey htext).mpr husable.accepted

theorem unforged_of_made (hcall : call ∈ history) (hmade : call.Made python crypto genuine)
    (husable : verifier.Usable python crypto genuine) (hscheme : genuine.scheme = signature.scheme)
    (hkey : genuine.keyId = signature.keyId) (htext : genuine.signature = signature.signature) :
    verifier.Unforged python crypto history signature := by
  intro _
  have hcontent := (fields_of_made hmade).2.1.symm.trans husable.content
  exact ⟨call, hcall, genuine, hmade, hscheme, hkey, htext, hcontent⟩

/-- A trusted signature is one its signer made exactly if, once a key signs what the policy accepts, the policy
lists signers and each of them has signed this manifest with the key. -/
theorem signed_iff (python : Python) (crypto : Cryptography) (verifier : Verifier) (history : List Signing) :
    verifier.Signed python crypto history ↔
      ∀ call ∈ history, ∀ genuine, call.Made python crypto genuine → verifier.Usable python crypto genuine →
        verifier.policy.trustedSigners ≠ [] ∧ ∀ signer ∈ verifier.policy.trustedSigners, ∃ other ∈ history,
          other.keyId = genuine.keyId ∧
          other.manifest.contentHash python = verifier.manifest.contentHash python ∧ other.signer = signer := by
  constructor
  · intro h call hcall genuine hmade husable
    have hnamed : ∀ signer, (verifier.policy.trustedSigners ≠ [] → signer ∈ verifier.policy.trustedSigners) →
        ∃ other ∈ history, other.keyId = genuine.keyId ∧
          other.manifest.contentHash python = verifier.manifest.contentHash python ∧ other.signer = signer := by
      intro signer hsigner
      exact h { genuine with signer } (unforged_of_made hcall hmade husable rfl rfl rfl)
        (trusts_iff_usable.mpr ⟨⟨husable.scheme, husable.asymmetric, husable.key, husable.content,
          husable.accepted⟩, hsigner⟩)
    refine ⟨fun hnone => ?_, fun signer hsigner => hnamed signer fun _ => hsigner⟩
    obtain ⟨stranger, hstranger⟩ := Infinite.exists_notMem_finset (history.map Signing.signer).toFinset
    obtain ⟨other, hother, -, -, hsigner⟩ := hnamed stranger fun hsome => absurd hnone hsome
    exact hstranger (List.mem_toFinset.mpr (List.mem_map.mpr ⟨other, hother, hsigner⟩))
  · intro h signature hunforged htrusted
    obtain ⟨call, hcall, genuine, hmade, husable, hkey⟩ := usable_of_trusts hunforged htrusted
    obtain ⟨hsome, hall⟩ := h call hcall genuine hmade husable
    obtain ⟨other, hother, hsame, hcontent, hsigner⟩ :=
      hall signature.signer ((trusts_iff_usable.mp htrusted).2 hsome)
    exact ⟨other, hother, hsame.trans hkey, hcontent, hsigner⟩

/-- The check of a signature protects the fields that a policy relies on only as long as there is
nothing to alter: no signature of the manifest under a scheme and a key that the policy allows. -/
theorem authenticates_iff (python : Python) (crypto : Cryptography) (verifier : Verifier)
    (history : List Signing) :
    verifier.Signed python crypto history ∧ verifier.Unaltered python crypto history ↔
      ∀ call ∈ history, ∀ genuine, call.Made python crypto genuine →
        ¬ verifier.Usable python crypto genuine := by
  constructor
  · rintro ⟨-, h⟩ call hcall genuine hmade husable
    obtain ⟨signature, haltered, htrusted, hscheme, hkey, htext⟩ := exists_altered husable
    exact h call hcall genuine hmade signature (unforged_of_made hcall hmade husable hscheme hkey htext)
      haltered htrusted
  · intro h
    have hnone : ∀ signature, verifier.Unforged python crypto history signature →
        ¬ verifier.Trusts python crypto signature := by
      intro signature hunforged htrusted
      obtain ⟨call, hcall, genuine, hmade, husable, -⟩ := usable_of_trusts hunforged htrusted
      exact h call hcall genuine hmade husable
    refine ⟨fun signature hunforged htrusted => absurd htrusted (hnone signature hunforged), ?_⟩
    exact fun call hcall genuine hmade signature hunforged _ => hnone signature hunforged

end Verifier

/-! A manifest signed by an intern, under a policy that trusts the release robot only. -/
namespace RenamedSigner

open Verifier

def signedPack : KnowledgePackManifest where
  packId := "signed"
  version := "1.0.0"
  dependencies := []
  canonicalJson := "\x7b\x7d"
  notSelfDependent := List.not_mem_nil
  dependencies_nodup := List.nodup_nil
  notSelfConflicting := List.not_mem_nil

def strict : Verifier where
  manifest := signedPack
  policy := {
    policyId := "strict", organizationId := "o1", workspaceId := "w1",
    trustedKeyIds := ["key1"], trustedSigners := ["release-bot"] }
  trustedSecrets := Dict.ofList [("key1", "secret")]
  trustedPublicKeys := ∅

def byIntern : Signing where
  manifest := signedPack
  keyId := "key1"
  secret := "secret"
  signer := "intern"
  scheme := "hmac-sha256"
  signatureId := "pack-signature:1"
  signedAtIso := "2026-07-23T00:00:00+00:00"

def renamed : PackSignature where
  signatureId := "pack-signature:1"
  packId := "signed"
  packVersion := "1.0.0"
  manifestHash := "\x7b\x7d"
  keyId := "key1"
  signature := "secret:\x7b\x7d"
  signedAtIso := "2026-07-23T00:00:00+00:00"
  signer := "release-bot"

def genuine : PackSignature := { renamed with signer := "intern" }

theorem usable {signature : PackSignature} (hscheme : signature.scheme = .hmacSha256)
    (hkey : signature.keyId = "key1") (hhash : signature.manifestHash = "\x7b\x7d")
    (htext : signature.signature = "secret:\x7b\x7d") :
    strict.Usable Python.plain Cryptography.transparent signature where
  scheme := by
    rw [hscheme]
    decide
  asymmetric := fun h => absurd h (by decide)
  key := by
    rw [hkey]
    decide
  content := hhash
  accepted := by
    rw [accepts_congr (show _ = genuine.scheme from hscheme) hkey htext]
    unfold Accepts
    decide

theorem renamed_trusted :
    strict.Trusts Python.plain Cryptography.transparent renamed ∧
      ¬ (strict.Signed Python.plain Cryptography.transparent [byIntern] ∧
        strict.Unaltered Python.plain Cryptography.transparent [byIntern]) := by
  have hmade : byIntern.Made Python.plain Cryptography.transparent genuine := by
    unfold Signing.Made
    decide
  have htrusted : strict.Trusts Python.plain Cryptography.transparent renamed :=
    trusts_iff_usable.mpr ⟨usable rfl rfl rfl rfl, by decide⟩
  refine ⟨htrusted, fun h => ?_⟩
  have hunforged : strict.Unforged Python.plain Cryptography.transparent [byIntern] renamed :=
    unforged_of_made (List.mem_singleton_self _) hmade (usable rfl rfl rfl rfl) rfl rfl rfl
  obtain ⟨call, hcall, -, -, hsigner⟩ := h.1 renamed hunforged htrusted
  rw [List.mem_singleton.mp hcall] at hsigner
  exact absurd hsigner (by decide)

end RenamedSigner

end KubeOps.SupplyChain
