import PemBundle.Credentials.Build
import PemBundle.Proofs.Bundle
import PemBundle.Proofs.Credentials.Saved
import PemBundle.Proofs.KeyEncoder
import PemBundle.Proofs.RuntimeCertificate

/-!
# Credentials whose texts hold one block each

Every operation that builds credentials writes texts that are scanned to exactly one block of the
kind that belongs there. An export of such credentials can fail only for what is absent and for what
the private key block is.
-/

namespace PemBundle

namespace Pem

/-- The text holds exactly one block, and this block has the property. -/
def HoldsOne (property : Block → Prop) (text : CodeText) : Prop :=
  ∃ octets block, text.utf8 = .ok octets ∧ (scan octets).blocks = [block] ∧ property block

/-- A certificate block whose bytes are a certificate. -/
def Block.IsCertificate (block : Block) : Prop :=
  block.label = certificateLabel ∧ X509.checkCertificate block.der = .ok ()

/-- A block with one of the private key labels. -/
def Block.IsPrivateKey (block : Block) : Prop := block.label ∈ privateKeyLabels

/-- A signing request block. -/
def Block.IsRequest (block : Block) : Prop := block.label = requestLabel

end Pem

namespace Credentials

open Pem

/-- Each text that is there holds exactly one block of the kind that belongs there. -/
structure Scannable (c : Credentials) : Prop where
  certificate : ∀ text ∈ c.certificate, HoldsOne Block.IsCertificate text
  privateKey : ∀ text ∈ c.privateKey, HoldsOne Block.IsPrivateKey text
  chain : ∀ text ∈ c.chain, HoldsOne Block.IsCertificate text
  csr : ∀ text ∈ c.csr, HoldsOne Block.IsRequest text

theorem holdsOne_certificate (certificate : X509.Certificate) :
    HoldsOne Block.IsCertificate certificate.toPem :=
  ⟨_, certificate.toBlock, rfl, by rw [certificate.scan_toPem], rfl, certificate.accepted⟩

theorem holdsOne_request (request : SigningRequest) : HoldsOne Block.IsRequest request.toPem :=
  ⟨_, request.toBlock, rfl, by rw [request.scan_toPem], rfl⟩

theorem holdsOne_of_encoder {protection : Protection} {key : Option PrivateKey}
    {password : Option Password} {format : Option CodeText} {text : CodeText}
    (h : (KeyEncoder.standard protection key password format).value = .success text) :
    HoldsOne Block.IsPrivateKey text := by
  obtain ⟨octets, block, htext, hscan, hlabel⟩ := KeyEncoder.scan_of_value_standard h
  exact ⟨octets, block, htext, by rw [hscan], hlabel⟩

/-! ### What the operations keep -/

theorem scannable_empty : empty.Scannable where
  certificate _ h := nomatch h
  privateKey _ h := nomatch h
  chain _ h := nomatch h
  csr _ h := nomatch h

theorem scannable_of_certificate (certificate : Option X509.Certificate) :
    Scannable { empty with certificate := certificate.map (·.toPem) } where
  certificate text h := by
    obtain ⟨certificate, -, rfl⟩ := Option.map_eq_some_iff.mp h
    exact holdsOne_certificate certificate
  privateKey _ h := nomatch h
  chain _ h := nomatch h
  csr _ h := nomatch h

variable {protection : Protection} {c next : Credentials}

theorem Scannable.withPrivateKey (h : c.Scannable) {text : CodeText}
    (htext : HoldsOne Block.IsPrivateKey text) :
    Scannable { c with privateKey := some text } where
  certificate := h.certificate
  privateKey _ hother := Option.some.inj hother ▸ htext
  chain := h.chain
  csr := h.csr

/-- A text that the encoder gave is stored with scannable credentials. -/
theorem Scannable.of_encoded (h : c.Scannable) {key : PrivateKey} {password : Option Password}
    {format : Option CodeText}
    (hnext : (encodeForStorage (KeyEncoder.standard protection) key password format).value.map
      (fun text => { c with privateKey := some text }) = .success next) : next.Scannable := by
  obtain ⟨text, htext, rfl⟩ := (Outcome.map_eq_success_iff _ _ _).mp hnext
  exact h.withPrivateKey (holdsOne_of_encoder htext)

theorem scannable_build {certificate : Option X509.Certificate} {key : Option PrivateKey}
    {password : Option Password} {format : Option CodeText}
    (h : (build (KeyEncoder.standard protection) certificate key password format).value =
      .success next) : next.Scannable := by
  have hstart := scannable_of_certificate certificate
  cases key with
  | none =>
      injection h with h
      exact h ▸ hstart
  | some key => exact hstart.of_encoded h

theorem Scannable.addPrivateKey (h : c.Scannable) {key : Option PrivateKey}
    {password : Option Password} {format : Option CodeText}
    (hnext : (c.addPrivateKey (KeyEncoder.standard protection) key password format).value =
      .success next) : next.Scannable := by
  unfold Credentials.addPrivateKey at hnext
  split at hnext
  · exact nomatch hnext
  · cases key with
    | none => exact nomatch hnext
    | some key =>
        rw [Logged.value_bind, Outcome.value_peekM] at hnext
        exact h.of_encoded hnext

theorem Scannable.addChainElement (h : c.Scannable) {certificate : Option X509.Certificate}
    (hnext : c.addChainElement certificate = .success next) : next.Scannable := by
  obtain ⟨certificate, -, rfl⟩ := (Outcome.map_eq_success_iff _ _ _).mp hnext
  refine ⟨h.certificate, h.privateKey, ?_, h.csr⟩
  intro text hmem
  rcases List.mem_append.mp hmem with hmem | hmem
  · exact h.chain text hmem
  · obtain rfl := List.mem_singleton.mp hmem
    exact holdsOne_certificate certificate

theorem Scannable.addCsr (h : c.Scannable) {request : Option SigningRequest}
    (hnext : c.addCsr request = .success next) : next.Scannable := by
  rw [Credentials.addCsr] at hnext
  split at hnext
  · exact nomatch hnext
  · obtain ⟨request, -, rfl⟩ := (Outcome.map_eq_success_iff _ _ _).mp hnext
    refine ⟨h.certificate, h.privateKey, h.chain, ?_⟩
    intro text htext
    exact Option.some.inj htext ▸ holdsOne_request request

/-- Whatever a bundle holds, the credentials parsed from it are scannable. -/
theorem scannable_parse {order : ChainOrder} {data : List UInt8}
    (h : (Bundle.parse order data).value = .success next) : next.Scannable := by
  rw [Bundle.value_parse] at h
  cases hrejection : Bundle.firstRejection? 0 (Pem.scan data).blocks with
  | some failure =>
      rw [hrejection] at h
      exact nomatch h
  | none =>
      rw [hrejection] at h
      injection h with h
      subst h
      constructor
      · intro text htext
        obtain ⟨certificate, -, rfl⟩ := Option.map_eq_some_iff.mp htext
        exact holdsOne_certificate certificate
      · intro text htext
        obtain ⟨key, hkey, rfl⟩ := Option.map_eq_some_iff.mp htext
        have hlast : (Bundle.lastKey? (Pem.scan data).blocks).or none = some key := hkey
        rw [Option.or_none] at hlast
        obtain ⟨hmem, hlabel⟩ := Bundle.lastKey?_mem hlast
        exact ⟨_, key, rfl, by rw [(wellFormed_of_mem_scan hmem).scan_toPem],
          List.contains_iff_mem.mp hlabel⟩
      · intro text htext
        obtain ⟨certificate, -, rfl⟩ := List.mem_map.mp htext
        exact holdsOne_certificate certificate
      · intro text htext
        exact nomatch htext

/-- Leaving out empty texts keeps what the other texts hold. -/
theorem Scannable.canonical (h : c.Scannable) : c.canonical.Scannable := by
  constructor
  · intro text htext
    exact h.certificate text (Option.filter_eq_some_iff.mp htext).1
  · intro text htext
    exact h.privateKey text (Option.filter_eq_some_iff.mp htext).1
  · exact h.chain
  · intro text htext
    exact h.csr text (Option.filter_eq_some_iff.mp htext).1

/-- The texts of scannable credentials have bytes, so no surrogates in them pair. -/
theorem Scannable.isJoined (h : c.Scannable) : c.IsJoined := by
  have hjoined {property : Block → Prop} {text : CodeText} (htext : HoldsOne property text) :
      text.IsJoined := by
    obtain ⟨octets, -, hutf8, -⟩ := htext
    exact CodeText.isJoined_of_utf8 hutf8
  exact (isJoined_iff c).mpr ⟨fun text htext => hjoined (h.certificate text htext),
    fun text htext => hjoined (h.privateKey text htext),
    fun text htext => hjoined (h.chain text htext), fun text htext => hjoined (h.csr text htext)⟩

/-! ### Exporting -/

open RuntimeCertificate

/-- The code and message of a failure for what is absent, or for what the private key block is. -/
inductive ExportFailure : FailureCode → String → Prop
  | noCertificate : ExportFailure .malformedInput "certificate is empty"
  | noPrivateKey : ExportFailure .malformedInput "private key is empty"
  /-- The block of this label has no run-time form. -/
  | unsupportedKey (label : String) :
      ExportFailure .unsupportedKey
        ("Private key block " ++ Text.quoted label ++ " cannot be converted to a runtime key")
  /-- The bytes in the block of this label are no key of its kind. -/
  | unreadableKey {label : String} (h : label ∈ privateKeyLabels) :
      ExportFailure .malformedInput ("Failed to parse " ++ label ++ " block")

theorem exportFailure_of_keyOutcome {block : Block} (hlabel : block.IsPrivateKey)
    {failure : Failure} (h : keyOutcome block = .failure failure) :
    ExportFailure failure.code failure.message := by
  have hread (kind : KeyKind) (hkind : keyOutcome.read block kind = .failure failure) :
      ExportFailure failure.code failure.message := by
    have hunread (fault : Fault) (hfault : keyOutcome.unread block fault = .failure failure) :
        ExportFailure failure.code failure.message := by
      injection hfault with hfault
      subst hfault
      exact .unreadableKey hlabel
    rw [keyOutcome.read] at hkind
    split at hkind
    · exact hunread _ hkind
    · split at hkind
      · cases hkind
      · exact hunread _ hkind
  rw [keyOutcome] at h
  split at h
  · exact hread .rsa h
  · split at h
    · exact hread .ec h
    · injection h with h
      subst h
      exact .unsupportedKey block.label

/-- Decoding a private key does not break off where the text holds a private key block. -/
theorem exists_decodePrivateKey {text : Option CodeText}
    (htext : ∀ t ∈ text, HoldsOne Block.IsPrivateKey t) :
    ∃ outcome, (decodePrivateKey text).run.value = .ok outcome ∧
      ∀ failure, outcome = .failure failure → ExportFailure failure.code failure.message := by
  cases text with
  | none =>
      refine ⟨_, rfl, ?_⟩
      intro failure h
      injection h with h
      subst h
      exact .noPrivateKey
  | some t =>
      obtain ⟨octets, block, hutf8, hblocks, hlabel⟩ := htext t rfl
      refine ⟨keyOutcome block, ?_, fun failure => exportFailure_of_keyOutcome hlabel⟩
      rw [decodePrivateKey_of_firstBlock? (firstBlock?_of_blocks hutf8 hblocks)
        (List.contains_iff_mem.mpr hlabel), Breaking.value_run_lift, value_keyOfBlock]

/-- Texts that hold one certificate each hold the certificates of some bytes. -/
theorem exists_forall₂_holdsCertificate {chain : List CodeText}
    (h : ∀ text ∈ chain, HoldsOne Block.IsCertificate text) :
    ∃ ders, List.Forall₂ HoldsCertificate chain ders := by
  induction chain with
  | nil => exact ⟨[], .nil⟩
  | cons text chain ih =>
      obtain ⟨ders, hders⟩ : ∃ ders, List.Forall₂ HoldsCertificate chain ders := by
        apply ih
        intro other hother
        exact h other (List.mem_cons_of_mem text hother)
      obtain ⟨octets, block, hutf8, hblocks, hlabel, -⟩ := h text List.mem_cons_self
      exact ⟨block.der :: ders,
        .cons ⟨block, firstBlock?_of_blocks hutf8 hblocks, hlabel, rfl⟩ hders⟩

/-- An export of scannable credentials does not break off. Without a certificate it fails; with one,
it gives what decoding the private key gives. -/
theorem Scannable.value_ofCredentials (h : c.Scannable) :
    (ofCredentials c).run.value = .ok (.fail .malformedInput "certificate is empty") ∨
      ∃ leaf ders, ∃ outcome : Outcome PrivateKey, X509.checkCertificate leaf = .ok () ∧
        (ofCredentials c).run.value = .ok (outcome.map fun key => ⟨leaf :: ders, key⟩) ∧
        ∀ failure, outcome = .failure failure → ExportFailure failure.code failure.message := by
  cases htext : c.certificate with
  | none => exact .inl (value_ofCredentials_of_none htext)
  | some text =>
      obtain ⟨octets, block, hutf8, hblocks, hlabel, hcheck⟩ := h.certificate text htext
      obtain ⟨ders, hders⟩ := exists_forall₂_holdsCertificate h.chain
      have hleaf : HoldsCertificate text block.der :=
        ⟨block, firstBlock?_of_blocks hutf8 hblocks, hlabel, rfl⟩
      obtain ⟨outcome, houtcome, hfailure⟩ := exists_decodePrivateKey h.privateKey
      refine .inr ⟨block.der, ders, outcome, hcheck, ?_, hfailure⟩
      rw [RuntimeCertificate.value_ofCredentials htext hleaf hders, houtcome]
      rfl

theorem Scannable.exists_export (h : c.Scannable) :
    ∃ outcome, (ofCredentials c).run.value = .ok outcome := by
  rcases h.value_ofCredentials with hnone | ⟨leaf, ders, outcome, -, hsome, -⟩
  · exact ⟨_, hnone⟩
  · exact ⟨_, hsome⟩

theorem Scannable.exportFailure (h : c.Scannable) {failure : Failure}
    (hvalue : (ofCredentials c).run.value = .ok (.failure failure)) :
    ExportFailure failure.code failure.message := by
  rcases h.value_ofCredentials with hnone | ⟨leaf, ders, outcome, -, hsome, hfailure⟩
  · rw [hnone] at hvalue
    injection hvalue with hvalue
    injection hvalue with hvalue
    subst hvalue
    exact .noCertificate
  · rw [hsome] at hvalue
    cases outcome with
    | success key => exact nomatch hvalue
    | failure cause =>
        injection hvalue with hvalue
        injection hvalue with hvalue
        exact hfailure failure (congrArg _ hvalue)

/-- The end entity's certificate of an export can be read. -/
theorem Scannable.leaf_eq_ok (h : c.Scannable) {runtime : RuntimeCertificate}
    (hvalue : (ofCredentials c).run.value = .ok (.success runtime)) :
    ∃ certificate, runtime.leaf = .ok certificate := by
  rcases h.value_ofCredentials with hnone | ⟨der, ders, outcome, hcheck, hsome, -⟩
  · rw [hnone] at hvalue
    exact nomatch hvalue
  · rw [hsome] at hvalue
    obtain ⟨key, -, rfl⟩ := (Outcome.map_eq_success_iff _ _ _).mp (Except.ok.inj hvalue)
    obtain ⟨certificate, hder⟩ := X509.Certificate.exists_ofDer_eq_ok hcheck
    exact ⟨certificate, by simp [leaf, leafOf, hder]⟩

end Credentials

end PemBundle
