import PemBundle.Proofs.Credentials.StoredKey
import PemBundle.Proofs.PrivateKey.RoundTrip

/-!
# Exporting what was built

What the encoder writes and what an export reads have to agree through the text of the block alone.
A key is exported exactly if it was written without a password in the structure of its own kind;
then the export holds the same key, with the certificates in the order in which they were given.
Every other key that can be stored is refused for its block, which tells that it cannot be read.
-/

namespace PemBundle

/-- The format names, in upper or lower case, the one that asks for the structure of the key's own
kind. -/
def CodeText.IsLegacyFormat (format : CodeText) : Prop :=
  ∃ hint, format = .unicode hint ∧ Text.lower hint = legacyFormat

theorem CodeText.isLegacyFormat_iff (format : CodeText) :
    format.IsLegacyFormat ↔ format.unicode?.map Text.lower = some legacyFormat := by
  cases format <;> simp [IsLegacyFormat, unicode?]

instance (format : CodeText) : Decidable format.IsLegacyFormat :=
  decidable_of_iff _ format.isLegacyFormat_iff.symm

/-- Without a password, the structure of its own is chosen for a key on a curve, and for a key with
two prime factors if the format asks for it. -/
theorem KeyForm.eq_traditional_iff {kind : KeyKind} {format : CodeText} {form : KeyForm}
    (h : choose? kind format false = some form) :
    form = .traditional ↔ kind = .ec ∨ kind = .rsa ∧ format.IsLegacyFormat := by
  rw [CodeText.isLegacyFormat_iff]
  cases kind with
  | rsa =>
      obtain rfl := Option.some.inj h
      by_cases hlegacy : format.unicode?.map Text.lower = some legacyFormat
      · simp only [hlegacy, if_true, and_self, or_true]
      · simp only [hlegacy, if_false, and_false, or_false]
        simp
  | ec =>
      obtain rfl := Option.some.inj h
      simp
  | ed25519 | ed448 =>
      obtain rfl := Option.some.inj h
      simp
  | dsa | x25519 | x448 => exact nomatch h

namespace RuntimeCertificate

/-- The failure of an export for the label of the private key block. -/
def unsupported (label : String) : Failure :=
  ⟨.unsupportedKey,
    "Private key block " ++ Text.quoted label ++ " cannot be converted to a runtime key", none⟩

/-- A block that tells that it is protected is never read. -/
theorem keyOutcome_of_tellsProtection {block : Pem.Block} (h : block.TellsProtection) :
    keyOutcome block = .failure (unsupported block.label) := by
  rw [keyOutcome]
  rcases h with hlabel | hprotected
  · rw [if_neg (by simp [hlabel]), if_neg (by simp [hlabel])]
    rfl
  · rw [if_neg (by simp [hprotected]), if_neg (by simp [hprotected])]
    rfl

/-- A genuine key is read from the block of its structure. -/
theorem keyOutcome_traditional {key : PrivateKey} (h : key.IsGenuine)
    (hkind : key.kind = .rsa ∨ key.kind = .ec) :
    keyOutcome ⟨key.kind.label, key.toDer .traditional, []⟩ = .success key := by
  have hread (kind : KeyKind) (hsame : key.kind = kind) :
      keyOutcome.read ⟨key.kind.label, key.toDer .traditional, []⟩ kind = .success key := by
    rw [keyOutcome.read, PrivateKey.ofDer_toDer h hkind]
    exact if_pos hsame
  rw [keyOutcome]
  rcases hkind with hrsa | hec
  · rw [if_pos ⟨congrArg KeyKind.label hrsa, by simp [isProtected_of_no_headers]⟩]
    exact hread .rsa hrsa
  · rw [if_neg (by simp [hec, KeyKind.label]),
      if_pos ⟨congrArg KeyKind.label hec, by simp [isProtected_of_no_headers]⟩]
    exact hread .ec hec

/-- What an export makes of the block that a key was written in. -/
theorem keyOutcome_toBlock {key : PrivateKey} (h : key.IsGenuine) (protection : Protection)
    {octets : List UInt8} {format : CodeText} {form : KeyForm}
    (hform : KeyForm.choose? key.kind format (!octets.isEmpty) = some form) :
    keyOutcome (key.toBlock form protection octets) =
      if octets = [] ∧ (key.kind = .ec ∨ key.kind = .rsa ∧ format.IsLegacyFormat) then
        .success key
      else .failure (unsupported (key.toBlock form protection octets).label) := by
  cases octets with
  | nil =>
      have htraditional := KeyForm.eq_traditional_iff hform
      cases form with
      | traditional =>
          have hkind := htraditional.mp rfl
          rw [if_pos ⟨rfl, hkind⟩]
          exact keyOutcome_traditional h (hkind.symm.imp And.left id)
      | wrapped =>
          rw [if_neg fun hexport => nomatch htraditional.mpr hexport.2]
          rfl
  | cons b octets =>
      rw [if_neg fun hexport => nomatch hexport.1]
      exact keyOutcome_of_tellsProtection
        ((key.tellsProtection_toBlock_iff form protection (b :: octets)).mpr (List.cons_ne_nil _ _))

end RuntimeCertificate

namespace Credentials

open RuntimeCertificate

/-- The credentials with certificates appended one by one. -/
def appendChain (c : Credentials) (chain : List X509.Certificate) : Outcome Credentials :=
  chain.foldlM (fun c certificate => c.addChainElement (some certificate)) c

theorem appendChain_eq (c : Credentials) (chain : List X509.Certificate) :
    c.appendChain chain =
      .success { c with chain := c.chain ++ chain.map fun c => .unicode c.toPem } := by
  induction chain generalizing c with
  | nil =>
      rw [List.map_nil, List.append_nil]
      rfl
  | cons certificate chain ih =>
      calc
        c.appendChain (certificate :: chain) =
            appendChain { c with chain := c.chain ++ [.unicode certificate.toPem] } chain := rfl
        _ = .success { c with chain :=
              c.chain ++ [.unicode certificate.toPem] ++ chain.map fun c => .unicode c.toPem } :=
            ih _
        _ = .success { c with chain :=
              c.chain ++ (certificate :: chain).map fun c => .unicode c.toPem } := by
            rw [List.append_assoc]
            rfl

/-- An export gives what the block of the stored key gives, with all certificates. -/
theorem value_ofCredentials_built (certificate : X509.Certificate) (chain : List X509.Certificate)
    (key : PrivateKey) (form : KeyForm) (protection : Protection) (octets : List UInt8) :
    (ofCredentials ⟨some (.unicode certificate.toPem),
        some (.unicode (key.toBlock form protection octets).toPem),
        chain.map fun c => .unicode c.toPem, none⟩).run.value =
      .ok ((keyOutcome (key.toBlock form protection octets)).map fun key =>
        ⟨certificate.der :: chain.map (·.der), key⟩) := by
  have hfirst : Pem.firstBlock? (key.toBlock form protection octets).toPem =
      some (key.toBlock form protection octets) := by
    apply Pem.firstBlock?_of_blocks rfl
    rw [(key.wellFormed_toBlock form protection octets).scan_toPem]
  have hlabel := List.contains_iff_mem.mpr (key.label_toBlock_mem form protection octets)
  rw [value_ofCredentials rfl (holdsCertificate_toPem certificate)
      (forall₂_holdsCertificate_toPem chain),
    decodePrivateKey_of_firstBlock? hfirst hlabel, Breaking.value_run_lift, value_keyOfBlock]
  rfl

variable {key : PrivateKey} {password : Option Password} {octets : List UInt8}

/-- Building credentials and exporting them is exact. A key without a text form, or with a password
that is too long, is not built in. Every other key is; it is exported, with the certificates in the
order of the calls, exactly if there is no password and the key was written in the structure of its
own kind, and else its block is refused. -/
theorem built_export_exact (protection : Protection) (hkey : key.IsGenuine)
    (hpassword : Password.octets? password = some octets) (format : Option CodeText)
    (certificate : X509.Certificate) (chain : List X509.Certificate) :
    (key.kind.isWritable = false ∨ maxPasswordLength < octets.length →
      ∃ e, (build (KeyEncoder.standard protection) (some certificate) (some key) password
        format).value = .failure (KeyEncoder.refused e)) ∧
    (key.kind.isWritable = true ∧ octets.length ≤ maxPasswordLength →
      ∃ built,
        (build (KeyEncoder.standard protection) (some certificate) (some key) password
            format).value.bind (·.appendChain chain) = .success built ∧
          (octets = [] ∧ (key.kind = .ec ∨
              key.kind = .rsa ∧ CodeText.IsLegacyFormat (format.getD "")) →
            (ofCredentials built).run.value =
              .ok (.success ⟨certificate.der :: chain.map (·.der), key⟩)) ∧
          (¬ (octets = [] ∧ (key.kind = .ec ∨
              key.kind = .rsa ∧ CodeText.IsLegacyFormat (format.getD ""))) →
            ∃ label, (ofCredentials built).run.value = .ok (.failure (unsupported label)))) := by
  rw [value_build]
  constructor
  · intro hrefused
    obtain ⟨e, hvalue⟩ := value_encodeForStorage_of_refused protection hpassword hrefused format
    rw [hvalue]
    exact ⟨e, rfl⟩
  · rintro ⟨hkind, hlength⟩
    obtain ⟨form, hform, hvalue⟩ :=
      value_encodeForStorage_of_isWritable protection hpassword hkind hlength format
    rw [hvalue]
    refine ⟨_, appendChain_eq _ chain, ?_, ?_⟩
    · intro hexport
      rw [List.nil_append, Option.map_some, value_ofCredentials_built,
        keyOutcome_toBlock hkey protection hform, if_pos hexport]
      rfl
    · intro hexport
      rw [List.nil_append, Option.map_some, value_ofCredentials_built,
        keyOutcome_toBlock hkey protection hform, if_neg hexport]
      exact ⟨_, rfl⟩

/-- A small key with two prime factors. -/
def smallRsa : RsaNumbers := ⟨15, 3, 3, 3, 5, 1, 3, 2⟩

theorem built_export_exact_rsa :
    PrivateKey.IsGenuine (.rsa smallRsa) ∧ Password.octets? none = some [] ∧
      ∃ built,
        (build (KeyEncoder.standard zeroProtection) (some ⟨smallDer, smallDer_accepted⟩)
            (some (.rsa smallRsa)) none (some (.unicode "Legacy-PEM"))).value.bind
              (·.appendChain [⟨smallDer, smallDer_accepted⟩]) = .success built ∧
          (ofCredentials built).run.value =
            .ok (.success ⟨[smallDer, smallDer], .rsa smallRsa⟩) := by
  have hkey : PrivateKey.IsGenuine (.rsa smallRsa) := by
    constructor
    · decide +kernel
    · decide +kernel
  have hpassword : Password.octets? none = some [] := rfl
  have hformat : CodeText.IsLegacyFormat "Legacy-PEM" := ⟨_, rfl, by decide +kernel⟩
  obtain ⟨built, hbuilt, hexport, -⟩ :=
    (built_export_exact zeroProtection hkey hpassword (some (.unicode "Legacy-PEM"))
      ⟨smallDer, smallDer_accepted⟩ [⟨smallDer, smallDer_accepted⟩]).2 (by decide)
  exact ⟨hkey, hpassword, built, hbuilt, hexport ⟨rfl, .inr ⟨rfl, hformat⟩⟩⟩

end Credentials

end PemBundle
