import PemBundle.Proofs.Credentials.Additions
import PemBundle.Proofs.Session

/-!
# Stored keys keep their protection

Building credentials with a key and adding a key to credentials store the same text: the armor of
the block of the key. The block tells that it is protected exactly if there is a password, in its
label or in its headers. A key without a text form, or with a password that is too long, is stored
by neither.
-/

namespace PemBundle

/-- The bytes of a password that is absent, bytes, or a text with bytes. -/
def Password.octets? : Option Password → Option (List UInt8)
  | none => some []
  | some (.bytes bs) => some bs
  | some (.value (.text text)) => text.utf8.toOption
  | some (.value _) => none

/-- Whether keys of the kind have a text form. -/
def KeyKind.isWritable : KeyKind → Bool
  | .rsa | .ec | .ed25519 | .ed448 => true
  | .dsa | .x25519 | .x448 => false

theorem KeyForm.choose?_eq_none_iff (kind : KeyKind) (format : CodeText) (encrypted : Bool) :
    choose? kind format encrypted = none ↔ kind.isWritable = false := by
  cases kind <;> simp [choose?, KeyKind.isWritable]

namespace KeyEncoder

variable {key : PrivateKey} {password : Option Password} {octets : List UInt8}

/-- A password that counts as not given stands for the bytes that an empty one stands for. -/
theorem passwordBytes_nonVoid? (h : Password.octets? password = some octets) :
    passwordBytes (Password.nonVoid? password) = .ok octets := by
  cases password with
  | none => exact congrArg Except.ok (Option.some.inj h)
  | some password =>
      have hbytes : password.toBytes = .ok octets ∧ (password.isVoid = true → octets = []) := by
        cases password with
        | bytes bs =>
            obtain rfl : bs = octets := Option.some.inj h
            exact ⟨rfl, List.isEmpty_iff.mp⟩
        | value value =>
            cases value with
            | text text =>
                cases htext : text.utf8 with
                | error run =>
                    rw [Password.octets?, htext] at h
                    exact nomatch h
                | ok found =>
                    rw [Password.octets?, htext] at h
                    obtain rfl : found = octets := Option.some.inj h
                    rw [Password.toBytes, htext]
                    refine ⟨rfl, ?_⟩
                    intro hvoid
                    rw [eq_of_beq (hvoid : (text == "") = true)] at htext
                    exact (Except.ok.inj htext).symm
            | null | bool | int | decimal | list | object => exact nomatch h
      obtain ⟨hbytes, hempty⟩ := hbytes
      rw [Password.nonVoid?, Option.filter]
      cases hvoid : password.isVoid with
      | true =>
          rw [hempty hvoid]
          rfl
      | false => simp [passwordBytes, hbytes]

/-- The failure of an encoding. -/
def refused (e : EncodingError) : Failure :=
  ⟨.encodingError, "Failed to encode private key", some (.encoding e)⟩

/-- The standard encoder writes the block of a key that has a text form, under a password that is
not too long. -/
theorem value_standard_of_isWritable (protection : Protection)
    (hpassword : passwordBytes password = .ok octets) (hkind : key.kind.isWritable = true)
    (hlength : octets.length ≤ maxPasswordLength) (format : Option CodeText) :
    ∃ form, KeyForm.choose? key.kind (format.getD "") (!octets.isEmpty) = some form ∧
      (standard protection (some key) password format).value =
        .success (.unicode (key.toBlock form protection octets).toPem) := by
  cases hform : KeyForm.choose? key.kind (format.getD "") (!octets.isEmpty) with
  | none =>
      have hother := (KeyForm.choose?_eq_none_iff _ _ _).mp hform
      exact absurd (hkind.symm.trans hother) (by decide)
  | some form =>
      have hkey : formOf (some key) (format.getD "") (!octets.isEmpty) = .ok (key, form) := by
        rw [formOf, hform]
      have hencode : encodeBlock protection (some key) password (format.getD "") =
          .ok (key.toBlock form protection octets, .keyEncoded key.kind form (!octets.isEmpty)) :=
        (encodeBlock_eq_ok_iff _ _ _ _ _ _).mpr
          ⟨octets, key, form, hpassword, hkey, hlength, rfl, rfl⟩
      rw [standard, hencode]
      exact ⟨form, rfl, rfl⟩

/-- The standard encoder refuses every other key. -/
theorem value_standard_of_refused (protection : Protection)
    (hpassword : passwordBytes password = .ok octets)
    (h : key.kind.isWritable = false ∨ maxPasswordLength < octets.length)
    (format : Option CodeText) :
    ∃ e, (standard protection (some key) password format).value = .failure (refused e) := by
  rw [standard]
  cases hencode : encodeBlock protection (some key) password (format.getD "") with
  | error e => exact ⟨e, rfl⟩
  | ok pair =>
      obtain ⟨bytes, written, form, hbytes, hform, hlength, -, -⟩ :=
        (encodeBlock_eq_ok_iff _ _ _ _ pair.1 pair.2).mp hencode
      obtain rfl : octets = bytes := Except.ok.inj (hpassword.symm.trans hbytes)
      rcases h with hkind | hlong
      · rw [formOf, (KeyForm.choose?_eq_none_iff _ _ _).mpr hkind] at hform
        cases hform
      · exact absurd hlength (Nat.not_le.mpr hlong)

end KeyEncoder

/-! ### Blocks that tell their protection -/

open RuntimeCertificate

/-- The block tells that it is protected by a password, in its label or in its headers. -/
def Pem.Block.TellsProtection (block : Pem.Block) : Prop :=
  block.label = "ENCRYPTED PRIVATE KEY" ∨ isProtected block = true

theorem isProtected_headers (label : String) (der : List UInt8) (protection : Protection) :
    isProtected ⟨label, der, protection.headers⟩ = true := by
  have hprocedure : (⟨label, der, protection.headers⟩ : Pem.Block).header? "Proc-Type" =
      some "4,ENCRYPTED" := rfl
  rw [isProtected, hprocedure]
  decide

theorem isProtected_of_no_headers (label : String) (der : List UInt8) :
    isProtected ⟨label, der, []⟩ = false := rfl

/-- The block of a key tells that it is protected exactly if there is a password. -/
theorem PrivateKey.tellsProtection_toBlock_iff (key : PrivateKey) (form : KeyForm)
    (protection : Protection) (password : List UInt8) :
    (key.toBlock form protection password).TellsProtection ↔ password ≠ [] := by
  have hplain {label : String} (h : label ≠ "ENCRYPTED PRIVATE KEY") (der : List UInt8) :
      ¬ Pem.Block.TellsProtection ⟨label, der, []⟩ := by
    rintro (hlabel | hheader)
    · exact h hlabel
    · exact absurd hheader (by simp [isProtected_of_no_headers])
  have hlabel : key.kind.label ≠ "ENCRYPTED PRIVATE KEY" := by
    cases key.kind <;> decide
  cases password with
  | nil =>
      refine iff_of_false ?_ (not_not_intro rfl)
      cases form with
      | traditional => exact hplain hlabel _
      | wrapped => exact hplain (by decide) _
  | cons b password =>
      refine iff_of_true ?_ (List.cons_ne_nil b password)
      cases form with
      | traditional => exact .inr (isProtected_headers _ _ protection)
      | wrapped => exact .inl rfl

/-! ### Storing a key -/

namespace Credentials

variable {key : PrivateKey} {password : Option Password} {octets : List UInt8}

theorem value_build (encode : KeyEncoder Logged) (certificate : Option X509.Certificate)
    (key : PrivateKey) (password : Option Password) (format : Option CodeText) :
    (build encode certificate (some key) password format).value =
      (encodeForStorage encode key password format).value.map fun text =>
        ⟨certificate.map fun c => .unicode c.toPem, some text, [], none⟩ := rfl

theorem value_addPrivateKey (encode : KeyEncoder Logged) (c : Credentials) (key : PrivateKey)
    (password : Option Password) (format : Option CodeText) :
    (c.addPrivateKey encode (some key) password format).value =
      if c.hasPrivateKey then .failure duplicateKey
      else (encodeForStorage encode key password format).value.map fun text =>
        { c with privateKey := some text } := by
  rw [addPrivateKey]
  split
  · rfl
  · exact Outcome.value_peekM _ _

/-- A key of a kind with a text form is stored as the text of its block. -/
theorem value_encodeForStorage_of_isWritable (protection : Protection)
    (hpassword : Password.octets? password = some octets) (hkind : key.kind.isWritable = true)
    (hlength : octets.length ≤ maxPasswordLength) (format : Option CodeText) :
    ∃ form, KeyForm.choose? key.kind (format.getD "") (!octets.isEmpty) = some form ∧
      (encodeForStorage (KeyEncoder.standard protection) key password format).value =
        .success (.unicode (key.toBlock form protection octets).toPem) :=
  KeyEncoder.value_standard_of_isWritable protection (KeyEncoder.passwordBytes_nonVoid? hpassword)
    hkind hlength (some (format.getD ""))

theorem value_encodeForStorage_of_refused (protection : Protection)
    (hpassword : Password.octets? password = some octets)
    (h : key.kind.isWritable = false ∨ maxPasswordLength < octets.length)
    (format : Option CodeText) :
    ∃ e, (encodeForStorage (KeyEncoder.standard protection) key password format).value =
      .failure (KeyEncoder.refused e) :=
  KeyEncoder.value_standard_of_refused protection (KeyEncoder.passwordBytes_nonVoid? hpassword) h
    (some (format.getD ""))

/-- A password is never lost on the way to storage. A key of a kind with a text form is stored under
every password that is not too long, and the stored text holds one private key block, which tells
that it is protected exactly if the password is not empty. Every other key is refused. -/
theorem stored_key_protected (protection : Protection) (key : PrivateKey)
    (hpassword : Password.octets? password = some octets) (format : Option CodeText)
    (certificate : Option X509.Certificate) (c : Credentials) :
    (key.kind.isWritable = true ∧ octets.length ≤ maxPasswordLength →
      ∃ (text : String) (block : Pem.Block),
        (build (KeyEncoder.standard protection) certificate (some key) password format).value =
            .success ⟨certificate.map fun c => .unicode c.toPem, some (.unicode text), [], none⟩ ∧
          (c.addPrivateKey (KeyEncoder.standard protection) (some key) password format).value =
            (if c.hasPrivateKey then .failure duplicateKey
              else .success { c with privateKey := some (.unicode text) }) ∧
          Pem.scan (Text.utf8 text) = ⟨[block], none⟩ ∧ block.label ∈ Pem.privateKeyLabels ∧
          (block.TellsProtection ↔ octets ≠ [])) ∧
    (key.kind.isWritable = false ∨ maxPasswordLength < octets.length →
      ∃ e,
        (build (KeyEncoder.standard protection) certificate (some key) password format).value =
            .failure (KeyEncoder.refused e) ∧
          (c.addPrivateKey (KeyEncoder.standard protection) (some key) password format).value =
            .failure (if c.hasPrivateKey then duplicateKey else KeyEncoder.refused e)) := by
  rw [value_build, value_addPrivateKey]
  constructor
  · rintro ⟨hkind, hlength⟩
    obtain ⟨form, -, hvalue⟩ :=
      value_encodeForStorage_of_isWritable protection hpassword hkind hlength format
    rw [hvalue]
    exact ⟨_, _, rfl, rfl, (key.wellFormed_toBlock form protection octets).scan_toPem,
      key.label_toBlock_mem form protection octets,
      key.tellsProtection_toBlock_iff form protection octets⟩
  · intro hrefused
    obtain ⟨e, hvalue⟩ := value_encodeForStorage_of_refused protection hpassword hrefused format
    rw [hvalue]
    refine ⟨e, rfl, ?_⟩
    split <;> rfl

theorem stored_key_protected_ed25519 :
    Password.octets? (some (.value (.text "secret"))) = some (Text.utf8 "secret") ∧
      ∃ (text : String) (block : Pem.Block),
        (build (KeyEncoder.standard zeroProtection) none (some (.ed25519 []))
            (some (.value (.text "secret"))) none).value =
              .success ⟨none, some (.unicode text), [], none⟩ ∧
          Pem.scan (Text.utf8 text) = ⟨[block], none⟩ ∧ block.TellsProtection := by
  have hpassword : Password.octets? (some (.value (.text "secret"))) =
      some (Text.utf8 "secret") := rfl
  obtain ⟨text, block, hbuild, -, hscan, -, htells⟩ :=
    (stored_key_protected zeroProtection (.ed25519 []) hpassword none none empty).1 (by decide)
  exact ⟨hpassword, text, block, hbuild, hscan, htells.mpr (by decide)⟩

end Credentials

end PemBundle
