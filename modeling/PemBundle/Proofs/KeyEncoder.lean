import PemBundle.KeyEncoder
import PemBundle.Proofs.Outcome
import PemBundle.Proofs.PrivateKey.Protection

/-!
# What the standard encoder writes

The standard encoder succeeds exactly when the password stands for bytes that are not too many and
the key has a text form. Its text is the armor of the block of the key, and the scan of the text
gives this block and nothing else.
-/

namespace PemBundle.KeyEncoder

/-- When there is a block, which one it is, and which event tells of it. -/
theorem encodeBlock_eq_ok_iff (protection : Protection) (key : Option PrivateKey)
    (password : Option Password) (format : CodeText) (block : Pem.Block) (event : Event) :
    encodeBlock protection key password format = .ok (block, event) ↔
      ∃ bytes written form, passwordBytes password = .ok bytes ∧
        formOf key format (!bytes.isEmpty) = .ok (written, form) ∧
        bytes.length ≤ maxPasswordLength ∧
        written.toBlock form protection bytes = block ∧
        .keyEncoded written.kind form (!bytes.isEmpty) = event := by
  rw [encodeBlock]
  cases hbytes : passwordBytes password with
  | error e => simp [bind, Except.bind]
  | ok bytes =>
      cases hform : formOf key format (!bytes.isEmpty) with
      | error e => simp [bind, Except.bind, hform]
      | ok pair =>
          obtain ⟨written, form⟩ := pair
          by_cases hlength : maxPasswordLength < bytes.length
          · simp [bind, Except.bind, hform, hlength, throw, throwThe, MonadExceptOf.throw,
              Nat.not_le.mpr hlength]
          · simp [bind, Except.bind, hform, hlength, pure, Except.pure, Nat.not_lt.mp hlength]

/-- A text that the standard encoder writes holds one block, which has a private key label. -/
theorem scan_of_value_standard {protection : Protection} {key : Option PrivateKey}
    {password : Option Password} {format : Option CodeText} {text : CodeText}
    (h : (standard protection key password format).value = .success text) :
    ∃ octets block, text.utf8 = .ok octets ∧ Pem.scan octets = ⟨[block], none⟩ ∧
      block.label ∈ Pem.privateKeyLabels := by
  rw [standard] at h
  split at h
  · next block event hencode =>
    obtain ⟨bytes, written, form, -, -, -, rfl, -⟩ :=
      (encodeBlock_eq_ok_iff _ _ _ _ _ _).mp hencode
    injection h with h
    subst h
    exact ⟨_, _, rfl, (written.wellFormed_toBlock form protection bytes).scan_toPem,
      written.label_toBlock_mem form protection bytes⟩
  · exact nomatch h

end PemBundle.KeyEncoder
