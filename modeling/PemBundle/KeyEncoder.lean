import PemBundle.Logged
import PemBundle.Outcome
import PemBundle.PrivateKey.Protection

/-!
# Key encoders

An encoder turns a key into PEM text, under a password if one is given. The form of the block
depends on the kind of key, on a hint for the format, and on whether it is protected.
-/

namespace PemBundle

/-- An encoder of keys, with the effects of `m`. -/
abbrev KeyEncoder (m : Type → Type) :=
  Option PrivateKey → Option Password → (format : Option CodeText) → m (Outcome CodeText)

namespace KeyEncoder

/-- The bytes of an optional password. -/
def passwordBytes : Option Password → Except EncodingError (List UInt8)
  | none => .ok []
  | some password =>
      match password.toBytes with
      | .ok bytes => .ok bytes
      | .error e => .error (.password e)

/-- The key to encode with its form, if there is one and it has a text form. -/
def formOf (key : Option PrivateKey) (format : CodeText) (encrypted : Bool) :
    Except EncodingError (PrivateKey × KeyForm) :=
  match key with
  | none => .error (.unsupportedKey (keyTypeName none))
  | some key =>
      match KeyForm.choose? key.kind format encrypted with
      | none => .error (.unsupportedKey key.kind.name)
      | some form => .ok (key, form)

/-- The block of a key, with the event that tells of it. The password is looked at first, then the
kind of the key, then the length of the password. -/
def encodeBlock (protection : Protection) (key : Option PrivateKey) (password : Option Password)
    (format : CodeText) : Except EncodingError (Pem.Block × Event) := do
  let bytes ← passwordBytes password
  let encrypted := !bytes.isEmpty
  let (key, form) ← formOf key format encrypted
  if maxPasswordLength < bytes.length then throw .passwordTooLong
  pure (key.toBlock form protection bytes, .keyEncoded key.kind form encrypted)

/-- The encoder that writes blocks itself, with what `protection` draws. -/
def standard (protection : Protection) : KeyEncoder Logged := fun key password format =>
  match encodeBlock protection key password (format.getD "") with
  | .ok (block, event) => do
      report event
      pure (.success block.toPem)
  | .error e => do
      report (.keyNotEncoded (key.map PrivateKey.kind) format e.message)
      pure (.failure ⟨.encodingError, "Failed to encode private key", some (.encoding e)⟩)

end KeyEncoder

end PemBundle
