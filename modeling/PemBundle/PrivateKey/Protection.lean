import PemBundle.PrivateKey.Writer

/-!
# Password protection

A key is protected by a block cipher under a key derived from the password. The bytes are first
padded to whole blocks; the cipher keeps their number. In the general wrapper the scheme stands in
front of the data, in the other form it stands in the headers of the block. Salt, first block and
cipher are chosen for each encoding by whoever asks for it.
-/

namespace PemBundle

open Der X509

/-- How many bytes a cipher block holds; salts and first blocks are as long. -/
def cipherBlock : Nat := 16

/-- What is drawn or derived for one encoding: the salt, the first block, and the cipher under the
key derived from a password. -/
structure Protection where
  salt : List UInt8
  initialBlock : List UInt8
  cipher : (password plain : List UInt8) → List UInt8
  length_salt : salt.length = cipherBlock
  length_initialBlock : initialBlock.length = cipherBlock
  length_cipher : ∀ password plain, (cipher password plain).length = plain.length

/-- `bytes` filled up to whole blocks, by at least one byte; each added byte is their number. -/
def padded (bytes : List UInt8) : List UInt8 :=
  let missing := cipherBlock - bytes.length % cipherBlock
  bytes ++ List.replicate missing (UInt8.ofNat missing)

/-- The bytes without their padding. -/
def unpadded? (bytes : List UInt8) : Option (List UInt8) := do
  let missing := (← bytes.getLast?).toNat
  if missing = 0 ∨ cipherBlock < missing ∨ bytes.length < missing then none
  else some (bytes.take (bytes.length - missing))

/-- How often the derivation of the key hashes. -/
def derivationRounds : Nat := 2048

namespace Protection

/-- The scheme in front of protected data. -/
def writeScheme (protection : Protection) : List UInt8 :=
  writeSequence [writeOid Algorithm.pbes2, writeSequence [
    writeSequence [writeOid Algorithm.pbkdf2, writeSequence [
      writeOctetString protection.salt, writeNatural derivationRounds,
      Algorithm.writePlain Algorithm.hmacSha256]],
    writeSequence [writeOid Algorithm.aes256Cbc, writeOctetString protection.initialBlock]]]

/-- Protected bytes with the scheme in front of them. -/
def wrap (protection : Protection) (password der : List UInt8) : List UInt8 :=
  writeSequence [protection.writeScheme,
    writeOctetString (protection.cipher password (padded der))]

/-- The headers that describe protected data without a scheme in front. -/
def headers (protection : Protection) : Pem.Headers :=
  let digits := protection.initialBlock.flatMap fun b => Text.hexDigits 2 b.toNat
  [("Proc-Type", "4,ENCRYPTED"),
    ("DEK-Info", "AES-256-CBC," ++ String.ofList (digits.map Char.toUpper))]

end Protection

/-- The block of a key in the given form; an empty password leaves it unprotected. -/
def PrivateKey.toBlock (key : PrivateKey) (form : KeyForm) (protection : Protection)
    (password : List UInt8) : Pem.Block :=
  let der := key.toDer form
  match form with
  | .traditional =>
      if password.isEmpty then ⟨key.kind.label, der, []⟩
      else ⟨key.kind.label, protection.cipher password (padded der), protection.headers⟩
  | .wrapped =>
      if password.isEmpty then ⟨"PRIVATE KEY", der, []⟩
      else ⟨"ENCRYPTED PRIVATE KEY", protection.wrap password der, []⟩

/-- How protected data says it is protected. -/
inductive Scheme
  | inFront (derivation : Derivation) (cipher : Oid) (initialBlock : List UInt8)
  | inHeaders (procedure cipher initialBlock : String)

/-- A protected key: its scheme and its data. -/
structure ProtectedKey where
  scheme : Scheme
  data : List UInt8

/-- The protected key in a block. -/
def ProtectedKey.ofBlock? (block : Pem.Block) : Option ProtectedKey :=
  match block.header? "Proc-Type", block.header? "DEK-Info" with
  | some procedure, some info =>
      let cipher := info.toList.takeWhile (· ≠ ',')
      let initialBlock := info.toList.drop (cipher.length + 1)
      some ⟨.inHeaders procedure (String.ofList cipher) (String.ofList initialBlock), block.der⟩
  | _, _ => do
      let (algorithm, data) ← PrivateKey.protectedForm.all block.der
      match algorithm.parameters with
      | .passwordBased (some derivation) cipher initialBlock =>
          some ⟨.inFront derivation cipher initialBlock, data⟩
      | _ => none

/-- The key that a protected key hides, once `decipher` has undone the cipher. -/
def ProtectedKey.reveal? (protectedKey : ProtectedKey) (decipher : List UInt8 → List UInt8) :
    Option PrivateKey := do
  let der ← unpadded? (decipher protectedKey.data)
  (PrivateKey.ofDer der).toOption

end PemBundle
