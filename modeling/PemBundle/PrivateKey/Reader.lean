import PemBundle.PrivateKey

/-!
# Reading private keys

Unprotected keys come in a general wrapper that names the algorithm, or in the structure of their
own type. The structures are tried one after the other and the first that fits decides.
-/

namespace PemBundle.PrivateKey

open Der X509

/-- Why bytes are not an unprotected key. -/
inductive ReadError
  | malformed
  /-- The bytes are a key protected by a password. -/
  | passwordMissing
  deriving DecidableEq

/-- The wording of an error. -/
def ReadError.message : ReadError → String
  | .malformed => "Could not deserialize key data"
  | .passwordMissing => "Password was not given but private key is encrypted"

/-- Reads the structure of keys with two prime factors. -/
def rsaNumbers : Der.Reader RsaNumbers :=
  inSequence do
    let _ ← naturalBelow 1
    let n ← natural
    let e ← natural
    let d ← natural
    let p ← natural
    let q ← natural
    let dmp1 ← natural
    let dmq1 ← natural
    let iqmp ← natural
    pure ⟨n, e, d, p, q, dmp1, dmq1, iqmp⟩

/-- Reads the version number that the curve structure carries. -/
def ecVersion : Der.Reader Unit := do
  if (← natural) = 1 then pure () else failure

/-- Reads the curve structure: the private number, the choice of the curve, the public point. -/
def ecFields : Der.Reader (Nat × Option CurveChoice × Option (List UInt8)) :=
  inSequence do
    ecVersion
    let d ← octetString
    let choice ← optional (.contextConstructed 0) (within (.contextConstructed 0) curveChoice)
    let point ← optional (.contextConstructed 1) (within (.contextConstructed 1) bitString)
    pure (bigEndian d, choice, point)

/-- The curve chosen outside and inside of the key structure, which must agree. -/
def chosenCurve? : Option CurveChoice → Option CurveChoice → Option Curve
  | some (.named oid), none => Curve.ofOid? oid
  | none, some (.named oid) => Curve.ofOid? oid
  | some (.named outer), some (.named inner) => if outer = inner then Curve.ofOid? outer else none
  | _, _ => none

/-- The key of a private number on a curve; a given public point must be the one that belongs to
it. -/
def ofScalar? (curve : Curve) (d : Nat) (point : Option (List UInt8)) : Option PrivateKey := do
  let (x, y) ← curve.publicPoint? d
  match point with
  | some form => if form ∈ curve.pointForms x y then pure (.ec ⟨curve, d, x, y⟩) else none
  | none => pure (.ec ⟨curve, d, x, y⟩)

/-- The key that a curve structure writes, with the curve that its wrapper chooses. -/
def ofEcStructure? (outer : Option CurveChoice) (der : List UInt8) : Option PrivateKey := do
  let (d, inner, point) ← ecFields.all der
  ofScalar? (← chosenCurve? outer inner) d point

/-- The secret bytes inside the wrapper of a key type of fixed length. -/
def secret? (length : Nat) (der : List UInt8) : Option (List UInt8) := do
  let bytes ← octetString.all der
  if bytes.length = length then some bytes else none

/-- The key that a wrapper of the given algorithm holds. -/
def ofAlgorithm? (algorithm : Algorithm) (der : List UInt8) : Option PrivateKey :=
  let oid := algorithm.oid
  if oid = Algorithm.rsaEncryption ∨ oid = Algorithm.rsaPss then .rsa <$> rsaNumbers.all der
  else if oid = Algorithm.x25519 then .x25519 <$> secret? 32 der
  else if oid = Algorithm.x448 then .x448 <$> secret? 56 der
  else if oid = Algorithm.ed25519 then .ed25519 <$> secret? 32 der
  else if oid = Algorithm.ed448 then .ed448 <$> secret? 57 der
  else
    match algorithm.parameters with
    | .curve choice => ofEcStructure? (some choice) der
    | .group numbers => .dsa numbers <$> natural.all der
    | _ => none

/-- Reads an attribute of a wrapper. -/
def wrapperAttribute : Der.Reader Unit :=
  inSequence do
    let _ ← oid
    let _ ← within .set (setItems element)

/-- Reads the general wrapper: the algorithm and the bytes of the key. -/
def wrapper : Der.Reader (Algorithm × List UInt8) :=
  inSequence do
    let _ ← naturalBelow 1
    let algorithm ← algorithm
    let key ← octetString
    let _ ← optional (.contextConstructed 0)
      (within (.contextConstructed 0) (setItems wrapperAttribute))
    pure (algorithm, key)

/-- The key in the general wrapper. -/
def ofWrapper? (der : List UInt8) : Option PrivateKey := do
  let (algorithm, key) ← wrapper.all der
  ofAlgorithm? algorithm key

/-- Reads the structure of discrete logarithm keys. -/
def dsaFields : Der.Reader PrivateKey :=
  inSequence do
    let _ ← naturalBelow 1
    let p ← natural
    let q ← natural
    let g ← natural
    let _ ← natural
    let x ← natural
    pure (.dsa ⟨p, q, g⟩ x)

/-- Reads a protected key: how it is protected and the protected bytes. -/
def protectedForm : Der.Reader (Algorithm × List UInt8) :=
  inSequence do
    let algorithm ← algorithm
    let bytes ← octetString
    pure (algorithm, bytes)

/-- The key of any structure, before its numbers are checked. -/
def ofStructure? (der : List UInt8) : Option PrivateKey :=
  (ofWrapper? der).or ((ofEcStructure? none der).or
    ((PrivateKey.rsa <$> rsaNumbers.all der).or (dsaFields.all der)))

/-- Whether the numbers of a key can be used. -/
def usable : PrivateKey → Bool
  | .rsa numbers => numbers.consistent
  | _ => true

/-- The unprotected key that `der` writes. -/
def ofDer (der : List UInt8) : Except ReadError PrivateKey :=
  match ofStructure? der with
  | some key => if key.usable then .ok key else .error .malformed
  | none =>
      if (protectedForm.all der).isSome then .error .passwordMissing else .error .malformed

end PemBundle.PrivateKey
