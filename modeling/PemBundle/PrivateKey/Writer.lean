import PemBundle.Event

/-!
# Writing private keys

Keys with two factors and keys on a curve have a structure of their own. Every key has the general
wrapper, which names the algorithm and holds the structure or the secret bytes.
-/

namespace PemBundle

open Der X509

/-- The structure of a key with two prime factors. -/
def RsaNumbers.toDer (k : RsaNumbers) : List UInt8 :=
  writeSequence
    ([0, k.n, k.e, k.d, k.p, k.q, k.dmp1, k.dmq1, k.iqmp].map writeNatural)

/-- The structure of a key on a curve; inside the wrapper the curve is not repeated. -/
def EcNumbers.toDer (k : EcNumbers) (withCurve : Bool) : List UInt8 :=
  writeSequence
    ([writeNatural 1, writeOctetString (fixedBytes k.curve.scalarWidth k.d)] ++
      (if withCurve then [writeExplicit 0 (writeOid k.curve.oid)] else []) ++
      [writeExplicit 1 (writeBitString (k.curve.writePoint k.x k.y))])

namespace PrivateKey

/-- The algorithm that the wrapper names, with its parameters. -/
def writeAlgorithm : PrivateKey → List UInt8
  | .rsa _ => Algorithm.writePlain Algorithm.rsaEncryption
  | .ec k => writeSequence [writeOid Algorithm.ecPublicKey, writeOid k.curve.oid]
  | .dsa group _ =>
      writeSequence [writeOid Algorithm.dsa,
        writeSequence ([group.p, group.q, group.g].map writeNatural)]
  | .ed25519 _ => writeSequence [writeOid Algorithm.ed25519]
  | .ed448 _ => writeSequence [writeOid Algorithm.ed448]
  | .x25519 _ => writeSequence [writeOid Algorithm.x25519]
  | .x448 _ => writeSequence [writeOid Algorithm.x448]

/-- What the wrapper holds. -/
def wrappedContent : PrivateKey → List UInt8
  | .rsa k => k.toDer
  | .ec k => k.toDer false
  | .dsa _ x => writeNatural x
  | .ed25519 secret | .ed448 secret | .x25519 secret | .x448 secret => writeOctetString secret

/-- The key in the general wrapper. -/
def wrapped (key : PrivateKey) : List UInt8 :=
  writeSequence [writeNatural 0, key.writeAlgorithm, writeOctetString key.wrappedContent]

/-- The bytes of a key in the given form; a key without a structure of its own is wrapped. -/
def toDer (key : PrivateKey) (form : KeyForm) : List UInt8 :=
  match form, key with
  | .traditional, .rsa k => k.toDer
  | .traditional, .ec k => k.toDer true
  | _, key => key.wrapped

end PrivateKey

/-- The label of a block that holds a key of this kind in its own structure. -/
def KeyKind.label : KeyKind → String
  | .rsa => "RSA PRIVATE KEY"
  | .ec => "EC PRIVATE KEY"
  | _ => "PRIVATE KEY"

/-- The name of the format that prefers structures of their own. -/
def legacyFormat : String := "legacy-pem"

/-- The form in which a key of this kind is written, if it has a text form at all. -/
def KeyForm.choose? (kind : KeyKind) (format : CodeText) (encrypted : Bool) : Option KeyForm :=
  let legacy := format.unicode?.map Text.lower = some legacyFormat
  match kind with
  | .rsa => some (if legacy then .traditional else .wrapped)
  | .ec => some (if legacy || !encrypted then .traditional else .wrapped)
  | .ed25519 | .ed448 => some .wrapped
  | .dsa | .x25519 | .x448 => none

end PemBundle
