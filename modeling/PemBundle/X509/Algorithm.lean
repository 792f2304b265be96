import PemBundle.Der.Writer

/-!
# Algorithm identifiers

An algorithm is named by an object identifier, which also fixes the form of its parameters: none, an
optional empty value, a structure of its own, or, for algorithms not known here, any one element.
-/

namespace PemBundle.X509

open Der

/-- The parameters that choose an elliptic curve. -/
inductive CurveChoice
  | named (curve : Oid)
  | inherited
  | specified (content : List UInt8)
  deriving DecidableEq

/-- The numbers that all keys of a discrete logarithm group share. -/
structure GroupNumbers where
  p : Nat
  q : Nat
  g : Nat
  deriving DecidableEq

/-- Key derivation by iterated hashing: salt, iterations and the pseudo-random function. -/
structure Derivation where
  salt : List UInt8
  iterations : Nat
  keyLength : Option Nat
  prf : Option Oid
  deriving DecidableEq

/-- Parameters that later readers look into; the others are only checked for their form. -/
inductive Parameters
  | unused
  | curve (choice : CurveChoice)
  | group (numbers : GroupNumbers)
  | derivation (derivation : Derivation)
  | initialBlock (bytes : List UInt8)
  /-- Password-based encryption: the derivation of the key, and the cipher with its first block. -/
  | passwordBased (derivation : Option Derivation) (cipher : Oid) (initialBlock : List UInt8)
  deriving DecidableEq

/-- An algorithm with its parameters. -/
structure Algorithm where
  oid : Oid
  parameters : Parameters
  deriving DecidableEq

namespace Algorithm

def ecPublicKey : Oid := .ofArcs [1, 2, 840, 10045, 2, 1]
def rsaEncryption : Oid := .ofArcs [1, 2, 840, 113549, 1, 1, 1]
def rsaPss : Oid := .ofArcs [1, 2, 840, 113549, 1, 1, 10]
def dsa : Oid := .ofArcs [1, 2, 840, 10040, 4, 1]
def x25519 : Oid := .ofArcs [1, 3, 101, 110]
def x448 : Oid := .ofArcs [1, 3, 101, 111]
def ed25519 : Oid := .ofArcs [1, 3, 101, 112]
def ed448 : Oid := .ofArcs [1, 3, 101, 113]
def pbes2 : Oid := .ofArcs [1, 2, 840, 113549, 1, 5, 13]
def pbkdf2 : Oid := .ofArcs [1, 2, 840, 113549, 1, 5, 12]
def sha1 : Oid := .ofArcs [1, 3, 14, 3, 2, 26]
def mgf1 : Oid := .ofArcs [1, 2, 840, 113549, 1, 1, 8]
def hmacSha1 : Oid := .ofArcs [1, 2, 840, 113549, 2, 7]
def hmacSha256 : Oid := .ofArcs [1, 2, 840, 113549, 2, 9]
def aes256Cbc : Oid := .ofArcs [2, 16, 840, 1, 101, 3, 4, 1, 42]

/-- The algorithms of the key types that have no parameters. -/
def bareKeys : List Oid := [x25519, x448, ed25519, ed448]

/-- The block ciphers whose parameter is a first block of sixteen bytes. -/
def blockCiphers : List Oid :=
  [.ofArcs [2, 16, 840, 1, 101, 3, 4, 1, 2], .ofArcs [2, 16, 840, 1, 101, 3, 4, 1, 22], aes256Cbc]

/-- The hashes, signatures and keyed hashes whose parameters are the empty value or nothing. -/
def plain : List Oid :=
  [sha1, rsaEncryption, hmacSha1, .ofArcs [1, 3, 14, 3, 2, 29]] ++
    [4, 1, 2, 3, 7, 8, 9, 10].map (fun n => Oid.ofArcs [2, 16, 840, 1, 101, 3, 4, 2, n]) ++
    [1, 2, 3, 4, 9, 10, 11, 12, 13, 14, 15, 16].map
      (fun n => Oid.ofArcs [2, 16, 840, 1, 101, 3, 4, 3, n]) ++
    [1, 2, 3, 4].map (fun n => Oid.ofArcs [1, 2, 840, 10045, 4, 3, n]) ++
    [5, 14, 11, 12, 13].map (fun n => Oid.ofArcs [1, 2, 840, 113549, 1, 1, n]) ++
    [8, 9, 10, 11].map (fun n => Oid.ofArcs [1, 2, 840, 113549, 2, n])

/-- Writes an algorithm whose parameter is the empty value. -/
def writePlain (oid : Oid) : List UInt8 := writeSequence [writeOid oid, writeNull]

end Algorithm

/-- Reads the parameters that choose a curve. -/
def curveChoice : Reader CurveChoice := do
  if ← peekTag .objectIdentifier then
    return .named (← oid)
  if ← peekTag .null then
    null
    return .inherited
  return .specified (← expect .sequence)

/-- Reads the shared numbers of a discrete logarithm group. -/
def groupNumbers : Reader GroupNumbers :=
  inSequence do
    let p ← natural
    let q ← natural
    let g ← natural
    pure ⟨p, q, g⟩

/-- Reads an explicit field that is left out when it has the value written as `usual`. -/
def unlessUsual {α : Type} (number : Nat) (usual : List UInt8) (inner : Reader α) :
    Reader (Option α) :=
  optional (.contextConstructed number) do
    let content ← expect (.contextConstructed number)
    match inner.all content with
    | some value => if content = usual then failure else pure value
    | none => failure

/-- Reads the parameters of the probabilistic signature scheme. -/
def pssParameters (algorithm : Reader Algorithm) : Reader Unit :=
  inSequence do
    let hash := Algorithm.writePlain Algorithm.sha1
    let _ ← unlessUsual 0 hash algorithm
    let _ ← unlessUsual 1 (writeSequence [writeOid Algorithm.mgf1, hash]) (inSequence do
      let _ ← oid
      algorithm)
    let _ ← unlessUsual 2 (writeNatural 20) (naturalBelow (1 <<< 16))
    let _ ← unlessUsual 3 (writeNatural 1) (naturalBelow (1 <<< 8))

/-- Reads the parameters of key derivation by iterated hashing. -/
def derivationParameters (algorithm : Reader Algorithm) : Reader Derivation :=
  inSequence do
    let salt ← octetString
    let iterations ← naturalBelow (1 <<< 64)
    let keyLength ← optional .integer (naturalBelow (1 <<< 64))
    let prf ← optional .sequence do
      let found ← element
      match algorithm.all found.bytes with
      | some prf =>
          if found.bytes = Algorithm.writePlain Algorithm.hmacSha1 then failure else pure prf.oid
      | none => failure
    pure ⟨salt, iterations, keyLength, prf⟩

/-- Reads the parameters of password-based encryption. -/
def passwordParameters (algorithm : Reader Algorithm) : Reader Parameters :=
  inSequence do
    let derivation ← algorithm
    let cipher ← algorithm
    pure (.passwordBased
      (match derivation.parameters with | .derivation d => some d | _ => none) cipher.oid
      (match cipher.parameters with | .initialBlock b => b | _ => []))

/-- Reads the parameters of the algorithm `found`; inner algorithms are read with `algorithm`. -/
def parameters (algorithm : Reader Algorithm) (found : Oid) : Reader Parameters := do
  if found ∈ Algorithm.plain then
    let _ ← optional .null null
    return .unused
  if found ∈ Algorithm.bareKeys then
    return .unused
  if found = Algorithm.ecPublicKey then
    return .curve (← curveChoice)
  if found = Algorithm.dsa then
    return .group (← groupNumbers)
  if found = Algorithm.rsaPss then
    let _ ← optional .sequence (pssParameters algorithm)
    return .unused
  if found = Algorithm.pbes2 then
    return ← passwordParameters algorithm
  if found = Algorithm.pbkdf2 then
    return .derivation (← derivationParameters algorithm)
  if found ∈ Algorithm.blockCiphers then
    let block ← octetString
    if block.length = 16 then return .initialBlock block else failure
  unless ← atEnd do
    let _ ← element
  return .unused

/-- Reads an algorithm whose algorithms inside it are nested at most `depth` deep. -/
def algorithmWithin : (depth : Nat) → Reader Algorithm
  | 0 => failure
  | depth + 1 => inSequence do
      let found ← oid
      let parameters ← parameters (algorithmWithin depth) found
      pure ⟨found, parameters⟩

/-- Reads an algorithm; one inside another is shorter, so the length bounds the depth. -/
def algorithm : Reader Algorithm := fun bytes => (algorithmWithin bytes.length).run bytes

end PemBundle.X509
