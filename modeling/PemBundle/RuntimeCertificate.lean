import PemBundle.Credentials
import PemBundle.PrivateKey.Writer

/-!
# Run-time certificates

What a program needs to prove its identity: the certificates as bytes, the end entity's first, and
the private key as numbers. Credentials give one if certificate and key are there, every text can be
decoded, and the key block is one that can be used without a password. A text without UTF-8 bytes
breaks off where it is decoded.
-/

namespace PemBundle

/-- Certificates as bytes, the end entity's first, and the private key. -/
structure RuntimeCertificate where
  chain : List (List UInt8)
  privateKey : PrivateKey

namespace RuntimeCertificate

/-- The end entity's certificate of a chain. -/
def leafOf (chain : List (List UInt8)) : Except Fault X509.Certificate :=
  match chain with
  | [] => .error .emptyChain
  | der :: _ =>
      match X509.Certificate.ofDer der with
      | .ok certificate => .ok certificate
      | .error e => .error (.certificate e)

/-- The end entity's certificate. -/
def leaf (runtime : RuntimeCertificate) : Except Fault X509.Certificate := leafOf runtime.chain

/-- A run-time certificate on one line; it shows nothing of its contents. -/
def description : String := "RuntimeCertificate()"

/-- The kind of key that a block of the given label holds, for the labels that can be exported. -/
def exportableKind? (label : String) : Option KeyKind :=
  if label = KeyKind.ec.label then some .ec
  else if label = KeyKind.rsa.label then some .rsa
  else none

/-- Whether the headers of a block say that it is protected by a password. -/
def isProtected (block : Pem.Block) : Bool :=
  Pem.occursIn "ENCRYPTED".toList ((block.header? "Proc-Type").getD "").toList

/-- The key of the given kind that `der` writes in a block of the given label. -/
def readKey (label : String) (kind : KeyKind) (der : List UInt8) : Except Fault PrivateKey :=
  match PrivateKey.ofDer der with
  | .error e => .error (.key e)
  | .ok key => if key.kind = kind then .ok key else .error (.keyMismatch label key.kind)

/-- The key in a block. -/
def keyOfBlock (block : Pem.Block) : Logged (Outcome PrivateKey) :=
  match exportableKind? block.label, isProtected block with
  | some kind, false =>
      pure (.ofExcept .malformedInput ("Failed to parse " ++ block.label ++ " block")
        (readKey block.label kind block.der))
  | _, encrypted => do
      report (.keyUnsupported block.label encrypted)
      pure (.fail .unsupportedKey
        ("Private key block " ++ Text.quoted block.label ++
          " cannot be converted to a runtime key"))

/-- The bytes of the certificate in a text. -/
def decodeCertificate (text : Option CodeText) (what : String) :
    Breaking (Outcome (List UInt8)) := do
  let block ← Pem.decodeRaw (text.map .text) what (.oneOf [Pem.certificateLabel])
  pure (block.map (·.der))

/-- The bytes of the certificates in the texts of a chain. -/
def decodeChain (chain : List CodeText) : Breaking (Outcome (List (List UInt8))) :=
  Outcome.allOfM ((chain.zipIdx).map fun (text, index) =>
    decodeCertificate (some text) ("chain entry #" ++ toString index))

/-- The key in a text. -/
def decodePrivateKey (text : Option CodeText) : Breaking (Outcome PrivateKey) := do
  let block ← Pem.decodeRaw (text.map .text) "private key" (.oneOf Pem.privateKeyLabels)
  block.bindM fun block => keyOfBlock block

/-- The run-time certificate of credentials. -/
def ofCredentials (c : Credentials) : Breaking (Outcome RuntimeCertificate) := do
  let leaf ← decodeCertificate c.certificate "certificate"
  leaf.bindM fun leaf => do
    let chain ← decodeChain c.chain
    chain.bindM fun chain => do
      let key ← decodePrivateKey c.privateKey
      let runtime := key.map fun key => ⟨leaf :: chain, key⟩
      runtime.peekM fun runtime =>
        report (.exported runtime.chain.length runtime.privateKey.kind)

end RuntimeCertificate

end PemBundle
