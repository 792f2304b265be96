import PemBundle.Credentials
import PemBundle.KeyEncoder

/-!
# Building credentials

Each operation gives new credentials or fails and leaves the old ones as they are. There is at most
one private key and at most one signing request, and chain elements are appended in the order of the
calls.
-/

namespace PemBundle.Credentials

variable {m : Type → Type} [Monad m]

/-- Encodes a key for storage; a password that counts as not given protects nothing. -/
def encodeForStorage (encode : KeyEncoder m) (key : PrivateKey) (password : Option Password)
    (format : Option CodeText) : m (Outcome CodeText) :=
  encode (some key) (Password.nonVoid? password) (some (format.getD ""))

/-- Credentials of a certificate and a key, each of which may be absent. -/
def build (encode : KeyEncoder m) (certificate : Option X509.Certificate)
    (key : Option PrivateKey) (password : Option Password) (format : Option CodeText) :
    m (Outcome Credentials) :=
  let start : Credentials := { empty with certificate := certificate.map (·.toPem) }
  match key with
  | none => pure (.success start)
  | some key => do
      let text ← encodeForStorage encode key password format
      pure (text.map fun text => { start with privateKey := some text })

/-- The credentials with an encoded key added. -/
def addPrivateKey [MonadLog m] (encode : KeyEncoder m) (c : Credentials)
    (key : Option PrivateKey) (password : Option Password) (format : Option CodeText) :
    m (Outcome Credentials) :=
  if c.hasPrivateKey then
    pure (.fail .duplicateKey "The PEM collection can only contain one private key")
  else
    match key with
    | none => pure (.fail .invalidInput "Signing key cannot be None")
    | some key => do
        let text ← encodeForStorage encode key password format
        (text.map fun text => { c with privateKey := some text }).peekM fun _ =>
          report (.keyAdded (Password.nonVoid? password).isSome)

/-- The credentials with a certificate added at the end of the chain. -/
def addChainElement (c : Credentials) (certificate : Option X509.Certificate) :
    Outcome Credentials :=
  (Outcome.ofOption certificate "Certificate cannot be None" .invalidInput).map fun certificate =>
    { c with chain := c.chain ++ [certificate.toPem] }

/-- The credentials with a signing request added. -/
def addCsr (c : Credentials) (request : Option SigningRequest) : Outcome Credentials :=
  if c.hasCsr then
    .fail .duplicateCsr "The PEM collection can only contain one certificate signing request"
  else
    (Outcome.ofOption request "Certificate signing request cannot be None" .invalidInput).map
      fun request => { c with csr := some request.toPem }

end PemBundle.Credentials
