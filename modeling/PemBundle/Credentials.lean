import PemBundle.Pem.Single
import PemBundle.X509.Certificate

/-!
# Credentials

Certificate, private key, chain and signing request, all kept as PEM text. A text that is empty
counts as absent. Nothing checks the texts that are put in; they may be no PEM, and no Unicode text
either.
-/

namespace PemBundle

/-- A set of credentials. -/
structure Credentials where
  certificate : Option CodeText
  privateKey : Option CodeText
  chain : List CodeText
  csr : Option CodeText
  deriving DecidableEq

/-- A signing request by its bytes. -/
structure SigningRequest where
  der : List UInt8
  deriving DecidableEq

/-- The PEM text of a certificate. -/
def X509.Certificate.toPem (certificate : X509.Certificate) : String :=
  Pem.Block.toPem ⟨Pem.certificateLabel, certificate.der, []⟩

/-- The PEM text of a signing request. -/
def SigningRequest.toPem (request : SigningRequest) : String :=
  Pem.Block.toPem ⟨Pem.requestLabel, request.der, []⟩

namespace Credentials

/-- No credentials. -/
def empty : Credentials := ⟨none, none, [], none⟩

/-- Whether an optional text is there and not empty. -/
def isPresent (text : Option CodeText) : Bool := text.getD "" != ""

/-- Whether there is a certificate. -/
def hasCertificate (c : Credentials) : Bool := isPresent c.certificate

/-- Whether there is a private key. -/
def hasPrivateKey (c : Credentials) : Bool := isPresent c.privateKey

/-- Whether there is a signing request. -/
def hasCsr (c : Credentials) : Bool := isPresent c.csr

/-- Whether there is nothing at all. -/
def isEmpty (c : Credentials) : Bool :=
  !(c.hasCertificate || c.hasPrivateKey || !c.chain.isEmpty || c.hasCsr)

/-- An optional text, quoted. -/
def describeText : Option CodeText → String
  | none => "None"
  | some text => text.quoted

/-- A sequence of texts, quoted and in brackets; a single one is followed by a comma. -/
def describeChain : List CodeText → String
  | [] => "()"
  | [text] => "(" ++ text.quoted ++ ",)"
  | texts => "(" ++ String.intercalate ", " (texts.map CodeText.quoted) ++ ")"

/-- The credentials on one line, without the private key. -/
def describe (c : Credentials) : String :=
  "PemCollection(certificate=" ++ describeText c.certificate ++ ", chain=" ++
    describeChain c.chain ++ ", csr=" ++ describeText c.csr ++ ")"

end Credentials

end PemBundle
