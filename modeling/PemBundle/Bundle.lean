import PemBundle.Credentials

/-!
# Bundles

A bundle is a text of several blocks. Its certificates are read in order, the last private key block
is kept as it is, other blocks are passed over; a certificate block that is no certificate rejects
the whole bundle and ends the scan. A bundle that is a text without UTF-8 bytes breaks off.
-/

namespace PemBundle.Bundle

/-- What has been taken from the blocks of a bundle. -/
structure Contents where
  certificates : List X509.Certificate
  privateKey : Option Pem.Block
  skipped : Nat

/-- Nothing taken yet. -/
def Contents.empty : Contents := ⟨[], none, 0⟩

/-- The failure of a certificate block that is no certificate. -/
def rejection (index : Nat) (error : X509.CertificateError) : Failure :=
  ⟨.certificateDecodeError,
    "Failed to parse CERTIFICATE block #" ++ toString index ++ " as X.509",
    some (.certificate error)⟩

/-- Takes what one block holds. -/
def Contents.take (contents : Contents) (index : Nat) (block : Pem.Block) :
    Logged (Outcome Contents) :=
  if block.label = Pem.certificateLabel then
    match X509.Certificate.ofDer block.der with
    | .ok certificate =>
        pure (.success { contents with certificates := contents.certificates ++ [certificate] })
    | .error e => pure (.failure (rejection index e))
  else if Pem.privateKeyLabels.contains block.label then
    pure (.success { contents with privateKey := some block })
  else do
    report (.blockSkipped block.label index)
    pure (.success { contents with skipped := contents.skipped + 1 })

/-- Takes what the blocks hold, the first of which has the given index. -/
def Contents.takeAll (contents : Contents) (index : Nat) :
    List Pem.Block → Logged (Outcome Contents)
  | [] => pure (.success contents)
  | block :: rest => do
      (← contents.take index block).bindM fun contents => contents.takeAll (index + 1) rest

/-- The contents of a scanned bundle; why the scan stopped is seen only when it is run to its
end. -/
def Contents.ofScan (scan : Pem.Scan) : Logged (Outcome Contents) := do
  (← Contents.empty.takeAll 0 scan.blocks).peekM fun _ => scan.logged

/-- The credentials of a bundle's contents under the given order. -/
def Contents.assemble (contents : Contents) (order : ChainOrder) : Credentials :=
  let roles := order.assign contents.certificates
  { certificate := roles.leaf.map (·.toPem)
    privateKey := contents.privateKey.map (·.toPem)
    chain := roles.chain.map (·.toPem)
    csr := none }

/-- The credentials of a bundle. -/
def parse (order : ChainOrder) (data : List UInt8) : Logged (Outcome Credentials) := do
  match ← Contents.ofScan (Pem.scan data) with
  | .failure e => do
      report (.bundleRejected e.message)
      pure (.failure e)
  | .success contents => do
      report (.bundleParsed contents.certificates.length contents.privateKey.isSome
        contents.skipped order)
      pure (.success (contents.assemble order))

/-- The credentials of a bundle that may be a text. -/
def read (order : ChainOrder) (data : RawData) : Breaking (Outcome Credentials) := do
  parse order (← data.encode)

end PemBundle.Bundle
