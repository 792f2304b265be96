import PemBundle.X509.Algorithm

/-!
# Certificates

A certificate is accepted when its bytes have the form of the standard in the distinguished encoding
and it is of version one or three. The bytes are kept; nothing is recomputed when it is written.
-/

namespace PemBundle.X509

open Der

/-- Why bytes are not a certificate. -/
inductive CertificateError
  | malformed
  /-- A version that is neither one (zero on the wire) nor three (two on the wire). -/
  | invalidVersion (version : Nat)
  deriving DecidableEq

/-- The wording of an error. -/
def CertificateError.message : CertificateError → String
  | .malformed => "error parsing asn1 value"
  | .invalidVersion version => toString version ++ " is not a valid X509 version"

/-- The characters of printable strings. -/
def isPrintableByte (b : UInt8) : Bool :=
  (0x41 ≤ b && b ≤ 0x5a) || (0x61 ≤ b && b ≤ 0x7a) || (0x30 ≤ b && b ≤ 0x39) ||
    [0x20, 0x27, 0x28, 0x29, 0x2b, 0x2c, 0x2d, 0x2e, 0x2f, 0x3a, 0x3d, 0x3f].contains b

/-- The numbers that groups of `width` bytes write, if the bytes are whole groups. -/
def groups? (width : Nat) : (fuel : Nat) → List UInt8 → Option (List Nat)
  | 0, bytes => if bytes.isEmpty then some [] else none
  | fuel + 1, bytes =>
      if bytes.isEmpty then some []
      else if bytes.length < width then none
      else (groups? width fuel (bytes.drop width)).map (bigEndian (bytes.take width) :: ·)

/-- Whether surrogates stand in pairs only. -/
def pairsSurrogates : List Nat → Bool
  | [] => true
  | [u] => !(0xd800 ≤ u && u < 0xe000)
  | u :: v :: rest =>
      if 0xd800 ≤ u && u < 0xdc00 then (0xdc00 ≤ v && v < 0xe000) && pairsSurrogates rest
      else !(0xdc00 ≤ u && u < 0xe000) && pairsSurrogates (v :: rest)

/-- Whether a string type that has a form of its own allows the content. -/
def isStringContent (t : Tag) (content : List UInt8) : Bool :=
  if t = .printableString then content.all isPrintableByte
  else if t = .bmpString then
    match groups? 2 content.length content with
    | some units => pairsSurrogates units
    | none => false
  else if t = .universalString then
    match groups? 4 content.length content with
    | some points => points.all fun n => n < 0xd800 || (0xe000 ≤ n && n < 0x110000)
    | none => false
  else true

/-- Reads an attribute of a name. -/
def nameAttribute : Reader Unit :=
  inSequence do
    let _ ← oid
    let value ← element
    if isStringContent value.tag value.content then pure () else failure

/-- Reads a name: a sequence of sets of attributes. -/
def name : Reader Unit :=
  inSequence do
    let _ ← many (within .set (setItems nameAttribute))

/-- The number that two decimal digits write. -/
def twoDigits : Reader Nat := do
  let a ← byte
  let b ← byte
  if 0x30 ≤ a ∧ a ≤ 0x39 ∧ 0x30 ≤ b ∧ b ≤ 0x39 then
    pure ((a.toNat - 0x30) * 10 + (b.toNat - 0x30))
  else failure

/-- How many days a month has; none if there is no such month. -/
def daysInMonth (year month : Nat) : Nat :=
  if month = 2 then
    if year % 4 = 0 ∧ (year % 100 ≠ 0 ∨ year % 400 = 0) then 29 else 28
  else if month ∈ [4, 6, 9, 11] then 30
  else if 1 ≤ month ∧ month ≤ 12 then 31
  else 0

/-- Reads a moment of the calendar in universal time, after its year. -/
def moment (year : Nat) : Reader Unit := do
  let month ← twoDigits
  let day ← twoDigits
  let hour ← twoDigits
  let minute ← twoDigits
  let second ← twoDigits
  let zone ← byte
  if 1 ≤ day ∧ day ≤ daysInMonth year month ∧ hour < 24 ∧ minute < 60 ∧ second < 60 ∧
      zone = 0x5a then
    pure ()
  else failure

/-- Reads a time with a two-digit or a four-digit year. -/
def time : Reader Unit := do
  if ← peekTag .utcTime then
    within .utcTime do
      let year ← twoDigits
      moment (if 50 ≤ year then 1900 + year else 2000 + year)
  else
    within .generalizedTime do
      let century ← twoDigits
      let year ← twoDigits
      moment (century * 100 + year)

/-- Reads an extension; a mark for critical is left out when it is false. -/
def extension : Reader Unit :=
  inSequence do
    let _ ← oid
    let critical ← optional .boolean boolean
    if critical = some false then failure
    let _ ← octetString

/-- Reads the signed part of a certificate and gives its version. -/
def signedPart : Reader Nat :=
  inSequence do
    let version ← unlessUsual 0 (writeNatural 0) (naturalBelow (1 <<< 8))
    let _ ← integer
    let _ ← algorithm
    name
    inSequence do
      time
      time
    name
    inSequence do
      let _ ← algorithm
      let _ ← bitString
    let _ ← optional (.context 1) (bitStringTagged (.context 1))
    let _ ← optional (.context 2) (bitStringTagged (.context 2))
    let _ ← optional (.contextConstructed 3)
      (within (.contextConstructed 3) (inSequence (many extension)))
    pure (version.getD 0)

/-- Reads a certificate and gives its version. -/
def certificateForm : Reader Nat :=
  inSequence do
    let version ← signedPart
    let _ ← algorithm
    let _ ← bitString
    pure version

/-- Whether `der` is a certificate, and if not, why. -/
def checkCertificate (der : List UInt8) : Except CertificateError Unit :=
  match certificateForm.all der with
  | none => .error .malformed
  | some version =>
      if version = 0 ∨ version = 2 then .ok () else .error (.invalidVersion version)

/-- A certificate by its bytes. -/
structure Certificate where
  der : List UInt8
  accepted : checkCertificate der = .ok ()

/-- The certificate that `der` writes. -/
def Certificate.ofDer (der : List UInt8) : Except CertificateError Certificate :=
  match h : checkCertificate der with
  | .ok () => .ok ⟨der, h⟩
  | .error e => .error e

/-- A certificate that was read is written as the bytes it was read from. -/
theorem Certificate.der_of_ofDer {der : List UInt8} {c : Certificate}
    (h : Certificate.ofDer der = .ok c) : c.der = der := by
  unfold Certificate.ofDer at h
  split at h
  · injection h with h
    subst h
    rfl
  · exact nomatch h

end PemBundle.X509
