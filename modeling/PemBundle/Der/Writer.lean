import PemBundle.Der.Value

/-!
# Writing DER

Elements are written with the shortest length and numbers with the fewest bytes, so what is written
can be read back.
-/

namespace PemBundle.Der

/-- The bytes of `n`, most significant first, as few as there are; `fuel` bounds their number. -/
def bytesOfNat (fuel n : Nat) : List UInt8 :=
  match fuel with
  | 0 => []
  | fuel + 1 => if n = 0 then [] else bytesOfNat fuel (n / 256) ++ [UInt8.ofNat (n % 256)]

/-- The fewest bytes that write `n`. -/
def minimalBytes (n : Nat) : List UInt8 := bytesOfNat (n.log2 / 8 + 1) n

/-- The `width` lowest bytes of `n`, most significant first. -/
def fixedBytes : (width : Nat) → Nat → List UInt8
  | 0, _ => []
  | width + 1, n => fixedBytes width (n / 256) ++ [UInt8.ofNat (n % 256)]

/-- The bytes of a length. -/
def writeLength (n : Nat) : List UInt8 :=
  if n < 128 then [UInt8.ofNat n]
  else
    let bytes := minimalBytes n
    UInt8.ofNat (128 + bytes.length) :: bytes

/-- An element whose identifier is one byte. -/
def write (identifier : UInt8) (content : List UInt8) : List UInt8 :=
  identifier :: writeLength content.length ++ content

/-- A sequence of elements. -/
def writeSequence (elements : List (List UInt8)) : List UInt8 := write 0x30 elements.flatten

/-- A whole number that is not negative. -/
def writeNatural (n : Nat) : List UInt8 :=
  let bytes := minimalBytes n
  write 0x02 (if 0x80 ≤ bytes.headD 0x80 then 0x00 :: bytes else bytes)

/-- A byte string. -/
def writeOctetString (content : List UInt8) : List UInt8 := write 0x04 content

/-- A bit string of whole bytes. -/
def writeBitString (content : List UInt8) : List UInt8 := write 0x03 (0x00 :: content)

/-- The empty value. -/
def writeNull : List UInt8 := write 0x05 []

/-- An object identifier. -/
def writeOid (oid : Oid) : List UInt8 := write 0x06 oid.content

/-- An explicit wrapper of the context class. -/
def writeExplicit (number : UInt8) (content : List UInt8) : List UInt8 :=
  write (0xa0 + number) content

end PemBundle.Der
