import PemBundle.Der.Element

/-!
# DER values

The contents of the primitive types: whole numbers in the fewest bytes, bit strings whose unused
bits are zero, object identifiers with arcs in the fewest bytes.
-/

namespace PemBundle.Der

/-- Whether the content of a whole number has the fewest bytes. -/
def isMinimalInteger : List UInt8 → Bool
  | [] => false
  | [_] => true
  | a :: b :: _ => !(a = 0x00 && b < 0x80) && !(a = 0xff && 0x80 ≤ b)

/-- Reads a whole number of any sign. -/
def integer : Reader Int := do
  let content ← expect .integer
  if !isMinimalInteger content then failure
  let n := bigEndian content
  pure (if 0x80 ≤ content.headD 0 then n - (1 <<< (8 * content.length) : Nat) else n)

/-- Reads a whole number that is not negative. -/
def natural : Reader Nat := do
  match ← integer with
  | .ofNat n => pure n
  | .negSucc _ => failure

/-- Reads a whole number below `bound`. -/
def naturalBelow (bound : Nat) : Reader Nat := do
  let n ← natural
  if n < bound then pure n else failure

/-- Reads a truth value. -/
def boolean : Reader Bool := do
  match ← expect .boolean with
  | [0x00] => pure false
  | [0xff] => pure true
  | _ => failure

/-- Reads the empty value. -/
def null : Reader Unit := do
  if (← expect .null).isEmpty then pure () else failure

/-- Reads a byte string. -/
def octetString : Reader (List UInt8) := expect .octetString

/-- The bytes of the content of a bit string: the first byte counts the unused bits. -/
def bitStringContent : List UInt8 → Option (List UInt8)
  | [] => none
  | unused :: data =>
      if 7 < unused then none
      else
        match data.getLast? with
        | none => if unused = 0 then some [] else none
        | some last => if last.toNat % (1 <<< unused.toNat) = 0 then some data else none

/-- Reads a bit string with the given identifier. -/
def bitStringTagged (t : Tag) : Reader (List UInt8) := do
  match bitStringContent (← expect t) with
  | some data => pure data
  | none => failure

/-- Reads a bit string. -/
def bitString : Reader (List UInt8) := bitStringTagged .bitString

/-- An object identifier by the content that writes it. -/
structure Oid where
  content : List UInt8
  deriving DecidableEq

/-- The groups of seven bits of `n`, all but the last one marked. -/
def base128Groups (fuel n : Nat) (mark : Nat) : List UInt8 :=
  match fuel with
  | 0 => []
  | fuel + 1 =>
      (if n < 128 then [] else base128Groups fuel (n / 128) 128) ++ [UInt8.ofNat (n % 128 + mark)]

/-- The object identifier with the given arcs. -/
def Oid.ofArcs : List Nat → Oid
  | first :: second :: rest =>
      ⟨((first * 40 + second) :: rest).flatMap fun arc => base128Groups (arc + 1) arc 0⟩
  | _ => ⟨[]⟩

/-- The longest content of an object identifier. -/
def Oid.maxLength : Nat := 63

/-- Reads an object identifier. -/
def oid : Reader Oid := do
  let content ← expect .objectIdentifier
  if content.isEmpty ∨ Oid.maxLength < content.length then failure
  match (many (base128 4 0)).all content with
  | some _ => pure ⟨content⟩
  | none => failure

end PemBundle.Der
