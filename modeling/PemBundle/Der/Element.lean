/-!
# DER elements

An element is an identifier, a length and its content. Only the distinguished form is read: the
shortest identifier and the shortest definite length, of at most four bytes. A reader takes the
bytes that are left and returns a value with the bytes after it; what is wrong does not matter, so
a failure carries nothing.
-/

namespace PemBundle.Der

/-- A reader of a byte string from its front. -/
abbrev Reader := StateT (List UInt8) Option

/-- The value that `reader` makes of all of `bytes`. -/
def Reader.all {α : Type} (reader : Reader α) (bytes : List UInt8) : Option α :=
  match reader.run bytes with
  | some (value, []) => some value
  | _ => none

/-- The number that bytes write, most significant first. -/
def bigEndian (bytes : List UInt8) : Nat := bytes.foldl (fun n b => n * 256 + b.toNat) 0

/-- An identifier: the class and form bits of the first byte, and the number. -/
structure Tag where
  bits : UInt8
  number : Nat
  deriving DecidableEq

/-- A primitive universal identifier. -/
def Tag.primitive (number : Nat) : Tag := ⟨0x00, number⟩

/-- A constructed universal identifier. -/
def Tag.constructed (number : Nat) : Tag := ⟨0x20, number⟩

/-- A primitive identifier of the context class. -/
def Tag.context (number : Nat) : Tag := ⟨0x80, number⟩

/-- A constructed identifier of the context class. -/
def Tag.contextConstructed (number : Nat) : Tag := ⟨0xa0, number⟩

/-! The universal identifiers. -/

def Tag.boolean : Tag := .primitive 1
def Tag.integer : Tag := .primitive 2
def Tag.bitString : Tag := .primitive 3
def Tag.octetString : Tag := .primitive 4
def Tag.null : Tag := .primitive 5
def Tag.objectIdentifier : Tag := .primitive 6
def Tag.sequence : Tag := .constructed 16
def Tag.set : Tag := .constructed 17
def Tag.printableString : Tag := .primitive 19
def Tag.utcTime : Tag := .primitive 23
def Tag.generalizedTime : Tag := .primitive 24
def Tag.universalString : Tag := .primitive 28
def Tag.bmpString : Tag := .primitive 30

/-- An element with all of its bytes. -/
structure Element where
  tag : Tag
  content : List UInt8
  bytes : List UInt8
  deriving DecidableEq

/-- Reads one byte. -/
def byte : Reader UInt8 := fun
  | [] => none
  | b :: rest => some (b, rest)

/-- Reads `count` bytes. -/
def take (count : Nat) : Reader (List UInt8) := fun bytes =>
  if count ≤ bytes.length then some (bytes.take count, bytes.drop count) else none

/-- Reads a number in groups of seven bits, the last one unmarked, of at most `fuel` groups. No
group before the first significant one is allowed. -/
def base128 (fuel : Nat) (high : Nat) : Reader Nat :=
  match fuel with
  | 0 => fun _ => none
  | fuel + 1 => do
      let b ← byte
      let n := high * 128 + b.toNat % 128
      if b.toNat < 128 then pure n
      else if n = 0 then failure
      else base128 fuel n

/-- Reads an identifier. -/
def tag : Reader Tag := do
  let b ← byte
  let bits := b &&& 0xe0
  let low := b.toNat % 32
  if low < 31 then pure ⟨bits, low⟩
  else
    let number ← base128 4 0
    if number < 31 then failure else pure ⟨bits, number⟩

/-- Reads a length. -/
def length : Reader Nat := do
  let b ← byte
  if b.toNat < 128 then pure b.toNat
  else
    let width := b.toNat - 128
    if width = 0 ∨ 4 < width then failure
    let content ← take width
    let n := bigEndian content
    if n < 128 ∨ content.head? = some 0 then failure else pure n

/-- Reads one element. -/
def element : Reader Element := fun bytes => do
  let ((tag, content), rest) ← (do
    let tag ← tag
    let content ← take (← length)
    pure (tag, content) : Reader (Tag × List UInt8)).run bytes
  pure (⟨tag, content, bytes.take (bytes.length - rest.length)⟩, rest)

/-- Reads an element with the given identifier and gives its content. -/
def expect (t : Tag) : Reader (List UInt8) := do
  let e ← element
  if e.tag = t then pure e.content else failure

/-- Whether an element with the given identifier comes next. -/
def peekTag (t : Tag) : Reader Bool := fun bytes =>
  match tag.run bytes with
  | some (found, _) => some (found = t, bytes)
  | none => if bytes.isEmpty then some (false, bytes) else none

/-- Whether no bytes are left. -/
def atEnd : Reader Bool := fun bytes => some (bytes.isEmpty, bytes)

/-- Reads with `reader` if an element with the given identifier comes next. -/
def optional {α : Type} (t : Tag) (reader : Reader α) : Reader (Option α) := do
  if ← peekTag t then some <$> reader else pure none

/-- Reads an element with the given identifier and all of its content with `inner`. -/
def within {α : Type} (t : Tag) (inner : Reader α) : Reader α := do
  let content ← expect t
  match inner.all content with
  | some value => pure value
  | none => failure

/-- Reads a sequence whose content is read by `inner`. -/
def inSequence {α : Type} (inner : Reader α) : Reader α := within .sequence inner

/-- Reads values to the end of the bytes; `fuel` bounds their number. -/
def manyFuel {α : Type} (item : Reader α) : (fuel : Nat) → Reader (List α)
  | 0 => pure []
  | fuel + 1 => fun bytes =>
      if bytes.isEmpty then some ([], [])
      else
        (do
          let value ← item
          let values ← manyFuel item fuel
          pure (value :: values) : Reader (List α)).run bytes

/-- Reads values to the end of the bytes. -/
def many {α : Type} (item : Reader α) : Reader (List α) := fun bytes =>
  (manyFuel item bytes.length).run bytes

/-- The order of byte strings. -/
def bytesLE : List UInt8 → List UInt8 → Bool
  | [], _ => true
  | _ :: _, [] => false
  | a :: as, b :: bs => if a = b then bytesLE as bs else a < b

/-- Whether each byte string is at most the next one. -/
def ascending : List (List UInt8) → Bool
  | a :: b :: rest => bytesLE a b && ascending (b :: rest)
  | _ => true

/-- Reads the items of a set to the end of the bytes: each is read with `item`, and their bytes are
in ascending order. -/
def setItems {α : Type} (item : Reader α) : Reader (List α) := fun bytes => do
  let (elements, _) ← (many element).run bytes
  if ascending (elements.map (·.bytes)) then (many item).run bytes else none

end PemBundle.Der
