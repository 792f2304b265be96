/-!
# Base64

Three bytes are written as four digits, a last group of one or two bytes with two or one padding
signs. Reading is lenient: bytes outside the alphabet are passed over, and padding counts only where
it completes a group of at least two digits; it then ends the reading. Each byte read is one step of
a reader state, so reading a concatenation continues from where the first part ended.
-/

namespace PemBundle.Base64

/-- The digit that writes the six-bit value `v`. -/
def digit (v : Nat) : UInt8 :=
  if v < 26 then UInt8.ofNat (0x41 + v)
  else if v < 52 then UInt8.ofNat (0x61 + (v - 26))
  else if v < 62 then UInt8.ofNat (0x30 + (v - 52))
  else if v = 62 then 0x2b
  else 0x2f

/-- The six-bit value that the byte writes. -/
def value? (b : UInt8) : Option Nat :=
  let n := b.toNat
  if 0x41 ≤ n ∧ n ≤ 0x5a then some (n - 0x41)
  else if 0x61 ≤ n ∧ n ≤ 0x7a then some (n - 0x61 + 26)
  else if 0x30 ≤ n ∧ n ≤ 0x39 then some (n - 0x30 + 52)
  else if n = 0x2b then some 62
  else if n = 0x2f then some 63
  else none

/-- The padding sign. -/
def pad : UInt8 := 0x3d

/-- The digits that write `bytes`, without line breaks. -/
def encode : List UInt8 → List UInt8
  | [] => []
  | [x] => [digit (x.toNat / 4), digit (x.toNat % 4 * 16), pad, pad]
  | [x, y] =>
      [digit (x.toNat / 4), digit (x.toNat % 4 * 16 + y.toNat / 16), digit (y.toNat % 16 * 4), pad]
  | x :: y :: z :: rest =>
      digit (x.toNat / 4) :: digit (x.toNat % 4 * 16 + y.toNat / 16) ::
        digit (y.toNat % 16 * 4 + z.toNat / 64) :: digit (z.toNat % 64) :: encode rest

/-- Why text is not base64. -/
inductive Error
  /-- One digit is left over after the complete groups; `count` digits were read. -/
  | strayDigit (count : Nat)
  | missingPadding
  deriving DecidableEq

/-- The wording of an error. -/
def Error.message : Error → String
  | .strayDigit count =>
      "Invalid base64-encoded string: number of data characters (" ++ toString count ++
        ") cannot be 1 more than a multiple of 4"
  | .missingPadding => "Incorrect padding"

/-- The bytes that a group of two, three or four six-bit values writes. -/
def groupBytes : List Nat → List UInt8
  | [a, b] => [UInt8.ofNat (a * 4 + b / 16)]
  | [a, b, c] => [UInt8.ofNat (a * 4 + b / 16), UInt8.ofNat (b % 16 * 16 + c / 4)]
  | [a, b, c, d] =>
      [UInt8.ofNat (a * 4 + b / 16), UInt8.ofNat (b % 16 * 16 + c / 4),
        UInt8.ofNat (c % 4 * 64 + d)]
  | _ => []

/-- What has been read: the bytes of the complete groups in reverse, the values of the open group,
the padding signs since its last digit, and whether padding has ended the reading. -/
structure State where
  reversed : List UInt8
  group : List Nat
  pads : Nat
  ended : Bool
  deriving DecidableEq

/-- Nothing read yet. -/
def State.start : State := ⟨[], [], 0, false⟩

/-- The state after one more byte. -/
def State.step (s : State) (b : UInt8) : State :=
  if s.ended then s
  else if b = pad then
    if s.group.length < 2 then s
    else if s.group.length + (s.pads + 1) < 4 then { s with pads := s.pads + 1 }
    else ⟨(groupBytes s.group).reverse ++ s.reversed, [], 0, true⟩
  else
    match value? b with
    | none => s
    | some v =>
        if s.group.length = 3 then
          ⟨(groupBytes (s.group ++ [v])).reverse ++ s.reversed, [], 0, false⟩
        else { s with group := s.group ++ [v], pads := 0 }

/-- The state after all of `text`. -/
def State.run (s : State) (text : List UInt8) : State := text.foldl State.step s

@[simp] theorem State.run_nil (s : State) : s.run [] = s := rfl

@[simp] theorem State.run_cons (s : State) (b : UInt8) (text : List UInt8) :
    s.run (b :: text) = (s.step b).run text := rfl

/-- Reading a concatenation continues from the state after its first part. -/
theorem State.run_append (s : State) (first second : List UInt8) :
    s.run (first ++ second) = (s.run first).run second := List.foldl_append

/-- The bytes read, if no group is left open. -/
def State.finish (s : State) : Except Error (List UInt8) :=
  match s.group with
  | [] => .ok s.reversed.reverse
  | [_] => .error (.strayDigit (s.reversed.length / 3 * 4 + 1))
  | _ => .error .missingPadding

/-- The bytes that `text` writes. -/
def decode (text : List UInt8) : Except Error (List UInt8) := (State.start.run text).finish

end PemBundle.Base64
