import PemBundle.Text.CodePoint

/-!
# UTF-16 code units

A character beyond the basic plane is two units, a high and a low surrogate; every other code point
is one unit. Reading joins a high surrogate with the low one right after it; a surrogate that stands
alone is kept.
-/

namespace PemBundle

namespace Text

/-- Whether `u` is the first unit of a pair. -/
def isHighSurrogate (u : Nat) : Bool := 0xd800 ≤ u && u < 0xdc00

/-- Whether `u` is the second unit of a pair. -/
def isLowSurrogate (u : Nat) : Bool := 0xdc00 ≤ u && u < 0xe000

/-- The code units of one character. -/
def charUnits (c : Char) : List Nat :=
  let n := c.toNat
  if n < 0x10000 then [n]
  else [0xd800 + (n - 0x10000) / 0x400, 0xdc00 + (n - 0x10000) % 0x400]

/-- The code point of one code unit or code point. -/
def unitPoint (u : Nat) : CodePoint :=
  if h : 0xd800 ≤ u ∧ u < 0xe000 then .surrogate ⟨u - 0xd800, by omega⟩ else .char (Char.ofNat u)

/-- The code points that a sequence of code units or code points stands for. -/
def ofUnits : List Nat → List CodePoint
  | [] => []
  | [u] => [unitPoint u]
  | u :: v :: rest =>
      if isHighSurrogate u && isLowSurrogate v then
        .char (Char.ofNat (0x10000 + (u - 0xd800) * 0x400 + (v - 0xdc00))) :: ofUnits rest
      else unitPoint u :: ofUnits (v :: rest)

end Text

/-- The code units of one code point. -/
def CodePoint.units : CodePoint → List Nat
  | .char c => Text.charUnits c
  | .surrogate offset => [0xd800 + offset]

end PemBundle
