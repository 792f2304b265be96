import PemBundle.Json
import PemBundle.Text.Quoted
import PemBundle.Text.Utf16

/-!
# Writing JSON text

A value is written on one line in ASCII: items are parted by a comma and a space, a name and its
value by a colon and a space, and code points outside ASCII are written as escapes of their UTF-16
units.
-/

namespace PemBundle.Json

/-- The four-digit escape of one code unit. -/
def escapeUnit (u : Nat) : List Char := '\\' :: 'u' :: Text.hexDigits 4 u

/-- One character inside the quotes of a text. -/
def escapeChar (c : Char) : List Char :=
  if c = '"' ∨ c = '\\' then ['\\', c]
  else if c = '\n' then ['\\', 'n']
  else if c = '\r' then ['\\', 'r']
  else if c = '\t' then ['\\', 't']
  else if c = '\x08' then ['\\', 'b']
  else if c = '\x0c' then ['\\', 'f']
  else if 0x20 ≤ c.toNat ∧ c.toNat < 0x7f then [c]
  else (Text.charUnits c).flatMap escapeUnit

/-- One code point inside the quotes of a text. -/
def escapePoint : CodePoint → List Char
  | .char c => escapeChar c
  | .surrogate offset => escapeUnit (0xd800 + offset)

/-- A text in quotes. -/
def textChars (s : CodeText) : List Char :=
  '"' :: s.points.flatMap escapePoint ++ ['"']

/-- A number that is not whole: its digits and its exponent. -/
def decimalChars : Decimal → List Char
  | .finite negative digits exponent =>
      (if negative then ['-'] else []) ++ Nat.toDigits 10 digits ++ 'e' :: (toString exponent).toList
  | .infinite negative => (if negative then ['-'] else []) ++ "Infinity".toList
  | .notANumber => "NaN".toList

mutual

/-- The characters that write a value. -/
def chars : Json → List Char
  | .null => "null".toList
  | .bool true => "true".toList
  | .bool false => "false".toList
  | .int n => (toString n).toList
  | .decimal d => decimalChars d
  | .text s => textChars s
  | .list items => '[' :: itemChars items ++ [']']
  | .object fields => '{' :: fieldChars fields ++ ['}']

/-- The items of a list, parted by commas. -/
def itemChars : List Json → List Char
  | [] => []
  | [v] => chars v
  | v :: rest => chars v ++ ',' :: ' ' :: itemChars rest

/-- The fields of an object, parted by commas. -/
def fieldChars : List (CodeText × Json) → List Char
  | [] => []
  | [(n, v)] => textChars n ++ ':' :: ' ' :: chars v
  | (n, v) :: rest => textChars n ++ ':' :: ' ' :: chars v ++ ',' :: ' ' :: fieldChars rest

end

/-- The text that writes a value. -/
def render (value : Json) : String := String.ofList (chars value)

end PemBundle.Json
