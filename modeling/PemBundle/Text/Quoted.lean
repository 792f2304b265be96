import PemBundle.Text.Case
import PemBundle.Text.CodePoint
import PemBundle.Text.PrintableTable

/-!
# Quoted text

Text between quotes on one line: single quotes, or double quotes when the text holds a single and
no double quote. Backslash, the quote in use and every character that is not shown as itself are
written as escapes, with two, four or eight hexadecimal digits by size; so is every surrogate. The
refusals of encodings show their code points in the same way.
-/

namespace PemBundle

namespace Text

/-- Whether quoted text writes `c` as an escape because it would not be seen. -/
def isHidden (c : Char) : Bool :=
  let n := c.toNat
  if n < 0x7f then n < 0x20 else inRanges hiddenRanges n

/-- The lower-case hexadecimal digit of value `n`. -/
def hexDigit (n : Nat) : Char := Nat.digitChar (n % 16)

/-- The `width` lowest hexadecimal digits of `n`, highest first. -/
def hexDigits : (width : Nat) → Nat → List Char
  | 0, _ => []
  | width + 1, n => hexDigits width (n / 16) ++ [hexDigit n]

/-- The escape of a character by its code point. -/
def escapeCode (n : Nat) : List Char :=
  if n < 0x100 then '\\' :: 'x' :: hexDigits 2 n
  else if n < 0x10000 then '\\' :: 'u' :: hexDigits 4 n
  else '\\' :: 'U' :: hexDigits 8 n

/-- One character of quoted text between marks `quote`. -/
def quoteChar (quote c : Char) : List Char :=
  if c = quote ∨ c = '\\' then ['\\', c]
  else if c = '\n' then ['\\', 'n']
  else if c = '\r' then ['\\', 'r']
  else if c = '\t' then ['\\', 't']
  else if isHidden c then escapeCode c.toNat
  else [c]

/-- One code point of quoted text between marks `quote`. -/
def quotePoint (quote : Char) : CodePoint → List Char
  | .char c => quoteChar quote c
  | .surrogate offset => escapeCode (0xd800 + offset)

/-- The mark that quoted text uses for `points`. -/
def quoteMark (points : List CodePoint) : Char :=
  if .char '\'' ∈ points ∧ .char '"' ∉ points then '"' else '\''

/-- Code points between quotes, with escapes. -/
def quotedPoints (points : List CodePoint) : String :=
  let quote := quoteMark points
  String.ofList (quote :: points.flatMap (quotePoint quote) ++ [quote])

/-- The text between quotes, with escapes. -/
def quoted (text : String) : String := quotedPoints (text.toList.map .char)

/-- The refusal of an encoding: the first code point when it stands alone, else where the run of
what has no code starts and ends. -/
def unencodable (encoding : String) (first position length : Nat) (reason : String) : String :=
  let what :=
    if length = 1 then
      "character '" ++ String.ofList (escapeCode first) ++ "' in position " ++ toString position
    else "characters in position " ++ toString position ++ "-" ++ toString (position + length - 1)
  "'" ++ encoding ++ "' codec can't encode " ++ what ++ ": " ++ reason

/-- The refusal of text outside ASCII. -/
def NotAscii.message (run : NotAscii) : String :=
  unencodable "ascii" run.first.toNat run.position run.length "ordinal not in range(128)"

end Text

/-- The text between quotes, with escapes. -/
def CodeText.quoted (text : CodeText) : String := Text.quotedPoints text.points

/-- The refusal of surrogates where UTF-8 bytes are asked for. -/
def SurrogateRun.message (run : SurrogateRun) : String :=
  Text.unencodable "utf-8" (0xd800 + run.first) run.position run.length "surrogates not allowed"

end PemBundle
