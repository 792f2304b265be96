import PemBundle.Base64
import PemBundle.Pem.Line
import PemBundle.Text.Ascii
import PemBundle.Text.Quoted

/-!
# Armored blocks

A block is a label, a payload and named headers. Its armor is a BEGIN line, the headers and an empty
line if there are any, the payload in base64 with 64 digits to a line, and an END line. Labels are
written in upper case, and only ASCII text can be written.
-/

namespace PemBundle.Pem

/-- Header names and values in the order in which the names first appeared. -/
abbrev Headers := List (String × String)

/-- The headers with `name` set to `value`, in its old place if it has one. -/
def Headers.set (name value : String) : Headers → Headers
  | [] => [(name, value)]
  | (n, v) :: rest =>
      if n = name then (n, value) :: rest else (n, v) :: Headers.set name value rest

/-- The headers of a list of settings, later ones replacing earlier ones of the same name. -/
def Headers.ofList (settings : List (String × String)) : Headers :=
  settings.foldl (fun headers (name, value) => Headers.set name value headers) []

/-- One block. -/
structure Block where
  label : String
  der : List UInt8
  headers : Headers
  deriving DecidableEq

/-- How many base64 digits a line of armor holds. -/
def lineWidth : Nat := 64

/-- `digits` cut into lines of `width`, each ended by a line feed; `fuel` bounds their number. -/
def wrapLines (width fuel : Nat) (digits : List Char) : List Char :=
  match fuel, digits with
  | 0, _ => []
  | _, [] => []
  | fuel + 1, digits =>
      digits.take width ++ '\n' :: wrapLines width fuel (digits.drop width)

/-- The base64 digits of `der` as text. -/
def digitChars (der : List UInt8) : List Char :=
  (Base64.encode der).map fun b => Char.ofNat b.toNat

/-- The lines of the body of a block. -/
def bodyChars (der : List UInt8) : List Char :=
  let digits := digitChars der
  wrapLines lineWidth digits.length digits

/-- The boundary line of `kind` (BEGIN or END) for a label in upper case. -/
def boundaryChars (kind : String) (label : List Char) : List Char :=
  "-----".toList ++ kind.toList ++ ' ' :: label ++ "-----\n".toList

/-- One header line. -/
def headerChars : String × String → List Char
  | (name, value) => name.toList ++ ':' :: ' ' :: value.toList ++ ['\n']

namespace Block

/-- The label as it is written. -/
def upperLabel (block : Block) : List Char := block.label.toList.flatMap Text.upperChar

/-- The characters of the block's armor. -/
def armorChars (block : Block) : List Char :=
  boundaryChars "BEGIN" block.upperLabel ++
    (if block.headers.isEmpty then [] else block.headers.flatMap headerChars ++ ['\n']) ++
    bodyChars block.der ++ boundaryChars "END" block.upperLabel

/-- The block's armor on its own. -/
def toPem (block : Block) : String := String.ofList block.armorChars

/-- The first run of characters outside ASCII in what the armor would hold of the label, the header
names and the values, in the order of writing. -/
def notAscii? (block : Block) : Option Text.NotAscii :=
  (Text.notAscii? block.upperLabel).or
    (block.headers.findSome? fun (name, value) =>
      (Text.notAscii? name.toList).or (Text.notAscii? value.toList))

/-- The block's armor, unless some of its text cannot be written. -/
def armor (block : Block) : Except Text.NotAscii String :=
  match block.notAscii? with
  | some run => .error run
  | none => .ok block.toPem

/-- The value of header `name`. -/
def header? (block : Block) (name : String) : Option String := block.headers.lookup name

/-- The block on one line, without its payload. -/
def describe (block : Block) : String :=
  "PemBlock(label=" ++ Text.quoted block.label ++ ", headers=\x7b" ++
    String.intercalate ", "
      (block.headers.map fun (name, value) => Text.quoted name ++ ": " ++ Text.quoted value) ++
    "\x7d)"

end Block

end PemBundle.Pem
