import PemBundle.Json
import PemBundle.Text.Utf16

/-!
# Reading JSON text

A reader takes the characters that are left and returns a value with the characters after it. What
is wrong is reported with the characters left at the place, from which line and column follow.
Containers may be nested to a fixed depth and whole numbers have a limited number of digits.
-/

namespace PemBundle.Json

/-- What is wrong with a text that is not JSON. -/
inductive Problem
  | valueExpected
  | nameExpected
  | colonExpected
  | commaExpected
  | extraData
  | unterminatedText
  | controlCharacter
  | unknownEscape
  | badUnicodeEscape
  | byteOrderMark
  deriving DecidableEq

/-- The wording of a problem, without its place. -/
def Problem.message : Problem → String
  | .valueExpected => "Expecting value"
  | .nameExpected => "Expecting property name enclosed in double quotes"
  | .colonExpected => "Expecting ':' delimiter"
  | .commaExpected => "Expecting ',' delimiter"
  | .extraData => "Extra data"
  | .unterminatedText => "Unterminated string starting at"
  | .controlCharacter => "Invalid control character at"
  | .unknownEscape => "Invalid \\escape"
  | .badUnicodeEscape => "Invalid \\uXXXX escape"
  | .byteOrderMark => "Unexpected UTF-8 BOM (decode using utf-8-sig)"

/-- The two kinds of container. -/
inductive Container
  | array
  | object
  deriving DecidableEq

/-- Why reading stops, inside the text. -/
inductive Stop
  /-- A problem, with the characters left at its place. -/
  | problem (what : Problem) (left : List Char)
  | tooDeep (container : Container)
  | tooManyDigits (count : Nat)
  deriving DecidableEq

/-- A reader returns a value and the characters after it. -/
abbrev Reader (α : Type) := List Char → Except Stop (α × List Char)

/-- How deep containers may be nested. -/
def maxDepth : Nat := 985

/-- How many digits a whole number may have. -/
def maxDigits : Nat := 4300

/-- The white space between tokens. -/
def isSpace (c : Char) : Bool := c = ' ' || c = '\t' || c = '\n' || c = '\r'

/-- The characters from the first that is not white space. -/
def skipSpace (cs : List Char) : List Char := cs.dropWhile isSpace

/-- The value of a hexadecimal digit. -/
def hexValue? (c : Char) : Option Nat :=
  if '0' ≤ c ∧ c ≤ '9' then some (c.toNat - '0'.toNat)
  else if 'a' ≤ c ∧ c ≤ 'f' then some (c.toNat - 'a'.toNat + 10)
  else if 'A' ≤ c ∧ c ≤ 'F' then some (c.toNat - 'A'.toNat + 10)
  else none

/-- The number that four hexadecimal digits write. -/
def hexUnit? (a b c d : Char) : Option Nat := do
  let a ← hexValue? a
  let b ← hexValue? b
  let c ← hexValue? c
  let d ← hexValue? d
  pure (((a * 16 + b) * 16 + c) * 16 + d)

/-- The character that a one-letter escape stands for. -/
def shortEscape? : Char → Option Char
  | '"' => some '"'
  | '\\' => some '\\'
  | '/' => some '/'
  | 'b' => some '\x08'
  | 'f' => some '\x0c'
  | 'n' => some '\n'
  | 'r' => some '\r'
  | 't' => some '\t'
  | _ => none

/-- Reads the rest of a text after its opening quote into code units, in reverse; `start` is where
the quote stands. A four-digit escape must not be the last thing of the input. -/
def readUnits (start : List Char) (units : List Nat) : Reader (List Nat)
  | [] => .error (.problem .unterminatedText start)
  | '"' :: rest => .ok (units, rest)
  | '\\' :: [] => .error (.problem .unterminatedText start)
  | '\\' :: 'u' :: a :: b :: c :: d :: rest =>
      match hexUnit? a b c d, rest with
      | some u, _ :: _ => readUnits start (u :: units) rest
      | _, _ => .error (.problem .badUnicodeEscape ('u' :: a :: b :: c :: d :: rest))
  | '\\' :: 'u' :: rest => .error (.problem .badUnicodeEscape ('u' :: rest))
  | '\\' :: c :: rest =>
      match shortEscape? c with
      | some e => readUnits start (e.toNat :: units) rest
      | none => .error (.problem .unknownEscape ('\\' :: c :: rest))
  | c :: rest =>
      if c.toNat < 0x20 then .error (.problem .controlCharacter (c :: rest))
      else readUnits start (c.toNat :: units) rest

/-- Reads a text whose opening quote has been taken from the head of `start`. -/
def readText (start rest : List Char) : Except Stop (CodeText × List Char) := do
  let (units, rest) ← readUnits start [] rest
  pure (CodeText.ofPoints (Text.ofUnits units.reverse), rest)

/-- The digits at the head and the characters after them. -/
def takeDigits (cs : List Char) : List Char × List Char :=
  (cs.takeWhile Char.isDigit, cs.dropWhile Char.isDigit)

/-- The number that decimal digits write. -/
def digitsValue (ds : List Char) : Nat :=
  ds.foldl (fun n d => n * 10 + (d.toNat - '0'.toNat)) 0

/-- The digits of a whole part: a zero alone, or digits that start with another. -/
def wholePart? : List Char → Option (List Char × List Char)
  | '0' :: rest => some (['0'], rest)
  | c :: rest => if c.isDigit then some (takeDigits (c :: rest)) else none
  | [] => none

/-- The digits after a point, when a digit follows it. -/
def fractionPart (cs : List Char) : List Char × List Char :=
  match cs with
  | '.' :: rest =>
      match takeDigits rest with
      | ([], _) => ([], cs)
      | (ds, rest) => (ds, rest)
  | _ => ([], cs)

/-- The exponent after its letter, when digits follow. -/
def exponentPart? (cs : List Char) : Option (Int × List Char) :=
  match cs with
  | c :: rest =>
      if c = 'e' ∨ c = 'E' then
        let (negative, rest) :=
          match rest with
          | '-' :: rest => (true, rest)
          | '+' :: rest => (false, rest)
          | _ => (false, rest)
        match takeDigits rest with
        | ([], _) => none
        | (ds, rest) =>
            let size : Int := digitsValue ds
            some (if negative then -size else size, rest)
      else none
  | [] => none

/-- Reads a number after its sign, at whose place `start` stands. -/
def readNumber (start : List Char) (negative : Bool) (cs : List Char) :
    Except Stop (Json × List Char) :=
  match wholePart? cs with
  | none => .error (.problem .valueExpected start)
  | some (whole, rest) =>
      let (fraction, rest) := fractionPart rest
      let decimal (exponent : Int) : Json :=
        .decimal (.finite negative (digitsValue (whole ++ fraction)) (exponent - fraction.length))
      match exponentPart? rest with
      | some (exponent, rest) => .ok (decimal exponent, rest)
      | none =>
          if fraction ≠ [] then .ok (decimal 0, rest)
          else if maxDigits < whole.length then .error (.tooManyDigits whole.length)
          else
            let size : Int := digitsValue whole
            .ok (.int (if negative then -size else size), rest)

/-- The fixed words and their values. -/
def words : List (List Char × Json) := [
  ("null".toList, .null), ("true".toList, .bool true), ("false".toList, .bool false),
  ("NaN".toList, .decimal .notANumber), ("Infinity".toList, .decimal (.infinite false)),
  ("-Infinity".toList, .decimal (.infinite true))]

/-- The rest of `cs` after `word`, if it begins with it. -/
def afterWord? : (word : List Char) → List Char → Option (List Char)
  | [], cs => some cs
  | w :: word, c :: cs => if w = c then afterWord? word cs else none
  | _ :: _, [] => none

/-- Reads a word or a number. -/
def readAtom (cs : List Char) : Except Stop (Json × List Char) :=
  match words.findSome? fun (word, value) => (afterWord? word cs).map (value, ·) with
  | some answer => .ok answer
  | none =>
      match cs with
      | '-' :: rest => readNumber cs true rest
      | _ => readNumber cs false cs

/-- Reads the items of an array from the first one on; `fuel` bounds their number. -/
def readItems (item : Reader Json) (fuel : Nat) (items : List Json) : Reader Json := fun cs =>
  match fuel with
  | 0 => .error (.problem .valueExpected cs)
  | fuel + 1 => do
      let (value, rest) ← item cs
      match skipSpace rest with
      | ']' :: rest => pure (.list (value :: items).reverse, rest)
      | ',' :: rest => readItems item fuel (value :: items) (skipSpace rest)
      | rest => .error (.problem .commaExpected rest)

/-- Reads an array after its opening bracket. -/
def readArray (item : Reader Json) : Reader Json := fun cs =>
  match skipSpace cs with
  | ']' :: rest => .ok (.list [], rest)
  | cs => readItems item (cs.length + 1) [] cs

/-- Reads the fields of an object from the first one on; `fuel` bounds their number. -/
def readFields (item : Reader Json) (fuel : Nat) (fields : List (CodeText × Json)) : Reader Json :=
  fun cs =>
  match fuel, cs with
  | fuel + 1, '"' :: rest => do
      let (name, rest) ← readText cs rest
      match skipSpace rest with
      | ':' :: rest =>
          let (value, rest) ← item (skipSpace rest)
          let fields := setField name value fields
          match skipSpace rest with
          | '}' :: rest => pure (.object fields, rest)
          | ',' :: rest => readFields item fuel fields (skipSpace rest)
          | rest => .error (.problem .commaExpected rest)
      | rest => .error (.problem .colonExpected rest)
  | _, _ => .error (.problem .nameExpected cs)

/-- Reads an object after its opening brace. -/
def readObject (item : Reader Json) : Reader Json := fun cs =>
  match skipSpace cs with
  | '}' :: rest => .ok (.object [], rest)
  | cs => readFields item (cs.length + 1) [] cs

/-- Reads one value, its items with `inner`; without `inner` a container is too deep. -/
def readWith (inner : Option (Reader Json)) : Reader Json := fun cs =>
  match cs with
  | '"' :: rest => do
      let (s, rest) ← readText cs rest
      pure (.text s, rest)
  | '{' :: rest =>
      match inner with
      | none => .error (.tooDeep .object)
      | some item => readObject item rest
  | '[' :: rest =>
      match inner with
      | none => .error (.tooDeep .array)
      | some item => readArray item rest
  | _ => readAtom cs

/-- Reads one value with containers nested at most `depth` deep. -/
def readValue : (depth : Nat) → Reader Json
  | 0 => readWith none
  | depth + 1 => readWith (some (readValue depth))

/-- Reads all of `cs` as one value with white space around it. -/
def readAll (cs : List Char) : Except Stop Json :=
  match cs with
  | '\ufeff' :: _ => .error (.problem .byteOrderMark cs)
  | _ => do
      let (value, rest) ← readValue maxDepth (skipSpace cs)
      match skipSpace rest with
      | [] => pure value
      | rest => .error (.problem .extraData rest)

/-- A place in a text: line and column count from one, the offset from zero. -/
structure Place where
  line : Nat
  column : Nat
  offset : Nat
  deriving DecidableEq

/-- The place in `cs` after `offset` characters. -/
def Place.of (cs : List Char) (offset : Nat) : Place :=
  let before := cs.take offset
  ⟨before.count '\n' + 1, (before.reverse.takeWhile (· ≠ '\n')).length + 1, offset⟩

/-- Why a text is not a JSON value. -/
inductive ReadError
  | problem (what : Problem) (place : Place)
  | tooDeep (container : Container)
  | tooManyDigits (count : Nat)
  deriving DecidableEq

/-- Reads `text` as one JSON value. -/
def read (text : String) : Except ReadError Json :=
  match readAll text.toList with
  | .ok value => .ok value
  | .error (.problem what left) =>
      .error (.problem what (.of text.toList (text.toList.length - left.length)))
  | .error (.tooDeep container) => .error (.tooDeep container)
  | .error (.tooManyDigits count) => .error (.tooManyDigits count)

/-- The wording of an error, with its place. -/
def ReadError.message : ReadError → String
  | .problem what place =>
      what.message ++ ": line " ++ toString place.line ++ " column " ++ toString place.column ++
        " (char " ++ toString place.offset ++ ")"
  | .tooDeep container =>
      "maximum recursion depth exceeded while decoding a JSON " ++
        (match container with | .array => "array" | .object => "object") ++
        " from a unicode string"
  | .tooManyDigits count =>
      "Exceeds the limit (" ++ toString maxDigits ++
        " digits) for integer string conversion: value has " ++ toString count ++
        " digits; use sys.set_int_max_str_digits() to increase the limit"

end PemBundle.Json
