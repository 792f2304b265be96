import PemBundle.Text.Blank

/-!
# Environment files

A file of bindings, one to a line: a name, optionally after the word `export`, an equals sign and a
value. Values may be quoted, with escapes, and may then go over several lines; unquoted values end
at a comment. A binding that cannot be read is passed over with the rest of its line. In a value,
`${name}` stands for an earlier binding or a variable of the environment, and `${name:-default}`
has a default.
-/

namespace PemBundle.EnvFile

open Text

/-- A reader returns what it read and the rest, or the rest from which a line is given up. -/
abbrev Reader (α : Type) := List Char → Except (List Char) (α × List Char)

/-- Whether a character ends a line. -/
def isLineEnd (c : Char) : Bool := c = '\n' || c = '\r'

/-- Whether a character is blank and does not end a line. -/
def isInlineBlank (c : Char) : Bool := isBlank c && !isLineEnd c

/-- The characters from the first that is not blank on this line. -/
def skipInline (cs : List Char) : List Char := cs.dropWhile isInlineBlank

/-- The characters after the end of the line, of which a pair counts as one. -/
def dropLineEnd : List Char → List Char
  | '\r' :: '\n' :: rest => rest
  | c :: rest => if isLineEnd c then rest else c :: rest
  | [] => []

/-- The characters after this line, when the line is given up; of a pair of line ends only the first
is taken. -/
def dropLine (cs : List Char) : List Char :=
  match cs.dropWhile (!isLineEnd ·) with
  | [] => []
  | _ :: rest => rest

/-- The characters after the word `export` and the blanks behind it, if they come first. -/
def skipExport (cs : List Char) : List Char :=
  match cs with
  | 'e' :: 'x' :: 'p' :: 'o' :: 'r' :: 't' :: c :: rest =>
      if isInlineBlank c then skipInline rest else cs
  | _ => cs

/-- Whether a character may stand in a name without quotes. -/
def isNameChar (c : Char) : Bool := c != '=' && c != '#' && !isBlank c

/-- Reads the name of a binding; a comment has none. -/
def readName : Reader (Option String) := fun cs =>
  match cs with
  | '#' :: _ => .ok (none, cs)
  | '\'' :: rest =>
      match rest.takeWhile (· ≠ '\''), rest.dropWhile (· ≠ '\'') with
      | c :: name, _ :: after => .ok (some (String.ofList (c :: name)), after)
      | _, _ => .error cs
  | _ =>
      match cs.takeWhile isNameChar with
      | [] => .error cs
      | name => .ok (some (String.ofList name), cs.dropWhile isNameChar)

/-- The characters before the first quote that does not follow a backslash, and those after it. -/
def splitAtOpenQuote (quote : Char) (afterBackslash : Bool) :
    List Char → Option (List Char × List Char)
  | [] => none
  | c :: rest =>
      if c = quote ∧ !afterBackslash then some ([], rest)
      else (splitAtOpenQuote quote (c = '\\') rest).map fun (before, after) => (c :: before, after)

/-- The characters before the last quote, and those after it. -/
def splitAtLastQuote (quote : Char) (cs : List Char) : Option (List Char × List Char) :=
  match cs.reverse.dropWhile (· ≠ quote) with
  | [] => none
  | _ :: before => some (before.reverse, (cs.reverse.takeWhile (· ≠ quote)).reverse)

/-- The characters before the closing quote, and those after it: a quote after a backslash closes
only if no other does, and then the last one. -/
def splitAtClosingQuote (quote : Char) (cs : List Char) : Option (List Char × List Char) :=
  (splitAtOpenQuote quote false cs).or (splitAtLastQuote quote cs)

/-- The escapes between single quotes. -/
def singleEscape? : Char → Option Char
  | '\\' => some '\\'
  | '\'' => some '\''
  | _ => none

/-- The escapes between double quotes. -/
def doubleEscape? : Char → Option Char
  | '\\' => some '\\'
  | '\'' => some '\''
  | '"' => some '"'
  | 'a' => some '\x07'
  | 'b' => some '\x08'
  | 'f' => some '\x0c'
  | 'n' => some '\n'
  | 'r' => some '\r'
  | 't' => some '\t'
  | 'v' => some '\x0b'
  | _ => none

/-- The characters with their escapes replaced; a backslash that starts no escape stays. -/
def unescape (escape? : Char → Option Char) : List Char → List Char
  | [] => []
  | ['\\'] => ['\\']
  | '\\' :: c :: rest =>
      match escape? c with
      | some e => e :: unescape escape? rest
      | none => '\\' :: unescape escape? (c :: rest)
  | c :: rest => c :: unescape escape? rest

/-- The line of an unquoted value up to the blanks before a comment. -/
def dropComment : List Char → List Char
  | [] => []
  | c :: rest =>
      if isBlank c ∧ (rest.dropWhile isBlank).head? = some '#' then []
      else c :: dropComment rest

/-- Reads the value of a binding after its equals sign. -/
def readValue : Reader (List Char) := fun cs =>
  match cs with
  | [] => .ok ([], [])
  | c :: rest =>
      if c = '\'' ∨ c = '"' then
        match splitAtClosingQuote c rest with
        | some (inner, after) =>
            .ok (unescape (if c = '"' then doubleEscape? else singleEscape?) inner, after)
        | none => .error cs
      else if isLineEnd c then .ok ([], cs)
      else
        .ok (trimRight (dropComment (cs.takeWhile (!isLineEnd ·))), cs.dropWhile (!isLineEnd ·))

/-- The characters after a comment, if one comes next. -/
def skipTrailingComment (cs : List Char) : List Char :=
  match skipInline cs with
  | '#' :: rest => rest.dropWhile (!isLineEnd ·)
  | _ => cs

/-- Reads the end of a line: nothing but blanks may come before it. -/
def readLineEnd : Reader Unit := fun cs =>
  match skipInline cs with
  | [] => .ok ((), [])
  | c :: rest => if isLineEnd c then .ok ((), dropLineEnd (c :: rest)) else .error cs

/-- A name with its value; a name without an equals sign has none. -/
abbrev Binding := String × Option (List Char)

/-- Reads a binding that starts here, or a comment. -/
def readBinding : Reader (Option Binding) := fun cs => do
  let (name, rest) ← readName (skipExport cs)
  let (value, rest) ← match skipInline rest with
    | '=' :: rest => do
        let (value, rest) ← readValue (skipInline rest)
        pure (some value, rest)
    | rest => pure (none, rest)
  let (_, rest) ← readLineEnd (skipTrailingComment rest)
  pure (name.map (·, value), rest)

/-- The bindings of a file in order; `fuel` bounds their number. -/
def bindings (fuel : Nat) (cs : List Char) : List Binding :=
  match fuel, cs.dropWhile isBlank with
  | 0, _ => []
  | _, [] => []
  | fuel + 1, cs =>
      match readBinding cs with
      | .ok (binding, rest) => binding.toList ++ bindings fuel rest
      | .error left => bindings fuel (dropLine left)

/-- The values known so far, each name in the place where it first appeared. -/
abbrev Values := List (String × Option String)

/-- The values with `name` set to `value`. -/
def Values.set (name : String) (value : Option String) : Values → Values
  | [] => [(name, value)]
  | (n, v) :: rest => if n = name then (n, value) :: rest else (n, v) :: Values.set name value rest

/-- What a name stands for: a value of the file, else of the environment, else the default; a name
without a value stands for nothing. -/
def resolve (values : Values) (environment : List (String × String)) (name : String)
    (default : Option String) : String :=
  match values.lookup name with
  | some value => value.getD ""
  | none => (environment.lookup name).getD (default.getD "")

/-- A reference at the head, after its opening brace: name, default, and the rest. -/
def readReference? (cs : List Char) : Option (String × Option String × List Char) :=
  let name := cs.takeWhile fun c => c != '}' && c != ':'
  match cs.drop name.length with
  | '}' :: rest => some (String.ofList name, none, rest)
  | ':' :: '-' :: rest =>
      let default := rest.takeWhile (· != '}')
      match rest.drop default.length with
      | _ :: after => some (String.ofList name, some (String.ofList default), after)
      | [] => none
  | _ => none

/-- The value with its references replaced; `fuel` bounds the number of its characters. -/
def substitute (lookup : String → Option String → String) (fuel : Nat) (cs : List Char) :
    List Char :=
  match fuel, cs with
  | 0, _ => []
  | _, [] => []
  | fuel + 1, '$' :: '{' :: rest =>
      match readReference? rest with
      | some (name, default, after) =>
          (lookup name default).toList ++ substitute lookup fuel after
      | none => '$' :: substitute lookup fuel ('{' :: rest)
  | fuel + 1, c :: rest => c :: substitute lookup fuel rest

/-- The values of bindings, each with its references replaced by what came before it. -/
def evaluate (environment : List (String × String)) (bs : List Binding) : Values :=
  bs.foldl (fun values (name, value) =>
    values.set name (value.map fun cs =>
      String.ofList (substitute (resolve values environment) cs.length cs))) []

/-- The characters with every line end written as a line feed. -/
def unifyLineEnds : List Char → List Char
  | [] => []
  | '\r' :: '\n' :: rest => '\n' :: unifyLineEnds rest
  | '\r' :: rest => '\n' :: unifyLineEnds rest
  | c :: rest => c :: unifyLineEnds rest

/-- The values of a file. -/
def read (environment : List (String × String)) (text : String) : Values :=
  let cs := unifyLineEnds text.toList
  evaluate environment (bindings (cs.length + 1) cs)

end PemBundle.EnvFile
