import PemBundle.Text.CaseTable

/-!
# Upper and lower case

Full Unicode case mapping: a character may become several, and a capital sigma that ends a word
becomes the final small sigma. ASCII letters are mapped without looking at the tables.
-/

namespace PemBundle.Text

/-- Whether `n` lies in one of the closed `ranges`. -/
def inRanges (ranges : List (Nat × Nat)) (n : Nat) : Bool :=
  ranges.any fun (low, high) => low ≤ n && n ≤ high

/-- The code points that a table of runs and expansions maps `n` to. -/
def mapCodePoint (runs : List CaseRun) (expansions : List (Nat × List Nat)) (n : Nat) : List Nat :=
  match expansions.lookup n with
  | some ns => ns
  | none => [(runs.findSome? (·.image? n)).getD n]

/-- The upper case of one character. -/
def upperChar (c : Char) : List Char :=
  if c.toNat < 128 then [c.toUpper]
  else (mapCodePoint upperRuns upperExpansions c.toNat).map Char.ofNat

/-- The lower case of one character, wherever it stands. -/
def lowerChar (c : Char) : List Char :=
  if c.toNat < 128 then [c.toLower]
  else (mapCodePoint lowerRuns lowerExpansions c.toNat).map Char.ofNat

/-- Whether case rules look past `c`. -/
def isCaseIgnorable (c : Char) : Bool := inRanges caseIgnorableRanges c.toNat

/-- Whether `c` is a letter that has case. -/
def isCased (c : Char) : Bool := inRanges casedRanges c.toNat

/-- Whether the first character that case rules do not look past is cased. -/
def startsCased (cs : List Char) : Bool :=
  match cs.dropWhile isCaseIgnorable with
  | [] => false
  | c :: _ => isCased c

/-- Lower case of the rest of a text; `inWord` tells whether a cased letter came just before. -/
def lowerFrom (inWord : Bool) : List Char → List Char
  | [] => []
  | c :: rest =>
      let mapped :=
        if c = 'Σ' then [if inWord && !startsCased rest then 'ς' else 'σ'] else lowerChar c
      mapped ++ lowerFrom (if isCaseIgnorable c then inWord else isCased c) rest

/-- The text in upper case. -/
def upper (text : String) : String :=
  String.ofList (text.toList.flatMap upperChar)

/-- The text in lower case. -/
def lower (text : String) : String :=
  String.ofList (lowerFrom false text.toList)

/-- ASCII characters have one-letter upper case. -/
@[simp] theorem upperChar_ascii {c : Char} (h : c.toNat < 128) : upperChar c = [c.toUpper] := by
  simp [upperChar, h]

end PemBundle.Text
