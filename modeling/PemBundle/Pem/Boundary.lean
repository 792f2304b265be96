import PemBundle.Pem.Line

/-!
# Boundary lines

A boundary line opens or closes a block and carries its label, a non-empty run of capital letters,
digits and spaces. Only the END line is bound to its right end: nothing but white space may follow
its closing dashes.
-/

namespace PemBundle.Pem

/-- The label on a boundary line. -/
abbrev Label := List UInt8

/-- Whether a label may hold the byte. -/
def isLabelByte (b : UInt8) : Bool :=
  (0x41 ≤ b && b ≤ 0x5a) || (0x30 ≤ b && b ≤ 0x39) || b = 0x20

/-- Five dashes. -/
def dashes : Line := [0x2d, 0x2d, 0x2d, 0x2d, 0x2d]

/-- Four dashes and a space. -/
def spacedDashes : Line := [0x2d, 0x2d, 0x2d, 0x2d, 0x20]

/-- The word `BEGIN` and a space. -/
def beginWord : Line := [0x42, 0x45, 0x47, 0x49, 0x4e, 0x20]

/-- The word `END` and a space. -/
def endWord : Line := [0x45, 0x4e, 0x44, 0x20]

/-- The longest run of label bytes at the head, and what follows it. -/
def splitLabel (bytes : List UInt8) : Label × List UInt8 :=
  (bytes.takeWhile isLabelByte, bytes.dropWhile isLabelByte)

/-- The label of a line that opens a block for the scan; anything may follow the dashes. -/
def beginLabel? (line : Line) : Option Label := do
  let (label, rest) := splitLabel (← (dashes ++ beginWord).isPrefixOf? line)
  if label ≠ [] ∧ dashes.isPrefixOf rest then some label else none

/-- The label of a line that closes a block for the scan. -/
def endLabel? (line : Line) : Option Label := do
  let (label, rest) := splitLabel (← (dashes ++ endWord).isPrefixOf? line)
  let after ← dashes.isPrefixOf? rest
  if label ≠ [] ∧ after.all isBlankByte then some label else none

/-- Whether the line starts with five dashes. -/
def isDashed (line : Line) : Bool := dashes.isPrefixOf line

/-- The label of a line that opens a block for the reader of one block. The dashes may be four with a
space towards the words, which then does not belong to the label. -/
def openLabel? (line : Line) : Option Label := do
  let rest ← ((dashes ++ beginWord).isPrefixOf? line).or
    ((spacedDashes ++ beginWord).isPrefixOf? line)
  let (label, rest) := splitLabel rest
  if label = [] then none
  else if dashes.isPrefixOf rest then some label
  else if label.getLast? = some 0x20 ∧ label.dropLast ≠ [] ∧ (dashes.drop 1).isPrefixOf rest then
    some label.dropLast
  else none

/-- Whether the line ends the body of a block for the reader of one block. -/
def closesBody (line : Line) : Bool := isDashed line || spacedDashes.isPrefixOf line

end PemBundle.Pem
