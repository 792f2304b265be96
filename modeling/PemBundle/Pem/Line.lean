/-!
# Lines of bytes

A line ends at a line feed, at a carriage return, or at the pair of both; the terminators are not
part of the lines. The last line needs no terminator.
-/

namespace PemBundle.Pem

/-- A line without its terminator. -/
abbrev Line := List UInt8

/-- Line feed. -/
def lineFeed : UInt8 := 0x0a

/-- Carriage return. -/
def carriageReturn : UInt8 := 0x0d

/-- The lines of `bytes`. -/
def lines : List UInt8 → List Line
  | [] => []
  | b :: rest =>
      if b = lineFeed then [] :: lines rest
      else if b = carriageReturn then
        -- The line feed of a pair is taken with its carriage return.
        match rest with
        | c :: rest => if c = lineFeed then [] :: lines rest else [] :: lines (c :: rest)
        | [] => [[]]
      else
        match lines rest with
        | [] => [[b]]
        | line :: more => (b :: line) :: more

/-- White space that may follow the closing dashes of an END line. -/
def isBlankByte (b : UInt8) : Bool := b = 0x20 || (0x09 ≤ b && b ≤ 0x0d)

@[simp] theorem lines_nil : lines [] = [] := rfl

@[simp] theorem lines_lineFeed (rest : List UInt8) :
    lines (lineFeed :: rest) = [] :: lines rest := by
  rw [lines.eq_def]; simp

end PemBundle.Pem
