/-!
# Blank characters

White space of text: the separators and the controls that Unicode marks as white space or as a
paragraph, segment or block separator. Trimming removes them at the ends only.
-/

namespace PemBundle.Text

/-- White space: tab to carriage return, the four information separators, space, next line, and
the Unicode spaces and line separators. -/
def isBlank (c : Char) : Bool :=
  let n := c.toNat
  (0x09 ≤ n && n ≤ 0x0d) || (0x1c ≤ n && n ≤ 0x20) || n == 0x85 || n == 0xa0 || n == 0x1680 ||
    (0x2000 ≤ n && n ≤ 0x200a) || n == 0x2028 || n == 0x2029 || n == 0x202f || n == 0x205f ||
    n == 0x3000

/-- The characters without the blanks at their end. -/
def trimRight (cs : List Char) : List Char :=
  (cs.reverse.dropWhile isBlank).reverse

/-- The characters without the blanks at either end. -/
def trim (cs : List Char) : List Char :=
  trimRight (cs.dropWhile isBlank)

@[simp] theorem trimRight_nil : trimRight [] = [] := rfl

@[simp] theorem trim_nil : trim [] = [] := rfl

end PemBundle.Text
