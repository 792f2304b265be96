/-!
# ASCII text and UTF-8 bytes

Text is stored as its UTF-8 bytes. Where only ASCII is allowed, the refusal names the first run of
characters (or the first byte) outside ASCII and where it starts.
-/

namespace PemBundle.Text

/-- The UTF-8 bytes of `text`. -/
def utf8 (text : String) : List UInt8 :=
  text.toList.flatMap String.utf8EncodeChar

/-- The text whose characters have the given ASCII codes. -/
def ofAscii (bytes : List UInt8) : String :=
  String.ofList (bytes.map fun b => Char.ofNat b.toNat)

/-- Whether `c` is an ASCII character. -/
def isAscii (c : Char) : Bool := c.toNat < 128

/-- A run of characters outside ASCII: the first of them, where it stands, how many follow on. -/
structure NotAscii where
  first : Char
  position : Nat
  length : Nat
  deriving DecidableEq

/-- The first run of characters of `cs` outside ASCII, if there is one. -/
def notAscii? (cs : List Char) : Option NotAscii :=
  match cs.dropWhile isAscii with
  | [] => none
  | c :: rest => some ⟨c, (cs.takeWhile isAscii).length, 1 + (rest.takeWhile (!isAscii ·)).length⟩

/-- ASCII text has no run outside ASCII. -/
theorem notAscii?_eq_none {cs : List Char} (h : ∀ c ∈ cs, isAscii c = true) :
    notAscii? cs = none := by
  have : cs.dropWhile isAscii = [] := by
    induction cs with
    | nil => rfl
    | cons c rest ih =>
        simp only [List.dropWhile_cons, h c (List.mem_cons_self ..), ↓reduceIte]
        exact ih fun d hd => h d (List.mem_cons_of_mem _ hd)
  simp [notAscii?, this]

end PemBundle.Text
