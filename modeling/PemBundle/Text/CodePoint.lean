import PemBundle.Text.Ascii

/-!
# Texts of code points

A text is a sequence of code points. Most are characters, but a surrogate, which stands for half of
a character elsewhere, can be a code point by itself. Only a text of characters has a UTF-8 form; the
refusal of any other text names its first run of surrogates.
-/

namespace PemBundle

/-- A code point: a character, or one of the surrogates, by its place among them. -/
inductive CodePoint
  | char (c : Char)
  | surrogate (offset : Fin 0x800)
  deriving DecidableEq

namespace CodePoint

/-- Whether the code point is a surrogate. -/
def isSurrogate : CodePoint → Bool
  | .char _ => false
  | .surrogate _ => true

/-- The number of the code point. -/
def toNat : CodePoint → Nat
  | .char c => c.toNat
  | .surrogate offset => 0xd800 + offset

end CodePoint

/-- A text: characters alone, or characters up to a first surrogate and any code points after it. -/
inductive CodeText
  | unicode (text : String)
  | broken (before : List Char) (surrogate : Fin 0x800) (after : List CodePoint)
  deriving DecidableEq

/-- A run of surrogates: the first of them, where it stands, how many there are. -/
structure SurrogateRun where
  first : Fin 0x800
  position : Nat
  length : Nat
  deriving DecidableEq

namespace CodeText

instance : Coe String CodeText := ⟨unicode⟩

/-- The code points of a text. -/
def points : CodeText → List CodePoint
  | .unicode text => text.toList.map .char
  | .broken before surrogate after => before.map .char ++ .surrogate surrogate :: after

/-- The text of the given code points behind the characters of `before`, which are in reverse. -/
def ofPointsAfter (before : List Char) : List CodePoint → CodeText
  | [] => .unicode (String.ofList before.reverse)
  | .char c :: rest => ofPointsAfter (c :: before) rest
  | .surrogate offset :: rest => .broken before.reverse offset rest

/-- The text of the given code points. -/
def ofPoints (points : List CodePoint) : CodeText := ofPointsAfter [] points

/-- The text as a string, if it is one of characters. -/
def unicode? : CodeText → Option String
  | .unicode text => some text
  | .broken _ _ _ => none

/-- The UTF-8 bytes of a text; surrogates have none. -/
def utf8 : CodeText → Except SurrogateRun (List UInt8)
  | .unicode text => .ok (Text.utf8 text)
  | .broken before surrogate after =>
      .error ⟨surrogate, before.length, 1 + (after.takeWhile CodePoint.isSurrogate).length⟩

@[simp] theorem points_unicode (text : String) :
    points (.unicode text) = text.toList.map .char := rfl

theorem points_ofPointsAfter (before : List Char) (ps : List CodePoint) :
    (ofPointsAfter before ps).points = before.reverse.map .char ++ ps := by
  induction ps generalizing before with
  | nil => simp [ofPointsAfter]
  | cons p ps ih =>
      cases p with
      | char c => simp [ofPointsAfter, ih]
      | surrogate offset => rfl

/-- The text of code points has these code points. -/
@[simp] theorem points_ofPoints (ps : List CodePoint) : (ofPoints ps).points = ps :=
  points_ofPointsAfter [] ps

theorem ofPointsAfter_map_char (before cs : List Char) (ps : List CodePoint) :
    ofPointsAfter before (cs.map .char ++ ps) = ofPointsAfter (cs.reverse ++ before) ps := by
  induction cs generalizing before with
  | nil => rfl
  | cons c cs ih => simp [ofPointsAfter, ih]

/-- A text is the text of its code points. -/
@[simp] theorem ofPoints_points (text : CodeText) : ofPoints text.points = text := by
  cases text with
  | unicode text =>
      have h := ofPointsAfter_map_char [] text.toList []
      rw [List.append_nil] at h
      rw [ofPoints, points_unicode, h]
      simp [ofPointsAfter]
  | broken before surrogate after =>
      rw [ofPoints, points, ofPointsAfter_map_char]
      simp [ofPointsAfter]

end CodeText

/-- What a reader of data is given: bytes, or a text, which stands for its UTF-8 bytes. -/
inductive RawData
  | bytes (bytes : List UInt8)
  | text (text : CodeText)

/-- The bytes that data stands for. -/
def RawData.octets : RawData → Except SurrogateRun (List UInt8)
  | .bytes octets => .ok octets
  | .text words => words.utf8

end PemBundle
