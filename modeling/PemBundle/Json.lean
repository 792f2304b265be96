import PemBundle.Text.CodePoint

/-!
# JSON values

Numbers are whole numbers of any size or decimal fractions kept as written. Texts and the names of
fields are sequences of code points, surrogates among them. An object lists its fields in the order
of their first appearance; a later value for a name replaces the earlier one.
-/

namespace PemBundle

/-- A number written with a fraction or an exponent, or one of the three non-numbers. -/
inductive Decimal
  /-- The number `digits · 10 ^ exponent`, negated when `negative`. -/
  | finite (negative : Bool) (digits : Nat) (exponent : Int)
  | infinite (negative : Bool)
  | notANumber
  deriving DecidableEq

/-- A JSON value. -/
inductive Json
  | null
  | bool (value : Bool)
  | int (value : Int)
  | decimal (value : Decimal)
  | text (value : CodeText)
  | list (items : List Json)
  | object (fields : List (CodeText × Json))

namespace Decimal

/-- Whether double precision rounds the number to zero: its size is at most half of the smallest
positive double `2 ^ -1074`. -/
def isZero : Decimal → Bool
  | .finite _ digits exponent =>
      let size : Int := (Nat.toDigits 10 digits).length + exponent
      if digits = 0 then true
      else if size < -400 then true
      else if exponent ≥ 0 ∨ size > -300 then false
      else digits <<< 1075 ≤ Nat.pow 10 exponent.natAbs
  | _ => false

end Decimal

namespace Json

/-- The value of field `name` of an object. -/
def field? (name : CodeText) : Json → Option Json
  | .object fields => fields.lookup name
  | _ => none

/-- The fields with `name` set to `value`, in its old place if it has one. -/
def setField (name : CodeText) (value : Json) : List (CodeText × Json) → List (CodeText × Json)
  | [] => [(name, value)]
  | (n, v) :: rest => if n = name then (n, value) :: rest else (n, v) :: setField name value rest

/-- Whether the value counts as absent: null, false, zero, or without any content. -/
def isVoid : Json → Bool
  | .null => true
  | .bool b => !b
  | .int n => n == 0
  | .decimal d => d.isZero
  | .text s => s == ""
  | .list items => items.isEmpty
  | .object fields => fields.isEmpty

/-- The name of the kind of the value, as messages give it. -/
def kindName : Json → String
  | .null => "NoneType"
  | .bool _ => "bool"
  | .int _ => "int"
  | .decimal _ => "float"
  | .text _ => "str"
  | .list _ => "list"
  | .object _ => "dict"

/-- The texts of a list of texts. -/
def texts? : List Json → Option (List CodeText)
  | [] => some []
  | .text s :: rest => (texts? rest).map (s :: ·)
  | _ :: _ => none

@[simp] theorem texts?_map_text (texts : List CodeText) :
    texts? (texts.map .text) = some texts := by
  induction texts with
  | nil => rfl
  | cons text rest ih => simp [texts?, ih]

end Json

end PemBundle
