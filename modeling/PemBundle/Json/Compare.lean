import PemBundle.Json.Reader
import PemBundle.Text.Quoted

/-!
# Showing and comparing JSON values

Values are shown on one line with quoted texts; numbers that are too long and containers that are
nested too deep cannot be shown. Truth values count as the numbers zero and one, and the order of an
object's fields does not matter. Values of one digest are taken for the same by tables; lists and
objects have none.
-/

namespace PemBundle.Json

mutual

/-- A value on one line. -/
def describe : Json → String
  | .null => "None"
  | .bool true => "True"
  | .bool false => "False"
  | .int n => toString n
  | .decimal (.finite negative digits exponent) =>
      (if negative then "-" else "") ++ toString digits ++ "e" ++ toString exponent
  | .decimal (.infinite negative) => if negative then "-inf" else "inf"
  | .decimal .notANumber => "nan"
  | .text s => s.quoted
  | .list items => "[" ++ String.intercalate ", " (describeItems items) ++ "]"
  | .object fields => "\x7b" ++ String.intercalate ", " (describeFields fields) ++ "\x7d"

/-- The items of a list, each on one line. -/
def describeItems : List Json → List String
  | [] => []
  | v :: rest => describe v :: describeItems rest

/-- The fields of an object, each on one line. -/
def describeFields : List (CodeText × Json) → List String
  | [] => []
  | (n, v) :: rest => (n.quoted ++ ": " ++ describe v) :: describeFields rest

end

/-- Why a value cannot be shown. -/
inductive Obstacle
  | tooManyDigits
  | tooDeep
  deriving DecidableEq

mutual

/-- What keeps a value from being shown where containers may be nested `depth` deep: the first
obstacle in the order of showing, if there is one. -/
def obstacle? (depth : Nat) : Json → Option Obstacle
  | .int n => if maxDigits < (Nat.toDigits 10 n.natAbs).length then some .tooManyDigits else none
  | .list items =>
      match depth with
      | 0 => some .tooDeep
      | depth + 1 => itemsObstacle? depth items
  | .object fields =>
      match depth with
      | 0 => some .tooDeep
      | depth + 1 => fieldsObstacle? depth fields
  | _ => none

/-- What keeps the items of a list from being shown. -/
def itemsObstacle? (depth : Nat) : List Json → Option Obstacle
  | [] => none
  | v :: rest => (obstacle? depth v).or (itemsObstacle? depth rest)

/-- What keeps the fields of an object from being shown. -/
def fieldsObstacle? (depth : Nat) : List (CodeText × Json) → Option Obstacle
  | [] => none
  | (_, v) :: rest => (obstacle? depth v).or (fieldsObstacle? depth rest)

end

/-- The number that a value counts as. -/
def whole? : Json → Option Int
  | .int n => some n
  | .bool b => some (if b then 1 else 0)
  | _ => none

mutual

/-- Whether two values are equal. -/
def same : Json → Json → Bool
  | .null, .null => true
  | .text s, .text t => s == t
  | .decimal d, .decimal e => d = e
  | .list xs, .list ys => sameItems xs ys
  | .object fs, .object gs => fs.length == gs.length && sameFields fs gs
  | v, w =>
      match whole? v, whole? w with
      | some m, some n => m == n
      | _, _ => false

/-- Whether two lists have equal items in the same order. -/
def sameItems : List Json → List Json → Bool
  | [], [] => true
  | v :: vs, w :: ws => same v w && sameItems vs ws
  | _, _ => false

/-- Whether the second object has every field of the first with an equal value. -/
def sameFields : List (CodeText × Json) → List (CodeText × Json) → Bool
  | [], _ => true
  | (n, v) :: rest, gs =>
      (match gs.lookup n with
        | some w => same v w
        | none => false) && sameFields rest gs

end

/-- What tables know of a value. -/
inductive Digest
  | number (residue : Int)
  | text (text : CodeText)
  | other
  deriving DecidableEq

/-- The modulus of the digests of numbers. -/
def digestModulus : Nat := (1 <<< 61) - 1

/-- The digest of a number: its residue with its sign, where minus two stands for minus one. -/
def digestNumber (n : Int) : Digest :=
  let residue := Int.tmod n digestModulus
  .number (if residue = -1 then -2 else residue)

/-- The digest of a value; a list or an object has none and gives the name of its kind. -/
def digest : Json → Except String Digest
  | .text s => .ok (if s = "" then digestNumber 0 else .text s)
  | .int n => .ok (digestNumber n)
  | .bool b => .ok (digestNumber (if b then 1 else 0))
  | .null | .decimal _ => .ok .other
  | v => .error v.kindName

end PemBundle.Json
