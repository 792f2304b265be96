import PemBundle.Json
import PemBundle.Text.Quoted

/-!
# Passwords

A password is bytes, or a value that stands for bytes: a text for its UTF-8 bytes, a whole number
for that many zero bytes, a list of whole numbers for the bytes of those values.
-/

namespace PemBundle

/-- A password as it is given. -/
inductive Password
  | bytes (bytes : List UInt8)
  | value (value : Json)

/-- Why a value does not stand for bytes. -/
inductive PasswordError
  | negativeCount
  | countTooLarge
  | valueOutOfRange
  /-- A list item of this kind is no whole number. -/
  | notWhole (kind : String)
  /-- A value of this kind stands for no bytes. -/
  | notBytes (kind : String)
  /-- A text has surrogates, which have no bytes. -/
  | notUtf8 (run : SurrogateRun)
  deriving DecidableEq

/-- The wording of an error. -/
def PasswordError.message : PasswordError → String
  | .negativeCount => "negative count"
  | .countTooLarge => "cannot fit 'int' into an index-sized integer"
  | .valueOutOfRange => "bytes must be in range(0, 256)"
  | .notWhole kind => "'" ++ kind ++ "' object cannot be interpreted as an integer"
  | .notBytes kind => "cannot convert '" ++ kind ++ "' object to bytes"
  | .notUtf8 run => run.message

namespace Password

/-- The byte that a list item stands for. -/
def itemByte : Json → Except PasswordError UInt8
  | .int n => if 0 ≤ n ∧ n < 256 then .ok (UInt8.ofNat n.toNat) else .error .valueOutOfRange
  | .bool b => .ok (if b then 1 else 0)
  | v => .error (.notWhole v.kindName)

/-- As many zero bytes as the number says, which must fit into a signed word of eight bytes. -/
def zeros (count : Int) : Except PasswordError (List UInt8) :=
  if (Int64.maxValue.toInt < count) ∨ (count < Int64.minValue.toInt) then .error .countTooLarge
  else if count < 0 then .error .negativeCount
  else .ok (List.replicate count.toNat 0)

/-- The bytes that a password stands for. -/
def toBytes : Password → Except PasswordError (List UInt8)
  | .bytes bs => .ok bs
  | .value (.text s) => s.utf8.mapError .notUtf8
  | .value (.int n) => zeros n
  | .value (.bool b) => zeros (if b then 1 else 0)
  | .value (.list items) => items.mapM itemByte
  | .value (.object fields) => (fields.map fun (name, _) => Json.text name).mapM itemByte
  | .value v => .error (.notBytes v.kindName)

/-- Whether the password counts as not given. -/
def isVoid : Password → Bool
  | .bytes bs => bs.isEmpty
  | .value v => v.isVoid

/-- The password, if one is given and does not count as not given. -/
def nonVoid? (password : Option Password) : Option Password := password.filter (!·.isVoid)

end Password

end PemBundle
