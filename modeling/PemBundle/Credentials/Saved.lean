import PemBundle.Credentials
import PemBundle.Json.Printer

/-!
# Saved credentials

Credentials are saved as a JSON object that leaves out what is absent. Reading takes null and the
empty text for absent, passes over other fields, and refuses values of other kinds.
-/

namespace PemBundle.Credentials

/-- The field of a text, unless it is absent. -/
def textField (name : String) (text : Option CodeText) : List (CodeText × Json) :=
  if isPresent text then [(.unicode name, .text (text.getD ""))] else []

/-- The field of the chain, unless there is none. -/
def chainField (chain : List CodeText) : List (CodeText × Json) :=
  if chain.isEmpty then [] else [(.unicode "Chain", .list (chain.map .text))]

/-- The fields of the credentials. -/
def toFields (c : Credentials) : List (CodeText × Json) :=
  textField "Certificate" c.certificate ++ textField "PrivateKey" c.privateKey ++
    chainField c.chain ++ textField "CSR" c.csr

/-- The credentials as a JSON object. -/
def toObject (c : Credentials) : Json := .object c.toFields

/-- The credentials as JSON text. -/
def toJson (c : Credentials) : String := c.toObject.render

/-- The text in a field; null and the empty text are absent. -/
def readText (fields : List (CodeText × Json)) (name : String) : Except Fault (Option CodeText) :=
  match fields.lookup (.unicode name) with
  | none | some .null => .ok none
  | some (.text s) => .ok (if s = "" then none else some s)
  | some v => .error (.notText name v.kindName)

/-- The texts in the field for the chain. -/
def readChain (fields : List (CodeText × Json)) : Except Fault (List CodeText) :=
  match fields.lookup (.unicode "Chain") with
  | none => .ok []
  | some v =>
      if v.isVoid then .ok []
      else
        match v with
        | .list items =>
            match Json.texts? items with
            | some texts => .ok texts
            | none => .error .chainNotTexts
        | _ => .error .chainNotTexts

/-- The credentials in the fields of an object. -/
def readFields (fields : List (CodeText × Json)) : Except Fault Credentials := do
  let certificate ← readText fields "Certificate"
  let privateKey ← readText fields "PrivateKey"
  let chain ← readChain fields
  let csr ← readText fields "CSR"
  pure ⟨certificate, privateKey, chain, csr⟩

/-- The credentials that a JSON value holds. -/
def ofValue (value : Json) : Outcome Credentials :=
  .ofExcept .malformedInput "Serialized PEM collection has an invalid shape"
    (match value with
      | .object fields => readFields fields
      | v => .error (.notMapping v.kindName))

/-- Whether a JSON value is an object. -/
def isObject : Json → Bool
  | .object _ => true
  | _ => false

/-- The JSON value that a text writes, unless it is null. -/
def readValue (text : String) : Except Fault (Option Json) :=
  match Json.read text with
  | .ok .null => .ok none
  | .ok value => .ok (some value)
  | .error e => .error (.json e)

/-- The credentials that a JSON text holds. -/
def ofJson (text : String) : Outcome Credentials :=
  ((Outcome.ofComputation .malformedInput "Serialized PEM collection is not valid JSON"
    (readValue text)).ensure isObject .malformedInput
      "Serialized PEM collection must be a JSON object").bind ofValue

end PemBundle.Credentials
