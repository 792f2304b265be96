import PemBundle.Outcome
import PemBundle.Pem.Single

/-!
# Expectations on outcomes

Checks for tests. A check that fails shows the other track, with the remark of the caller behind a
dash.
-/

namespace PemBundle.Outcome

variable {α : Type}

/-- A remark behind a dash, unless it is empty. -/
def remark (message : String) : String := if message = "" then "" else " — " ++ message

/-- The value, which must be there. -/
def expectSuccess (o : Outcome α) (message : String) : Except Fault α :=
  match o with
  | .success v => .ok v
  | .failure e =>
      .error (.assertion ("Expected Success but got Failure(" ++ e.summary ++ ")" ++
        remark message))

/-- The failure, which must be there and have the given code, if one is given. -/
def expectFailure (shown : α → String) (o : Outcome α) (code : Option FailureCode)
    (message : String) : Except Fault Failure :=
  match o with
  | .success v =>
      .error (.assertion ("Expected Failure but got Success(" ++ shown v ++ ")" ++ remark message))
  | .failure e =>
      match code with
      | some code =>
          if e.code = code then .ok e
          else
            .error (.assertion ("Expected error code " ++ code.name ++ " but got " ++ e.summary ++
              remark message))
      | none => .ok e

/-- The failure must be there and its message must contain the text, whatever the case. -/
def expectMessage (shown : α → String) (o : Outcome α) (text : String) : Except Fault Unit := do
  let e ← o.expectFailure shown none ""
  if Pem.occursIn (Text.lower text).toList (Text.lower e.message).toList then pure ()
  else
    throw (.assertion ("Expected failure message to contain " ++ Text.quoted text ++
      " but message was: " ++ Text.quoted e.message))

end PemBundle.Outcome
