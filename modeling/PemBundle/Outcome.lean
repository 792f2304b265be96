import PemBundle.Failure

/-!
# Outcomes

An operation ends in a success with a value or in a failure with its description. Operations are
chained so that the first failure ends the chain. Where steps have effects of their own, the chain
runs exactly the steps up to the first failure.
-/

namespace PemBundle

/-- How an operation ended. -/
inductive Outcome (α : Type) where
  | success (value : α)
  | failure (failure : Failure)

namespace Outcome

variable {α β : Type}

/-- A failure without a fault behind it. -/
def fail (code : FailureCode) (message : String) : Outcome α := .failure ⟨code, message, none⟩

/-- Whether the outcome is a success. -/
def isSuccess : Outcome α → Bool
  | .success _ => true
  | .failure _ => false

/-- Whether the outcome is a failure. -/
def isFailure (o : Outcome α) : Bool := !o.isSuccess

/-- The outcome with its value changed by `f`. -/
def map (f : α → β) : Outcome α → Outcome β
  | .success v => .success (f v)
  | .failure e => .failure e

/-- The outcome of going on with `f` after a success. -/
def bind : Outcome α → (α → Outcome β) → Outcome β
  | .success v, f => f v
  | .failure e, _ => .failure e

instance : Monad Outcome where
  pure := .success
  bind := bind

/-- A failure in place of a value without the property. -/
def ensure (property : α → Bool) (code : FailureCode) (message : String) (o : Outcome α) :
    Outcome α :=
  o.bind fun v => if property v then .success v else fail code message

/-- The value, or the default of a failure. -/
def getOrElse (o : Outcome α) (default : α) : α :=
  match o with
  | .success v => v
  | .failure _ => default

/-- What the two functions make of either track. -/
def either (o : Outcome α) (onSuccess : α → β) (onFailure : Failure → β) : β :=
  match o with
  | .success v => onSuccess v
  | .failure e => onFailure e

/-- The value of a success. -/
def value : Outcome α → Except Fault α
  | .success v => .ok v
  | .failure e => .error (.valueOfFailure e.message)

/-- The description of a failure. -/
def error (shown : α → String) : Outcome α → Except Fault Failure
  | .success v => .error (.errorOfSuccess (shown v))
  | .failure e => .ok e

/-- The value of an optional argument; without one the operation fails. -/
def ofOption (value : Option α) (message : String) (code : FailureCode) : Outcome α :=
  match value with
  | some v => .success v
  | none => fail code message

/-- The result of a computation, whose fault becomes a failure. -/
def ofExcept (code : FailureCode) (message : String) : Except Fault α → Outcome α
  | .ok v => .success v
  | .error fault => .failure ⟨code, message, some fault⟩

/-- A success holds a value: nothing cannot be one. -/
def succeed : Option α → Except Fault (Outcome α)
  | some v => .ok (.success v)
  | none => .error .successWithoutValue

/-- A failure holds a description: nothing cannot be one. -/
def failWith : Option Failure → Except Fault (Outcome α)
  | some e => .ok (.failure e)
  | none => .error .failureWithoutError

/-- The result of a computation that may give nothing, which is a fault like any other. -/
def ofComputation (code : FailureCode) (message : String) (result : Except Fault (Option α)) :
    Outcome α :=
  match result.bind succeed with
  | .ok o => o
  | .error fault => .failure ⟨code, message, some fault⟩

/-- The outcome on one line. -/
def describe (shown : α → String) : Outcome α → String
  | .success v => "Success(" ++ shown v ++ ")"
  | .failure e => "Failure(" ++ e.summary ++ ")"

/-- Whether two outcomes are the same: equal values, or failures with the same description. -/
def same (sameValue : α → α → Bool) : Outcome α → Outcome α → Bool
  | .success a, .success b => sameValue a b
  | .failure a, .failure b => a.same b
  | _, _ => false

section Effects

variable {m : Type → Type} [Monad m]

/-- The outcome of going on with `f` after a success. -/
def bindM (o : Outcome α) (f : α → m (Outcome β)) : m (Outcome β) :=
  match o with
  | .success v => f v
  | .failure e => pure (.failure e)

/-- The outcome with its value changed by `f`. -/
def mapM (f : α → m β) (o : Outcome α) : m (Outcome β) :=
  o.bindM fun v => .success <$> f v

/-- A failure in place of a value for which `property` says no. -/
def ensureM (property : α → m Bool) (code : FailureCode) (message : String) (o : Outcome α) :
    m (Outcome α) :=
  o.bindM fun v => do
    if ← property v then pure (.success v) else pure (fail code message)

/-- The outcome itself, after an action on its value. -/
def peekM {γ : Type} (o : Outcome α) (action : α → m γ) : m (Outcome α) :=
  match o with
  | .success v => do
      let _ ← action v
      pure o
  | .failure _ => pure o

/-- The outcome itself, after an action on its failure. -/
def peekFailureM {γ : Type} (o : Outcome α) (action : Failure → m γ) : m (Outcome α) :=
  match o with
  | .success _ => pure o
  | .failure e => do
      let _ ← action e
      pure o

/-- All values in order, or the first failure; nothing after it is run. -/
def allOfM : List (m (Outcome α)) → m (Outcome (List α))
  | [] => pure (.success [])
  | item :: rest => do
      (← item).bindM fun v => do
        pure ((← allOfM rest).map (v :: ·))

end Effects

@[simp] theorem map_success (f : α → β) (v : α) : (success v).map f = success (f v) := rfl

@[simp] theorem map_failure (f : α → β) (e : Failure) :
    (failure e : Outcome α).map f = failure e := rfl

@[simp] theorem bind_success (v : α) (f : α → Outcome β) : (success v).bind f = f v := rfl

@[simp] theorem bind_failure (e : Failure) (f : α → Outcome β) :
    (failure e : Outcome α).bind f = failure e := rfl

end Outcome

end PemBundle
