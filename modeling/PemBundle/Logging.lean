import PemBundle.Logged

/-!
# Logging in a process

Logging is configured for a whole process. Each logger is bound by its first use after that: it keeps
the rank that is configured then, whatever is configured later. As long as nothing is configured,
every event is emitted and no logger is bound.
-/

namespace PemBundle

/-- The state of logging: the least rank that is configured, and the rank at which each logger was
bound. -/
structure Logging where
  configured : Option Nat
  bound : Logger → Option Nat

namespace Logging

/-- Nothing is configured, and no logger is bound. -/
def fresh : Logging := ⟨none, fun _ => none⟩

/-- The least rank of the events that a logger emits, unless it emits all. -/
def rank? (state : Logging) (logger : Logger) : Option Nat :=
  (state.bound logger).or state.configured

/-- Whether an event is emitted. -/
def emits (state : Logging) (event : Event) : Bool :=
  match state.rank? event.logger with
  | some rank => rank ≤ event.level.rank
  | none => true

/-- The state after a use of a logger. -/
def use (state : Logging) (logger : Logger) : Logging :=
  { state with bound := fun other => if other = logger then state.rank? other else state.bound other }

end Logging

/-- A computation in a process: on a state of logging it gives a value with the events that were
emitted, and the state that it leaves behind. -/
def Process (α : Type) := StateT Logging Logged α

namespace Process

variable {α : Type}

instance : Monad Process := inferInstanceAs (Monad (StateT Logging Logged))

instance : LawfulMonad Process := inferInstanceAs (LawfulMonad (StateT Logging Logged))

instance : MonadLog Process where
  report event := fun state =>
    ⟨((), state.use event.logger), if state.emits event then [event] else []⟩

/-- What the computation does on a state. -/
def run (x : Process α) (state : Logging) : Logged (α × Logging) := x state

/-- Configures the least rank of the events to emit. -/
def configure (rank : Nat) : Process Unit := fun state =>
  ⟨((), { state with configured := some rank }), []⟩

end Process

end PemBundle
