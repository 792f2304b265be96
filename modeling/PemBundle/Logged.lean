import PemBundle.Event

/-!
# Logged computations

A logged computation is a value with the events it reported on the way, in order. One that can break
off gives a value or the fault that it broke off with; what it reported before stays reported.
-/

namespace PemBundle

/-- A value with the events reported on the way. -/
structure Logged (α : Type) where
  value : α
  events : List Event

/-- Computations that can report events. -/
class MonadLog (m : Type → Type) where
  /-- Reports an event. -/
  report : Event → m Unit

export MonadLog (report)

namespace Logged

variable {α β : Type}

instance : Monad Logged where
  pure v := ⟨v, []⟩
  bind x f := ⟨(f x.value).value, x.events ++ (f x.value).events⟩

instance : MonadLog Logged where
  report event := ⟨(), [event]⟩

@[simp] theorem value_pure (v : α) : (pure v : Logged α).value = v := rfl

@[simp] theorem events_pure (v : α) : (pure v : Logged α).events = [] := rfl

@[simp] theorem value_bind (x : Logged α) (f : α → Logged β) :
    (x >>= f).value = (f x.value).value := rfl

@[simp] theorem events_bind (x : Logged α) (f : α → Logged β) :
    (x >>= f).events = x.events ++ (f x.value).events := rfl

@[simp] theorem events_report (event : Event) : (report event : Logged Unit).events = [event] := rfl

instance : LawfulMonad Logged :=
  LawfulMonad.mk' Logged
    (fun x => by
      change (⟨x.value, x.events ++ []⟩ : Logged _) = x
      rw [List.append_nil])
    (fun v f => by
      change (⟨(f v).value, [] ++ (f v).events⟩ : Logged _) = f v
      rw [List.nil_append])
    (fun x f g => by
      change (⟨(g (f x.value).value).value,
        (x.events ++ (f x.value).events) ++ (g (f x.value).value).events⟩ : Logged _) =
        ⟨(g (f x.value).value).value,
          x.events ++ ((f x.value).events ++ (g (f x.value).value).events)⟩
      rw [List.append_assoc])

end Logged

instance {σ : Type} {m : Type → Type} [Monad m] [MonadLog m] : MonadLog (StateT σ m) where
  report event := StateT.lift (report event)

instance {ε : Type} {m : Type → Type} [Monad m] [MonadLog m] : MonadLog (ExceptT ε m) where
  report event := ExceptT.lift (report event)

/-- Logged computations that can break off with a fault. -/
abbrev Breaking := ExceptT Fault Logged

/-- The bytes of data that is read; a text with surrogates breaks off. -/
def RawData.encode (data : RawData) : Breaking (List UInt8) :=
  match data.octets with
  | .ok octets => pure octets
  | .error run => throw (.notUtf8 run)

/-- Runs a logged computation where events can be reported. -/
def Logged.replay {α : Type} {m : Type → Type} [Monad m] [MonadLog m] (x : Logged α) : m α := do
  x.events.forM report
  pure x.value

namespace Pem

/-- The events of a scan: why it stopped, if it did. -/
def Scan.events (scan : Scan) : List Event := scan.stop.toList.map .scanStopped

/-- The blocks of a scan, with its events. -/
def Scan.logged (scan : Scan) : Logged (List Block) := ⟨scan.blocks, scan.events⟩

end Pem

end PemBundle
