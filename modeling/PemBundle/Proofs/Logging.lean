import PemBundle.Logging
import PemBundle.Proofs.Outcome
import PemBundle.Session

/-!
# What a process emits

The use of a logger binds it to the rank from which it emits anyway, so no use changes what is
emitted later. A process that only reports emits of its events those that its state lets through, in
their order; so does a session of which every step is such a process.
-/

namespace PemBundle

variable {α β : Type}

namespace Logging

/-- The use of a logger does not change the rank of any. -/
@[simp] theorem rank?_use (state : Logging) (logger : Logger) :
    (state.use logger).rank? = state.rank? := by
  funext other
  change (if other = logger then state.rank? other else state.bound other).or state.configured = _
  split
  · rw [rank?, Option.or_assoc, Option.or_self]
  · rfl

/-- What is emitted depends on the ranks of the loggers alone. -/
theorem emits_congr {state other : Logging} (h : state.rank? = other.rank?) :
    state.emits = other.emits := by
  funext event
  rw [emits, emits, h]

/-- With a rank configured, an event is emitted from the rank on at which its logger was bound, or
else from the configured one on. -/
theorem emits_of_configured {state : Logging} {rank : Nat} (h : state.configured = some rank)
    (event : Event) :
    state.emits event = decide ((state.bound event.logger).getD rank ≤ event.level.rank) := by
  rw [emits, rank?, h]
  cases state.bound event.logger <;> rfl

end Logging

namespace Process

theorem run_bind (x : Process α) (f : α → Process β) (state : Logging) :
    (x >>= f).run state =
      ⟨((f (x.run state).value.1).run (x.run state).value.2).value,
        (x.run state).events ++ ((f (x.run state).value.1).run (x.run state).value.2).events⟩ :=
  rfl

/-- The process does what the logged computation does: it gives the same value, emits of its events
those that the state lets through, and leaves the rank of every logger as it is. -/
structure Follows (x : Process α) (plain : Logged α) : Prop where
  value : ∀ state, (x.run state).value.1 = plain.value
  events : ∀ state, (x.run state).events = plain.events.filter state.emits
  rank : ∀ state, (x.run state).value.2.rank? = state.rank?

namespace Follows

theorem pure (v : α) : Follows (pure v) (pure v) := ⟨fun _ => rfl, fun _ => rfl, fun _ => rfl⟩

theorem report (event : Event) : Follows (report event) (report event) where
  value _ := rfl
  events state := by
    rw [Logged.events_report, List.filter_cons, List.filter_nil]
    rfl
  rank state := state.rank?_use event.logger

theorem bind {x : Process α} {plain : Logged α} (h : Follows x plain) {f : α → Process β}
    {rest : α → Logged β} (hrest : ∀ v, Follows (f v) (rest v)) :
    Follows (x >>= f) (plain >>= rest) where
  value state := by
    rw [run_bind, Logged.value_bind, h.value, (hrest _).value]
  events state := by
    rw [run_bind, Logged.events_bind, List.filter_append, h.events, h.value, (hrest _).events,
      Logging.emits_congr (h.rank state)]
  rank state := by
    rw [run_bind, (hrest _).rank, h.rank]

theorem forM_report (events : List Event) :
    Follows (events.forM PemBundle.report) (events.forM PemBundle.report) := by
  induction events with
  | nil => exact .pure ()
  | cons event rest ih => exact (report event).bind fun _ => ih

/-- A logged computation that is replayed is followed. -/
theorem replay (x : Logged α) : Follows x.replay x := by
  have h : Follows x.replay (x.replay : Logged α) :=
    (forM_report x.events).bind fun _ => .pure x.value
  rwa [Logged.replay_eq] at h

/-- A session of steps that follow others follows the session of these. -/
theorem session {ι : Type} {perform : ι → Credentials → Process Reply}
    {plain : ι → Credentials → Logged Reply} (h : ∀ item c, Follows (perform item c) (plain item c))
    (start : Credentials) (items : List ι) :
    Follows (Session.run perform start items) (Session.run plain start items) := by
  induction items generalizing start with
  | nil => exact .pure []
  | cons item rest ih =>
      apply (h item start).bind
      intro reply
      exact (ih (reply.next start)).bind fun later => .pure _

end Follows

end Process

end PemBundle
