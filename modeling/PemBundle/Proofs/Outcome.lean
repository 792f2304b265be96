import PemBundle.Logged
import PemBundle.Outcome

/-!
# Outcomes of chained computations

A chain succeeds if each of its steps does. A chain of logged steps has the value of the chain of
their values, whatever the steps report; one whose steps can break off has the value of the chain of
their values up to the first that does.
-/

namespace PemBundle

variable {α β γ : Type}

/-- A chain of computations gives a value if its first one does and the rest does on that. -/
theorem bind_eq_ok_iff {ε : Type} (x : Except ε α) (f : α → Except ε β) (w : β) :
    x >>= f = .ok w ↔ ∃ v, x = .ok v ∧ f v = .ok w := by
  cases x with
  | error e => simp [bind, Except.bind]
  | ok v => simp [bind, Except.bind]

/-- A chain of computations fails where its first one does, or the rest on what that gives. -/
theorem bind_eq_error_iff {ε : Type} (x : Except ε α) (f : α → Except ε β) (e : ε) :
    x >>= f = .error e ↔ x = .error e ∨ ∃ v, x = .ok v ∧ f v = .error e := by
  cases x with
  | error e => simp [bind, Except.bind]
  | ok v => simp [bind, Except.bind]

namespace Outcome

theorem map_eq_success_iff (f : α → β) (o : Outcome α) (w : β) :
    o.map f = success w ↔ ∃ v, o = success v ∧ f v = w := by
  cases o with
  | success v => simp
  | failure e => simp

theorem ofExcept_eq_success_iff (code : FailureCode) (message : String) (result : Except Fault α)
    (v : α) : ofExcept code message result = success v ↔ result = .ok v := by
  cases result with
  | error fault => simp [ofExcept]
  | ok w => simp [ofExcept]

@[simp] theorem value_bindM (o : Outcome α) (f : α → Logged (Outcome β)) :
    (o.bindM f).value = o.bind fun v => (f v).value := by
  cases o <;> rfl

@[simp] theorem value_peekM (o : Outcome α) (action : α → Logged γ) :
    (o.peekM action).value = o := by
  cases o <;> rfl

@[simp] theorem bindM_success {m : Type → Type} [Monad m] (v : α) (f : α → m (Outcome β)) :
    (success v).bindM f = f v := rfl

end Outcome

@[simp] theorem Logged.value_map (f : α → β) (x : Logged α) : (f <$> x).value = f x.value := rfl

@[simp] theorem Logged.events_map (f : α → β) (x : Logged α) : (f <$> x).events = x.events :=
  List.append_nil x.events

/-- Logged computations are the same if they give the same value and report the same events. -/
@[ext]
theorem Logged.ext {x y : Logged α} (hvalue : x.value = y.value) (hevents : x.events = y.events) :
    x = y := by
  cases x
  cases y
  congr

namespace Logged

theorem events_forM_report (events : List Event) :
    (events.forM report : Logged Unit) = ⟨(), events⟩ := by
  induction events with
  | nil => rfl
  | cons event rest ih =>
      change (report event >>= fun _ => rest.forM report) = _
      rw [ih]
      rfl

/-- A logged computation that is replayed where nothing but events can be had is the same. -/
@[simp] theorem replay_eq (x : Logged α) : (x.replay : Logged α) = x := by
  rw [replay, events_forM_report]
  ext1
  · rfl
  · exact List.append_nil x.events

end Logged

/-! ### Computations that can break off -/

namespace Breaking

@[simp] theorem value_run_pure (v : α) : (pure v : Breaking α).run.value = .ok v := rfl

@[simp] theorem value_run_lift (x : Logged α) : (liftM x : Breaking α).run.value = .ok x.value :=
  rfl

theorem run_lift (x : Logged α) : (liftM x : Breaking α).run = ⟨.ok x.value, x.events⟩ :=
  congrArg (Logged.mk _) (List.append_nil x.events)

@[simp] theorem value_run_bind (x : Breaking α) (f : α → Breaking β) :
    (x >>= f).run.value = x.run.value.bind fun v => (f v).run.value := by
  change (ExceptT.bindCont f x.run.value).value = _
  cases x.run.value <;> rfl

/-- A computation that breaks off reports nothing of what follows it. -/
theorem events_run_bind (x : Breaking α) (f : α → Breaking β) :
    (x >>= f).run.events = x.run.events ++
      match x.run.value with
      | .ok v => (f v).run.events
      | .error _ => [] := by
  change x.run.events ++ (ExceptT.bindCont f x.run.value).events = _
  cases x.run.value <;> rfl

/-- Looking at an outcome with events breaks nothing off and leaves it as it is. -/
@[simp] theorem value_run_peekM (o : Outcome α) (event : α → Event) :
    (o.peekM fun v => (report (event v) : Breaking Unit)).run.value = .ok o := by
  cases o <;> rfl

/-- Looking at an outcome with events breaks nothing off. -/
theorem peekM_lift (o : Outcome α) (event : α → Event) :
    (o.peekM fun v => (report (event v) : Breaking Unit)) =
      liftM (o.peekM fun v => (report (event v) : Logged Unit)) := by
  cases o <;> rfl

/-- Data with bytes is read as these. -/
theorem encode_of_octets {data : RawData} {octets : List UInt8} (h : data.octets = .ok octets) :
    data.encode = pure octets := by
  rw [RawData.encode, h]

/-- Data without bytes breaks off. -/
theorem encode_of_run {data : RawData} {run : SurrogateRun} (h : data.octets = .error run) :
    data.encode = throw (.notUtf8 run) := by
  rw [RawData.encode, h]

end Breaking

/-! ### Computations that end alike -/

/-- The outcomes are the same failure, or successes with related values. -/
inductive Outcome.Alike (related : α → β → Prop) : Outcome α → Outcome β → Prop
  | success {v : α} {w : β} (h : related v w) : Alike related (.success v) (.success w)
  | failure (e : Failure) : Alike related (.failure e) (.failure e)

theorem Outcome.Alike.of_eq {related : α → α → Prop} (h : ∀ v, related v v) (o : Outcome α) :
    o.Alike related o := by
  cases o with
  | success v => exact .success (h v)
  | failure e => exact .failure e

/-- The computations report the same events and end alike. -/
structure Logged.Alike (related : α → β → Prop) (x : Logged (Outcome α))
    (y : Logged (Outcome β)) : Prop where
  events : x.events = y.events
  value : x.value.Alike related y.value

theorem Logged.Alike.of_eq (x : Logged (Outcome α)) : x.Alike Eq x :=
  ⟨rfl, .of_eq (fun _ => rfl) x.value⟩

/-- Computations that end alike end alike with what follows them, if that does. -/
theorem Logged.Alike.bind {related : α → β → Prop} {γ δ : Type} {result : γ → δ → Prop}
    {x : Logged (Outcome α)} {y : Logged (Outcome β)} (h : x.Alike related y)
    {f : Outcome α → Logged (Outcome γ)} {g : Outcome β → Logged (Outcome δ)}
    (hresult : ∀ o other, o.Alike related other → (f o).Alike result (g other)) :
    (x >>= f).Alike result (y >>= g) := by
  have hrest := hresult x.value y.value h.value
  refine ⟨?_, hrest.value⟩
  rw [Logged.events_bind, Logged.events_bind, h.events, hrest.events]

/-- The results are outcomes that are alike, or the same fault. -/
inductive ResultAlike (related : α → β → Prop) :
    Except Fault (Outcome α) → Except Fault (Outcome β) → Prop
  | outcome {o : Outcome α} {other : Outcome β} (h : o.Alike related other) :
      ResultAlike related (.ok o) (.ok other)
  | fault (fault : Fault) : ResultAlike related (.error fault) (.error fault)

/-- The computations report the same events and end alike, or break off with the same fault. -/
structure Breaking.Alike (related : α → β → Prop) (x : Breaking (Outcome α))
    (y : Breaking (Outcome β)) : Prop where
  events : x.run.events = y.run.events
  value : ResultAlike related x.run.value y.run.value

theorem Breaking.Alike.of_eq {related : α → α → Prop} (h : ∀ v, related v v)
    (x : Breaking (Outcome α)) : Breaking.Alike related x x where
  events := rfl
  value := by
    cases x.run.value with
    | ok o => exact .outcome (.of_eq h o)
    | error fault => exact .fault fault

theorem Logged.Alike.lift {related : α → β → Prop} {x : Logged (Outcome α)}
    {y : Logged (Outcome β)} (h : x.Alike related y) :
    Breaking.Alike related (liftM x) (liftM y) where
  events := congrArg (· ++ []) h.events
  value := .outcome h.value

/-! ### Results of checks -/

/-- Why a check does not pass: the operation fails, or it breaks off. -/
inductive Objection
  | failure (failure : Failure)
  | fault (fault : Fault)

/-- The result is the objection of a check, or the check passes and the result is a success whose
value has the property. -/
inductive DecidedBy (property : α → Prop) : Option Objection → Except Fault (Outcome α) → Prop
  | success {v : α} (h : property v) : DecidedBy property none (.ok (.success v))
  | failure (e : Failure) : DecidedBy property (some (.failure e)) (.ok (.failure e))
  | fault (fault : Fault) : DecidedBy property (some (.fault fault)) (.error fault)

namespace DecidedBy

variable {property : α → Prop} {check : Option Objection} {result : Except Fault (Outcome α)}

theorem eq_failure_iff (h : DecidedBy property check result) (e : Failure) :
    result = .ok (.failure e) ↔ check = some (.failure e) := by
  cases h <;> simp

theorem eq_error_iff (h : DecidedBy property check result) (fault : Fault) :
    result = .error fault ↔ check = some (.fault fault) := by
  cases h <;> simp

theorem exists_eq_success_iff (h : DecidedBy property check result) :
    (∃ v, result = .ok (.success v)) ↔ check = none := by
  cases h <;> simp

theorem of_success (h : DecidedBy property check result) {v : α}
    (hv : result = .ok (.success v)) : property v := by
  cases h with
  | success h => exact Outcome.success.inj (Except.ok.inj hv) ▸ h
  | failure e => exact nomatch hv
  | fault fault => exact nomatch hv

theorem map {image : β → Prop} (h : DecidedBy property check result) {f : α → β}
    (hf : ∀ v, property v → image (f v)) : DecidedBy image check (result.map (Outcome.map f)) := by
  cases h with
  | success h => exact .success (hf _ h)
  | failure e => exact .failure e
  | fault fault => exact .fault fault

theorem imp {other : α → Prop} (h : DecidedBy property check result)
    (himp : ∀ v, property v → other v) : DecidedBy other check result := by
  cases h with
  | success h => exact .success (himp _ h)
  | failure e => exact .failure e
  | fault fault => exact .fault fault

/-- One computation after the other: the first check that objects decides. -/
theorem bindM {other : β → Prop} {next : Option Objection} {x : Breaking (Outcome α)}
    (h : DecidedBy property check x.run.value) {f : α → Breaking (Outcome β)}
    (hf : ∀ v, property v → DecidedBy other next (f v).run.value) :
    DecidedBy other (check.or next) (x >>= fun o => o.bindM f).run.value := by
  rw [Breaking.value_run_bind]
  generalize x.run.value = result at h
  cases h with
  | success h =>
      rw [Option.none_or]
      exact hf _ h
  | failure e => exact .failure e
  | fault fault => exact .fault fault

end DecidedBy

end PemBundle
