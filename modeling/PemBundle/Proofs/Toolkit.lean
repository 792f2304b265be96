import PemBundle.Proofs.Logging
import PemBundle.Proofs.Settings
import PemBundle.Toolkit

/-!
# Toolkits add settings and nothing else

A toolkit's session is a session of the plain operations under the format hint and the chain order
of its settings. The level of its settings decides only which of the reported events are emitted:
those from this level on, unless a logger was bound at another before. A toolkit whose settings cannot
be loaded leaves nothing behind but the failure.
-/

namespace PemBundle.Toolkit

/-- What the plain operations answer under a format hint and a chain order, wherever a step asks for
one. -/
def plain (format : CodeText) (order : ChainOrder) (move : Protection × Step) (c : Credentials) :
    Logged Reply :=
  let encode := KeyEncoder.standard move.1
  match move.2 with
  | .build certificate key password _ =>
      .credentials <$> Credentials.build encode certificate key password (some format)
  | .addKey key password _ =>
      .credentials <$> c.addPrivateKey encode key password (some format)
  | .parse _ data => .ofResult .credentials <$> (Bundle.read order data).run
  | .exportBundle _ data =>
      .ofResult .runtime <$> ExceptT.run do
        (← Bundle.read order data).bindM RuntimeCertificate.ofCredentials
  | step => step.run encode c

/-- What a toolkit answers to a step, given what is drawn for it. -/
def runDrawn (toolkit : Toolkit) (move : Protection × Step) (c : Credentials) : Process Reply :=
  toolkit.run move.1 c move.2

/-- The plain operations under a toolkit's settings are its steps, apart from what is emitted. -/
theorem run_adapt_eq (toolkit : Toolkit) (move : Protection × Step) (c : Credentials) :
    (toolkit.adapt move.2).run (KeyEncoder.standard move.1) c =
      plain toolkit.keyFormat toolkit.chainOrder move c := by
  obtain ⟨protection, step⟩ := move
  cases step with
  | parse _ data | exportBundle _ data =>
      rw [adapt, Step.run, Logged.replay_eq]
      rfl
  | _ => rfl

/-- A toolkit answers a step as the plain operations do under its settings. -/
theorem follows_runDrawn (toolkit : Toolkit) (move : Protection × Step) (c : Credentials) :
    Process.Follows (toolkit.runDrawn move c)
      (plain toolkit.keyFormat toolkit.chainOrder move c) := by
  rw [runDrawn, run, run_adapt_eq]
  exact .replay _

theorem threshold_settingName (level : LogLevel) :
    threshold level.settingName = .ok level.rank := by
  cases level <;> rfl

/-! ### What is emitted -/

/-- Whether an event is emitted once logging is configured at a level in the given state: the logger
keeps the rank at which it was bound, if it was. -/
def passes (before : Logging) (level : LogLevel) (event : Event) : Bool :=
  (before.bound event.logger).getD level.rank ≤ event.level.rank

/-- Without a logger that was bound before, an event is emitted from the level on. -/
theorem passes_of_unbound {before : Logging} (h : ∀ logger, before.bound logger = none)
    (level : LogLevel) : passes before level = fun event : Event => level.rank ≤ event.level.rank := by
  funext event
  rw [passes, h, Option.getD_none]

/-- From the state on, a toolkit of the settings answers any session as the plain operations do under
the format hint and the chain order of the settings, and emits of their events those that pass, in the
session as a whole and in any step after it. -/
structure Serves (toolkit : Toolkit) (s : Settings) (state : Logging) (passing : Event → Bool) :
    Prop where
  answers : ∀ start moves, ((Session.run toolkit.runDrawn start moves).run state).value.1 =
    (Session.run (plain s.keyFormat s.chainOrder) start moves).value
  events : ∀ start moves, ((Session.run toolkit.runDrawn start moves).run state).events =
    (Session.run (plain s.keyFormat s.chainOrder) start moves).events.filter passing
  step : ∀ start moves move c,
    let later := ((Session.run toolkit.runDrawn start moves).run state).value.2
    ((toolkit.runDrawn move c).run later).value.1 = (plain s.keyFormat s.chainOrder move c).value ∧
      ((toolkit.runDrawn move c).run later).events =
        (plain s.keyFormat s.chainOrder move c).events.filter passing

/-- A toolkit serves by the ranks of the loggers. -/
theorem serves (s : Settings) {state : Logging} {passing : Event → Bool}
    (h : state.emits = passing) : Serves ⟨s.chainOrder, s.keyFormat⟩ s state passing := by
  have hstep := follows_runDrawn ⟨s.chainOrder, s.keyFormat⟩
  have hsession := Process.Follows.session hstep
  subst h
  refine ⟨fun start moves => (hsession start moves).value state,
    fun start moves => (hsession start moves).events state, ?_⟩
  intro start moves move c later
  have hlater : later.emits = state.emits :=
    Logging.emits_congr ((hsession start moves).rank state)
  exact ⟨(hstep move c).value later, hlater ▸ (hstep move c).events later⟩

/-- The state in which making a toolkit leaves logging: the level is configured, and the toolkits'
own logger is bound. -/
def configuredAt (before : Logging) (level : LogLevel) : Logging :=
  { before with configured := some level.rank }.use .toolkit

theorem emits_configuredAt (before : Logging) (level : LogLevel) :
    (configuredAt before level).emits = passes before level := by
  rw [configuredAt, Logging.emits_congr (Logging.rank?_use _ _)]
  funext event
  exact Logging.emits_of_configured rfl event

/-- Making a toolkit configures logging, and then tells of the toolkit. -/
theorem run_create (s : Settings) (before : Logging) :
    (create s).run before = ⟨(⟨s.chainOrder, s.keyFormat⟩, configuredAt before s.logLevel),
      [configured s].filter (passes before s.logLevel)⟩ := by
  have hemits : { before with configured := some s.logLevel.rank }.emits =
      passes before s.logLevel := by
    funext event
    exact Logging.emits_of_configured rfl event
  have hevents : ((create s).run before).events =
      if { before with configured := some s.logLevel.rank }.emits (configured s) then [configured s]
      else [] := by
    change [] ++ ((if _ then [configured s] else []) ++ []) = _
    rw [List.nil_append, List.append_nil]
  ext1
  · rfl
  · rw [hevents, hemits, List.filter_cons, List.filter_nil]

theorem run_bootstrap_of_failure {sources : Settings.Sources} {failure : Failure}
    (h : Settings.load sources = .failure failure) (before : Logging) :
    (bootstrap sources).run before = ⟨(.failure failure, before), []⟩ := by
  rw [bootstrap, h]
  rfl

theorem run_bootstrap_of_success {sources : Settings.Sources} {s : Settings}
    (h : Settings.load sources = .success s) (before : Logging) :
    (bootstrap sources).run before =
      ⟨(.success ⟨s.chainOrder, s.keyFormat⟩, configuredAt before s.logLevel),
        [configured s].filter (passes before s.logLevel)⟩ := by
  have hrun : (bootstrap sources).run before =
      ⟨(.success ((create s).run before).value.1, ((create s).run before).value.2),
        ((create s).run before).events ++ []⟩ := by
    rw [bootstrap, h]
    rfl
  rw [hrun, run_create, List.append_nil]

/-- The turns of a session with the toolkit of the sources, if there is one, in a process that is in
the given state before. -/
def turns (sources : Settings.Sources) (before : Logging) (start : Credentials)
    (moves : List (Protection × Step)) : Outcome (List Turn) :=
  let made := (bootstrap sources).run before
  made.value.1.map fun toolkit =>
    ((Session.run toolkit.runDrawn start moves).run made.value.2).value.1

theorem turns_of_success {sources : Settings.Sources} {s : Settings}
    (h : Settings.load sources = .success s) (before : Logging) (start : Credentials)
    (moves : List (Protection × Step)) :
    turns sources before start moves =
      .success (Session.run (plain s.keyFormat s.chainOrder) start moves).value := by
  rw [turns, run_bootstrap_of_success h]
  exact congrArg Outcome.success
    ((serves s (emits_configuredAt before s.logLevel)).answers start moves)

/-- A toolkit that is asked for in any state of logging either is the failure to load its settings,
and nothing is emitted and logging is as it was, or it is bound to the settings, and logging is
configured at their level. Then the toolkit answers every session as the plain operations do under
the format hint and the chain order of the settings, and emits their events from the level on, in
their order; a logger that was bound before keeps the rank at which it was. So settings that differ
in their level alone give the same turns. -/
theorem bootstrap_refines (sources : Settings.Sources) (before : Logging) :
    (∀ failure, Settings.load sources = .failure failure →
      failure.code = .configurationError ∧
        (bootstrap sources).run before = ⟨(.failure failure, before), []⟩) ∧
    ∀ s, Settings.load sources = .success s →
      threshold s.logLevel.settingName = .ok s.logLevel.rank ∧
      (∃ after,
        (bootstrap sources).run before = ⟨(.success ⟨s.chainOrder, s.keyFormat⟩, after),
          [configured s].filter fun event =>
            (before.bound event.logger).getD s.logLevel.rank ≤ event.level.rank⟩ ∧
        after.configured = some s.logLevel.rank ∧
        Serves ⟨s.chainOrder, s.keyFormat⟩ s after
          (fun event => (before.bound event.logger).getD s.logLevel.rank ≤ event.level.rank) ∧
        ((∀ logger, before.bound logger = none) →
          Serves ⟨s.chainOrder, s.keyFormat⟩ s after
            (fun event => s.logLevel.rank ≤ event.level.rank))) ∧
      ∀ other level, Settings.load other = .success { s with logLevel := level } →
        ∀ state start moves, turns other state start moves = turns sources before start moves := by
  constructor
  · intro failure h
    exact ⟨(Settings.code_of_load h).1, run_bootstrap_of_failure h before⟩
  · intro s h
    have hemits := emits_configuredAt before s.logLevel
    refine ⟨threshold_settingName s.logLevel, ⟨configuredAt before s.logLevel,
      run_bootstrap_of_success h before, rfl, serves s hemits, ?_⟩, ?_⟩
    · intro hunbound
      exact serves s (hemits.trans (passes_of_unbound hunbound s.logLevel))
    · intro other level hother state start moves
      rw [turns_of_success h, turns_of_success hother]

/-- Variables for all settings, under names of any case, and an override of the level. -/
def variedSources (level : String) : Settings.Sources where
  overrides := [("log_level", .json (.text level))]
  environment := [("Pem_Collection_Key_Format", "legacy-pem"),
    ("PEM_COLLECTION_CHAIN_ORDER", "Root-First"), ("PEM_COLLECTION_LOG_LEVEL", "debug")]
  file := [("PEM_COLLECTION_KEY_FORMAT", some (.unicode "pkcs8"))]

theorem bootstrap_refines_varied :
    (∃ after,
      (bootstrap (variedSources " Warning")).run .fresh =
        ⟨(.success ⟨.rootFirst, "legacy-pem"⟩, after), []⟩ ∧
      after.configured = some 30 ∧
      Serves ⟨.rootFirst, "legacy-pem"⟩ ⟨.rootFirst, "legacy-pem", .warning⟩ after
        (fun event => 30 ≤ event.level.rank)) ∧
    (∀ start moves, turns (variedSources "debug") .fresh start moves =
      turns (variedSources " Warning") .fresh start moves) ∧
    ∃ failure, failure.code = .configurationError ∧
      (bootstrap (variedSources "loud")).run .fresh = ⟨(.failure failure, .fresh), []⟩ := by
  have hload : Settings.load (variedSources " Warning") =
      .success ⟨.rootFirst, "legacy-pem", .warning⟩ := by rfl
  have hother : Settings.load (variedSources "debug") =
      .success ⟨.rootFirst, "legacy-pem", .debug⟩ := by rfl
  have hfailure : Settings.load (variedSources "loud") = .failure
      ⟨.configurationError, "Invalid pem-collection configuration",
        some (.settings [("log_level", .unknownLevel "loud")])⟩ := by rfl
  obtain ⟨-, ⟨after, hrun, hafter, -, hserves⟩, hturns⟩ :=
    (bootstrap_refines (variedSources " Warning") .fresh).2 _ hload
  exact ⟨⟨after, hrun, hafter, hserves fun _ => rfl⟩, hturns _ .debug hother .fresh,
    _, (bootstrap_refines (variedSources "loud") .fresh).1 _ hfailure⟩

end PemBundle.Toolkit
