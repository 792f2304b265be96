import PemBundle.ChainOrder
import PemBundle.Json.Compare
import PemBundle.Outcome

/-!
# Settings

Three settings, each decided by the highest source that gives it: an override, a variable of the
environment, a value of an environment file, the default. Names of variables count without regard to
case. The chain order is read leniently, as far as the given value can be shown as text; the others
can be refused. All refusals are reported together.
-/

namespace PemBundle

/-- The settings of a toolkit. -/
structure Settings where
  chainOrder : ChainOrder
  keyFormat : CodeText
  logLevel : LogLevel
  deriving DecidableEq

/-- A value given to a setting. -/
inductive SettingValue
  | json (value : Json)
  | order (order : ChainOrder)

/-- The text that a value is taken for where a text is asked for; a chain order is taken for its
name. -/
def SettingValue.text? : SettingValue → Option CodeText
  | .json (.text text) => some text
  | .json _ => none
  | .order asked => some asked.name

/-- The three settings. -/
inductive SettingField
  | chainOrder
  | keyFormat
  | logLevel
  deriving DecidableEq

/-- The name of a setting. -/
def SettingField.name : SettingField → String
  | .chainOrder => "chain_order"
  | .keyFormat => "key_format"
  | .logLevel => "log_level"

/-- The lower-case name of the variable for a setting. -/
def SettingField.variable (field : SettingField) : String := "pem_collection_" ++ field.name

namespace Settings

/-- What is used where nothing is given. -/
def default : Settings := ⟨.rootLast, "", .info⟩

/-- Where settings come from: overrides by name, the environment, and the values of a file, of which
a name may have none. -/
structure Sources where
  overrides : List (String × SettingValue)
  environment : List (CodeText × CodeText)
  file : List (CodeText × Option CodeText)

/-- The value of the last variable of this lower-case name. -/
def lastNamed {α : Type} (name : String) (entries : List (CodeText × α)) : Option α :=
  (entries.reverse.find? fun (n, _) => n.unicode?.map Text.lower = some name).map Prod.snd

/-- The value that decides a setting, unless no source gives one. -/
def Sources.find? (sources : Sources) (field : SettingField) : Option SettingValue :=
  (sources.overrides.lookup field.name).or
    (((lastNamed field.variable sources.environment).or
      (lastNamed field.variable sources.file).join).map fun text => .json (.text text))

/-- The chain order that a value asks for. A value that is no text is read by the text that shows
it, which names no order; one that cannot be shown gives none. -/
def readChainOrder : SettingValue → Except Json.Obstacle ChainOrder
  | .order order => .ok order
  | .json (.text text) => .ok (.ofText (some text))
  | .json value =>
      match value.obstacle? Json.maxDepth with
      | some obstacle => .error obstacle
      | none => .ok (.ofText none)

/-- The key format that a value gives. -/
def readKeyFormat (value : SettingValue) : Except SettingError CodeText :=
  match value.text? with
  | some text => .ok text
  | none => .error .notText

/-- The log level that a value names. -/
def readLogLevel (value : SettingValue) : Except SettingError LogLevel :=
  match value.text? with
  | some text =>
      match text.unicode?.bind LogLevel.ofSetting? with
      | some level => .ok level
      | none => .error (.unknownLevel text)
  | none => .error .notText

/-- A setting read from what the sources give, or its default. -/
def Sources.readOr {ε α : Type} (sources : Sources) (field : SettingField)
    (read : SettingValue → Except ε α) (default : α) : Except ε α :=
  match sources.find? field with
  | some value => read value
  | none => .ok default

/-- The error of a refused setting, under its name. -/
def errorOf {α : Type} (field : SettingField) : Except SettingError α → List (String × SettingError)
  | .ok _ => []
  | .error e => [(field.name, e)]

/-- The order that was read, or the error to report; a value nested too deep breaks off. -/
def reportObstacle : Except Json.Obstacle ChainOrder →
    Except Fault (Except SettingError ChainOrder)
  | .ok order => .ok (.ok order)
  | .error .tooManyDigits => .ok (.error .tooManyDigits)
  | .error .tooDeep => .error .tooDeep

/-- The settings that the sources give, or why there are none. -/
def check (sources : Sources) : Except Fault Settings := do
  let order ← reportObstacle (sources.readOr .chainOrder readChainOrder default.chainOrder)
  let format := sources.readOr .keyFormat readKeyFormat default.keyFormat
  let level := sources.readOr .logLevel readLogLevel default.logLevel
  match order, format, level with
  | .ok order, .ok format, .ok level => .ok ⟨order, format, level⟩
  | _, _, _ =>
      .error (.settings (errorOf .chainOrder order ++ errorOf .keyFormat format ++
        errorOf .logLevel level))

/-- The settings that the sources give. -/
def load (sources : Sources) : Outcome Settings :=
  .ofExcept .configurationError "Invalid pem-collection configuration" (check sources)

end Settings

end PemBundle
