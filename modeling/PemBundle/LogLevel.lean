import PemBundle.Text.Blank
import PemBundle.Text.Quoted

/-!
# Log levels

Events have one of five levels. A level's rank decides what a threshold lets pass.
-/

namespace PemBundle

/-- How serious an event is. -/
inductive LogLevel
  | debug
  | info
  | warning
  | error
  | critical
  deriving DecidableEq

namespace LogLevel

/-- All levels, from the least serious on. -/
def all : List LogLevel := [.debug, .info, .warning, .error, .critical]

/-- The name of a level on an event. -/
def name : LogLevel → String
  | .debug => "debug"
  | .info => "info"
  | .warning => "warning"
  | .error => "error"
  | .critical => "critical"

/-- The name of a level in settings. -/
def settingName : LogLevel → String
  | .debug => "DEBUG"
  | .info => "INFO"
  | .warning => "WARNING"
  | .error => "ERROR"
  | .critical => "CRITICAL"

/-- The rank of a level on the scale that thresholds use. -/
def rank : LogLevel → Nat
  | .debug => 10
  | .info => 20
  | .warning => 30
  | .error => 40
  | .critical => 50

/-- The level that settings text names, whatever its case and the blanks around it. -/
def ofSetting? (text : String) : Option LogLevel :=
  let wanted := Text.upper (String.ofList (Text.trim text.toList))
  all.find? (·.settingName = wanted)

end LogLevel

/-- Why a level name cannot be a threshold. -/
inductive ThresholdError
  /-- The name stands for a text, here given, and not for a level. -/
  | isText (text : String)
  /-- The name stands for a table, which is no level. -/
  | isTable
  deriving DecidableEq

/-- The wording of an error. -/
def ThresholdError.message : ThresholdError → String
  | .isText text => Text.quoted (Text.lower text)
  | .isTable => "unhashable type: 'dict'"

/-- The least rank that passes when a level of this name, whatever its case, is the threshold. Two
levels have a second name, one name lets everything pass, and an unknown name is read as the level
for information. -/
def threshold (text : String) : Except ThresholdError Nat :=
  match Text.upper text with
  | "NOTSET" => .ok 0
  | "DEBUG" => .ok LogLevel.debug.rank
  | "WARN" | "WARNING" => .ok LogLevel.warning.rank
  | "ERROR" => .ok LogLevel.error.rank
  | "FATAL" | "CRITICAL" => .ok LogLevel.critical.rank
  | "BASIC_FORMAT" => .error (.isText "%(levelname)s:%(name)s:%(message)s")
  | "_STYLES" => .error .isTable
  | _ => .ok LogLevel.info.rank

end PemBundle
