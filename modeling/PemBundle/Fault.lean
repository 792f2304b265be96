import PemBundle.Json.Reader
import PemBundle.LogLevel
import PemBundle.PrivateKey.Password
import PemBundle.PrivateKey.Reader
import PemBundle.X509.Certificate

/-!
# Faults

A fault is the cause that a failed operation reports, or that makes an operation give no outcome at
all. Each has a class and a message, which traces and reports show.
-/

namespace PemBundle

/-- A setting that was given a value it cannot have. -/
inductive SettingError
  | notText
  /-- The text names no log level. -/
  | unknownLevel (text : CodeText)
  /-- The value holds a number with more digits than a text may show. -/
  | tooManyDigits
  deriving DecidableEq

/-- The kind of a setting error in reports. -/
def SettingError.kind : SettingError → String
  | .notText => "string_type"
  | .unknownLevel _ | .tooManyDigits => "value_error"

/-- The wording of a setting error. -/
def SettingError.message : SettingError → String
  | .notText => "Input should be a valid string"
  | .unknownLevel text =>
      "Value error, log_level must be one of " ++
        String.intercalate ", " (LogLevel.all.map LogLevel.settingName) ++
        ", got " ++ text.quoted
  | .tooManyDigits =>
      "Value error, Exceeds the limit (" ++ toString Json.maxDigits ++
        " digits) for integer string conversion; " ++
          "use sys.set_int_max_str_digits() to increase the limit"

/-- Why a key cannot be encoded. -/
inductive EncodingError
  | password (error : PasswordError)
  /-- Keys of this kind have no text form. -/
  | unsupportedKey (kind : String)
  | passwordTooLong
  deriving DecidableEq

/-- The most bytes that a password may have. -/
def maxPasswordLength : Nat := 1023

/-- The wording of an encoding error. -/
def EncodingError.message : EncodingError → String
  | .password error => error.message
  | .unsupportedKey kind => "Unable to format key of type " ++ kind
  | .passwordTooLong =>
      "Passwords longer than " ++ toString maxPasswordLength ++
        " bytes are not supported by this backend"

/-- What went wrong. -/
inductive Fault
  | successWithoutValue
  | failureWithoutError
  /-- The value of a failure with this message was asked for. -/
  | valueOfFailure (message : String)
  /-- The error of a success was asked for; its value is shown. -/
  | errorOfSuccess (shown : String)
  | assertion (message : String)
  | json (error : Json.ReadError)
  /-- Fields were asked of a value of this kind. -/
  | notMapping (kind : String)
  /-- A field that holds a text was given a value of this kind. -/
  | notText (field kind : String)
  | chainNotTexts
  | certificate (error : X509.CertificateError)
  | key (error : PrivateKey.ReadError)
  /-- A block of this label holds a key of another kind. -/
  | keyMismatch (label : String) (kind : KeyKind)
  | encoding (error : EncodingError)
  | settings (errors : List (String × SettingError))
  /-- A value is nested too deep to be shown. -/
  | tooDeep
  | notAscii (run : Text.NotAscii)
  /-- A text has surrogates, which have no UTF-8 bytes. -/
  | notUtf8 (run : SurrogateRun)
  | emptyChain
  | threshold (error : ThresholdError)
  /-- A fault from outside, of a class of its own, with the fault that led to it. -/
  | other (kind message : String) (cause : Option Fault)

namespace Fault

/-- The class of a fault. -/
def kind : Fault → String
  | .successWithoutValue | .failureWithoutError => "TypeError"
  | .valueOfFailure _ | .errorOfSuccess _ => "ValueError"
  | .assertion _ => "AssertionError"
  | .json (.problem _ _) => "JSONDecodeError"
  | .json (.tooDeep _) => "RecursionError"
  | .json (.tooManyDigits _) => "ValueError"
  | .notMapping _ => "AttributeError"
  | .notText _ _ | .chainNotTexts => "TypeError"
  | .certificate .malformed => "ValueError"
  | .certificate (.invalidVersion _) => "InvalidVersion"
  | .key .malformed => "ValueError"
  | .key .passwordMissing => "TypeError"
  | .keyMismatch _ _ => "TypeError"
  | .encoding (.password error) =>
      match error with
      | .negativeCount | .valueOutOfRange => "ValueError"
      | .countTooLarge => "OverflowError"
      | .notWhole _ | .notBytes _ => "TypeError"
      | .notUtf8 _ => "UnicodeEncodeError"
  | .encoding (.unsupportedKey _) => "TypeError"
  | .encoding .passwordTooLong => "ValueError"
  | .settings _ => "ValidationError"
  | .tooDeep => "RecursionError"
  | .notAscii _ | .notUtf8 _ => "UnicodeEncodeError"
  | .emptyChain => "IndexError"
  | .threshold (.isText _) => "KeyError"
  | .threshold .isTable => "TypeError"
  | .other kind _ _ => kind

/-- The wording of a fault. -/
def message : Fault → String
  | .successWithoutValue => "Success value must not be None"
  | .failureWithoutError => "Failure error must not be None"
  | .valueOfFailure message => "Cannot get value from a Failure: " ++ message
  | .errorOfSuccess shown => "Cannot get error from a Success: " ++ shown
  | .assertion message => message
  | .json error => error.message
  | .notMapping kind => "'" ++ kind ++ "' object has no attribute 'get'"
  | .notText field kind => field ++ " must be a string, got " ++ kind
  | .chainNotTexts => "Chain must be a list of strings"
  | .certificate error => error.message
  | .key error => error.message
  | .keyMismatch label kind => label ++ " block holds a " ++ kind.name
  | .encoding error => error.message
  | .settings errors =>
      String.intercalate "\n" (errors.map fun (field, error) => field ++ ": " ++ error.message)
  | .tooDeep => "maximum recursion depth exceeded while getting the repr of an object"
  | .notAscii run => run.message
  | .notUtf8 run => run.message
  | .emptyChain => "tuple index out of range"
  | .threshold error => error.message
  | .other _ message _ => message

/-- The last line of a fault's trace: its class and, unless it is empty, its message. -/
def line (fault : Fault) : String :=
  if fault.message = "" then fault.kind else fault.kind ++ ": " ++ fault.message

/-- The trace of a fault: the trace of what led to it, then its own line. -/
def trace : Fault → String
  | .other kind message (some cause) =>
      cause.trace ++
        "\nThe above exception was the direct cause of the following exception:\n\n" ++
        line (.other kind message none) ++ "\n"
  | fault => fault.line ++ "\n"

end Fault

end PemBundle
