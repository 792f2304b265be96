import PemBundle.Fault

/-!
# Failures

A failed operation is described by a code, a message, and the fault behind it, if there is one. The
time at which a description is made is left out: nothing shows it, compares it or decides by it.
-/

namespace PemBundle

/-- The kinds of failure. -/
inductive FailureCode
  /-- A private key is already stored. -/
  | duplicateKey
  /-- A signing request is already stored. -/
  | duplicateCsr
  /-- A required argument is absent. -/
  | invalidInput
  /-- A block labelled as a certificate is none. -/
  | certificateDecodeError
  /-- A private key cannot be encoded. -/
  | encodingError
  /-- Text is absent, cannot be decoded, or carries the wrong label. -/
  | malformedInput
  /-- A private key block cannot be turned into a key. -/
  | unsupportedKey
  /-- Settings cannot be loaded. -/
  | configurationError
  deriving DecidableEq

namespace FailureCode

/-- All codes. -/
def all : List FailureCode :=
  [.duplicateKey, .duplicateCsr, .invalidInput, .certificateDecodeError, .encodingError,
    .malformedInput, .unsupportedKey, .configurationError]

/-- The name of a code. -/
def name : FailureCode → String
  | .duplicateKey => "DUPLICATE_KEY"
  | .duplicateCsr => "DUPLICATE_CSR"
  | .invalidInput => "INVALID_INPUT"
  | .certificateDecodeError => "CERTIFICATE_DECODE_ERROR"
  | .encodingError => "ENCODING_ERROR"
  | .malformedInput => "MALFORMED_INPUT"
  | .unsupportedKey => "UNSUPPORTED_KEY"
  | .configurationError => "CONFIGURATION_ERROR"

/-- The code of the given name. -/
def ofName? (text : String) : Option FailureCode := all.find? (·.name = text)

@[simp] theorem ofName?_name (code : FailureCode) : ofName? code.name = some code := by
  cases code <;> decide

end FailureCode

/-- The description of a failed operation. -/
structure Failure where
  code : FailureCode
  message : String
  fault : Option Fault

namespace Failure

/-- The message, followed by the trace of the fault if there is one. -/
def trace (failure : Failure) : String :=
  match failure.fault with
  | none => failure.message
  | some fault => failure.message ++ "\n" ++ fault.trace

/-- The code and the quoted message. -/
def summary (failure : Failure) : String :=
  failure.code.name ++ ": " ++ Text.quoted failure.message

/-- Two failures count as the same when code and message are; faults are not compared. -/
def same (first second : Failure) : Bool :=
  first.code = second.code && first.message = second.message

end Failure

end PemBundle
