import PemBundle.ChainOrder
import PemBundle.Failure
import PemBundle.Pem.Scan

/-!
# Events

Operations report what they did as events. An event has a name, a level and named fields; none of
its fields holds key material.
-/

namespace PemBundle

/-- The two forms in which keys are written: the structure of their own type, or the general
wrapper. -/
inductive KeyForm
  | traditional
  | wrapped
  deriving DecidableEq

/-- The name of a form on events. -/
def KeyForm.name : KeyForm → String
  | .traditional => "TraditionalOpenSSL"
  | .wrapped => "PKCS8"

/-- The name of the kind of an optional key. -/
def keyTypeName (kind : Option KeyKind) : String := (kind.map KeyKind.name).getD "NoneType"

/-- The parts of the program that report events, each through a logger of its own. -/
inductive Logger
  | scanner
  | parser
  | exporter
  | encoder
  | builder
  | toolkit
  deriving DecidableEq

/-- What an operation did. -/
inductive Event
  /-- A scan ended before the end of its text. -/
  | scanStopped (stop : Pem.Stop)
  /-- A block that is neither certificate nor key was passed over. -/
  | blockSkipped (label : String) (index : Nat)
  | bundleParsed (certificates : Nat) (privateKey : Bool) (skipped : Nat) (order : ChainOrder)
  | bundleRejected (error : String)
  /-- A key block has no run-time form. -/
  | keyUnsupported (label : String) (encrypted : Bool)
  | exported (chainLength : Nat) (kind : KeyKind)
  | keyEncoded (kind : KeyKind) (form : KeyForm) (encrypted : Bool)
  | keyNotEncoded (kind : Option KeyKind) (format : Option CodeText) (error : String)
  | keyAdded (encrypted : Bool)
  | toolkitConfigured (level : LogLevel) (order : ChainOrder) (keyFormat : CodeText)
  deriving DecidableEq

namespace Event

/-- The name of an event. -/
def name : Event → String
  | .scanStopped _ => "pem.scan_stopped"
  | .blockSkipped _ _ => "bundle.block_skipped"
  | .bundleParsed _ _ _ _ => "bundle.parsed"
  | .bundleRejected _ => "bundle.rejected"
  | .keyUnsupported _ _ => "exporter.unsupported_key"
  | .exported _ _ => "exporter.complete"
  | .keyEncoded _ _ _ => "key_encoder.encoded"
  | .keyNotEncoded _ _ _ => "key_encoder.failed"
  | .keyAdded _ => "collection.key_added"
  | .toolkitConfigured _ _ _ => "toolkit.configured"

/-- The level of an event. -/
def level : Event → LogLevel
  | .scanStopped _ | .blockSkipped _ _ | .keyEncoded _ _ _ | .keyAdded _ => .debug
  | .bundleParsed _ _ _ _ | .exported _ _ | .toolkitConfigured _ _ _ => .info
  | .bundleRejected _ | .keyUnsupported _ _ | .keyNotEncoded _ _ _ => .warning

/-- The logger through which an event is reported. -/
def logger : Event → Logger
  | .scanStopped _ => .scanner
  | .blockSkipped _ _ | .bundleParsed _ _ _ _ | .bundleRejected _ => .parser
  | .keyUnsupported _ _ | .exported _ _ => .exporter
  | .keyEncoded _ _ _ | .keyNotEncoded _ _ _ => .encoder
  | .keyAdded _ => .builder
  | .toolkitConfigured _ _ _ => .toolkit

/-- The fields of an event. -/
def fields : Event → List (String × Json)
  | .scanStopped stop =>
      ("reason", .text stop.reason) :: (stop.label?.map fun l => ("label", Json.text l)).toList
  | .blockSkipped label index => [("label", .text label), ("index", .int index)]
  | .bundleParsed certificates privateKey skipped order =>
      [("certificates", .int certificates), ("private_key", .bool privateKey),
        ("skipped", .int skipped), ("chain_order", .text order.name)]
  | .bundleRejected error => [("error", .text error)]
  | .keyUnsupported label encrypted => [("label", .text label), ("encrypted", .bool encrypted)]
  | .exported chainLength kind =>
      [("chain_length", .int chainLength), ("key_type", .text kind.name)]
  | .keyEncoded kind form encrypted =>
      [("key_type", .text kind.name), ("private_format", .text form.name),
        ("encrypted", .bool encrypted)]
  | .keyNotEncoded kind format error =>
      [("key_type", .text (keyTypeName kind)),
        ("key_format", (format.map Json.text).getD .null), ("error", .text error)]
  | .keyAdded encrypted => [("encrypted", .bool encrypted)]
  | .toolkitConfigured level order keyFormat =>
      [("log_level", .text level.settingName), ("chain_order", .text order.name),
        ("key_format", .text keyFormat)]

end Event

end PemBundle
