import TokenSync.Json.Source

/-!
# Connection and logging settings

Where the agent is and how it is spoken to, and how much is logged. Every setting of a connection
has a default of its own, and so has a connection as a whole. A secret is never shown.
-/
namespace TokenSync

open Json

/-- A text that must not be shown. -/
structure Secret where
  expose : String
deriving DecidableEq

namespace Secret

/-- A secret that is the empty text counts as none. -/
def nonempty? : Option Secret → Option Secret
  | some secret => if secret.expose.isEmpty then none else some secret
  | none => none

/-- What is shown of an optional secret. -/
def redacted : Option Secret → String
  | none => "None"
  | some _ => "Some(Secret(***))"

/-- Reads a secret from a text. -/
def read [Source α] (a : α) : Except Fault Secret := (readText a).map .mk

end Secret

/-! ## Connections -/

namespace Connection

/-- The host where none is given. -/
def defaultHost : String := "localhost"

/-- The port where none is given. -/
def defaultPort : UInt16 := 8500

/-- The scheme where none is given. -/
def defaultScheme : String := "http"

/-- The time limit where none is given. -/
def defaultTimeoutMs : UInt64 := 5000

end Connection

/-- How the agent is reached. Without any settings it has the defaults given here, which count where
a file has no block for the connection. -/
structure Connection where
  host : String := Connection.defaultHost
  port : UInt16 := Connection.defaultPort
  scheme : String := Connection.defaultScheme
  validateTls : Bool := true
  /-- The credential sent with every request; the empty text counts as none. -/
  managementToken : Option Secret := none
  timeoutMs : UInt64 := Connection.defaultTimeoutMs
deriving DecidableEq

instance : Inhabited Connection := ⟨{}⟩

namespace Connection

/-- The address all paths are relative to. -/
def baseUrl (connection : Connection) : String :=
  connection.scheme ++ "://" ++ connection.host ++ ":" ++ toString connection.port ++ "/v1"

/-- The credential that is sent. -/
def credential (connection : Connection) : Option Secret :=
  Secret.nonempty? connection.managementToken

variable {α : Type} [Source α]

/-- The field of the host. -/
def hostField : FieldSpec α String := ⟨"host", readText, some defaultHost⟩

/-- The field of the port. -/
def portField : FieldSpec α UInt16 :=
  ⟨"port", fun a => (readNat 16 a).map UInt16.ofNat, some defaultPort⟩

/-- The field of the scheme. -/
def schemeField : FieldSpec α String := ⟨"scheme", readText, some defaultScheme⟩

/-- The field of the switch for certificate checks. -/
def validateTlsField : FieldSpec α Bool := ⟨"validate_tls", readBool, some true⟩

/-- The field of the credential. -/
def managementTokenField : FieldSpec α (Option Secret) :=
  ⟨"management_token", readOptional Secret.read, some none⟩

/-- The field of the time limit. -/
def timeoutMsField : FieldSpec α UInt64 :=
  ⟨"timeout_ms", fun a => (readNat 64 a).map UInt64.ofNat, some defaultTimeoutMs⟩

/-- The fields of a connection in their order. -/
def checks : List (Check α) :=
  [hostField.check, portField.check, schemeField.check, validateTlsField.check,
    managementTokenField.check, timeoutMsField.check]

/-- Reads a connection. -/
def read (a : α) : Except Fault Connection := do
  let given ← readStructure "ConnectionConfig" checks a
  return {
    host := ← given.get hostField
    port := ← given.get portField
    scheme := ← given.get schemeField
    validateTls := ← given.get validateTlsField
    managementToken := ← given.get managementTokenField
    timeoutMs := ← given.get timeoutMsField }

end Connection

/-! ## Logging -/

/-- The two shapes of log lines. -/
inductive LogFormat where
  | json
  | compact
deriving DecidableEq, Repr

/-- The name of a log format. -/
def LogFormat.name : LogFormat → String
  | .json => "json"
  | .compact => "compact"

/-- The levels a caller may ask for, from the most to the fewest lines. -/
inductive LogLevel where
  | trace
  | debug
  | info
  | warn
  | error
deriving DecidableEq, Repr

namespace LogLevel

/-- The level with a name. -/
def ofName? : String → Option LogLevel
  | "trace" => some .trace
  | "debug" => some .debug
  | "info" => some .info
  | "warn" => some .warn
  | "error" => some .error
  | _ => none

/-- The text a level stands for in settings. -/
def setting : LogLevel → String
  | .trace => "TRACE"
  | .debug => "DEBUG"
  | .info => "INFO"
  | .warn => "WARN"
  | .error => "ERROR"

end LogLevel

/-- Logging settings; the level is a free text. -/
structure Logging where
  level : String
  format : LogFormat
deriving DecidableEq, Repr

namespace Logging

/-- What counts when nothing is said about logging. -/
def standard : Logging := ⟨"info", .compact⟩

/-- The field of the level. -/
def levelField : FieldSpec Json String := ⟨"level", readText, none⟩

/-- The field of the format. -/
def formatField : FieldSpec Json LogFormat :=
  ⟨"format", readVariant ("json", .json) ("compact", .compact), none⟩

/-- Reads logging settings, in which nothing may be left out. -/
def read (value : Json) : Except Fault Logging := do
  let given ← readStructure "LoggingConfig" [levelField.check, formatField.check] value
  return { level := ← given.get levelField, format := ← given.get formatField }

/-- The settings that count: a level the caller asks for wins over the one in the settings. -/
def resolve (settings : Option Logging) (asked : Option LogLevel) : Logging :=
  let base := settings.getD standard
  match asked with
  | some level => { base with level := level.setting }
  | none => base

end Logging

end TokenSync
