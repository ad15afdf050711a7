import TokenSync.Config.Template
import TokenSync.Config.TokenSpec
import TokenSync.Yaml.Reading

/-!
# Configuration files

A configuration file is a YAML text with three parts: how the agent is reached, what is logged, and
the token. Placeholders are filled in before the text is read. Only the part for the token is
required, and what is left out of it or of the connection has the usual default.
-/
namespace TokenSync

open Yaml

/-- A configuration as it is written in a file. -/
structure ConfigFile where
  connection : Connection
  logging : Option Logging
  token : TokenSpec
deriving DecidableEq

namespace ConfigFile

/-! ## The connection -/

/-- The field of the host. -/
def hostField : FieldSpec String := ⟨"host", readText, some Connection.defaultHost⟩

/-- The field of the port. -/
def portField : FieldSpec UInt16 :=
  ⟨"port", fun node => UInt16.ofNat <$> readNat 16 node, some Connection.defaultPort⟩

/-- The field of the scheme. -/
def schemeField : FieldSpec String := ⟨"scheme", readText, some Connection.defaultScheme⟩

/-- The field of the switch for certificate checks. -/
def validateTlsField : FieldSpec Bool := ⟨"validate_tls", readBool, some true⟩

/-- Reads a secret that may be missing. -/
def readSecret (node : Node.Numbered) : Reading (Option Secret) :=
  readOptional (fun node => Secret.mk <$> readText node) node

/-- The field of the credential. -/
def managementTokenField : FieldSpec (Option Secret) :=
  ⟨"management_token", readSecret, some none⟩

/-- The field of the time limit. -/
def timeoutMsField : FieldSpec UInt64 :=
  ⟨"timeout_ms", fun node => UInt64.ofNat <$> readNat 64 node, some Connection.defaultTimeoutMs⟩

/-- Reads a connection. -/
def readConnection (node : Node.Numbered) : Reading Connection := do
  let parts ← readStructure
    ["host", "port", "scheme", "validate_tls", "management_token", "timeout_ms"] node
  return {
    host := ← hostField.get parts
    port := ← portField.get parts
    scheme := ← schemeField.get parts
    validateTls := ← validateTlsField.get parts
    managementToken := ← managementTokenField.get parts
    timeoutMs := ← timeoutMsField.get parts }

/-! ## Logging -/

/-- The log format with a name. -/
def formatOfName? (name : String) : Option LogFormat :=
  if name = "json" then some .json else if name = "compact" then some .compact else none

/-- The field of the level. -/
def levelField : FieldSpec String := ⟨"level", readText, none⟩

/-- The field of the format. -/
def formatField : FieldSpec LogFormat := ⟨"format", readVariant formatOfName?, none⟩

/-- Reads logging settings, in which nothing may be left out. -/
def readLogging (node : Node.Numbered) : Reading Logging := do
  let parts ← readStructure ["level", "format"] node
  return { level := ← levelField.get parts, format := ← formatField.get parts }

/-! ## The token -/

/-- The field of the identifier. -/
def idField : FieldSpec String := ⟨"id", readText, some ""⟩

/-- The field of the description. -/
def descriptionField : FieldSpec String := ⟨"description", readText, some ""⟩

/-- The field of the restriction to one datacenter. -/
def localField : FieldSpec Bool := ⟨"local", readBool, some false⟩

/-- The field of the secret. -/
def secretField : FieldSpec (Option Secret) := ⟨"secret", readSecret, some none⟩

/-- The field of the state. -/
def stateField : FieldSpec Presence :=
  ⟨"state", readVariant Presence.ofName?, some .present⟩

/-- A field of a list whose elements are kept as they are. The file, the token and the list itself
are three levels around them. -/
def listField (name : String) : FieldSpec (List Json) :=
  ⟨name, readList (readValue (depthLimit - 3)), some []⟩

/-- Reads the description of a token. -/
def readSpec (node : Node.Numbered) : Reading TokenSpec := do
  let parts ← readStructure ["id", "description", "local", "secret", "state", "policies", "roles",
    "service_identities", "node_identities"] node
  return {
    id := ← idField.get parts
    description := ← descriptionField.get parts
    isLocal := ← localField.get parts
    secret := ← secretField.get parts
    state := ← stateField.get parts
    policies := ← (listField "policies").get parts
    roles := ← (listField "roles").get parts
    serviceIdentities := ← (listField "service_identities").get parts
    nodeIdentities := ← (listField "node_identities").get parts }

/-! ## The file -/

/-- The part for the connection. -/
def connectionField : FieldSpec Connection := ⟨"connection", readConnection, some {}⟩

/-- The part for logging. -/
def loggingField : FieldSpec (Option Logging) := ⟨"logging", readOptional readLogging, some none⟩

/-- The part for the token. -/
def tokenField : FieldSpec TokenSpec := ⟨"token", readSpec, none⟩

/-- Reads a configuration. -/
def read (node : Node.Numbered) : Reading ConfigFile := do
  let parts ← readStructure ["connection", "logging", "token"] node
  return {
    connection := ← connectionField.get parts
    logging := ← loggingField.get parts
    token := ← tokenField.get parts }

/-- The configuration of a YAML text. -/
def ofText? (text : String) : Option ConfigFile := do
  let document ← Document.ofText? text
  document.read (read document.root)

/-- The configuration of a file, whose octets are UTF-8 and whose placeholders are filled in. -/
def ofFile? (value? : String → Option String) (content : ByteArray) : Option ConfigFile := do
  let text ← String.fromUTF8? content
  ofText? (Template.expand value? text)

end ConfigFile

end TokenSync
