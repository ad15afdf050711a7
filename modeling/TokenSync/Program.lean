import TokenSync.CommandLine
import TokenSync.Config.File
import TokenSync.Reconcile

/-!
# The program

What the program does from its start to its end: it reads its arguments and the configuration file
they name, puts the values given on the command line over those of the file, and brings the token
to its desired state. It ends with a status, and prints a document only if all went well.
-/
namespace TokenSync

/-- What the program finds when it starts. -/
structure Surroundings where
  arguments : List String
  /-- The values of variables. -/
  value? : String → Option String
  /-- The contents of files. -/
  file? : String → Option ByteArray

/-- How the program ends. -/
structure Ending where
  status : Nat
  /-- The document that is printed. -/
  output : Option Json
  /-- What is said to the user besides. -/
  notice : Option String
deriving DecidableEq

/-- What the program sets out to do when it knows its settings. -/
inductive Plan where
  | stop (ending : Ending)
  | apply (file : ConfigFile)
deriving DecidableEq

namespace Program

/-- The file that is read unless another one is named. -/
def defaultPath : String := "consul-token.yaml"

/-- The file of the options. -/
def path (options : Options) : String := options.config.getD defaultPath

/-- How the program is called. -/
def usage : String :=
  "usage: [-c|--config FILE] [--log-level trace|debug|info|warn|error] " ++
  "[--management-token TOKEN] [--state present|absent]"

/-- The configuration with the values given on the command line in place of its own. -/
def override (file : ConfigFile) (options : Options) : ConfigFile :=
  { file with
    connection := { file.connection with
      managementToken :=
        (options.managementToken.map Secret.mk).or file.connection.managementToken }
    token := { file.token with state := options.state.getD file.token.state } }

/-- The configuration that counts, if the file can be read. -/
def configuration? (start : Surroundings) (options : Options) : Option ConfigFile := do
  let content ← start.file? (path options)
  let file ← ConfigFile.ofFile? start.value? content
  some (override file options)

/-- The plan of a program that starts. -/
def plan (start : Surroundings) : Plan :=
  match Invocation.read start.arguments start.value? with
  | .misuse => .stop ⟨2, none, some usage⟩
  | .information => .stop ⟨0, none, some usage⟩
  | .run options =>
    match configuration? start options with
    | none => .stop ⟨1, none, some ("cannot read the configuration in " ++ path options)⟩
    | some file => .apply file

/-- The ending of a run: the report is printed, and a failure prints nothing. -/
def ending : Except Failure Report → Ending
  | .ok report => ⟨0, some report.toJson, none⟩
  | .error failure => ⟨1, none, some failure.notice⟩

/-- What is said to the agent, and the ending. -/
def follow : Plan → Dialogue Ending
  | .stop ending => return ending
  | .apply file => ending <$> (reconcile file.connection file.token).run

/-- The whole program: the dialogue with the agent the configuration names, and the ending. -/
def run (start : Surroundings) : Dialogue Ending := follow (plan start)

end Program

end TokenSync
