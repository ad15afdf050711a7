import TokenSync.Config.TokenSpec

/-!
# The command line

The options of the program and the variables that stand in for those not given. Arguments are read
from left to right and the first thing wrong with them ends the reading, as does a request for help
or for the version. An option may be given once; its value follows it, or is attached to it.
-/
namespace TokenSync

/-- The options that take a value. -/
inductive Switch where
  | config
  | logLevel
  | managementToken
  | state
deriving DecidableEq, Repr

/-- The values of the options, where they are given. -/
structure Options where
  config : Option String := none
  logLevel : Option LogLevel := none
  managementToken : Option String := none
  state : Option Presence := none
deriving DecidableEq, Repr

/-- What the arguments ask for. -/
inductive Invocation where
  /-- The arguments make no sense. -/
  | misuse
  /-- Help or the version is asked for. -/
  | information
  | run (options : Options)
deriving DecidableEq, Repr

namespace Options

/-- The options with the value of one more. An option that has a value already takes no other, and a
value has to be one the option knows. -/
def set (options : Options) (switch : Switch) (value : String) : Option Options :=
  match switch with
  | .config => if options.config.isSome then none else some { options with config := some value }
  | .logLevel =>
    if options.logLevel.isSome then none
    else (LogLevel.ofName? value).map fun level => { options with logLevel := some level }
  | .managementToken =>
    if options.managementToken.isSome then none
    else some { options with managementToken := some value }
  | .state =>
    if options.state.isSome then none
    else (Presence.ofName? value).map fun state => { options with state := some state }

end Options

namespace Switch

/-- The option with a long name. -/
def ofLongName? (name : List Char) : Option Switch :=
  if name = "config".toList then some .config
  else if name = "log-level".toList then some .logLevel
  else if name = "management-token".toList then some .managementToken
  else if name = "state".toList then some .state
  else none

/-- The variable that stands in for an option. -/
def standIn? : Switch → Option String
  | .config => some "CONFIG"
  | .logLevel => some "LOG_LEVEL"
  | .managementToken => some "CONSUL_MGMT_TOKEN"
  | .state => none

/-- All options. -/
def all : List Switch := [.config, .logLevel, .managementToken, .state]

/-- Whether an option has a value. -/
def isSet (switch : Switch) (options : Options) : Bool :=
  match switch with
  | .config => options.config.isSome
  | .logLevel => options.logLevel.isSome
  | .managementToken => options.managementToken.isSome
  | .state => options.state.isSome

end Switch

/-- What one argument says. -/
inductive Argument where
  /-- An option whose value is the next argument. -/
  | awaiting (option : Switch)
  /-- An option with its value. -/
  | setting (option : Switch) (value : String)
  | information
  /-- The mark after which no options come. -/
  | endOfOptions
  /-- Something that is no option. -/
  | other
deriving DecidableEq, Repr

namespace Argument

/-- An argument after its two dashes: a name, and perhaps a value after an equals sign. -/
def ofLong (cs : List Char) : Argument :=
  let name := cs.takeWhile (· != '=')
  match cs.dropWhile (· != '=') with
  | [] =>
    if name.isEmpty then .endOfOptions
    else if name = "help".toList ∨ name = "version".toList then .information
    else
      match Switch.ofLongName? name with
      | some option => .awaiting option
      | none => .other
  | _ :: value =>
    match Switch.ofLongName? name with
    | some option => .setting option (String.ofList value)
    | none => .other

/-- An argument after its one dash: a letter, and perhaps a value after it. -/
def ofShort : List Char → Argument
  | 'h' :: _ | 'V' :: _ => .information
  | ['c'] => .awaiting .config
  | 'c' :: '=' :: value => .setting .config (String.ofList value)
  | 'c' :: value => .setting .config (String.ofList value)
  | _ => .other

/-- What an argument says. A single dash is no option. -/
def ofText (text : String) : Argument :=
  match text.toList with
  | '-' :: '-' :: cs => ofLong cs
  | '-' :: c :: cs => ofShort (c :: cs)
  | _ => .other

/-- Whether an argument can be the value of the option before it: it does not look like one. -/
def isValue (text : String) : Bool :=
  match text.toList with
  | '-' :: _ :: _ => false
  | _ => true

end Argument

namespace Invocation

/-- Reads arguments in order; an option may be waiting for its value. -/
def ofArguments (options : Options) (waiting : Option Switch) : List String → Invocation
  | [] => if waiting.isSome then .misuse else .run options
  | text :: rest =>
    match waiting with
    | some switch =>
      if Argument.isValue text then
        match options.set switch text with
        | some options => ofArguments options none rest
        | none => .misuse
      else .misuse
    | none =>
      match Argument.ofText text with
      | .awaiting option => ofArguments options (some option) rest
      | .setting option value =>
        match options.set option value with
        | some options => ofArguments options none rest
        | none => .misuse
      | .information => .information
      | .endOfOptions => if rest.isEmpty then .run options else .misuse
      | .other => .misuse

/-- The options with the value of a variable for one that is not given. -/
def fromVariable (value? : String → Option String) (options : Options) (switch : Switch) :
    Option Options :=
  if switch.isSet options then some options
  else
    match switch.standIn?.bind value? with
    | some value => options.set switch value
    | none => some options

/-- What arguments and environment ask for, as `clap` 4.5 derives a parser with `env`: an argument
that starts with a dash is no value, an option may not be given twice, a variable counts only for an
option that is not given, and its value is checked like that of an argument. -/
def read (arguments : List String) (value? : String → Option String) : Invocation :=
  match ofArguments {} none arguments with
  | .run options =>
    match Switch.all.foldlM (fromVariable value?) options with
    | some options => .run options
    | none => .misuse
  | other => other

end Invocation

end TokenSync
