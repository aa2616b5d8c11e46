import BeanHarvest.Instance.Basic

namespace BeanHarvest.CommandLine

inductive LogLevel where
  | trace
  | debug
  | info
  | warn
  | error
deriving DecidableEq, Repr, Inhabited

namespace LogLevel

def name : LogLevel → String
  | trace => "trace"
  | debug => "debug"
  | info => "info"
  | warn => "warn"
  | error => "error"

def ofName? (name : String) : Option LogLevel :=
  [trace, debug, info, warn, error].find? (·.name = name)

end LogLevel

inductive OutputFormat where
  | text
  | json
  | yaml
deriving DecidableEq, Repr, Inhabited

namespace OutputFormat

def name : OutputFormat → String
  | text => "text"
  | json => "json"
  | yaml => "yaml"

def ofName? (name : String) : Option OutputFormat := [text, json, yaml].find? (·.name = name)

end OutputFormat

/-- What is to be done: collect until the end, list attributes, or check the settings. -/
inductive Command where
  | collect
  | list (action : Action) (format : OutputFormat)
  | validate (format : OutputFormat)
deriving DecidableEq, Repr, Inhabited

structure Invocation where
  config : String := "config.yaml"
  port : Option Nat := none
  logLevel : LogLevel := .info
  logFormat : Option LogFormat := none
  command : Command := .collect
deriving DecidableEq, Repr, Inhabited

/-- Where arguments stand: before the word for a command, or behind one. -/
inductive Level where
  | root
  | collect
  | list
  | validate
deriving DecidableEq, Repr, Inhabited

namespace Level

/-- The word behind which the arguments stand. -/
def word? : Level → Option String
  | root => none
  | collect => some "collect"
  | list => some "list"
  | validate => some "validate"

def ofWord? (word : String) : Option Level :=
  [collect, list, validate].find? (·.word? = some word)

end Level

/-- Why a command line is not carried out: it is wrong, or it asks what can be said or which version
this is. -/
inductive Stop where
  | displayHelp
  | displayVersion (level : Level)
  | unknownArgument
  | invalidSubcommand
  | invalidValue
  | valueValidation
  | tooManyValues
  | argumentConflict
  | missingRequiredArgument
deriving DecidableEq, Repr, Inhabited

def Stop.isWanted : Stop → Bool
  | .displayHelp | .displayVersion _ => true
  | _ => false

end BeanHarvest.CommandLine
