import BeanHarvest.CommandLine.Basic
import BeanHarvest.Text.Cut

/-! Reading a command line from left to right. Options may stand before and behind the word for the
command; what stands behind it goes before what stands before it. A value is looked at when the next
option comes, or at the end. -/
namespace BeanHarvest.CommandLine

/-- What takes a value: an option, or the place for an action. -/
inductive Slot where
  | config
  | port
  | logLevel
  | logFormat
  | outputFormat
  | action
deriving DecidableEq, Repr, Inhabited

namespace Level

def long? (level : Level) (name : String) : Option Slot :=
  match name with
  | "config" => some .config
  | "port" => some .port
  | "log-level" => some .logLevel
  | "log-format" => some .logFormat
  | "output-format" => if level = list || level = validate then some .outputFormat else none
  | _ => none

end Level

def short? (letter : Char) : Option Slot :=
  match letter with
  | 'c' => some .config
  | 'p' => some .port
  | 'l' => some .logLevel
  | _ => none

/-- Read a port: digits behind an optional sign, below the greatest port. -/
def port? (text : String) : Option Nat :=
  let digits := match text.toList with
    | '+' :: rest | '-' :: rest => rest
    | rest => rest
  let value := digits.foldl (fun n digit => n * 10 + (digit.toNat - '0'.toNat)) 0
  if digits.isEmpty || !digits.all Char.isDigit || 65535 < value then none
  else if text.startsWith "-" && value ≠ 0 then none
  else some value

def logFormat? (name : String) : Option LogFormat :=
  [LogFormat.text, LogFormat.json].find? (·.name = name)

def Slot.stop? (slot : Slot) (value : String) : Option Stop :=
  let need := fun (found : Bool) (stop : Stop) => if found then none else some stop
  match slot with
  | config => need (!value.isEmpty) .invalidValue
  | port => need (port? value).isSome .valueValidation
  | logLevel => need (LogLevel.ofName? value).isSome .invalidValue
  | logFormat => need (logFormat? value).isSome .invalidValue
  | outputFormat => need (OutputFormat.ofName? value).isSome .invalidValue
  | action => need (Action.listing? value).isSome .invalidValue

/-- What has been read at a level: the values that were looked at, and one that still has to be, or
for which an option still waits. -/
structure Reading where
  given : List (Slot × String) := []
  pending : Option (Slot × Option String) := none
deriving DecidableEq, Repr, Inhabited

namespace Reading

def value? (reading : Reading) (slot : Slot) : Option String :=
  (reading.given.find? (·.1 = slot)).map (·.2)

def isWaiting (reading : Reading) : Bool := reading.pending.any (·.2.isNone)

/-- Look at a value. A slot takes one value only. -/
def put (reading : Reading) (slot : Slot) (value : String) : Except Stop Reading :=
  if (reading.value? slot).isSome then .error .argumentConflict
  else match slot.stop? value with
    | some stop => .error stop
    | none => .ok { reading with given := reading.given ++ [(slot, value)] }

def settle (reading : Reading) : Except Stop Reading :=
  match reading.pending with
  | none => .ok reading
  | some (_, none) => .error .invalidValue
  | some (slot, some value) => { reading with pending := none }.put slot value

def option (reading : Reading) (slot : Slot) (value : Option String) : Except Stop Reading := do
  let settled ← reading.settle
  match value with
  | some text => settled.put slot text
  | none => .ok { settled with pending := some (slot, none) }

def flag (reading : Reading) (stop : Stop) : Except Stop Reading := do
  let _ ← reading.settle
  .error stop

/-- Letters behind a dash: flags, up to an option that takes the rest as its value. -/
def letters (reading : Reading) (level : Level) : List Char → Except Stop Reading
  | [] => .ok reading
  | 'h' :: _ => reading.flag .displayHelp
  | 'V' :: _ => reading.flag (.displayVersion level)
  | letter :: rest =>
    match short? letter, rest with
    | none, _ => .error .unknownArgument
    | some slot, [] => reading.option slot none
    | some slot, '=' :: value => reading.option slot (some (String.ofList value))
    | some slot, value => reading.option slot (some (String.ofList value))

/-- A long name behind two dashes, perhaps with a value. -/
def long (reading : Reading) (level : Level) (text : List Char) : Except Stop Reading :=
  let (name, value) := match Text.cut? (· = '=') text with
    | some (name, value) => (String.ofList name, some (String.ofList value))
    | none => (String.ofList text, none)
  if name = "help" || name = "version" then
    if value.isSome then .error .tooManyValues
    else reading.flag (if name = "help" then .displayHelp else .displayVersion level)
  else match level.long? name with
    | some slot => reading.option slot value
    | none => .error .unknownArgument

/-- A word that is neither an option nor its value. -/
def word (reading : Reading) (level : Level) (isTrailing : Bool) (text : String) :
    Except Stop Reading :=
  match level with
  | .root =>
    .error (if isTrailing && (text = "help" || (Level.ofWord? text).isSome) then .unknownArgument
      else .invalidSubcommand)
  | .list =>
    if (reading.value? .action).isSome || reading.pending.any (·.1 = .action) then
      .error .unknownArgument
    else do
      let settled ← reading.settle
      .ok { settled with pending := some (.action, some text) }
  | _ => .error .unknownArgument

end Reading

/-- Help is asked for about a command, by the words that follow. -/
def helpAbout : List String → Stop
  | [] => .displayHelp
  | [word] => if word = "help" || (Level.ofWord? word).isSome then .displayHelp else .invalidSubcommand
  | _ => .invalidSubcommand

/-- Read the arguments of a level. Before the word for a command, that ends the level: what follows it
is left. -/
def readLevel (level : Level) : (isTrailing : Bool) → Reading → List String →
    Except Stop (Reading × Option (Level × List String))
  | _, reading, [] => .ok (reading, none)
  | true, reading, text :: rest => do
    readLevel level true (← reading.word level true text) rest
  | false, reading, text :: rest =>
    if level = .root && !reading.isWaiting && text = "help" then .error (helpAbout rest)
    else match level, reading.isWaiting, Level.ofWord? text with
      | .root, false, some next => .ok (reading, some (next, rest))
      | _, _, _ =>
        match text.toList with
        | ['-', '-'] => readLevel level true reading rest
        | '-' :: '-' :: name => do readLevel level false (← reading.long level name) rest
        | '-' :: letter :: letters => do
          readLevel level false (← reading.letters level (letter :: letters)) rest
        | _ =>
          match reading.pending with
          | some (slot, none) =>
            readLevel level false { reading with pending := some (slot, some text) } rest
          | _ => do readLevel level false (← reading.word level false text) rest

/-- What the readings of the two levels say together. -/
def conclude (level : Level) (outer inner : Reading) : Option Invocation := do
  let value? := fun slot => inner.value? slot <|> outer.value? slot
  let format := (value? .outputFormat >>= OutputFormat.ofName?).getD .text
  let command ← match level with
    | .root | .collect => some Command.collect
    | .list => (value? .action >>= Action.listing?).map fun action => .list action format
    | .validate => some (.validate format)
  some {
    config := (value? .config).getD "config.yaml"
    port := value? .port >>= port?
    logLevel := (value? .logLevel >>= LogLevel.ofName?).getD .info
    logFormat := value? .logFormat >>= logFormat?
    command }

def parse (arguments : List String) : Except Stop Invocation := do
  let (outer, next) ← readLevel .root false {} arguments
  let (level, rest) := next.getD (.root, [])
  let (inner, _) ← readLevel level false {} rest
  let inner ← inner.settle
  if level = .list && (inner.value? .action).isNone then .error .missingRequiredArgument
  else
    let outer ← outer.settle
    match conclude level outer inner with
    | some invocation => .ok invocation
    | none => .error .missingRequiredArgument

end BeanHarvest.CommandLine
