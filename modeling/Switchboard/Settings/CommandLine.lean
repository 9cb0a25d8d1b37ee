import Switchboard.Settings.Layers

/-!
# The command line

Options that lie over all other settings.  An option takes its value from what follows it or from
after an equals sign.  A value that follows is taken in only when the next option is met or the line
ends, so a fault of such a value is reported after an option that is not known, but before anything
that the next option does.
-/
namespace Switchboard

/-- What is given on the command line. -/
structure CommandLine where
  /-- Where the settings file is. -/
  config : Option String := none
  host : Option String := none
  port : Option UInt16 := none
  brokers : Option String := none
  /-- The topics in the order given. -/
  topics : List String := []
  logLevel : Option String := none
  logJson : Bool := false
  deriving DecidableEq, Repr

namespace CommandLine

/-- Why a command line was not taken. -/
inductive UsageError
  | unknownArgument
  /-- A value is missing, or is empty where it cannot be. -/
  | invalidValue
  /-- A value is of the wrong form. -/
  | valueValidation
  /-- An option is given twice that can be given once. -/
  | argumentConflict
  /-- A value is given to an option that takes none. -/
  | tooManyValues
  /-- No error, but a request for help. -/
  | displayHelp
  deriving DecidableEq, Repr

/-- The name of a usage error. -/
def UsageError.text : UsageError → String
  | unknownArgument => "UnknownArgument"
  | invalidValue => "InvalidValue"
  | valueValidation => "ValueValidation"
  | argumentConflict => "ArgumentConflict"
  | tooManyValues => "TooManyValues"
  | displayHelp => "DisplayHelp"

/-- An option that takes a value. -/
inductive Parameter
  | config
  | host
  | port
  | brokers
  | topic
  | logLevel
  deriving DecidableEq, Repr

/-- The option with the given name. -/
def parameter? (name : String) : Option Parameter :=
  [("config", .config), ("host", .host), ("port", .port), ("brokers", .brokers),
    ("topic", .topic), ("log-level", .logLevel)].lookup name

/-- A port: an integer with at most one sign, in range. -/
def port? (s : String) : Option UInt16 :=
  let n? : Option Nat :=
    match s.toList with
    | '-' :: cs => (Text.digitsValue? cs).filter (· == 0)
    | cs => Text.numeral? cs
  match n? with
  | some n => if n < UInt16.size then some (UInt16.ofNat n) else none
  | none => none

/-- Sets an option that can be given once. -/
def once {α : Type} (old : Option α) (new : Except UsageError α) : Except UsageError (Option α) :=
  match old with
  | some _ => .error .argumentConflict
  | none => new.map some

/-- Takes in the value of an option. -/
def take (c : CommandLine) (p : Parameter) (value : String) : Except UsageError CommandLine :=
  match p with
  | .config => do
    let v ← once c.config (if value.isEmpty then .error .invalidValue else .ok value)
    return { c with config := v }
  | .host => do
    let v ← once c.host (.ok value)
    return { c with host := v }
  | .port => do
    let v ← once c.port (match port? value with
      | some n => .ok n
      | none => .error .valueValidation)
    return { c with port := v }
  | .brokers => do
    let v ← once c.brokers (.ok value)
    return { c with brokers := v }
  | .topic => return { c with topics := c.topics ++ [value] }
  | .logLevel => do
    let v ← once c.logLevel (.ok value)
    return { c with logLevel := v }

/-- An option whose value has not been taken in yet: nothing, an option that waits for its value, or
an option with the value that followed it. -/
inductive Pending
  | nothing
  | awaiting (p : Parameter)
  | holding (p : Parameter) (value : String)
  deriving DecidableEq, Repr

/-- Takes in what is pending. -/
def settle (c : CommandLine) : Pending → Except UsageError CommandLine
  | .nothing => .ok c
  | .awaiting _ => .error .invalidValue
  | .holding p value => c.take p value

/-- An argument, by its form. -/
inductive Argument
  /-- Two dashes, after which no option follows. -/
  | escape
  /-- A name after two dashes, with a value after an equals sign. -/
  | long (name : String) (value : Option String)
  /-- Letters after a dash. -/
  | short (letters : List Char)
  | plain (value : String)
  deriving DecidableEq, Repr

/-- The form of an argument. -/
def Argument.ofText (s : String) : Argument :=
  match s.toList with
  | ['-', '-'] => escape
  | '-' :: '-' :: rest =>
    let name := rest.takeWhile (· ≠ '=')
    let value := match rest.drop name.length with
      | _ :: value => some (String.ofList value)
      | [] => none
    long (String.ofList name) value
  | '-' :: c :: rest => short (c :: rest)
  | _ => plain s

/-- Takes in one argument. -/
def step (c : CommandLine) (pending : Pending) (arg : Argument) :
    Except UsageError (CommandLine × Pending) :=
  match arg with
  | .escape => .ok (c, pending)
  | .long name value =>
    match parameter? name with
    | some p => do
      let c ← c.settle pending
      match value with
      | some v => return (← c.take p v, .nothing)
      | none => return (c, .awaiting p)
    | none =>
      if name = "log-json" then
        match value with
        | some _ => .error .tooManyValues
        | none => do
          let c ← c.settle pending
          if c.logJson then throw .argumentConflict
          return ({ c with logJson := true }, .nothing)
      else if name = "help" then
        match value with
        | some _ => .error .tooManyValues
        | none => do
          let _ ← c.settle pending
          throw .displayHelp
      else .error .unknownArgument
  | .short letters =>
    if letters.head? = some 'h' then do
      let _ ← c.settle pending
      throw .displayHelp
    else .error .unknownArgument
  | .plain value =>
    match pending with
    | .awaiting p => .ok (c, .holding p value)
    | _ => .error .unknownArgument

/-- Takes in arguments from left to right. -/
def run (c : CommandLine) (pending : Pending) : List String → Except UsageError CommandLine
  | [] => c.settle pending
  | s :: rest =>
    match Argument.ofText s with
    | .escape => if rest.isEmpty then c.settle pending else .error .unknownArgument
    | arg =>
      match c.step pending arg with
      | .error e => .error e
      | .ok (c, pending) => run c pending rest

/-- What the arguments of a command line give. -/
def parse (args : List String) : Except UsageError CommandLine :=
  run {} .nothing args

/-- Settings with what the command line sets. -/
def applyTo (c : CommandLine) (s : Settings) : Settings :=
  { s with
    server := { s.server with
      host := c.host.getD s.server.host
      port := c.port.getD s.server.port }
    bus := { s.bus with
      brokers := c.brokers.getD s.bus.brokers
      topics := if c.topics.isEmpty then s.bus.topics else c.topics }
    logging := {
      level := c.logLevel.getD s.logging.level
      format := if c.logJson then .json else s.logging.format } }

/-- Why the relay would not start. -/
inductive StartError
  | usage (e : UsageError)
  /-- The settings at a path were not taken. -/
  | load (path : String) (e : SettingsError)
  /-- The settings were not taken with what the command line sets. -/
  | overridden (e : SettingsError)
  deriving DecidableEq, Repr

/-- The causes of an error, from the outside in. -/
def StartError.chain : StartError → List String
  | usage e => [e.text]
  | load path e => ("Failed to load settings from " ++ path) :: e.message :: e.cause?.toList
  | overridden e =>
    "Invalid settings after command-line overrides" :: e.message :: e.cause?.toList

/-- The settings that a command line starts the relay with, given what stands at each path. -/
def settings (args : List String) (env : Environment) (stored : String → Stored) :
    Except StartError Settings := do
  let c ← (parse args).mapError .usage
  let path := c.config.getD (Settings.path env)
  let s ← (Settings.load (stored path) env).mapError (.load path)
  let s := c.applyTo s
  s.validate.mapError .overridden
  return s

end CommandLine
end Switchboard
