import Switchboard.Json.Variant
import Switchboard.Text.Blank
import Switchboard.Text.Numeral
import Switchboard.Text.Printable

/-!
# Log output

In what form log lines are written, and which of them are.  A filter is a list of directives with
commas between them; a directive gives a level, perhaps for a target only, and perhaps only inside
of spans.  `Filter.maxLevel` is the most verbose level that any directive lets through.
-/
namespace Switchboard

/-- The form of log lines. -/
inductive LogFormat
  | compact
  | json
  deriving DecidableEq, Repr

namespace LogFormat

/-- The name of a form. -/
def text : LogFormat → String
  | compact => "compact"
  | json => "json"

/-- How a form is read from settings: by its exact name. -/
def decoder : Json.Decoder LogFormat :=
  .variant [(compact.text, compact), (json.text, json)]

/-- The form that a name stands for, in either case.  None of the letters of these names is a
lower-case form of a letter outside ASCII. -/
def ofName? (s : String) : Option LogFormat :=
  let name := Text.lowerAscii s
  if name = "compact" ∨ name = "text" then some compact
  else if name = "json" then some json
  else none

end LogFormat

namespace Logging

/-- How much is logged. -/
inductive Level
  | off
  | error
  | warn
  | info
  | debug
  | trace
  deriving DecidableEq, Repr

namespace Level

/-- The name of a level. -/
def text : Level → String
  | off => "off"
  | error => "error"
  | warn => "warn"
  | info => "info"
  | debug => "debug"
  | trace => "trace"

/-- The levels by increasing verbosity. -/
def all : List Level := [off, error, warn, info, debug, trace]

/-- The place of a level among them. -/
def verbosity : Level → Nat
  | off => 0
  | error => 1
  | warn => 2
  | info => 3
  | debug => 4
  | trace => 5

/-- The more verbose of two levels. -/
def max (a b : Level) : Level :=
  if a.verbosity < b.verbosity then b else a

/-- The level with the given place or name. -/
def ofText? (s : String) : Option Level :=
  match Text.numeral? s.toList with
  | some n => all[n]?
  | none =>
    if s.isEmpty then some error else all.find? fun l => l.text == Text.lowerAscii s

end Level

/-- Where the reader of a directive stands. -/
inductive DirectiveState
  | start
  /-- In what turns out to be a level or a target. -/
  | levelOrTarget (seen : List Char)
  | span
  | field (seen : List Char)
  | afterFields
  | afterSpan
  | level (seen : List Char)
  deriving DecidableEq, Repr

/-- What a directive lets through, as far as it has been read: whether a field's value matters, and
the level. -/
structure Directive where
  filtersValues : Bool
  level : Level
  deriving DecidableEq, Repr

/-- A character that a directive may start with. -/
def startsDirective (c : Char) : Bool :=
  c == '-' || c == ':' || c == '_' || c.isAlphanum ||
    (0x7f < c.toNat && Text.isPrintable c && !Text.isExtending c)

/-- A field of a directive: whether it has a value. -/
def readField? (seen : List Char) : Option Bool :=
  if seen.isEmpty then none else some (seen.contains '=')

/-- One character of a directive. -/
def stepDirective (d : Directive) : DirectiveState → Char → Option (Directive × DirectiveState)
  | .start, c =>
    if c = '[' then some (d, .span)
    else if startsDirective c then some (d, .levelOrTarget [c])
    else none
  | .levelOrTarget seen, c =>
    if c = '=' then some (d, .level [])
    else if c = '[' then some (d, .span)
    else some (d, .levelOrTarget (c :: seen))
  | .span, c =>
    if c = ']' then some (d, .afterSpan)
    else if c = '\x7b' then some (d, .field [])
    else some (d, .span)
  | .field seen, c =>
    if c = '\x7d' then do
      let valued ← readField? seen
      return ({ d with filtersValues := d.filtersValues || valued }, .afterFields)
    else some (d, .field (c :: seen))
  | .afterFields, c => if c = ']' then some (d, .afterSpan) else none
  | .afterSpan, c => if c = '=' then some (d, .level []) else none
  | .level seen, c => some (d, .level (c :: seen))

/-- What a directive lets through at its end.  A target without a level lets everything through. -/
def endDirective (d : Directive) : DirectiveState → Option Directive
  | .levelOrTarget seen =>
    some { d with level := (Level.ofText? (String.ofList seen.reverse)).getD .trace }
  | .level [] => some d
  | .level seen => do
    let level ← Level.ofText? (String.ofList seen.reverse)
    return { d with level := level }
  | .afterSpan => some d
  | _ => none

/-- The directive that a text gives. -/
def directive? (cs : List Char) : Option Directive := do
  let (d, state) ← (Text.trimBoth cs).foldlM (fun (d, state) c => stepDirective d state c)
    (⟨false, .trace⟩, .start)
  endDirective d state

/-- The texts of the directives of a filter. -/
def directiveTexts (filter : String) : List (List Char) :=
  (filter.toList.splitOn ',').filter (!·.isEmpty)

/-- The most verbose level that directives let through; errors where there are none. -/
def maxLevelOf (ds : List Directive) : Level :=
  if ds.isEmpty then .error
  else if ds.any Directive.filtersValues then .trace
  else (ds.map Directive.level).foldl Level.max .off

/-- The most verbose level that a filter lets through: the one from the environment if it is set and
all its directives can be read, or else the configured one, of which directives that cannot be read
are left out. -/
def maxLevel (environment : Option String) (configured : String) : Level :=
  match environment.bind fun s => (directiveTexts s).mapM directive? with
  | some ds => maxLevelOf ds
  | none => maxLevelOf ((directiveTexts configured).filterMap directive?)

end Logging
end Switchboard
