import Switchboard.Json.Number
import Switchboard.Text.Quoted

/-!
# What can be wrong with a JSON text

A fault is either in the text itself or in how the text fits the wanted type.  `Fault.message` is
the only place that knows the wording.
-/
namespace Switchboard.Json

/-- What stood where something else was wanted. -/
inductive Found
  | null
  | bool (b : Bool)
  | number (n : Number)
  | string (s : String)
  | sequence
  | map
  deriving DecidableEq, Repr

namespace Found

/-- What was found, in words. -/
def describe : Found → String
  | null => "null"
  | bool b => s!"boolean `{b}`"
  | number (.double x) => "floating point `" ++ Number.doubleText x ++ "`"
  | number n => "integer `" ++ n.text ++ "`"
  | string s => "string " ++ Text.quoted s
  | sequence => "sequence"
  | map => "map"

end Found

/-- A fault of a JSON text or value. -/
inductive Fault
  /-- The text ends where a value is due. -/
  | valueEnds
  /-- The text ends inside a string. -/
  | stringEnds
  /-- The text ends inside an array. -/
  | listEnds
  /-- The text ends inside an object. -/
  | objectEnds
  /-- No value starts here. -/
  | valueExpected
  /-- A word that starts like `null`, `true` or `false` goes on differently. -/
  | wordExpected
  | colonExpected
  | listCommaExpected
  | objectCommaExpected
  | keyExpected
  | trailingComma
  | trailingCharacters
  | badNumber
  | numberRange
  | badEscape
  /-- The first half of a pair of surrogates is not followed by an escape. -/
  | escapeEnds
  | loneSurrogate
  /-- The bytes of a string are not UTF-8. -/
  | badUnicode
  | controlCharacter
  /-- Too many arrays and objects are open at once. -/
  | tooDeep
  | wrongType (found : Found) (expected : String)
  | wrongValue (found : Found) (expected : String)
  | wrongLength (length : Nat) (expected : String)
  | missingField (name : String)
  | repeatedField (name : String)
  | unknownVariant (name : String) (known : List String)
  /-- A string of the right type that does not stand for anything. -/
  | refused (reason : String)
  deriving DecidableEq, Repr

namespace Fault

/-- Names for a message, as a choice. -/
def choice : List String → String
  | [] => ""
  | [a] => "`" ++ a ++ "`"
  | [a, b] => "`" ++ a ++ "` or `" ++ b ++ "`"
  | names => "one of " ++ String.intercalate ", " (names.map fun n => "`" ++ n ++ "`")

/-- The wording of a fault. -/
def message : Fault → String
  | valueEnds => "EOF while parsing a value"
  | stringEnds => "EOF while parsing a string"
  | listEnds => "EOF while parsing a list"
  | objectEnds => "EOF while parsing an object"
  | valueExpected => "expected value"
  | wordExpected => "expected ident"
  | colonExpected => "expected `:`"
  | listCommaExpected => "expected `,` or `]`"
  | objectCommaExpected => "expected `,` or `\x7d`"
  | keyExpected => "key must be a string"
  | trailingComma => "trailing comma"
  | trailingCharacters => "trailing characters"
  | badNumber => "invalid number"
  | numberRange => "number out of range"
  | badEscape => "invalid escape"
  | escapeEnds => "unexpected end of hex escape"
  | loneSurrogate => "lone leading surrogate in hex escape"
  | badUnicode => "invalid unicode code point"
  | controlCharacter => "control character (\\u0000-\\u001F) found while parsing a string"
  | tooDeep => "recursion limit exceeded"
  | wrongType found expected => "invalid type: " ++ found.describe ++ ", expected " ++ expected
  | wrongValue found expected => "invalid value: " ++ found.describe ++ ", expected " ++ expected
  | wrongLength n expected => "invalid length " ++ toString n ++ ", expected " ++ expected
  | missingField name => "missing field `" ++ name ++ "`"
  | repeatedField name => "duplicate field `" ++ name ++ "`"
  | unknownVariant name known =>
    "unknown variant `" ++ name ++ "`, expected " ++ choice known
  | refused reason => reason

end Fault
end Switchboard.Json
