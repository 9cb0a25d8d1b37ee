import Switchboard.Text.Blank
import Switchboard.Text.Quoted

/-!
# Versions and content types of envelopes

Both are closed lists.  A version is recognised by its exact spelling.  A content type is recognised
by its part before the first semicolon, without blanks around it and in either case; what is kept
is its canonical spelling.
-/
namespace Switchboard

/-- A version of the envelope's specification. -/
inductive SpecVersion
  | v1_0
  | v0_3
  deriving DecidableEq, Repr

namespace SpecVersion

/-- The spelling of a version. -/
def text : SpecVersion → String
  | v1_0 => "1.0"
  | v0_3 => "0.3"

/-- The version with the given spelling. -/
def ofText? (s : String) : Option SpecVersion :=
  if s = v1_0.text then some v1_0
  else if s = v0_3.text then some v0_3
  else none

end SpecVersion

/-- What an envelope's data is written in. -/
inductive ContentType
  | applicationJson
  | textJson
  deriving DecidableEq, Repr

namespace ContentType

/-- The canonical spelling of a content type. -/
def text : ContentType → String
  | applicationJson => "application/json"
  | textJson => "text/json"

/-- The content type that a text names, whatever its parameters. -/
def ofText? (s : String) : Option ContentType :=
  let essence := Text.trimBoth (s.toList.takeWhile (· ≠ ';'))
  let name := String.ofList (essence.map Char.toLower)
  if name = applicationJson.text then some applicationJson
  else if name = textJson.text then some textJson
  else none

end ContentType
end Switchboard
