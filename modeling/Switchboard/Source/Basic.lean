import Switchboard.Source.Authority
import Switchboard.Text.Blank

/-!
# Source references

Where an event comes from is said by a reference: a URL, or a text that is read relative to a fixed
place.  `check` decides whether a text is one, and says why not.  Only the authority of a
reference can be wrong, besides blanks and controls: paths, queries and fragments take anything.
-/
namespace Switchboard.Source

/-- The scheme that a text starts with, in lower case, and what follows its colon. -/
def scheme? (text : List Char) : Option (String × List Char) :=
  match text with
  | [] => none
  | c :: _ =>
    if c.isAlpha then
      let isPart (c : Char) : Bool := c.isAlphanum || c == '+' || c == '-' || c == '.'
      let name := text.takeWhile isPart
      match text.drop name.length with
      | ':' :: rest => some (Text.lowerAscii (String.ofList name), rest)
      | _ => none
    else none

/-- A slash, or what is taken for one. -/
def isSlash (c : Char) : Bool :=
  c == '/' || c == '\\'

/-- Whether a text is a drive of a file system: a letter and a colon or a bar. -/
def isDrive (cs : List Char) : Bool :=
  match cs with
  | [c, d] => c.isAlpha && (d == ':' || d == '|')
  | _ => false

/-- The rest of a reference to a file: only a host after two slashes is looked at. -/
def checkFile (text : List Char) : Except Fault Unit :=
  match text with
  | a :: b :: rest =>
    if isSlash a && isSlash b then
      let host := rest.takeWhile (!endsAuthority .file ·)
      if host = [] || isDrive host then .ok () else checkHost host
    else .ok ()
  | _ => .ok ()

/-- The rest of a reference after its scheme. -/
def checkAfterScheme (kind : SchemeKind) (text : List Char) : Except Fault Unit :=
  match kind with
  | .file => checkFile text
  | .special => checkAuthority .special (text.dropWhile isSlash)
  | .other =>
    match text with
    | '/' :: '/' :: rest => checkAuthority .other rest
    | _ => .ok ()

/-- A reference without a scheme, which is relative to a place with one that is not special. -/
def checkRelative (text : List Char) : Except Fault Unit :=
  match text with
  | '/' :: '/' :: rest => checkAuthority .other rest
  | a :: b :: rest =>
    if isSlash a && isSlash b then checkAuthority .other (rest.dropWhile isSlash) else .ok ()
  | _ => .ok ()

/-- Whether a text refers to a source. -/
def check (source : String) : Except Fault Unit :=
  let text := source.toList
  if text = [] then .error .empty
  else if text.any fun c => Text.isBlank c || Text.isControl c then .error .blankOrControl
  else match scheme? text with
    | some (scheme, rest) => checkAfterScheme (.ofScheme scheme) rest
    | none => checkRelative text

end Switchboard.Source
