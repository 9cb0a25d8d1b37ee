import Switchboard.Source.Address
import Switchboard.Source.Domain

/-!
# The authority of a reference

What stands after the two slashes of a reference: credentials that end in the last `@`, a host, and
a port after a colon.  The schemes that the web itself uses are **special**: they need a host, which
is a domain name or an address, and take a backslash for a slash.  For any other scheme the host is
a text of its own, and it may be empty if nothing depends on it.
-/
namespace Switchboard.Source

/-- How the part after a scheme is read. -/
inductive SchemeKind
  /-- A scheme of the web with a host. -/
  | special
  /-- The scheme of files, which may go without a host. -/
  | file
  | other
  deriving DecidableEq, Repr

/-- The kind of a scheme in lower case. -/
def SchemeKind.ofScheme (scheme : String) : SchemeKind :=
  if ["http", "https", "ws", "wss", "ftp"].contains scheme then special
  else if scheme = "file" then file
  else other

/-- Whether a backslash is read as a slash. -/
def SchemeKind.takesBackslash : SchemeKind → Bool
  | other => false
  | _ => true

/-- Whether an authority ends before a character. -/
def endsAuthority (kind : SchemeKind) (c : Char) : Bool :=
  c == '/' || c == '?' || c == '#' || (c == '\\' && kind.takesBackslash)

/-- What stands after the last `@` of an authority and what stands before it, if there is one. -/
def splitCredentials (authority : List Char) : Option (List Char) × List Char :=
  match (authority.splitOn '@').reverse with
  | [] => (none, authority)
  | [_] => (none, authority)
  | host :: before => (some (List.intercalate ['@'] before.reverse), host)

/-- Whether there is a name or a password in the credentials. -/
def namesSomeone (credentials : List Char) : Bool :=
  credentials != [] && credentials != [':']

/-- The length of a host: up to a colon outside brackets. -/
def hostLength : Bool → List Char → Nat
  | _, [] => 0
  | bracketed, c :: rest =>
    if c = ':' && !bracketed then 0
    else if c = '[' then hostLength true rest + 1
    else if c = ']' then hostLength false rest + 1
    else hostLength bracketed rest + 1

/-- The text between the brackets of an address. -/
def bracketed? (host : List Char) : Option (List Char) :=
  match host with
  | '[' :: inner => if inner.getLast? = some ']' then some inner.dropLast else none
  | _ => none

/-- A host that starts with a bracket is an IPv6 address. -/
def checkBracketed (host : List Char) : Except Fault Unit :=
  match bracketed? host with
  | some inner => if isIpv6 inner then .ok () else .error .ipv6
  | none => .error .ipv6

/-- The host of a special scheme. -/
def checkHost (host : List Char) : Except Fault Unit :=
  if host.head? = some '[' then checkBracketed host
  else match domainOf? host with
    | none => .error .domainName
    | some [] => .error .emptyHost
    | some domain =>
      if endsInNumber domain && !isIpv4 domain then .error .ipv4 else .ok ()

/-- The characters that a host without rules of its own cannot contain. -/
def isReservedInHost (c : Char) : Bool :=
  c == Char.ofNat 0 || " \t\n\r#/:<>?@[\\]^|".toList.contains c

/-- The host of a scheme that is not special. -/
def checkOpaqueHost (host : List Char) : Except Fault Unit :=
  if host.head? = some '[' then checkBracketed host
  else if host.any isReservedInHost then .error .hostCharacter
  else .ok ()

/-- A port: decimal digits up to 65535, or nothing. -/
def checkPort (port : List Char) : Except Fault Unit :=
  if port.all Char.isDigit && (valueIn? 10 port).any (· < 65536) then .ok () else .error .port

/-- An authority, with what follows it. -/
def checkAuthority (kind : SchemeKind) (text : List Char) : Except Fault Unit := do
  let authority := text.takeWhile (!endsAuthority kind ·)
  let after := text.drop authority.length
  let (credentials, place) := splitCredentials authority
  if credentials = some [] && place = [] && after ≠ [] then throw .emptyHost
  let host := place.take (hostLength false place)
  let port := place.drop host.length
  if kind = .special && host = [] then throw .emptyHost
  if kind = .special then checkHost host else checkOpaqueHost host
  if host = [] && port ≠ [] then throw .emptyHost
  match port with
  | _ :: digits => checkPort (digits.takeWhile (· ≠ '\\'))
  | [] => pure ()
  if host = [] && credentials.any namesSomeone then throw .emptyHost

end Switchboard.Source
