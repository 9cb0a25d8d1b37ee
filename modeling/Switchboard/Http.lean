import Switchboard.Identity.Headers

/-!
# Requests

The relay answers requests on three paths: one for WebSockets, one for its health and one for what
it has counted.  Paths are compared as they are written; a query or a fragment does not count.  All
three are read with `GET`; `HEAD` is answered as `GET`, without the body.

A request for a WebSocket has to name an identity first.  Then it has to be a request for an
upgrade, and the connection that it came over has to allow one.
-/
namespace Switchboard

/-- A request. -/
structure Request where
  method : String
  /-- Path, query and fragment. -/
  target : String
  headers : Headers
  /-- Whether the connection can become a WebSocket. -/
  upgradable : Bool

/-- An answer. -/
structure Response where
  status : Nat
  body : String
  deriving DecidableEq, Repr

/-- What a path leads to. -/
inductive Route
  | webSocket
  | health
  | metrics
  deriving DecidableEq, Repr

/-- Why a request is not a request for an upgrade. -/
inductive UpgradeFault
  | method
  | connection
  | upgrade
  | key
  | version
  /-- The connection does not allow it. -/
  | unavailable
  deriving DecidableEq, Repr

namespace UpgradeFault

/-- The status that a request is refused with. -/
def status : UpgradeFault → Nat
  | method => 405
  | unavailable => 426
  | _ => 400

/-- The wording of a refusal. -/
def message : UpgradeFault → String
  | method => "Request method must be `GET`"
  | connection => "Connection header did not include 'upgrade'"
  | upgrade => "`Upgrade` header did not include 'websocket'"
  | key => "`Sec-WebSocket-Key` header missing"
  | version => "`Sec-WebSocket-Version` header did not include '13'"
  | unavailable => "WebSocket request couldn't be upgraded since no upgrade state was present"

end UpgradeFault

/-- The route of a path. -/
def Route.ofPath? (path : String) : Option Route :=
  if path = "/ws" then some .webSocket
  else if path = "/health" then some .health
  else if path = "/metrics" then some .metrics
  else none

namespace Headers

/-- The text of a header in lower case. -/
def lower? (headers : Headers) (name : String) : Option String :=
  (headers.first? name).bind fun b => (Bytes.text? b).map Text.lowerAscii

/-- Whether a header is a word, in either case. -/
def isWord (headers : Headers) (name word : String) : Bool :=
  headers.lower? name == some word

/-- Whether a word occurs in a text. -/
def occursIn (word : List Char) : List Char → Bool
  | [] => word.isEmpty
  | c :: cs => word.isPrefixOf (c :: cs) || occursIn word cs

/-- Whether a header has a word in it, in either case. -/
def hasWord (headers : Headers) (name word : String) : Bool :=
  match headers.lower? name with
  | some value => occursIn word.toList value.toList
  | none => false

end Headers

namespace Request

/-- The path of a request. -/
def path (r : Request) : String :=
  String.ofList (r.target.toList.takeWhile fun c => c != '?' && c != '#')

/-- Whether a request is one for an upgrade that can be had. -/
def checkUpgrade (r : Request) : Except UpgradeFault Unit :=
  if r.method ≠ "GET" then .error .method
  else if !r.headers.hasWord "connection" "upgrade" then .error .connection
  else if !r.headers.isWord "upgrade" "websocket" then .error .upgrade
  else if (r.headers.first? "sec-websocket-key").isNone then .error .key
  else if !r.headers.isWord "sec-websocket-version" "13" then .error .version
  else if !r.upgradable then .error .unavailable
  else .ok ()

/-- Whether a request only asks for what a route has to show. -/
def isReading (r : Request) : Bool := r.method == "GET" || r.method == "HEAD"

end Request

/-- A response to a method that shows no body. -/
def Response.shownTo (method : String) (r : Response) : Response :=
  if method = "HEAD" then { r with body := "" } else r

end Switchboard
