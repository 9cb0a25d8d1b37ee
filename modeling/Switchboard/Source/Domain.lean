import Switchboard.Source.Domain.Direction
import Switchboard.Source.Domain.Mapping
import Switchboard.Source.Punycode
import Switchboard.Text.Ascii
import Switchboard.Text.Bytes

/-!
# Domain names

The name of a host, with percent escapes resolved and every character taken for what it stands for.
A label that begins with `xn--` is the ASCII form of another, which has to be such that it needs
that form.  Labels outside ASCII have to be readable on their own: they do not begin with a mark,
their joiners join something, and their directions are in order.
-/
namespace Switchboard.Source

/-- The bytes that a text with percent escapes stands for. -/
def percentDecoded : Bytes → Bytes
  | 0x25 :: a :: b :: rest =>
    match Ascii.hexValue? a, Ascii.hexValue? b with
    | some x, some y => UInt8.ofNat (x * 16 + y) :: percentDecoded rest
    | _, _ => 0x25 :: percentDecoded (a :: b :: rest)
  | b :: rest => b :: percentDecoded rest
  | [] => []

/-- The ASCII characters that a domain name cannot contain. -/
def isDeniedInDomain (c : Char) : Bool :=
  c.toNat ≤ 0x20 || c.toNat = 0x7f || "%#/:<>?@[\\]^|".toList.contains c

/-- Whether all characters of a text are ASCII. -/
def isPlain (cs : List Char) : Bool := cs.all fun c => c.toNat ≤ 0x7f

/-- What a label stands for. -/
def labelOf? (label : List Char) : Option (List Char) :=
  if label.take 4 = "xn--".toList then do
    let decoded ← decodePunycode? (label.drop 4)
    if isPlain decoded || !decoded.all isSettled || decoded.any isDeniedInDomain then none
    else some decoded
  else some label

/-- Whether a label can be read on its own. -/
def isReadable (label : List Char) : Bool :=
  isPlain label || (!label.head?.any isMark && joinersJoin [] label)

/-- The domain name that a host is. -/
def domainOf? (host : List Char) : Option (List Char) := do
  let s ← Bytes.text? (percentDecoded (Bytes.ofText (String.ofList host)))
  if s.toList.any isDenied then none
  else
    let cs := s.toList.flatMap mapped
    let names ← (cs.splitOn '.').mapM labelOf?
    let turns := names.any fun name => name.any fun c => (directionOf c).turns
    if cs.any isDeniedInDomain || !names.all isReadable then none
    else if turns && !names.all (fun name => isDirected (name.map directionOf)) then none
    else some cs

end Switchboard.Source
