import Switchboard.Source.Fault
import Switchboard.Text.Ascii

/-!
# Internet addresses

The two forms of address that a host may have instead of a name.  An IPv4 address has up to four
numbers, of which the last fills what the others leave; a number is decimal, octal after a zero or
hexadecimal after `0x`.  An IPv6 address has eight pieces of up to four hexadecimal digits; one run
of pieces may be left out, and the last two may be written as an IPv4 address in decimal.
-/
namespace Switchboard.Source

/-! ## IPv4 -/

/-- The value of a hexadecimal digit. -/
def hexValue? (c : Char) : Option Nat :=
  if c.toNat < 0x80 then Ascii.hexValue? c.toUInt8 else none

/-- The value of digits in a base from two to sixteen; there may be none of them. -/
def valueIn? (base : Nat) (cs : List Char) : Option Nat :=
  cs.foldlM (fun n c => do
    let d ← hexValue? c
    if d < base then some (n * base + d) else none) 0

/-- The base of a number and its digits. -/
def baseOf (cs : List Char) : Nat × List Char :=
  match cs with
  | '0' :: 'x' :: rest => (16, rest)
  | '0' :: 'X' :: rest => (16, rest)
  | '0' :: c :: rest => (8, c :: rest)
  | cs => (10, cs)

/-- One number of an IPv4 address. -/
def ipv4Number? (cs : List Char) : Option Nat :=
  if cs.isEmpty then none
  else
    let (base, digits) := baseOf cs
    valueIn? base digits

/-- Whether a host is to be read as an IPv4 address: its last piece that is not empty is a number,
or at least consists of decimal digits. -/
def endsInNumber (host : List Char) : Bool :=
  let last? :=
    match (host.splitOn '.').reverse with
    | [] :: p :: _ => some p
    | [] :: [] => none
    | p :: _ => some p
    | [] => none
  match last? with
  | none => false
  | some p => (!p.isEmpty && p.all Char.isDigit) || (ipv4Number? p).isSome

/-- The pieces of an IPv4 address; a point at the end does not count. -/
def ipv4Pieces (host : List Char) : List (List Char) :=
  match (host.splitOn '.').reverse with
  | [] :: rest => rest.reverse
  | pieces => pieces.reverse

/-- Whether a host is an IPv4 address. -/
def isIpv4 (host : List Char) : Bool :=
  let pieces := ipv4Pieces host
  match pieces.mapM ipv4Number? with
  | none => false
  | some numbers =>
    match numbers.reverse with
    | [] => false
    | last :: others =>
      pieces.length ≤ 4 && others.all (· < 256) && last < Nat.pow 256 (4 - others.length)

/-! ## IPv6 -/

/-- One number of an IPv4 address that stands in an IPv6 address: decimal, below 256, without
leading zeros. -/
def decimalPiece? (cs : List Char) : Option Nat :=
  match cs with
  | [] => none
  | [c] => if c.isDigit then some (c.toNat - 48) else none
  | c :: rest =>
    if c = '0' then none
    else do
      let n ← valueIn? 10 (c :: rest)
      if n < 256 then some n else none

/-- Whether the rest of an IPv6 address is an IPv4 address. -/
def isDecimalQuad (cs : List Char) : Bool :=
  let pieces := cs.splitOn '.'
  pieces.length == 4 && (pieces.mapM decimalPiece?).isSome

/-- Walks over the pieces of an IPv6 address: how many have been counted, and whether a run has been
left out. -/
def ipv6From : Nat → Nat → Bool → List Char → Bool
  | 0, _, _, _ => false
  | _ + 1, count, run, [] => run || count == 8
  | fuel + 1, count, run, cs =>
    if count = 8 then false
    else match cs with
      | ':' :: rest => if run then false else ipv6From fuel (count + 1) true rest
      | cs =>
        let digits := (cs.take 4).takeWhile fun c => (hexValue? c).isSome
        match cs.drop digits.length with
        | [] => ipv6From fuel (count + 1) run []
        | '.' :: _ =>
          !digits.isEmpty && count ≤ 6 && isDecimalQuad cs && (run || count == 6)
        | ':' :: rest => if rest.isEmpty then false else ipv6From fuel (count + 1) run rest
        | _ => false

/-- Whether the text between brackets is an IPv6 address. -/
def isIpv6 (cs : List Char) : Bool :=
  match cs with
  | [] => false
  | [_] => false
  | ':' :: ':' :: rest => ipv6From (rest.length + 1) 1 true rest
  | ':' :: _ => false
  | cs => ipv6From (cs.length + 1) 0 false cs

end Switchboard.Source
