import Switchboard.Json.Value

/-!
# Writing JSON

The compact form of a value: no blanks, fields in the order of their list.  In a string a quote, a
backslash and the control characters below U+0020 are escaped, by letter where there is one, and
nothing else is.

Every writer puts its characters in front of what comes after them, so that a long value is
written in one pass and a reader's law can say what follows the value.
-/
namespace Switchboard.Json

/-- One digit of a lower-case hexadecimal number. -/
def hexDigit (n : Nat) : Char :=
  Nat.digitChar (n % 16)

/-- One character of a string. -/
def escapedChar (c : Char) : List Char :=
  if c = '"' then ['\\', '"']
  else if c = '\\' then ['\\', '\\']
  else if c.toNat < 0x20 then
    if c.toNat = 0x08 then ['\\', 'b']
    else if c.toNat = 0x09 then ['\\', 't']
    else if c.toNat = 0x0a then ['\\', 'n']
    else if c.toNat = 0x0c then ['\\', 'f']
    else if c.toNat = 0x0d then ['\\', 'r']
    else ['\\', 'u', '0', '0', hexDigit (c.toNat / 16), hexDigit c.toNat]
  else [c]

/-- A string between quotes, before `rest`. -/
def writeString (s : String) (rest : List Char) : List Char :=
  '"' :: s.toList.flatMap escapedChar ++ '"' :: rest

namespace Value

mutual

/-- The compact form of a value, before `rest`. -/
def write : Value → List Char → List Char
  | null, rest => "null".toList ++ rest
  | bool true, rest => "true".toList ++ rest
  | bool false, rest => "false".toList ++ rest
  | number n, rest => n.text.toList ++ rest
  | string s, rest => writeString s rest
  | array [], rest => '[' :: ']' :: rest
  | array (v :: items), rest => '[' :: write v (writeItems items rest)
  | object [], rest => '\x7b' :: '\x7d' :: rest
  | object ((k, v) :: fields), rest =>
    '\x7b' :: writeString k (':' :: write v (writeFields fields rest))

/-- The items of an array after its first, with the bracket that ends it. -/
def writeItems : List Value → List Char → List Char
  | [], rest => ']' :: rest
  | v :: items, rest => ',' :: write v (writeItems items rest)

/-- The fields of an object after its first, with the brace that ends it. -/
def writeFields : List (String × Value) → List Char → List Char
  | [], rest => '\x7d' :: rest
  | (k, v) :: fields, rest => ',' :: writeString k (':' :: write v (writeFields fields rest))

end

/-- The compact form of a value. -/
def text (v : Value) : String :=
  String.ofList (write v [])

end Value
end Switchboard.Json
