/-!
# Blank and control characters

`isBlank` is the Unicode property `White_Space`, `isControl` the general category `Cc`.  Both are
short enough to be written as ranges.  Trimming takes blank characters off both ends of a text.
-/
namespace Switchboard.Text

/-- The property `White_Space`. -/
def isBlank (c : Char) : Bool :=
  let n := c.toNat
  (9 ≤ n && n ≤ 13) || n == 0x20 || n == 0x85 || n == 0xa0 || n == 0x1680 ||
    (0x2000 ≤ n && n ≤ 0x200a) || n == 0x2028 || n == 0x2029 || n == 0x202f || n == 0x205f ||
    n == 0x3000

/-- The general category `Cc`. -/
def isControl (c : Char) : Bool :=
  let n := c.toNat
  n ≤ 0x1f || (0x7f ≤ n && n ≤ 0x9f)

/-- `cs` without the blank characters at its front. -/
def trimFront (cs : List Char) : List Char :=
  cs.dropWhile isBlank

/-- `cs` without the blank characters at its back. -/
def trimBack (cs : List Char) : List Char :=
  (trimFront cs.reverse).reverse

/-- `cs` without the blank characters at its ends. -/
def trimBoth (cs : List Char) : List Char :=
  trimBack (trimFront cs)

/-- `s` without the blank characters at its ends. -/
def trim (s : String) : String :=
  String.ofList (trimBoth s.toList)

/-- The ASCII letters of `s` in lower case, all else as it is. -/
def lowerAscii (s : String) : String :=
  s.map Char.toLower

end Switchboard.Text
