import Switchboard.Text.Blank

/-!
# Lists written with commas

A list of names is written as its entries with commas between them.  Blank characters around an
entry do not count, and an entry with nothing left is no entry.
-/
namespace Switchboard.Text

/-- The entries of a list written with commas, in order. -/
def entries (s : String) : List String :=
  ((s.toList.splitOn ',').map trimBoth).filter (!·.isEmpty) |>.map String.ofList

end Switchboard.Text
