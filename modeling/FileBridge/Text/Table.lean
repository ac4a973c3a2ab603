import FileBridge.Text.Cut
import FileBridge.Text.Hex

/-!
Tables of code points that are written as text: rows stand between blanks and line ends, and the
hexadecimal numbers of a row between dots.
-/
namespace FileBridge.Text

abbrev Row : Type :=
  List Nat

def rows (table : String) : List Row :=
  let words := splitAt ' ' (table.toList.map fun c => if c = '\n' then ' ' else c)
  (words.filter (· ≠ [])).map fun word => (splitAt '.' word).map hexValueOf

/-- A row stands for one code point, or for those from a first to a last one. -/
def Row.covers (n : Nat) : Row → Bool
  | [first] => n = first
  | first :: last :: _ => first ≤ n && n ≤ last
  | [] => false

def within (table : List Row) (c : Char) : Bool :=
  table.any (Row.covers c.toNat)

/-- What the rows of a table that start with a code point go on with. -/
def entry? (table : List Row) (n : Nat) : Option Row :=
  (table.find? (·.head? = some n)).map List.tail

end FileBridge.Text
