import FileBridge.Text.Cut
import FileBridge.Text.Decimal
import FileBridge.Text.Hex

/-!
Internet addresses of both versions, their reading and their canonical text.

An address of version four is four numbers below 256 without leading zeros. One of version six is
eight groups of up to four hexadecimal digits, where one run of zero groups may be left out and the
last two groups may be spelled as an address of version four. The canonical text leaves out the
first of the longest runs of at least two zero groups.
-/
namespace FileBridge.Net

inductive Address where
  | v4 (a b c d : UInt8)
  | v6 (groups : List UInt16) (size : groups.length = 8)
deriving DecidableEq, Repr

namespace Address

def readOctet? (s : List Char) : Option (Nat × List Char) :=
  let ds := s.takeWhile Char.isDigit
  if ds = [] ∨ 3 < ds.length ∨ (ds.head? = some '0' ∧ ds.length ≠ 1) then none
  else if 255 < Text.valueOf ds then none
  else some (Text.valueOf ds, s.dropWhile Char.isDigit)

def readChar? (c : Char) : List Char → Option (List Char)
  | [] => none
  | d :: s => if d = c then some s else none

def readFour? (s : List Char) : Option ((Nat × Nat × Nat × Nat) × List Char) := do
  let (a, s) ← readOctet? s
  let (b, s) ← readOctet? (← readChar? '.' s)
  let (c, s) ← readOctet? (← readChar? '.' s)
  let (d, s) ← readOctet? (← readChar? '.' s)
  some ((a, b, c, d), s)

def readGroup? (s : List Char) : Option (Nat × List Char) :=
  let ds := s.takeWhile fun c => (Text.hexValue? c).isSome
  if ds = [] ∨ 4 < ds.length then none
  else some (Text.hexValueOf ds, s.drop ds.length)

/-- Groups that were read: their values, whether they end in an address of version four, and what
follows. -/
structure Groups where
  values : List Nat
  embedded : Bool
  rest : List Char

def readGroups : Nat → Bool → List Char → Groups
  | 0, _, s => ⟨[], false, s⟩
  | n + 1, first, s =>
    let here? := if first then some s else readChar? ':' s
    match if 0 < n then here?.bind readFour? else none with
    | some ((a, b, c, d), rest) => ⟨[256 * a + b, 256 * c + d], true, rest⟩
    | none =>
      match here?.bind readGroup? with
      | none => ⟨[], false, s⟩
      | some (g, rest) =>
        let later := readGroups n false rest
        ⟨g :: later.values, later.embedded, later.rest⟩

def readEight? (s : List Char) : Option (List Nat × List Char) :=
  let head := readGroups 8 true s
  if head.values.length = 8 then some (head.values, head.rest)
  else if head.embedded then none
  else do
    let s ← readChar? ':' head.rest
    let s ← readChar? ':' s
    let tail := readGroups (8 - (head.values.length + 1)) true s
    let zeros := List.replicate (8 - head.values.length - tail.values.length) 0
    some (head.values ++ zeros ++ tail.values, tail.rest)

def ofGroups? (groups : List Nat) : Option Address :=
  if h : groups.length = 8 then
    some (.v6 (groups.map UInt16.ofNat) (by rw [List.length_map, h]))
  else none

def read? (s : List Char) : Option Address :=
  match readFour? s with
  | some ((a, b, c, d), rest) =>
    if rest = [] then some (.v4 (.ofNat a) (.ofNat b) (.ofNat c) (.ofNat d)) else none
  | none =>
    match readEight? s with
    | some (groups, rest) => if rest = [] then ofGroups? groups else none
    | none => none

def dotted (a b c d : Nat) : String :=
  ".".intercalate ([a, b, c, d].map Text.decimal)

def colons (groups : List UInt16) : String :=
  ":".intercalate (groups.map fun g => String.ofList (Nat.toDigits 16 g.toNat))

def zerosAt (groups : List UInt16) : Nat :=
  (groups.takeWhile (· = 0)).length

/-- Where the first of the longest runs of zero groups starts, and its length. -/
def longestZeros (groups : List UInt16) : Nat × Nat :=
  (List.range groups.length).foldl (fun best i =>
    let n := zerosAt (groups.drop i)
    if best.2 < n then (i, n) else best) (0, 0)

def text : Address → String
  | .v4 a b c d => dotted a.toNat b.toNat c.toNat d.toNat
  | .v6 groups _ =>
    match groups with
    | [0, 0, 0, 0, 0, 0xffff, g, h] =>
      "::ffff:" ++ dotted (g.toNat / 256) (g.toNat % 256) (h.toNat / 256) (h.toNat % 256)
    | _ =>
      let (start, n) := longestZeros groups
      if 1 < n then colons (groups.take start) ++ "::" ++ colons (groups.drop (start + n))
      else colons groups

/-- The text of an address with a port; version six stands in brackets. -/
def textWithPort (a : Address) (port : Nat) : String :=
  match a with
  | .v4 .. => a.text ++ ":" ++ Text.decimal port
  | .v6 .. => "[" ++ a.text ++ "]:" ++ Text.decimal port

def loopback : Address :=
  .v4 127 0 0 1

end Address

end FileBridge.Net
