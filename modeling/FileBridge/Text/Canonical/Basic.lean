import FileBridge.Text.Canonical.Table

/-!
The canonical form of a text. The same text can often be written in several ways: with a letter and
a mark, or with one character for both, and with marks in one order or another. In the canonical
form characters are joined where they can be, and marks are in order.
-/
namespace FileBridge.Text

/-- The class of a mark, or zero for a character that starts a new group. -/
def markClass (n : Nat) : Nat :=
  match markClasses.find? (Row.covers n) with
  | some [_, _, k] => k
  | _ => 0

def firstSyllable : Nat := 0xac00

/-- The first letter that starts a syllable. There are nineteen of them. -/
def firstLead : Nat := 0x1100

/-- The first vowel of a syllable. There are twenty-one of them. -/
def firstVowel : Nat := 0x1161

/-- The code point right before the first letter that ends a syllable. There are twenty-seven of
them, so that with none there are twenty-eight endings. -/
def noEnding : Nat := 0x11a7

def syllable? (n : Nat) : Option (List Nat) :=
  if firstSyllable ≤ n && n < firstSyllable + 19 * 21 * 28 then
    let i := n - firstSyllable
    let letters := [firstLead + i / 588, firstVowel + i % 588 / 28]
    some (if i % 28 = 0 then letters else letters ++ [noEnding + i % 28])
  else none

/-- The code points that a code point is made of. Composites are taken apart as deep as the first
argument says. -/
def decomposed : Nat → Nat → List Nat
  | 0, n => [n]
  | depth + 1, n =>
    match syllable? n, entry? composites n, entry? decompositions n with
    | some letters, _, _ => letters
    | none, some [a, b], _ => decomposed depth a ++ [b]
    | none, _, some parts => parts
    | none, _, none => [n]

/-- Puts a code point in front of others. A mark moves behind marks of lower classes. -/
def insertMark (n : Nat) : List Nat → List Nat
  | [] => [n]
  | m :: rest =>
    if 0 < markClass m && markClass m < markClass n then m :: insertMark n rest else n :: m :: rest

def takenApart (s : List Nat) : List Nat :=
  (s.flatMap (decomposed 4)).foldr insertMark []

def joined? (a b : Nat) : Option Nat :=
  if firstLead ≤ a && a < firstLead + 19 && firstVowel ≤ b && b < firstVowel + 21 then
    some (firstSyllable + ((a - firstLead) * 21 + (b - firstVowel)) * 28)
  else if (syllable? a).any (·.length = 2) && noEnding < b && b < noEnding + 28 then
    some (a + (b - noEnding))
  else (composites.find? fun row => row.tail = [a, b]).bind List.head?

/-- A text that is being put together: what is done, the last character that starts a group, and the
marks after it that did not join it. -/
structure Joining where
  done : List Nat
  starter : Option Nat
  marks : List Nat

namespace Joining

def all (j : Joining) : List Nat :=
  j.done ++ j.starter.toList ++ j.marks

/-- Adds a code point, which joins the character before it if they make one and no mark of the same
or a higher class stands between. -/
def add (j : Joining) (n : Nat) : Joining :=
  let k := markClass n
  let isFree := j.marks.all fun m => markClass m < k
  match (if isFree then j.starter.bind fun a => joined? a n else none) with
  | some m => { j with starter := some m }
  | none => if k = 0 then ⟨j.all, some n, []⟩ else { j with marks := j.marks ++ [n] }

end Joining

def canonical (s : List Char) : List Char :=
  ((takenApart (s.map Char.toNat)).foldl Joining.add ⟨[], none, []⟩).all.map Char.ofNat

end FileBridge.Text
