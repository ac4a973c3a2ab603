import FileBridge.Text.Decimal
import FileBridge.Yaml.Place

/-!
Scalars in lines of their own: literal ones, which keep their line ends, and folded ones, which join
lines by a space. A header tells what becomes of the line ends at the end, and may tell how far the
lines are indented.
-/
namespace FileBridge.Yaml

/-- What becomes of the line ends at the end of a scalar. -/
inductive Chomping where
  | strip
  | clip
  | keep
deriving DecidableEq, Repr

structure BlockHeader where
  chomping : Chomping
  /-- How much further than the block around them the lines are indented, if that is told. -/
  width : Option Nat
deriving DecidableEq, Repr

def Chomping.of? (c : Char) : Option Chomping :=
  if c = '+' then some .keep else if c = '-' then some .strip else none

def blockWidth? (c : Char) : Option Nat :=
  if '1' ≤ c && c ≤ '9' then some (Text.digitValue c) else none

/-- Reads the indicators of a header: a sign and a digit, each optional and in any order. -/
def takeHeader : List Char → Option (BlockHeader × List Char)
  | [] => some (⟨.clip, none⟩, [])
  | c :: s =>
    match Chomping.of? c with
    | some chomping =>
      match s with
      | d :: rest =>
        if d.isDigit then (blockWidth? d).map fun n => (⟨chomping, some n⟩, rest)
        else some (⟨chomping, none⟩, s)
      | [] => some (⟨chomping, none⟩, [])
    | none =>
      if c.isDigit then
        (blockWidth? c).map fun n =>
          match s with
          | d :: rest =>
            match Chomping.of? d with
            | some chomping => (⟨chomping, some n⟩, rest)
            | none => (⟨.clip, some n⟩, s)
          | [] => (⟨.clip, some n⟩, [])
      else some (⟨.clip, none⟩, c :: s)

/-- What follows a line that holds nothing more than blanks and a comment, with the line's end in
front. -/
def restOfLine? (s : List Char) : Option (List Char) :=
  match s.dropWhile isBlank with
  | [] => some []
  | c :: rest =>
    if isBreak c then some (c :: rest)
    else if c = '#' then some (rest.dropWhile fun c => !isBreak c)
    else none

/-- Skips indentation and empty lines: their line ends, and the greatest indentation. As long as it
is not known how far the lines are indented, all spaces count as indentation. A tab must not stand
in for it. -/
def scanBreaks (width : Option Nat) (widest : Nat) (place : Place) :
    List Char → Option (Found (List Char × Nat))
  | [] => some ⟨([], max widest place.column), place, []⟩
  | c :: s =>
    let isIndentation := width.all (place.column < ·)
    if c = ' ' && isIndentation then scanBreaks width widest (place.next c) s
    else if c = '\t' && isIndentation then none
    else if isBreak c then
      (scanBreaks width (max widest place.column) (place.next c) s).map
        (.map fun (breaks, w) => (c :: breaks, w))
    else some ⟨([], max widest place.column), place, c :: s⟩

structure BlockLine where
  text : List Char
  /-- The line's end, if it has one. -/
  ending : List Char
  /-- The ends of the empty lines after it. -/
  after : List Char

/-- The lines of a scalar that are indented as far as given. There are no more of them than the
second argument says. -/
def scanLines (width : Nat) : Nat → Place → List Char → Option (Found (List BlockLine))
  | 0, place, s => some ⟨[], place, s⟩
  | count + 1, place, s =>
    if s = [] || place.column ≠ width then some ⟨[], place, s⟩
    else
      let text := s.takeWhile fun c => !isBreak c
      match s.dropWhile fun c => !isBreak c with
      | [] => some ⟨[⟨text, [], []⟩], place.skip text.length, []⟩
      | c :: rest => do
        let gap ← scanBreaks (some width) 0 ((place.skip text.length).next c) rest
        let more ← scanLines width count gap.place gap.rest
        return more.map (⟨text, [c], gap.value.1⟩ :: ·)

def Chomping.tail (ending after : List Char) : Chomping → List Char
  | .strip => []
  | .clip => ending
  | .keep => ending ++ after

/-- The text that lines make after another line with its end and the ends of empty lines. Folding
joins two lines by a space if neither starts with a blank. -/
def joinLines (folded : Bool) (chomping : Chomping) (ending after : List Char) (indented : Bool) :
    List BlockLine → List Char
  | [] => chomping.tail ending after
  | l :: ls =>
    let startsBlank := l.text.head?.any isBlank
    let joint :=
      if folded && ending = ['\n'] && !indented && !startsBlank then
        (if after = [] then [' '] else [])
      else ending
    joint ++ after ++ l.text ++ joinLines folded chomping l.ending l.after startsBlank ls

/-- Reads a scalar in lines of its own from its header on. The column that its lines must not fall
short of is given. -/
def scanBlock (folded : Bool) (inner : Nat) (place : Place) (s : List Char) :
    Option (Found String) := do
  let (header, rest) ← takeHeader s
  let rest ← restOfLine? rest
  let place := place.skip (s.length - rest.length)
  let place := (rest.head?.map place.next).getD place
  let width := header.width.map (inner - 1 + ·)
  let gap ← scanBreaks width 0 place (rest.drop 1)
  let width := width.getD (max (max gap.value.2 inner) 1)
  let lines ← scanLines width gap.rest.length gap.place gap.rest
  return lines.map fun ls =>
    String.ofList (joinLines folded header.chomping [] gap.value.1 false ls)

end FileBridge.Yaml
