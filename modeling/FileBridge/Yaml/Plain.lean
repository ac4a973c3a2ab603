import FileBridge.Yaml.Folding
import FileBridge.Yaml.Place

/-!
Scalars without quotes. They may go on over several lines, as long as each line is indented more
than the block around them.
-/
namespace FileBridge.Yaml

/-- A plain scalar may start with a character if this follows it. -/
def startsPlain (flow : Bool) (c : Char) (next : Option Char) : Bool :=
  if c = '-' then !isGap next
  else if c = '?' || c = ':' then !flow && !isGap next
  else !isGap (some c) && !isIndicator c

/-- A colon between brackets that this follows must not end a plain scalar, and cannot be part of
it. -/
def isMisplaced (flow : Bool) (next : Option Char) : Bool :=
  flow && next.any fun c => c = '?' || isFlowIndicator c

/-- A plain scalar ends before a character if this follows it. -/
def endsPlain (flow : Bool) (c : Char) (next : Option Char) : Bool :=
  (c = ':' && isGap next) || (flow && isFlowIndicator c)

/-- After blanks or a line's end, a plain scalar does not go on at a place with this text: it is not
indented far enough, or a comment or another document starts there. -/
def leavesPlain (flow : Bool) (inner : Nat) (place : Place) (s : List Char) : Bool :=
  (!flow && place.column < inner) || (place.column = 0 && startsDocument s) || s.head? = some '#'

inductive Run where
  /-- A character that is not blank stands right before. -/
  | word
  /-- Blanks stand right before. -/
  | blank
  /-- The line has ended since the last character that was not blank. -/
  | line
deriving DecidableEq, Repr

/-- The parts of a plain scalar, and what stands right before its end. The column that it must not
fall short of is given; a tab must not stand in for that indentation. -/
def scanPlain (flow : Bool) (inner : Nat) (run : Run) (place : Place) :
    List Char → Option (Found (List Piece × Run))
  | [] => some ⟨([], run), place, []⟩
  | c :: s =>
    let goOn (piece : Piece) (run : Run) : Option (Found (List Piece × Run)) :=
      (scanPlain flow inner run (place.next c) s).map (.map fun (ps, r) => (piece :: ps, r))
    if isBlank c then
      if run = .line && c = '\t' && place.column < inner then none
      else goOn (.blank c) (if run = .line then .line else .blank)
    else if isBreak c then goOn (.newline c) .line
    else if run ≠ .word && leavesPlain flow inner place (c :: s) then
      some ⟨([], run), place, c :: s⟩
    else if c = ':' && isMisplaced flow s.head? then none
    else if endsPlain flow c s.head? then some ⟨([], run), place, c :: s⟩
    else goOn (.char c) .word

end FileBridge.Yaml
