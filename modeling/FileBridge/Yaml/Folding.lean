import FileBridge.Yaml.Character

/-!
Scalars over several lines. Blanks next to a line's end do not count; one line's end stands for a
space, and each further one for itself.
-/
namespace FileBridge.Yaml

inductive Piece where
  | char (c : Char)
  | blank (c : Char)
  /-- The end of a line. -/
  | newline (c : Char)
  /-- The end of a line that is not part of the scalar. -/
  | splice
deriving DecidableEq, Repr

def Piece.of (c : Char) : Piece :=
  if isBlank c then .blank c else if isBreak c then .newline c else .char c

/-- What stands between two characters that are not blank. -/
inductive Spacing where
  | blanks (s : List Char)
  /-- The first line's end, unless it is not part of the scalar, and the further ones. -/
  | lines (first : Option Char) (more : List Char)

namespace Spacing

def empty : Spacing :=
  .blanks []

/-- Blanks next to a line's end do not count. -/
def blank (c : Char) : Spacing → Spacing
  | .blanks s => .blanks (s ++ [c])
  | .lines first more => .lines first more

def newline (c : Char) : Spacing → Spacing
  | .blanks _ => .lines (some c) []
  | .lines first more => .lines first (more ++ [c])

def text : Spacing → List Char
  | .blanks s => s
  | .lines none more => more
  | .lines (some c) more =>
    if c = '\n' then (if more = [] then [' '] else more) else c :: more

end Spacing

/-- The text that parts make. What spacing at the end stands for is told by the first argument. -/
def fold (atEnd : Spacing → List Char) (spacing : Spacing) : List Piece → List Char
  | [] => atEnd spacing
  | .char c :: rest => spacing.text ++ c :: fold atEnd .empty rest
  | .blank c :: rest => fold atEnd (spacing.blank c) rest
  | .newline c :: rest => fold atEnd (spacing.newline c) rest
  | .splice :: rest => spacing.text ++ fold atEnd (.lines none []) rest

def foldAll (pieces : List Piece) : String :=
  String.ofList (fold Spacing.text .empty pieces)

def foldTrimmed (pieces : List Piece) : String :=
  String.ofList (fold (fun _ => []) .empty pieces)

end FileBridge.Yaml
