import FileBridge.Yaml.Character

/-!
Places in a text. Indentation is told from the column, and a name must end on the line on which it
starts.
-/
namespace FileBridge.Yaml

structure Place where
  /-- How many characters stand before it. -/
  index : Nat
  /-- How many lines end before it. -/
  line : Nat
  /-- How many characters of its own line stand before it. -/
  column : Nat
deriving DecidableEq, Repr

namespace Place

def start : Place :=
  ⟨0, 0, 0⟩

/-- The place after some characters that do not end the line. -/
def skip (n : Nat) (p : Place) : Place :=
  ⟨p.index + n, p.line, p.column + n⟩

def next (c : Char) (p : Place) : Place :=
  if isBreak c then ⟨p.index + 1, p.line + 1, 0⟩ else p.skip 1

end Place

/-- What a scan of a text finds, and where it stops. -/
structure Found (α : Type) where
  value : α
  place : Place
  rest : List Char

def Found.map {α β : Type} (f : α → β) (x : Found α) : Found β :=
  ⟨f x.value, x.place, x.rest⟩

end FileBridge.Yaml
