import FileBridge.Yaml.Document

/-!
The pairs of names and values that a YAML text holds, with each alias replaced by what it stands
for. An anchor is known by a number, namely how many names the anchors before it have; so two
anchors may get the same number, and then the last one counts.
-/
namespace FileBridge.Yaml

inductive Value where
  | scalar (s : Scalar)
  | list (items : List Scalar)
deriving DecidableEq, Repr

structure Anchors where
  /-- The number of each name, the last one first. -/
  numbers : List (String × Nat)
  /-- The scalar with each number, the last one first. Nothing else can stand for an alias. -/
  scalars : List (Nat × Option Scalar)

namespace Anchors

def empty : Anchors :=
  ⟨[], []⟩

def count (a : Anchors) : Nat :=
  (a.numbers.map Prod.fst).eraseDups.length

def note (name : Option String) (s : Option Scalar) (a : Anchors) : Anchors :=
  match name with
  | none => a
  | some name => ⟨(name, a.count) :: a.numbers, (a.count, s) :: a.scalars⟩

end Anchors

/-- A scalar, or the number of one. -/
inductive Ref where
  | scalar (s : Scalar)
  | number (n : Nat)

/-- Notes the anchor of a scalar, and looks up the number of an alias. -/
def Leaf.refer (a : Anchors) : Leaf → Option (Anchors × Ref)
  | .scalar anchor s => some (a.note anchor (some s), .scalar s)
  | .alias name => (a.numbers.lookup name).map fun n => (a, .number n)

def referAll (a : Anchors) : List Leaf → Option (Anchors × List Ref)
  | [] => some (a, [])
  | l :: ls => do
    let (a, r) ← l.refer a
    let (a, rs) ← referAll a ls
    return (a, r :: rs)

def Ref.resolve? (a : Anchors) : Ref → Option Scalar
  | .scalar s => some s
  | .number n => (a.scalars.lookup n).join

inductive RefValue where
  | one (r : Ref)
  | list (rs : List Ref)

def Node.refer (a : Anchors) : Node → Option (Anchors × RefValue)
  | .leaf l => (l.refer a).map fun (a, r) => (a, .one r)
  | .list anchor items =>
    (referAll (a.note anchor none) items).map fun (a, rs) => (a, .list rs)

def RefValue.resolve? (a : Anchors) : RefValue → Option Value
  | .one r => (r.resolve? a).map .scalar
  | .list rs => (rs.mapM (Ref.resolve? a)).map .list

def referPairs (a : Anchors) : List (Leaf × Node) → Option (Anchors × List (Ref × RefValue))
  | [] => some (a, [])
  | (name, value) :: pairs => do
    let (a, name) ← name.refer a
    let (a, value) ← value.refer a
    let (a, pairs) ← referPairs a pairs
    return (a, (name, value) :: pairs)

def Document.pairs? (d : Document) : Option (List (String × Value)) := do
  let (a, pairs) ← referPairs (Anchors.empty.note d.anchor none) d.pairs
  pairs.mapM fun (name, value) => do
    let name ← name.resolve? a
    let value ← value.resolve? a
    return (name.text, value)

/-- All ways to end a line are the same, but for the separators of lines and paragraphs. -/
def normalize : List Char → List Char
  | [] => []
  | '\r' :: '\n' :: s => '\n' :: normalize s
  | c :: s => (if c = '\r' || c = '\u0085' then '\n' else c) :: normalize s

/-- The pairs of the mapping that a text holds. A text that holds nothing has none. -/
def pairs? (s : List Char) : Option (List (String × Value)) :=
  if s.all isAllowed then
    ((tokens? (normalize s)).bind Document.ofTokens?).bind Document.pairs?
  else none

end FileBridge.Yaml
