import FileBridge.Yaml.Lexer

/-!
Documents of one mapping from names to scalars and lists of scalars. Anything nested deeper is
refused.
-/
namespace FileBridge.Yaml

/-- A scalar with its anchor, or the name of an anchor elsewhere. -/
inductive Leaf where
  | scalar (anchor : Option String) (s : Scalar)
  | alias (name : String)
deriving DecidableEq, Repr

def Leaf.absent : Leaf :=
  .scalar none .absent

inductive Node where
  | leaf (l : Leaf)
  | list (anchor : Option String) (items : List Leaf)
deriving DecidableEq, Repr

/-- A document: the anchor of its mapping, and the mapping's pairs. -/
structure Document where
  anchor : Option String
  pairs : List (Leaf × Node)
deriving DecidableEq, Repr

structure Marks where
  anchor : Option String
  tag : Option Tag
deriving DecidableEq, Repr

def takeMarks (handles : List TagHandle) : List Token → Option (Marks × List Token)
  | .anchor a :: .tag t :: rest => (t.resolve? handles).map fun t => (⟨some a, some t⟩, rest)
  | .tag t :: .anchor a :: rest => (t.resolve? handles).map fun t => (⟨some a, some t⟩, rest)
  | .anchor a :: rest => some (⟨some a, none⟩, rest)
  | .tag t :: rest => (t.resolve? handles).map fun t => (⟨none, some t⟩, rest)
  | rest => some (⟨none, none⟩, rest)

/-- Reads a scalar or an alias. Where an anchor or a tag stands alone, the scalar is empty. -/
def takeLeaf (handles : List TagHandle) : List Token → Option (Leaf × List Token)
  | .alias name :: rest => some (.alias name, rest)
  | tokens => do
    let (marks, rest) ← takeMarks handles tokens
    match rest with
    | .scalar text style :: rest =>
      let tag := if marks.tag = some .bare then none else marks.tag
      return (.scalar marks.anchor ⟨text, style, tag⟩, rest)
    | rest =>
      if marks = ⟨none, none⟩ then none
      else return (.scalar marks.anchor ⟨"", .plain, marks.tag⟩, rest)

def takeLeafUnless (ends : List Token) (handles : List TagHandle) (tokens : List Token) :
    Option (Leaf × List Token) :=
  if tokens.head?.any ends.contains then some (.absent, tokens) else takeLeaf handles tokens

/-- The items of a list between brackets, up to the closing one. There are no more of them than the
second argument says. -/
def takeFlowItems (handles : List TagHandle) :
    Nat → Bool → List Token → Option (List Leaf × List Token)
  | 0, _, _ => none
  | count + 1, first, tokens =>
    match first, tokens with
    | _, .flowListEnd :: rest => some ([], rest)
    | false, .comma :: .flowListEnd :: rest => some ([], rest)
    | _, tokens => do
      let tokens ←
        match first, tokens with
        | true, tokens => some tokens
        | false, .comma :: tokens => some tokens
        | false, _ => none
      let (item, rest) ← takeLeaf handles tokens
      let (items, rest) ← takeFlowItems handles count false rest
      return (item :: items, rest)

/-- The items of a list in lines of its own, up to its end. Where the list is not indented, its
end is not marked. There are no more items than the third argument says. -/
def takeBlockItems (handles : List TagHandle) (indented : Bool) :
    Nat → List Token → Option (List Leaf × List Token)
  | 0, _ => none
  | count + 1, tokens =>
    match tokens with
    | .item :: rest => do
      let ends := if indented then [.item, .blockEnd] else [.item, .name, .value, .blockEnd]
      let (item, rest) ← takeLeafUnless ends handles rest
      let (items, rest) ← takeBlockItems handles indented count rest
      return (item :: items, rest)
    | .blockEnd :: rest => some ([], if indented then rest else .blockEnd :: rest)
    | rest => if indented then none else some ([], rest)

def takeNode (handles : List TagHandle) (block : Bool) (tokens : List Token) :
    Option (Node × List Token) := do
  let (marks, rest) ← takeMarks handles tokens
  let list (items : Option (List Leaf × List Token)) : Option (Node × List Token) :=
    items.map fun (items, rest) => (.list marks.anchor items, rest)
  match rest, block with
  | .flowListStart :: rest, _ => list (takeFlowItems handles (rest.length + 1) true rest)
  | .blockListStart :: rest, true => list (takeBlockItems handles true (rest.length + 1) rest)
  | .item :: _, true => list (takeBlockItems handles false (rest.length + 1) rest)
  | _, _ => (takeLeaf handles tokens).map fun (l, rest) => (.leaf l, rest)

def takeValue (handles : List TagHandle) (block : Bool) (ends : List Token) :
    List Token → Option (Node × List Token)
  | .value :: rest =>
    if rest.head?.any ends.contains then some (.leaf .absent, rest)
    else takeNode handles block rest
  | rest => some (.leaf .absent, rest)

/-- The pairs of a mapping in lines of its own, up to its end. There are no more of them than the
second argument says. -/
def takeBlockPairs (handles : List TagHandle) :
    Nat → List Token → Option (List (Leaf × Node) × List Token)
  | 0, _ => none
  | count + 1, tokens =>
    match tokens with
    | .blockEnd :: rest => some ([], rest)
    | .name :: rest => do
      let ends := [.name, .value, .blockEnd]
      let (name, rest) ← takeLeafUnless ends handles rest
      let (value, rest) ← takeValue handles true ends rest
      let (pairs, rest) ← takeBlockPairs handles count rest
      return ((name, value) :: pairs, rest)
    | _ => none

/-- Reads a pair between braces. A name without the mark before it has no value. -/
def takeFlowPair (handles : List TagHandle) :
    List Token → Option ((Leaf × Node) × List Token)
  | .name :: rest => do
    let (name, rest) ← takeLeafUnless [.value, .comma, .flowMappingEnd] handles rest
    let (value, rest) ← takeValue handles false [.comma, .flowMappingEnd] rest
    return ((name, value), rest)
  | tokens => (takeLeaf handles tokens).map fun (name, rest) => ((name, .leaf .absent), rest)

def takeFlowPairs (handles : List TagHandle) :
    Nat → Bool → List Token → Option (List (Leaf × Node) × List Token)
  | 0, _, _ => none
  | count + 1, first, tokens =>
    match first, tokens with
    | _, .flowMappingEnd :: rest => some ([], rest)
    | false, .comma :: .flowMappingEnd :: rest => some ([], rest)
    | _, tokens => do
      let tokens ←
        match first, tokens with
        | true, tokens => some tokens
        | false, .comma :: tokens => some tokens
        | false, _ => none
      let (pair, rest) ← takeFlowPair handles tokens
      let (pairs, rest) ← takeFlowPairs handles count false rest
      return (pair :: pairs, rest)

/-- Reads the directives before a document: the handles that they give, each once, after which the
default ones hold. At most one of them gives the version, which must be a known one. -/
def takeHandles (versionGiven : Bool) (handles : List TagHandle) :
    List Token → Option (List TagHandle × List Token)
  | .version major minor :: rest =>
    if versionGiven || major ≠ 1 || !(minor = 1 || minor = 2) then none
    else takeHandles true handles rest
  | .handle h :: rest =>
    if handles.any (·.handle = h.handle) then none else takeHandles versionGiven (h :: handles) rest
  | rest => some (handles ++ defaultHandles, rest)

namespace Document

def empty : Document :=
  ⟨none, []⟩

def takeContent (handles : List TagHandle) (tokens : List Token) :
    Option (Document × List Token) := do
  let (marks, rest) ← takeMarks handles tokens
  let document (pairs : Option (List (Leaf × Node) × List Token)) :
      Option (Document × List Token) :=
    pairs.map fun (pairs, rest) => (⟨marks.anchor, pairs⟩, rest)
  match rest with
  | .flowMappingStart :: rest => document (takeFlowPairs handles (rest.length + 1) true rest)
  | .blockMappingStart :: rest => document (takeBlockPairs handles (rest.length + 1) rest)
  | rest => if marks = ⟨none, none⟩ then none else some (⟨marks.anchor, []⟩, rest)

/-- Reads a document. One with directives has to be opened explicitly, and only one that is may be
empty. -/
def take (tokens : List Token) : Option (Document × List Token) := do
  let (handles, rest) ← takeHandles false [] tokens
  match rest with
  | .documentStart :: rest =>
    match rest with
    | [] | .version .. :: _ | .handle _ :: _ | .documentStart :: _ | .documentEnd :: _ =>
      some (.empty, rest)
    | rest => takeContent handles rest
  | rest => if rest.length < tokens.length then none else takeContent handles rest

/-- The only document of a text. A text without one counts as one that holds nothing. -/
def ofTokens? (tokens : List Token) : Option Document :=
  if tokens = [] then some .empty
  else
    (take tokens).bind fun (document, rest) =>
      if rest.all (· = .documentEnd) then some document else none

end Document

end FileBridge.Yaml
