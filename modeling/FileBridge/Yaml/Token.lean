import FileBridge.Text.Decimal
import FileBridge.Yaml.Block
import FileBridge.Yaml.Scalar

/-!
The lexical units of a YAML text, and those among them that stand on one line: directives, anchors
and aliases.
-/
namespace FileBridge.Yaml

/-- A lexical unit. Blocks have no brackets in the text; where one starts and ends is told from the
indentation. -/
inductive Token where
  /-- The version of the format that a document is written in. -/
  | version (major minor : Nat)
  /-- What a tag handle stands for in a document. -/
  | handle (h : TagHandle)
  | documentStart
  | documentEnd
  | blockListStart
  | blockMappingStart
  | blockEnd
  | flowListStart
  | flowListEnd
  | flowMappingStart
  | flowMappingEnd
  /-- The dash before an item. -/
  | item
  | comma
  /-- A name follows. -/
  | name
  /-- The value of a name follows. -/
  | value
  | alias (name : String)
  | anchor (name : String)
  | tag (t : TagName)
  | scalar (text : String) (style : Style)
deriving DecidableEq, Repr

def takeAnchor (s : List Char) : Option (String × List Char) :=
  let name := s.takeWhile isWord
  let rest := s.dropWhile isWord
  let ends := isGap rest.head? || rest.head?.any fun c =>
    ['?', ':', ',', ']', '\x7d', '%', '@', '\x60'].contains c
  if name ≠ [] && ends then some (String.ofList name, rest) else none

def takeVersionNumber (s : List Char) : Option (Nat × List Char) :=
  let digits := s.takeWhile Char.isDigit
  if 9 < digits.length then none
  else (Text.natural? digits).map fun n => (n, s.dropWhile Char.isDigit)

def takeVersion (s : List Char) : Option (Token × List Char) := do
  let (major, rest) ← takeVersionNumber (s.dropWhile isBlank)
  match rest with
  | '.' :: rest =>
    let (minor, rest) ← takeVersionNumber rest
    return (.version major minor, rest)
  | _ => none

def takeHandleToken (s : List Char) : Option (Token × List Char) := do
  let (handle, rest) ← takeHandle (s.dropWhile isBlank)
  if !rest.head?.any isBlank then none
  else
    let (octets, rest) ← takeSome true (rest.dropWhile isBlank)
    if isGap rest.head? then some (.handle ⟨handle, octets⟩, rest) else none

/-- Reads a directive after its percent sign, up to the end of its line. -/
def takeDirective (s : List Char) : Option (Token × List Char) := do
  let name := String.ofList (s.takeWhile isWord)
  let rest := s.dropWhile isWord
  let (token, rest) ←
    if !isGap rest.head? then none
    else if name = "YAML" then takeVersion rest
    else if name = "TAG" then takeHandleToken rest
    else none
  let rest ← restOfLine? rest
  return (token, rest)

end FileBridge.Yaml
