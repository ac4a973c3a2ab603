import FileBridge.Yaml.Plain
import FileBridge.Yaml.Quoted
import FileBridge.Yaml.Token

/-!
Cutting a YAML text into lexical units. That a scalar is a name shows only when the colon after it
comes; so the lexer remembers where a name may have started, and puts the units for it there then.
A name ends on the line on which it starts, and is not long.
-/
namespace FileBridge.Yaml

/-- Where a name may have started. -/
structure Candidate where
  /-- Nothing but a name can stand there. -/
  required : Bool
  /-- How many units come before. -/
  position : Nat
  place : Place
deriving DecidableEq, Repr

/-- What starts there can no longer be a name at a place. -/
def Candidate.isStale (place : Place) (c : Candidate) : Bool :=
  c.place.line < place.line || c.place.index + 1024 < place.index

structure Lexer where
  place : Place
  rest : List Char
  /-- The units so far, the last one first. -/
  tokens : List Token
  /-- The columns of the blocks that are open, the innermost first. -/
  indents : List Nat
  /-- Where a name may have started inside the innermost brackets. -/
  candidate : Option Candidate
  /-- The same for each of the brackets around, up to the outermost blocks. -/
  outer : List (Option Candidate)
  /-- A name may start here. -/
  nameAllowed : Bool

namespace Lexer

def start (s : List Char) : Lexer where
  place := .start
  rest := s
  tokens := []
  indents := []
  candidate := none
  outer := []
  nameAllowed := true

/-- Between brackets, indentation does not matter. -/
def inFlow (l : Lexer) : Bool :=
  !l.outer.isEmpty

def inner (l : Lexer) : Nat :=
  match l.indents with
  | [] => 0
  | column :: _ => column + 1

def emit (t : Token) (l : Lexer) : Lexer :=
  { l with tokens := t :: l.tokens }

/-- Puts units, the last one first, where a given number of units come before. -/
def insert (position : Nat) (ts : List Token) (l : Lexer) : Lexer :=
  let after := l.tokens.length - position
  { l with tokens := l.tokens.take after ++ ts ++ l.tokens.drop after }

def moveTo (rest : List Char) (l : Lexer) : Lexer :=
  { l with place := l.place.skip (l.rest.length - rest.length), rest := rest }

def follow {α : Type} (x : Found α) (l : Lexer) : Lexer :=
  { l with place := x.place, rest := x.rest }

def allowName (allowed : Bool) (l : Lexer) : Lexer :=
  { l with nameAllowed := allowed }

/-- A block starts at a column. Between brackets there are no blocks. -/
def startsBlock (column : Nat) (l : Lexer) : Bool :=
  !l.inFlow && l.inner ≤ column

/-- Opens a block at a column, unless the innermost one reaches that far. -/
def openBlock (t : Token) (column : Nat) (l : Lexer) : Lexer :=
  if l.startsBlock column then { l.emit t with indents := column :: l.indents } else l

def closeBlocks (test : Nat → Bool) (l : Lexer) : Lexer :=
  if l.inFlow then l
  else
    { l with
      tokens := (l.indents.takeWhile test).map (fun _ => .blockEnd) ++ l.tokens
      indents := l.indents.dropWhile test }

def dropName (l : Lexer) : Option Lexer :=
  if l.candidate.any (·.required) then none else some { l with candidate := none }

/-- Remembers that a name may start here. It has to if the innermost block starts in this column. -/
def saveName (l : Lexer) : Option Lexer :=
  if l.nameAllowed then
    l.dropName.map fun l =>
      let required := !l.inFlow && l.indents.head? = some l.place.column
      { l with candidate := some ⟨required, l.tokens.length, l.place⟩ }
  else some l

def expire (l : Lexer) : Option Lexer := do
  let fresh (c : Option Candidate) : Option (Option Candidate) :=
    match c with
    | some c =>
      if !c.isStale l.place then some (some c) else if c.required then none else some none
    | none => some none
  let candidate ← fresh l.candidate
  let outer ← l.outer.mapM fresh
  return { l with candidate := candidate, outer := outer }

/-- Skips blanks, comments and line ends. A tab must not stand where a name may start, and a byte
order mark may start a line. Outside brackets, a name may start on a new line. -/
def skipSpace (flow : Bool) (comment allowed : Bool) (place : Place) : List Char → Found Bool
  | [] => ⟨allowed, place, []⟩
  | c :: s =>
    if isBreak c then skipSpace flow false (allowed || !flow) (place.next c) s
    else if comment then skipSpace flow true allowed (place.next c) s
    else if c = ' ' || (c = '\t' && (flow || !allowed)) || (c = '\ufeff' && place.column = 0) then
      skipSpace flow false allowed (place.next c) s
    else if c = '#' then skipSpace flow true allowed (place.next c) s
    else ⟨allowed, place, c :: s⟩

/-- Goes to the next unit, and closes the blocks that it is not part of. -/
def toNext (l : Lexer) : Option Lexer :=
  let found := skipSpace l.inFlow false l.nameAllowed l.place l.rest
  ((l.follow found).allowName found.value).expire.map fun l =>
    l.closeBlocks (l.place.column < ·)

/-- Leaves all blocks before a directive, a document's start or end, or the text's end. -/
def leaveBlocks (l : Lexer) : Option Lexer :=
  (l.closeBlocks fun _ => true).dropName.map (allowName false)

def openFlow (t : Token) (rest : List Char) (l : Lexer) : Option Lexer :=
  l.saveName.map fun l =>
    { (l.emit t).moveTo rest with
      candidate := none
      outer := l.candidate :: l.outer
      nameAllowed := true }

def closeFlow (t : Token) (rest : List Char) (l : Lexer) : Option Lexer :=
  l.dropName.map fun l =>
    let l := ((l.emit t).moveTo rest).allowName false
    match l.outer with
    | [] => l
    | candidate :: outer => { l with candidate := candidate, outer := outer }

def readComma (rest : List Char) (l : Lexer) : Option Lexer :=
  l.dropName.map fun l => ((l.emit .comma).moveTo rest).allowName true

def readItem (rest : List Char) (l : Lexer) : Option Lexer :=
  if !l.inFlow && !l.nameAllowed then none
  else
    (l.openBlock .blockListStart l.place.column).dropName.map fun l =>
      ((l.emit .item).moveTo rest).allowName true

def readName (rest : List Char) (l : Lexer) : Option Lexer :=
  if !l.inFlow && !l.nameAllowed then none
  else
    (l.openBlock .blockMappingStart l.place.column).dropName.map fun l =>
      ((l.emit .name).moveTo rest).allowName !l.inFlow

/-- Reads the colon before a value. If a name may have started before, it did, and its block too if
it has none. -/
def readValue (rest : List Char) (l : Lexer) : Option Lexer :=
  match l.candidate with
  | some c =>
    let opens := l.startsBlock c.place.column
    let l := l.insert c.position (if opens then [.name, .blockMappingStart] else [.name])
    let l := if opens then { l with indents := c.place.column :: l.indents } else l
    some ((({ l with candidate := none }.emit .value).moveTo rest).allowName false)
  | none =>
    if !l.inFlow && !l.nameAllowed then none
    else
      let l := l.openBlock .blockMappingStart l.place.column
      some (((l.emit .value).moveTo rest).allowName !l.inFlow)

def emitPart (found : Option (Token × List Char)) (l : Lexer) : Option Lexer := do
  let l ← l.saveName
  let (token, rest) ← found
  return ((l.emit token).moveTo rest).allowName false

def readTag (s : List Char) (l : Lexer) : Option Lexer :=
  l.emitPart do
    let (t, rest) ← takeTagName s
    if isGap rest.head? || (l.inFlow && rest.head? = some ',') then some (.tag t, rest) else none

def readQuoted (style : Style) (found : Option (Found (List Piece))) (l : Lexer) :
    Option Lexer := do
  let l ← l.saveName
  let x ← found
  return ((l.emit (.scalar (foldAll x.value) style)).follow x).allowName false

def readPlain (l : Lexer) : Option Lexer := do
  let l ← l.saveName
  let x ← scanPlain l.inFlow l.inner .word l.place l.rest
  let l := (l.emit (.scalar (foldTrimmed x.value.1) .plain)).follow x
  return l.allowName (x.value.2 = .line)

def readBlock (folded : Bool) (rest : List Char) (l : Lexer) : Option Lexer := do
  let l ← l.dropName
  let x ← scanBlock folded l.inner (l.place.skip 1) rest
  return ((l.emit (.scalar x.value (if folded then .folded else .literal))).follow x).allowName true

def skipBreak (l : Lexer) : Lexer :=
  match l.rest with
  | [] => l
  | c :: rest => if isBreak c then { l with place := l.place.next c, rest := rest } else l

/-- Reads a directive, which takes a line. That a new line starts does not mean that a name may
start there. -/
def readDirective (rest : List Char) (l : Lexer) : Option Lexer := do
  let l ← l.leaveBlocks
  let (token, rest) ← takeDirective rest
  return ((l.emit token).moveTo rest).skipBreak

def readMark (t : Token) (l : Lexer) : Option Lexer :=
  l.leaveBlocks.map fun l => (l.emit t).moveTo (l.rest.drop 3)

def read (l : Lexer) (c : Char) (rest : List Char) : Option Lexer :=
  let atStart := l.place.column = 0
  let next := rest.head?
  if atStart && c = '%' then l.readDirective rest
  else if atStart && startsMark '-' (c :: rest) then l.readMark .documentStart
  else if atStart && startsMark '.' (c :: rest) then l.readMark .documentEnd
  else if c = '[' then l.openFlow .flowListStart rest
  else if c = '\x7b' then l.openFlow .flowMappingStart rest
  else if c = ']' then l.closeFlow .flowListEnd rest
  else if c = '\x7d' then l.closeFlow .flowMappingEnd rest
  else if c = ',' then l.readComma rest
  else if c = '-' && isGap next then l.readItem rest
  else if c = '?' && (l.inFlow || isGap next) then l.readName rest
  else if c = ':' && (l.inFlow || isGap next) then l.readValue rest
  else if c = '*' then l.emitPart ((takeAnchor rest).map fun (n, rest) => (.alias n, rest))
  else if c = '&' then l.emitPart ((takeAnchor rest).map fun (n, rest) => (.anchor n, rest))
  else if c = '!' then l.readTag rest
  else if c = '|' && !l.inFlow then l.readBlock false rest
  else if c = '>' && !l.inFlow then l.readBlock true rest
  else if c = '\x27' then l.readQuoted .single (scanSingle (l.place.skip 1) rest)
  else if c = '"' then l.readQuoted .double (scanDouble (l.place.skip 1) rest)
  else if startsPlain l.inFlow c next then l.readPlain
  else none

/-- Reads the rest of the text. There are no more units in it than the first argument says. -/
def run : Nat → Lexer → Option (List Token)
  | 0, _ => none
  | count + 1, l => do
    let l ← l.toNext
    match l.rest with
    | [] => l.leaveBlocks.map fun l => l.tokens.reverse
    | c :: rest => (l.read c rest).bind (run count)

end Lexer

def tokens? (s : List Char) : Option (List Token) :=
  (Lexer.start s).run (s.length + 1)

end FileBridge.Yaml
