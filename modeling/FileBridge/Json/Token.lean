import FileBridge.Json.Basic
import FileBridge.Text.Hex

/-!
The lexical units of a JSON text, their spelling, and the scanner that cuts a text into them. The
scanner reads one character at a time; a word (a number or one of `true`, `false`, `null`) ends at
the first character that cannot belong to one.
-/
namespace FileBridge.Json

inductive Token where
  | openObject
  | closeObject
  | openArray
  | closeArray
  | comma
  | colon
  | null
  | bool (b : Bool)
  | num (n : Number)
  | str (s : String)
deriving DecidableEq, Repr

def hexDigit (n : Nat) : Char :=
  Nat.digitChar n

def escapeChar (c : Char) : List Char :=
  if c = '"' then ['\\', '"']
  else if c = '\\' then ['\\', '\\']
  else if c.toNat = 0x08 then ['\\', 'b']
  else if c.toNat = 0x0c then ['\\', 'f']
  else if c = '\n' then ['\\', 'n']
  else if c = '\r' then ['\\', 'r']
  else if c = '\t' then ['\\', 't']
  else if c.toNat < 0x20 then
    ['\\', 'u', '0', '0', hexDigit (c.toNat / 16), hexDigit (c.toNat % 16)]
  else [c]

def Token.text : Token → List Char
  | .openObject => ['\x7b']
  | .closeObject => ['\x7d']
  | .openArray => ['[']
  | .closeArray => [']']
  | .comma => [',']
  | .colon => [':']
  | .null => ['n', 'u', 'l', 'l']
  | .bool true => ['t', 'r', 'u', 'e']
  | .bool false => ['f', 'a', 'l', 's', 'e']
  | .num n => n.text.toList
  | .str s => '"' :: s.toList.flatMap escapeChar ++ ['"']

def Token.ofWord? (w : List Char) : Option Token :=
  if w = ['n', 'u', 'l', 'l'] then some .null
  else if w = ['t', 'r', 'u', 'e'] then some (.bool true)
  else if w = ['f', 'a', 'l', 's', 'e'] then some (.bool false)
  else (Number.read? w).map .num

def Token.ofMark? (c : Char) : Option Token :=
  if c = '\x7b' then some .openObject
  else if c = '\x7d' then some .closeObject
  else if c = '[' then some .openArray
  else if c = ']' then some .closeArray
  else if c = ',' then some .comma
  else if c = ':' then some .colon
  else none

def isSpace (c : Char) : Bool :=
  c = ' ' || c = '\t' || c = '\n' || c = '\r'

def isWordChar (c : Char) : Bool :=
  c.isAlphanum || c = '-' || c = '+' || c = '.'

/-- Where the scanner stands. Characters of the unit so far are listed last first. -/
inductive Scan where
  /-- Between units. -/
  | idle
  /-- Inside a word. -/
  | word (acc : List Char)
  /-- Inside a string. -/
  | text (acc : List Char)
  /-- After a backslash. -/
  | escape (acc : List Char)
  /-- Inside the four digits of an escape; `lead` is a high surrogate that stands before it. -/
  | unicode (acc : List Char) (lead : Option Nat) (count value : Nat)
  /-- After a high surrogate, whose partner must follow. -/
  | pair (acc : List Char) (lead : Nat)
  /-- After the backslash of the partner. -/
  | pairEscape (acc : List Char) (lead : Nat)

structure Lexer where
  scan : Scan
  units : List Token

namespace Lexer

def start : Lexer :=
  ⟨.idle, []⟩

def stepIdle (units : List Token) (c : Char) : Option Lexer :=
  if isSpace c then some ⟨.idle, units⟩
  else if c = '"' then some ⟨.text [], units⟩
  else if isWordChar c then some ⟨.word [c], units⟩
  else (Token.ofMark? c).map fun t => ⟨.idle, t :: units⟩

def unescape? (c : Char) : Option Char :=
  if c = '"' then some '"'
  else if c = '\\' then some '\\'
  else if c = '/' then some '/'
  else if c = 'b' then some '\x08'
  else if c = 'f' then some '\x0c'
  else if c = 'n' then some '\n'
  else if c = 'r' then some '\r'
  else if c = 't' then some '\t'
  else none

def isHigh (n : Nat) : Bool :=
  0xd800 ≤ n && n < 0xdc00

def isLow (n : Nat) : Bool :=
  0xdc00 ≤ n && n < 0xe000

/-- Where the scanner stands after the four digits of an escape. A surrogate without its partner
is refused. -/
def endUnicode? (acc : List Char) (lead : Option Nat) (value : Nat) : Option Scan :=
  match lead with
  | none =>
    if isHigh value then some (.pair acc value)
    else if isLow value then none
    else some (.text (Char.ofNat value :: acc))
  | some high =>
    if isLow value then
      some (.text (Char.ofNat (0x10000 + (high - 0xd800) * 0x400 + (value - 0xdc00)) :: acc))
    else none

def step (l : Lexer) (c : Char) : Option Lexer :=
  match l.scan with
  | .idle => stepIdle l.units c
  | .word acc =>
    if isWordChar c then some ⟨.word (c :: acc), l.units⟩
    else (Token.ofWord? acc.reverse).bind fun t => stepIdle (t :: l.units) c
  | .text acc =>
    if c = '"' then some ⟨.idle, .str (String.ofList acc.reverse) :: l.units⟩
    else if c = '\\' then some ⟨.escape acc, l.units⟩
    else if c.toNat < 0x20 then none
    else some ⟨.text (c :: acc), l.units⟩
  | .escape acc =>
    if c = 'u' then some ⟨.unicode acc none 0 0, l.units⟩
    else (unescape? c).map fun d => ⟨.text (d :: acc), l.units⟩
  | .unicode acc lead count value =>
    (Text.hexValue? c).bind fun h =>
      let value := 16 * value + h
      if count < 3 then some ⟨.unicode acc lead (count + 1) value, l.units⟩
      else (endUnicode? acc lead value).map fun s => ⟨s, l.units⟩
  | .pair acc lead => if c = '\\' then some ⟨.pairEscape acc lead, l.units⟩ else none
  | .pairEscape acc lead => if c = 'u' then some ⟨.unicode acc (some lead) 0 0, l.units⟩ else none

/-- The units of a whole text, once it has been read to its end. -/
def finish (l : Lexer) : Option (List Token) :=
  match l.scan with
  | .idle => some l.units.reverse
  | .word acc => (Token.ofWord? acc.reverse).map fun t => (t :: l.units).reverse
  | _ => none

end Lexer

def tokens? (s : List Char) : Option (List Token) :=
  (s.foldlM Lexer.step Lexer.start).bind Lexer.finish

end FileBridge.Json
