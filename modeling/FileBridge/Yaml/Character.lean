/-!
Classes of characters in a YAML text.
-/
namespace FileBridge.Yaml

def isBlank (c : Char) : Bool :=
  c = ' ' || c = '\t'

def isBreak (c : Char) : Bool :=
  c = '\n' || c = '\r' || c = '\u0085' || c = '\u2028' || c = '\u2029'

/-- What follows a place is blank, a line's end, or the text's end. -/
def isGap : Option Char → Bool
  | none => true
  | some c => isBlank c || isBreak c || c.toNat = 0

def isAllowed (c : Char) : Bool :=
  let n := c.toNat
  c = '\t' || c = '\n' || c = '\r' || (0x20 ≤ n && n ≤ 0x7e) || n = 0x85 ||
    (0xa0 ≤ n && n ≤ 0xfffd) || 0x10000 ≤ n

def isPrintable (c : Char) : Bool :=
  let n := c.toNat
  c = '\n' || (0x20 ≤ n && n ≤ 0x7e) || (0xa0 ≤ n && n ≤ 0xfffd && n ≠ 0xfeff) || 0x10000 ≤ n

/-- A character with a meaning of its own between brackets. -/
def isFlowIndicator (c : Char) : Bool :=
  [',', '[', ']', '\x7b', '\x7d'].contains c

/-- A character with a meaning of its own at the start of a scalar. -/
def isIndicator (c : Char) : Bool :=
  isFlowIndicator c ||
    ['#', '&', '*', '!', '|', '>', '\x27', '"', '%', '@', '\x60'].contains c

def isWord (c : Char) : Bool :=
  c.isAlphanum || c = '_' || c = '-'

/-- A text starts with the same character three times, and a gap follows. At the start of a line
three dashes open a document and three points end it. -/
def startsMark (mark : Char) : List Char → Bool
  | a :: b :: c :: rest => a = mark && b = mark && c = mark && isGap rest.head?
  | _ => false

def startsDocument (s : List Char) : Bool :=
  startsMark '-' s || startsMark '.' s

end FileBridge.Yaml
