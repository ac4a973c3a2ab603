import FileBridge.Domain.Character
import FileBridge.Domain.Direction
import FileBridge.Domain.Joining
import FileBridge.Domain.Punycode

/-!
Domains in any characters. Different spellings of a domain come down to one text, and a text that
could be mistaken for another one is refused.
-/
namespace FileBridge.Domain

/-- A character that no domain has, although texts in general may have it. -/
def isForbidden (c : Char) : Bool :=
  c.toNat ≤ 0x20 || c.toNat = 0x7f ||
    ['#', '%', '/', ':', '<', '>', '?', '@', '[', '\\', ']', '^', '|'].contains c

def isBasic (c : Char) : Bool :=
  c.toNat < 0x80

/-- What stands before a label that is written in basic characters. -/
def codeMark : List Char :=
  ['x', 'n', '-', '-']

def codeLimit : Nat := 2000

/-- The most characters that a label may have if it is to be written in basic ones. -/
def labelLimit : Nat := 1000

/-- The characters that a label stands for. A label in basic characters has to stand for one that
could not have been written otherwise. -/
def characters? (label : List Char) : Option (List Char) :=
  if !codeMark.isPrefixOf label then some label
  else
    let code := label.drop codeMark.length
    if !label.all isBasic || label.getLast? = some '-' || codeLimit < code.length then none
    else
      (decode? code).filter fun s =>
        s.all isKept && Text.canonical s = s && !codeMark.isPrefixOf s

def isLabel (label : List Char) : Bool :=
  !label.head?.any isMark && joinersFit [] label && (label.all isBasic || label.length ≤ labelLimit)

/-- The text that the spellings of a domain come down to. -/
def plain? (s : List Char) : Option (List Char) := do
  let parts ← s.mapM replacement?
  let domain := Text.canonical parts.flatten
  if domain.any isForbidden then none
  else
    let labels ← (Text.splitAt '.' domain).mapM characters?
    if labels.all isLabel && (!labels.any isMixed || labels.all isOneWay) then some domain else none

end FileBridge.Domain
