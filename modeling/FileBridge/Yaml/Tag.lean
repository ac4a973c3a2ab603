import FileBridge.Text.Hex
import FileBridge.Text.Utf8
import FileBridge.Yaml.Character

/-!
Tags, which say what kind of value follows. A tag is written in full between angle brackets, or
as a handle and a suffix; a directive may say which text a handle stands for.
-/
namespace FileBridge.Yaml

structure Tag where
  octets : List UInt8
deriving DecidableEq, Repr

namespace Tag

def of (name : String) : Tag :=
  ⟨Text.bytes name⟩

def integer : Tag :=
  .of "tag:yaml.org,2002:int"

def null : Tag :=
  .of "tag:yaml.org,2002:null"

def bare : Tag :=
  .of "!"

/-- The name of a tag of one's own, which an exclamation mark precedes. -/
def local? (t : Tag) : Option String :=
  match t.octets with
  | c :: rest => if c = 0x21 then Text.ofBytes? rest else none
  | [] => none

end Tag

structure TagName where
  handle : List Char
  suffix : List UInt8
deriving DecidableEq, Repr

structure TagHandle where
  handle : List Char
  octets : List UInt8
deriving DecidableEq, Repr

def defaultHandles : List TagHandle :=
  [⟨['!'], (Tag.of "!").octets⟩, ⟨['!', '!'], (Tag.of "tag:yaml.org,2002:").octets⟩]

def TagName.resolve? (handles : List TagHandle) (t : TagName) : Option Tag :=
  if t.handle = [] then some ⟨t.suffix⟩
  else (handles.find? (·.handle = t.handle)).map fun h => ⟨h.octets ++ t.suffix⟩

/-- A character of a tag's name. Between angle brackets there are a few more. -/
def isTagChar (verbatim : Bool) (c : Char) : Bool :=
  isWord c || (verbatim && [',', '[', ']'].contains c) ||
    [';', '/', '?', ':', '@', '&', '=', '+', '$', '.', '!', '~', '*', '\x27', '(', ')'].contains c

def continuations? (octet : Nat) : Option Nat :=
  if octet < 0x80 then some 0
  else if octet < 0xc0 then none
  else if octet < 0xe0 then some 1
  else if octet < 0xf0 then some 2
  else if octet < 0xf8 then some 3
  else none

/-- The octets of a tag's name. A percent sign and two digits stand for an octet; the number of
octets that the character before still needs is given. -/
def takeTag (verbatim : Bool) : Nat → List Char → Option (List UInt8 × List Char)
  | pending, [] => if pending = 0 then some ([], []) else none
  | pending, '%' :: a :: b :: s => do
    let octet := 16 * (← Text.hexValue? a) + (← Text.hexValue? b)
    let left ←
      if pending = 0 then continuations? octet
      else if 0x80 ≤ octet && octet < 0xc0 then some (pending - 1)
      else none
    let (octets, rest) ← takeTag verbatim left s
    return (octet.toUInt8 :: octets, rest)
  | pending, c :: s =>
    if pending ≠ 0 || c = '%' then none
    else if isTagChar verbatim c then
      (takeTag verbatim 0 s).map fun (octets, rest) => (c.toNat.toUInt8 :: octets, rest)
    else some ([], c :: s)

/-- The octets of a tag's name, which end at the first zero. -/
def takeOctets (verbatim : Bool) (s : List Char) : Option (List UInt8 × List Char) :=
  (takeTag verbatim 0 s).map fun (octets, rest) => (octets.takeWhile (· ≠ 0), rest)

def takeSome (verbatim : Bool) (s : List Char) : Option (List UInt8 × List Char) :=
  (takeOctets verbatim s).filter fun (_, rest) => rest.length < s.length

def takeTagName (s : List Char) : Option (TagName × List Char) :=
  match s with
  | '<' :: s =>
    match takeSome true s with
    | some (octets, '>' :: rest) => some (⟨[], octets⟩, rest)
    | _ => none
  | s =>
    let word := s.takeWhile isWord
    match s.dropWhile isWord with
    | '!' :: rest =>
      (takeSome false rest).map fun (octets, rest) => (⟨'!' :: word ++ ['!'], octets⟩, rest)
    | _ =>
      (takeOctets false s).map fun (octets, rest) =>
        (if octets = [] then ⟨[], Tag.bare.octets⟩ else ⟨['!'], octets⟩, rest)

def takeHandle : List Char → Option (List Char × List Char)
  | '!' :: s =>
    let word := s.takeWhile isWord
    match s.dropWhile isWord with
    | '!' :: rest => some ('!' :: word ++ ['!'], rest)
    | rest => if word = [] then some (['!'], rest) else none
  | _ => none

end FileBridge.Yaml
