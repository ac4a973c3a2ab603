import FileBridge.Text.Cut
import FileBridge.Text.Percent
import FileBridge.Text.Utf8

/-!
The path of a file in a URL. Slashes and backslashes divide it into segments, dots are resolved
segment by segment, and a drive at its start is never left. Tabs and line ends do not count, except
that a segment goes on as a new one where they follow a drive.
-/
namespace FileBridge.Url

/-- A tab or a line end, which a URL may have anywhere. -/
def isIgnored (c : Char) : Bool :=
  c = '\t' || c = '\n' || c = '\r'

def counted (s : List Char) : List Char :=
  s.filter fun c => !isIgnored c

/-- A letter and a colon or a bar, which name a drive. -/
def isDrive (segment : List Char) : Bool :=
  match segment with
  | [c, d] => c.isAlpha && (d = ':' || d = '|')
  | _ => false

def isPlainDrive (segment : List Char) : Bool :=
  isDrive segment && segment.getLast? = some ':'

/-- The text of a path, and whether it was seen to start with a drive. -/
structure Path where
  text : List Char
  hasDrive : Bool
deriving DecidableEq, Repr

def isHere (segment : List Char) : Bool :=
  [".", "%2e"].contains (Text.lower (String.ofList segment))

def isUp (segment : List Char) : Bool :=
  ["..", ".%2e", "%2e.", "%2e%2e"].contains (Text.lower (String.ofList segment))

def closed (path : List Char) : List Char :=
  if path.getLast? = some '/' then path else path ++ ['/']

/-- A path that ends in a slash without its last segment, unless that is a drive. -/
def goUp (path : List Char) : List Char :=
  let above := path.dropLast
  let path := if above.contains '/' && !isDrive (Text.afterLast '/' above) then above else path
  let last := Text.afterLast '/' path
  if isPlainDrive last then path else path.take (path.length - last.length)

/-- A drive at the start of a segment with characters after it that do not count, and the rest of
the segment. -/
def takeDrive? (segment : List Char) : Option (List Char × List Char) :=
  match segment.dropWhile isIgnored with
  | [] => none
  | letter :: s =>
    match s.dropWhile isIgnored with
    | mark :: c :: s =>
      if isPlainDrive [letter, mark] && isIgnored c && counted s ≠ [] then
        some ([letter, mark], counted s)
      else none
    | _ => none

def Path.add (path : Path) (segment : List Char) (hasSlash : Bool) : Path :=
  let slash := if hasSlash then ['/'] else []
  let isFirst : Bool := path.text = ['/']
  let name := counted segment
  match (if isFirst then takeDrive? segment else none) with
  | some (drive, rest) => { path with text := path.text ++ drive ++ ['/'] ++ rest ++ slash }
  | none =>
    if isUp name then
      let above := goUp path.text
      { path with text := if hasSlash then closed above else above }
    else if isHere name then { path with text := closed path.text }
    else if isFirst && isDrive name then ⟨path.text ++ name.take 1 ++ [':'] ++ slash, true⟩
    else { path with text := path.text ++ name ++ slash }

def Path.addAll (path : Path) : List (List Char) → Path
  | [] => path
  | [segment] => path.add segment false
  | segment :: rest => (path.add segment true).addAll rest

/-- The path in a text that goes on after some of it, up to a question mark or a number sign.
However many slashes are at its start, it has one there. -/
def Path.parse (start : List Char) (s : List Char) : Path :=
  let s := s.takeWhile fun c => c ≠ '?' && c ≠ '#'
  let segments := Text.splitAt '/' (s.map fun c => if c = '\\' then '/' else c)
  let path := Path.addAll ⟨start, false⟩ segments
  { path with text := '/' :: path.text.dropWhile (· = '/') }

/-- The bytes of a path. A drive at its end is followed by a slash. -/
def pathBytes (path : List Char) : List UInt8 :=
  let bytes := Text.percentDecode (Text.bytes (String.ofList path))
  match bytes.reverse with
  | last :: letter :: _ :: _ =>
    if (Char.ofNat letter.toNat).isAlpha && (last = 58 || last = 124) then bytes ++ [47] else bytes
  | _ => bytes

end FileBridge.Url
