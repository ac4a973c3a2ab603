import FileBridge.Json.Token
import FileBridge.Text.Decimal
import FileBridge.Yaml.Character
import FileBridge.Yaml.Scalar

/-!
Writing scalars. A text is written without quotes if it reads back as that text, between single
quotes if it does so then, and between double quotes otherwise; a text of several lines is written
literally if it can be.
-/
namespace FileBridge.Yaml

def successors (s : List Char) : List (Char × Option Char) :=
  s.zip (s.tail.map some ++ [none])

def startsWithMark (mark : Char) (s : List Char) : Bool :=
  s.take 3 = [mark, mark, mark]

/-- The start of a text means something else than the text. -/
def startIsSpecial (s : List Char) : Bool :=
  match s with
  | [] => false
  | c :: rest =>
    isIndicator c || ((c = '?' || c = '-') && isGap rest.head?) || startsWithMark '-' s ||
      startsWithMark '.' s

/-- A colon or a comment in a text would end it. -/
def isCutShort (s : List Char) : Bool :=
  (successors s).any fun (c, next) =>
    (c = ':' && isGap next) || (isGap (some c) && next = some '#')

/-- A space or a line's end stands at one end of a text. -/
def hasLooseEnd (s : List Char) : Bool :=
  let isLoose (c : Option Char) : Bool := c.any fun c => c = ' ' || isBreak c
  isLoose s.head? || isLoose s.getLast?

def needsEscape (s : List Char) : Bool :=
  s.any fun c => !isPrintable c

def hasSpaceBreak (s : List Char) : Bool :=
  (successors s).any fun (c, next) => c = ' ' && next.any isBreak

def hasBreakSpace (s : List Char) : Bool :=
  (successors s).any fun (c, next) => isBreak c && next = some ' '

def plainAllowed (s : List Char) : Bool :=
  !(startIsSpecial s || isCutShort s || hasLooseEnd s || needsEscape s || s.any isBreak)

def singleAllowed (s : List Char) : Bool :=
  !(needsEscape s || hasSpaceBreak s || hasBreakSpace s)

def literalAllowed (s : List Char) : Bool :=
  !(needsEscape s || hasSpaceBreak s || s.getLast? = some ' ')

def styleOf (s : String) : Style :=
  let cs := s.toList
  if cs.contains '\n' then (if literalAllowed cs then .literal else .double)
  else if isTextOnly s && plainAllowed cs then .plain
  else if singleAllowed cs then .single
  else .double

/-- A text between single quotes, without them. After a line's end the next line is indented. -/
def singleBody (afterBreak : Bool) : List Char → List Char
  | [] => if afterBreak then [' ', ' '] else []
  | c :: s =>
    if isBreak c then c :: singleBody true s
    else
      (if afterBreak then [' ', ' '] else []) ++ (if c = '\x27' then ['\x27', '\x27'] else [c]) ++
        singleBody false s

def hexDigits : Nat → Nat → List Char
  | 0, _ => []
  | count + 1, n => hexDigits count (n / 16) ++ [(Json.hexDigit (n % 16)).toUpper]

def escape (c : Char) : List Char :=
  let n := c.toNat
  '\\' ::
    if n = 0 then ['0']
    else if n = 0x07 then ['a']
    else if n = 0x08 then ['b']
    else if n = 0x09 then ['t']
    else if n = 0x0a then ['n']
    else if n = 0x0b then ['v']
    else if n = 0x0c then ['f']
    else if n = 0x0d then ['r']
    else if n = 0x1b then ['e']
    else if n = 0x22 then ['"']
    else if n = 0x5c then ['\\']
    else if n = 0x85 then ['N']
    else if n = 0xa0 then ['_']
    else if n = 0x2028 then ['L']
    else if n = 0x2029 then ['P']
    else if n ≤ 0xff then 'x' :: hexDigits 2 n
    else if n ≤ 0xffff then 'u' :: hexDigits 4 n
    else 'U' :: hexDigits 8 n

def doubleChar (c : Char) : List Char :=
  if isPrintable c && !isBreak c && c ≠ '"' && c ≠ '\\' then [c] else escape c

/-- The lines of a literal scalar, each indented. Line ends that follow one another leave empty
lines. -/
def literalBody (afterBreak : Bool) : List Char → List Char
  | [] => []
  | c :: s =>
    if isBreak c then c :: literalBody true s
    else (if afterBreak then [' ', ' '] else []) ++ c :: literalBody false s

/-- The header of a literal scalar: the indentation where the text itself starts with space, and
what becomes of the line ends at its end. -/
def literalHeader (s : List Char) : List Char :=
  let width := if s.head?.any fun c => c = ' ' || isBreak c then ['2'] else []
  let chomping :=
    match s.reverse with
    | [] => ['-']
    | [c] => if isBreak c then ['+'] else ['-']
    | c :: d :: _ => if !isBreak c then ['-'] else if isBreak d then ['+'] else []
  '|' :: width ++ chomping

def scalarLine (s : String) : List Char :=
  let cs := s.toList
  match styleOf s with
  | .plain => cs ++ ['\n']
  | .single => '\x27' :: singleBody false cs ++ ['\x27', '\n']
  | .double => '"' :: cs.flatMap doubleChar ++ ['"', '\n']
  | .literal | .folded =>
    let body := literalBody true cs
    literalHeader cs ++ '\n' :: body ++ (if cs.getLast?.any isBreak then [] else ['\n'])

def scalarPair (name : String) (s : String) : List Char :=
  name.toList ++ ':' :: ' ' :: scalarLine s

def numberPair (name : String) (n : Nat) : List Char :=
  name.toList ++ ':' :: ' ' :: Text.digits n ++ ['\n']

def listPair (name : String) (items : List String) : List Char :=
  if items = [] then name.toList ++ [':', ' ', '[', ']', '\n']
  else name.toList ++ ':' :: '\n' :: items.flatMap fun s => '-' :: ' ' :: scalarLine s

end FileBridge.Yaml
