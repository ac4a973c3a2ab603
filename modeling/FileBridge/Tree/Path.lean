import FileBridge.Host.Error
import FileBridge.Text.Cut

/-!
Paths of a tree: texts that start with a slash and do not end in one, the root `/` apart. A URI
addresses the path that is left of it without scheme, authority, query and fragment.
-/
namespace FileBridge.Path

def root : String :=
  "/"

def afterScheme (uri : List Char) : List Char :=
  match Text.cutFirst? ':' uri with
  | some (_, rest) => rest
  | none => uri

def afterAuthority : List Char → List Char
  | '/' :: '/' :: rest => rest.dropWhile (· ≠ '/')
  | rest => rest

/-- The part of a URI that addresses an entry, without slashes at its end. -/
def address (uri : List Char) : List Char :=
  Text.dropTrailing '/'
    ((afterAuthority (afterScheme uri)).takeWhile fun c => c ≠ '?' && c ≠ '#')

def isDotSegment (segment : List Char) : Bool :=
  segment = ['.'] || segment = ['.', '.']

/-- The path that a URI addresses. Segments `.` and `..` are refused. -/
def ofUri (uri : String) : Except HostError String :=
  let path := address uri.toList
  if path = [] then .ok root
  else if (Text.splitAt '/' path).any isDotSegment then .error (.dotSegment uri)
  else if path.head? = some '/' then .ok (String.ofList path)
  else .ok (String.ofList ('/' :: path))

/-- The directory that a path lies in. The root lies in itself. -/
def parent (path : String) : String :=
  match Text.beforeLast '/' path.toList with
  | [] => root
  | above => String.ofList above

/-- What all paths below a path start with. -/
def stem (path : String) : String :=
  if path = root then root else path ++ "/"

def startsWith (start text : String) : Bool :=
  start.toList.isPrefixOf text.toList

def isWithin (path above : String) : Bool :=
  above = root || path = above || startsWith (stem above) path

def below (path above : String) : String :=
  String.ofList (path.toList.drop above.length)

end FileBridge.Path
