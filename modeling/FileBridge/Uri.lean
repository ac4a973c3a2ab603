import FileBridge.Text.Cut

/-!
What can be told of a URI without resolving it: its scheme, the last segment of its path, and
whether that looks like the name of a file.
-/
namespace FileBridge.Uri

def scheme? (uri : String) : Option String :=
  match Text.cutFirst? ':' uri.toList with
  | some (scheme, _) => if scheme = [] then none else some (String.ofList scheme)
  | none => none

/-- The text after the last slash, slashes at the end not counted. -/
def lastSegment (uri : String) : String :=
  String.ofList (Text.afterLast '/' (Text.dropTrailing '/' uri.toList))

/-- The last segment has a dot, as names of files do. -/
def looksLikeFile (uri : String) : Bool :=
  (lastSegment uri).toList.contains '.'

/-- An ASCII letter and then letters, digits, `+`, `-` and `.`. -/
def isValidScheme (s : String) : Bool :=
  match s.toList with
  | [] => false
  | c :: cs => c.isAlpha && cs.all fun c => c.isAlphanum || c = '+' || c = '-' || c = '.'

end FileBridge.Uri
