import FileBridge.OrderedMap
import FileBridge.Uri

/-!
The schemes that the remote peer serves itself. A URI with such a scheme must not be asked of the
host, or the two sides would call each other without end. Schemes are compared without regard to
the case of ASCII letters.
-/
namespace FileBridge

/-- A set of schemes in lower case. -/
structure Guard where
  table : OrderedMap Unit

namespace Guard

def empty : Guard :=
  ⟨.empty⟩

def schemes (g : Guard) : List String :=
  g.table.keys

def add (g : Guard) (scheme : String) : Guard :=
  ⟨g.table.insert (Text.lower scheme) ()⟩

def ofList (schemes : List String) : Guard :=
  schemes.foldl add empty

/-- Adds a scheme, and says whether it was new. -/
def insert (g : Guard) (scheme : String) : Bool × Guard :=
  (!g.table.contains (Text.lower scheme), g.add scheme)

/-- Whether a scheme is guarded. One without capital letters is looked up as it is. -/
def holds (g : Guard) (scheme : String) : Bool :=
  if scheme.toList.any Char.isUpper then g.table.contains (Text.lower scheme)
  else g.table.contains scheme

/-- The scheme of a URI as it is spelled there, if it is guarded. -/
def guardedScheme? (g : Guard) (uri : String) : Option String :=
  match Uri.scheme? uri with
  | some scheme => if g.holds scheme then some scheme else none
  | none => none

def isGuarded (g : Guard) (uri : String) : Bool :=
  (g.guardedScheme? uri).isSome

end Guard

end FileBridge
