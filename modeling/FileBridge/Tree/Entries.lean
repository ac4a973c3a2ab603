import FileBridge.Host.Basic
import FileBridge.OrderedMap
import FileBridge.Tree.Path

/-!
The entries of a tree, filed under their paths. The root is no entry of its own: it always exists
and is a directory. Since paths are in order, all paths below a directory stand together.
-/
namespace FileBridge

inductive Node where
  | file (content : List UInt8)
  | directory
deriving DecidableEq, Repr

structure Entry where
  node : Node
  created : Int
  modified : Int
deriving DecidableEq, Repr

namespace Entry

def isDirectory (e : Entry) : Bool :=
  match e.node with
  | .directory => true
  | .file _ => false

def kind (e : Entry) : FileKind :=
  match e.node with
  | .directory => .directory
  | .file _ => .file

def size (e : Entry) : Nat :=
  match e.node with
  | .directory => 0
  | .file content => content.length

def metadata (e : Entry) : Metadata :=
  ⟨e.kind, e.created, e.modified, e.size⟩

end Entry

abbrev Entries : Type :=
  OrderedMap Entry

namespace Entries

def hasDirectory (e : Entries) (path : String) : Bool :=
  path = Path.root || (e.get? path).any Entry.isDirectory

def has (e : Entries) (path : String) : Bool :=
  path = Path.root || e.contains path

def checkParent (e : Entries) (path uri : String) : Except HostError Unit :=
  if hasDirectory e (Path.parent path) then .ok ()
  else if has e (Path.parent path) then .error (.notADirectory uri)
  else .error (.notFound uri)

/-- The entries strictly below a path. They are found from the first possible one on. -/
def scan (e : Entries) (path : String) : List (String × Entry) :=
  (e.fromKey (Path.stem path)).takeWhile fun a => Path.startsWith (Path.stem path) a.1

/-- The paths of the entries strictly below a path, each after those that it lies below. -/
def descendants (e : Entries) (path : String) : List String :=
  (scan e path).map Prod.fst

def eraseAll (e : Entries) (paths : List String) : Entries :=
  paths.foldl (fun e path => e.erase path) e

def child? (path : String) (a : String × Entry) : Option (String × FileKind) :=
  let name := Path.below a.1 (Path.stem path)
  if name.toList.contains '/' then none else some (name, a.2.kind)

def children (e : Entries) (path : String) : List (String × FileKind) :=
  (scan e path).filterMap (child? path)

end Entries

end FileBridge
