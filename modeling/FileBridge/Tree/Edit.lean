import FileBridge.Tree.Entries

/-!
Edits of the entries of a tree. An edit tells its result, the entries after it, and the changes
that watchers are to be told of, in order.
-/
namespace FileBridge

structure Edit where
  result : Except HostError Unit
  entries : Entries
  changes : List (ChangeKind × String)

namespace Edit

def refused (e : Entries) (cause : HostError) : Edit :=
  ⟨.error cause, e, []⟩

def done (e : Entries) (changes : List (ChangeKind × String)) : Edit :=
  ⟨.ok (), e, changes⟩

/-- Files a new entry at a path that has none, provided that its directory exists. -/
def create (e : Entries) (path uri : String) (entry : Entry) : Edit :=
  match e.checkParent path uri with
  | .error cause => refused e cause
  | .ok () => done (e.insert path entry) [(.created, path)]

/-- Writes a file. The time of creation of a file that is overwritten is kept. -/
def write (now : Int) (content : List UInt8) (mayCreate mayOverwrite : Bool) (path uri : String)
    (e : Entries) : Edit :=
  if path = Path.root then refused e (.isADirectory uri)
  else
    match e.get? path with
    | some entry =>
      if entry.isDirectory then refused e (.isADirectory uri)
      else if !mayOverwrite then refused e (.alreadyExists uri)
      else
        done (e.insert path { entry with node := .file content, modified := now })
          [(.changed, path)]
    | none =>
      if !mayCreate then refused e (.notFound uri)
      else create e path uri ⟨.file content, now, now⟩

def createDirectory (now : Int) (path uri : String) (e : Entries) : Edit :=
  if e.has path then refused e (.alreadyExists uri)
  else create e path uri ⟨.directory, now, now⟩

/-- Deletes an entry and all below it, from the bottom up. -/
def delete (recursive : Bool) (path uri : String) (e : Entries) : Edit :=
  if path = Path.root then refused e (.deletesRoot uri)
  else if !e.contains path then refused e (.notFound uri)
  else
    let below := e.descendants path
    if below ≠ [] && !recursive then refused e (.notEmpty uri)
    else
      let removed := below.reverse ++ [path]
      done (e.eraseAll removed) (removed.map fun path => (.deleted, path))

def moveOne (source target : String) (e : Entries) (path : String) : Entries :=
  match e.get? path with
  | some entry => (e.erase path).insert (target ++ Path.below path source) entry
  | none => e

def moveAll (source target : String) (e : Entries) : Entries :=
  (source :: e.descendants source).foldl (moveOne source target) e

/-- Moves an entry. What stood at the target is removed first, if it may be overwritten, and
watchers are not told of that. -/
def rename (mayOverwrite : Bool) (source target sourceUri targetUri : String) (e : Entries) :
    Edit :=
  if source = Path.root || target = Path.root then refused e .renamesRoot
  else if !e.contains source then refused e (.notFound sourceUri)
  else if source = target then done e []
  else if Path.isWithin target source then refused e (.movesIntoItself sourceUri targetUri)
  else if e.contains target && !mayOverwrite then refused e (.alreadyExists targetUri)
  else
    let cleared := if e.contains target then e.eraseAll (e.descendants target ++ [target]) else e
    match cleared.checkParent target targetUri with
    | .error cause => refused cleared cause
    | .ok () =>
      done (moveAll source target cleared) [(.deleted, source), (.created, target)]

end Edit

end FileBridge
