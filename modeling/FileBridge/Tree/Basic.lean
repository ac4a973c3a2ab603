import FileBridge.Text.Decimal
import FileBridge.Tree.Edit

/-!
A file system in memory. A URI addresses the entry at its path, whatever its scheme, so all schemes
share one volume. Every operation is counted, and every change of the entries is reported at once to
the watchers of the paths it happens below.
-/
namespace FileBridge

structure Watcher where
  id : Nat
  path : String
  /-- The URI that the watch was opened with. -/
  uri : String
  /-- The changes that have not been taken yet. -/
  pending : List Change
  /-- Whether anybody takes them. -/
  listening : Bool
deriving DecidableEq, Repr

namespace Watcher

/-- A path spelled as a URI in the way of the URI that is watched. -/
def uriFor (w : Watcher) (path : String) : String :=
  let base :=
    if w.uri.toList.getLast? = some '/' then String.ofList w.uri.toList.dropLast else w.uri
  if w.path = Path.root then base ++ path else base ++ Path.below path w.path

def covers (w : Watcher) (path : String) : Bool :=
  Path.isWithin path w.path

def tell (kind : ChangeKind) (path : String) (w : Watcher) : Watcher :=
  if w.listening && w.covers path then
    { w with pending := w.pending ++ [⟨kind, w.uriFor path⟩] }
  else w

end Watcher

structure Tree where
  entries : Entries
  watchers : List Watcher
  /-- The number that the next watcher gets. -/
  nextWatcher : Nat
  /-- How many operations have been asked for. -/
  calls : Nat
  /-- What the clock shows. -/
  now : Int

namespace Tree

def empty (now : Int) : Tree :=
  ⟨.empty, [], 0, 0, now⟩

def count (t : Tree) : Tree :=
  { t with calls := t.calls + 1 }

def report (t : Tree) (change : ChangeKind × String) : Tree :=
  { t with watchers := t.watchers.map (Watcher.tell change.1 change.2) }

def commit (t : Tree) (edit : Edit) : Reply Tree Unit :=
  (edit.result, edit.changes.foldl report { t with entries := edit.entries })

/-- An operation that only looks at the entry that a URI addresses. -/
def look {α : Type} (uri : String) (f : String → Entries → Except HostError α) (t : Tree) :
    Reply Tree α :=
  let t := t.count
  match Path.ofUri uri with
  | .error cause => (.error cause, t)
  | .ok path => (f path t.entries, t)

/-- An operation that edits the entry that a URI addresses. -/
def edit (uri : String) (f : String → Entries → Edit) (t : Tree) : Reply Tree Unit :=
  let t := t.count
  match Path.ofUri uri with
  | .error cause => (.error cause, t)
  | .ok path => t.commit (f path t.entries)

/-- The metadata of the entry at a path. The times of the root are zero. -/
def metadataAt (uri path : String) (e : Entries) : Except HostError Metadata :=
  if path = Path.root then .ok ⟨.directory, 0, 0, 0⟩
  else
    match e.get? path with
    | some entry => .ok entry.metadata
    | none => .error (.notFound uri)

def contentAt (uri path : String) (e : Entries) : Except HostError (List UInt8) :=
  if path = Path.root then .error (.isADirectory uri)
  else
    match e.get? path with
    | some ⟨.file content, _, _⟩ => .ok content
    | some ⟨.directory, _, _⟩ => .error (.isADirectory uri)
    | none => .error (.notFound uri)

def listingAt (uri path : String) (e : Entries) : Except HostError (List (String × FileKind)) :=
  if !e.has path then .error (.notFound uri)
  else if !e.hasDirectory path then .error (.notADirectory uri)
  else .ok (e.children path)

def stat (uri : String) (t : Tree) : Reply Tree Metadata :=
  t.look uri (metadataAt uri)

def read (uri : String) (t : Tree) : Reply Tree (List UInt8) :=
  t.look uri (contentAt uri)

def write (uri : String) (content : List UInt8) (mayCreate mayOverwrite : Bool) (t : Tree) :
    Reply Tree Unit :=
  t.edit uri fun path e => Edit.write t.now content mayCreate mayOverwrite path uri e

def createDirectory (uri : String) (t : Tree) : Reply Tree Unit :=
  t.edit uri fun path e => Edit.createDirectory t.now path uri e

def delete (uri : String) (recursive : Bool) (t : Tree) : Reply Tree Unit :=
  t.edit uri fun path e => Edit.delete recursive path uri e

def rename (source target : String) (mayOverwrite : Bool) (t : Tree) : Reply Tree Unit :=
  let t := t.count
  match Path.ofUri source, Path.ofUri target with
  | .error cause, _ => (.error cause, t)
  | .ok _, .error cause => (.error cause, t)
  | .ok old, .ok new => t.commit (Edit.rename mayOverwrite old new source target t.entries)

def list (uri : String) (t : Tree) : Reply Tree (List (String × FileKind)) :=
  t.look uri (listingAt uri)

/-- Starts to watch a path, which need not exist. -/
def watch (uri : String) (t : Tree) : Reply Tree Nat :=
  let t := t.count
  match Path.ofUri uri with
  | .error cause => (.error cause, t)
  | .ok path =>
    (.ok t.nextWatcher,
      { t with
        watchers := t.watchers ++ [⟨t.nextWatcher, path, uri, [], true⟩]
        nextWatcher := t.nextWatcher + 1 })

def unwatch (watcher : Nat) (t : Tree) : Tree :=
  { t with watchers := t.watchers.filter fun w => w.id ≠ watcher }

def takeChanges (watcher : Nat) (t : Tree) : List Change × Tree :=
  ((t.watchers.filter fun w => w.id = watcher).flatMap Watcher.pending,
    { t with
      watchers := t.watchers.map fun w => if w.id = watcher then { w with pending := [] } else w })

/-- Nobody listens to a watcher any more. -/
def mute (watcher : Nat) (t : Tree) : Tree :=
  { t with
    watchers := t.watchers.map fun w =>
      if w.id = watcher then { w with pending := [], listening := false } else w }

/-- Reports a change that somebody else made. The entries stay as they are, and nothing is
counted. -/
def emit (kind : ChangeKind) (uri : String) (t : Tree) : Reply Tree Unit :=
  match Path.ofUri uri with
  | .error cause => (.error cause, t)
  | .ok path => (.ok (), t.report (kind, path))

instance : Host Tree where
  stat := stat
  read := read
  write := write
  createDirectory := createDirectory
  delete := delete
  rename := rename
  list := list
  watch := watch
  unwatch := unwatch
  takeChanges := takeChanges
  mute := mute

def summary (t : Tree) : String :=
  "MemoryFileSystem \x7b entries: " ++ Text.decimal t.entries.size ++ ", watchers: " ++
    Text.decimal t.watchers.length ++ ", calls: " ++ Text.decimal t.calls ++ " \x7d"

end Tree

end FileBridge
