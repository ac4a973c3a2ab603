import FileBridge.Disk.Calls
import FileBridge.Host.Basic
import FileBridge.Text.Utf8
import FileBridge.Url.Basic

/-!
The disk as a host. Entries are addressed by `file` URLs. If only one directory is served, a path is
resolved through every link above it, and refused if that leads out of the directory.
-/
namespace FileBridge

/-- A disk that is served, or one directory of it. -/
structure LocalHost where
  disk : Disk
  root : Option Location
  /-- The watchers that are open. -/
  watchers : List Nat
  /-- The number that the next watcher gets. -/
  nextWatcher : Nat

namespace LocalHost

def shown (place : Location) : String :=
  Text.lossy (DiskPath.bytesOf place)

def whole (d : Disk) : LocalHost :=
  ⟨d, none, [], 0⟩

def confined (d : Disk) (path : String) : Except HostError LocalHost :=
  match d.canonical (Text.bytes path) with
  | .error e => .error (.systemAt e.system path)
  | .ok root => .ok ⟨d, some root, [], 0⟩

def localPath (uri : String) : Except HostError (List UInt8) :=
  match Url.parse uri with
  | .error e => .error (.badUri uri e.message)
  | .ok (.other scheme) => .error (.foreignScheme scheme uri)
  | .ok (.file true _) => .error (.notLocal uri)
  | .ok (.file false path) => .ok (Url.pathBytes path)

/-- The names of an absolute path, without those that stay in place. -/
def lexicalNames (path : List UInt8) : List Name :=
  (DiskPath.ofBytes path).names.filter (· ≠ dot)

/-- Resolves a path that exists. A link on it that leads nowhere is refused, and where nothing is,
there is no location. -/
def resolveWhole (d : Disk) (uri : String) (path : List UInt8) :
    Except HostError (Option Location) :=
  match d.canonical path with
  | .ok place => .ok (some place)
  | .error .notFound =>
    if (d.linkStat path).toBool then .error (.danglingLink uri) else .ok none
  | .error e => .error (.systemAt e.system uri)

/-- Resolves the longest part of a path that exists, and appends the names after it. The names of
the path come last first. -/
def resolveUpTo (d : Disk) (uri : String) (path : List UInt8) (missing : List Name) :
    List Name → Except HostError Location
  | [] => do
    match ← resolveWhole d uri path with
    | some place => .ok (place ++ missing)
    | none => .error (.systemAt DiskError.notFound.system uri)
  | name :: above => do
    match ← resolveWhole d uri path with
    | some place => .ok (place ++ missing)
    | none =>
      if name = dotDot then .error (.systemAt DiskError.notFound.system uri)
      else resolveUpTo d uri (DiskPath.parent path) (name :: missing) above

def resolveExisting (d : Disk) (uri : String) (path : List UInt8) : Except HostError Location :=
  resolveUpTo d uri path [] (lexicalNames path).reverse

/-- Resolves a path, with a link at its end left alone. -/
def resolveAbove (d : Disk) (uri : String) (path : List UInt8) : Except HostError Location :=
  match (lexicalNames path).getLast? with
  | none => resolveExisting d uri path
  | some name =>
    if name = dotDot then resolveExisting d uri path
    else do
      let above ← resolveExisting d uri (DiskPath.parent path)
      .ok (above ++ [name])

/-- The path to use for a URL. Without a directory to stay in, it is the path that the URL names. -/
def resolve (h : LocalHost) (uri : String) (followLast : Bool) : Except HostError (List UInt8) := do
  let path ← localPath uri
  match h.root with
  | none => .ok path
  | some root =>
    let place ← if followLast then resolveExisting h.disk uri path else resolveAbove h.disk uri path
    if root.isPrefixOf place then .ok (DiskPath.bytesOf place)
    else .error (.outside uri (shown root))

def failed {α : Type} (uri : String) (r : Except DiskError α) : Except HostError α :=
  r.mapError fun e => .systemAt e.system uri

def look {α : Type} (h : LocalHost) (r : Except HostError α) : Reply LocalHost α :=
  (r, h)

def perform (h : LocalHost) (uri : String) (change : Disk.Change) : Reply LocalHost Unit :=
  (failed uri change.1, { h with disk := change.2 })

def kindOf : DiskNode → FileKind
  | .file _ => .file
  | .directory => .directory
  | .link _ => .unknown

def stat (uri : String) (h : LocalHost) : Reply LocalHost Metadata :=
  h.look do
    let path ← h.resolve uri true
    let node ← failed uri (h.disk.stat path)
    let size := match node with
      | .file content => content.length
      | _ => 0
    .ok ⟨kindOf node, h.disk.now, h.disk.now, size⟩

def read (uri : String) (h : LocalHost) : Reply LocalHost (List UInt8) :=
  h.look do
    let path ← h.resolve uri true
    failed uri (h.disk.content path)

def checkWrite (h : LocalHost) (uri : String) (path : List UInt8) (mayCreate mayOverwrite : Bool) :
    Except HostError Unit :=
  match h.disk.stat path with
  | .ok .directory => .error (.isADirectory uri)
  | .ok _ => if mayOverwrite then .ok () else .error (.alreadyExists uri)
  | .error .notFound => if mayCreate then .ok () else .error (.notFound uri)
  | .error e => .error (.systemAt e.system uri)

def write (uri : String) (content : List UInt8) (mayCreate mayOverwrite : Bool) (h : LocalHost) :
    Reply LocalHost Unit :=
  match h.resolve uri true with
  | .error e => (.error e, h)
  | .ok path =>
    match h.checkWrite uri path mayCreate mayOverwrite with
    | .error e => (.error e, h)
    | .ok () => h.perform uri (h.disk.write path content)

def createDirectory (uri : String) (h : LocalHost) : Reply LocalHost Unit :=
  match h.resolve uri true with
  | .error e => (.error e, h)
  | .ok path => h.perform uri (h.disk.makeDirectory path)

/-- Deletes an entry. The directory that is served stays. -/
def delete (uri : String) (recursive : Bool) (h : LocalHost) : Reply LocalHost Unit :=
  match h.resolve uri false with
  | .error e => (.error e, h)
  | .ok path =>
    if h.root.any fun root => DiskPath.bytesOf root = path then (.error (.deletesServedRoot uri), h)
    else
      match h.disk.linkStat path with
      | .error e => (.error (.systemAt e.system uri), h)
      | .ok .directory =>
        h.perform uri (if recursive then h.disk.removeAll path else h.disk.removeDirectory path)
      | .ok _ => h.perform uri (h.disk.unlink path)

def rename (source target : String) (mayOverwrite : Bool) (h : LocalHost) : Reply LocalHost Unit :=
  match h.resolve source false, h.resolve target false with
  | .error e, _ => (.error e, h)
  | .ok _, .error e => (.error e, h)
  | .ok old, .ok new =>
    let taken : Except HostError Bool :=
      if mayOverwrite then .ok false else failed target (h.disk.exists? new)
    match taken with
    | .error e => (.error e, h)
    | .ok true => (.error (.alreadyExists target), h)
    | .ok false => h.perform source (h.disk.rename old new)

/-- The kind of an entry of a directory. A link is of the kind of what it leads to. -/
def entryKind (d : Disk) (path : List UInt8) (name : Name) : DiskNode → FileKind
  | .link _ =>
    match d.stat (path ++ slash :: name) with
    | .ok node => kindOf node
    | .error _ => .unknown
  | node => kindOf node

def list (uri : String) (h : LocalHost) : Reply LocalHost (List (String × FileKind)) :=
  h.look do
    let path ← h.resolve uri true
    match ← failed uri (h.disk.stat path) with
    | .directory =>
      let children ← failed uri (h.disk.readDirectory path)
      let entries := children.map fun (name, node) =>
        (Text.lossy name, entryKind h.disk path name node)
      .ok (entries.mergeSort fun a b => a.1 ≤ b.1)
    | _ => .error (.notADirectory uri)

/-- Starts to watch an entry, which must exist. -/
def watch (uri : String) (h : LocalHost) : Reply LocalHost Nat :=
  let checked : Except HostError Unit := do
    let path ← localPath uri
    let _ ← h.resolve uri true
    let _ ← failed uri (h.disk.stat path)
    .ok ()
  match checked with
  | .error e => (.error e, h)
  | .ok () =>
    (.ok h.nextWatcher,
      { h with watchers := h.watchers ++ [h.nextWatcher], nextWatcher := h.nextWatcher + 1 })

def unwatch (watcher : Nat) (h : LocalHost) : LocalHost :=
  { h with watchers := h.watchers.filter (· ≠ watcher) }

/-- Changes that others make to the disk are not seen, so there is nothing to report. -/
instance : Host LocalHost where
  stat := stat
  read := read
  write := write
  createDirectory := createDirectory
  delete := delete
  rename := rename
  list := list
  watch := watch
  unwatch := unwatch
  takeChanges _ h := ([], h)
  mute _ h := h

end LocalHost

end FileBridge
