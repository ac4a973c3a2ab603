import FileBridge.Host.Error

/-!
What the bridge asks of a file system whose entries are addressed by URIs. Every operation takes
the state of the host and gives its outcome with the state after it.
-/
namespace FileBridge

inductive FileKind where
  | file
  | directory
  | unknown
deriving DecidableEq, Repr

/-- What is known of an entry besides its content. Times are in seconds. -/
structure Metadata where
  kind : FileKind
  created : Int
  modified : Int
  size : Nat
deriving DecidableEq, Repr

inductive ChangeKind where
  | created
  | changed
  | deleted
deriving DecidableEq, Repr

structure Change where
  kind : ChangeKind
  uri : String
deriving DecidableEq, Repr

/-- The outcome of a host operation and the host after it. -/
abbrev Reply (σ α : Type) : Type :=
  Except HostError α × σ

class Host (σ : Type) where
  /-- The metadata of an entry. -/
  stat (uri : String) : σ → Reply σ Metadata
  /-- The content of a file. -/
  read (uri : String) : σ → Reply σ (List UInt8)
  /-- Writes a file, as far as it may be created or overwritten. -/
  write (uri : String) (content : List UInt8) (create overwrite : Bool) : σ → Reply σ Unit
  /-- Creates a directory, whose parent must exist. -/
  createDirectory (uri : String) : σ → Reply σ Unit
  /-- Deletes an entry, a directory with content only if told to. -/
  delete (uri : String) (recursive : Bool) : σ → Reply σ Unit
  /-- Moves an entry. -/
  rename (source target : String) (overwrite : Bool) : σ → Reply σ Unit
  /-- The names and kinds of a directory's entries. -/
  list (uri : String) : σ → Reply σ (List (String × FileKind))
  /-- Starts to watch an entry and all below it; the watcher is named by a number. -/
  watch (uri : String) : σ → Reply σ Nat
  /-- Ends a watcher. -/
  unwatch (watcher : Nat) : σ → σ
  /-- The changes that a watcher has not been asked for yet. -/
  takeChanges (watcher : Nat) : σ → List Change × σ
  /-- A watcher that nobody listens to any more keeps no changes. -/
  mute (watcher : Nat) : σ → σ

end FileBridge
