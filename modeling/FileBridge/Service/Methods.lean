import FileBridge.Service.Basic

/-!
The methods by which operations are called. A method reads its parameters, runs its operation and
writes the result.
-/
namespace FileBridge

/-- What a method does with the parameters of a request. -/
abbrev Handler (σ : Type) : Type :=
  Json → Context σ → Except Rpc.Fault Json × Context σ

namespace Handler

variable {σ P R : Type}

/-- A handler whose result may have no written form. -/
def ofPartial (method : String) (params : Codec P) (write : R → Except String Json)
    (f : P → Context σ → R × Context σ) : Handler σ := fun v c =>
  match params.read v with
  | .error e => (.error (.invalidParams (method ++ ": " ++ e.message)), c)
  | .ok p =>
    let (r, c) := f p c
    ((write r).mapError .internalError, c)

def of (method : String) (params : Codec P) (result : Codec R)
    (f : P → Context σ → R × Context σ) : Handler σ :=
  ofPartial method params (fun r => .ok (result.write r)) f

end Handler

structure Methods (σ : Type) where
  table : OrderedMap (Handler σ)

namespace Methods

variable {σ : Type}

def empty : Methods σ :=
  ⟨.empty⟩

/-- Handles a method, in place of what handled it before. -/
def add (m : Methods σ) (method : String) (h : Handler σ) : Methods σ :=
  ⟨m.table.insert method h⟩

def names (m : Methods σ) : List String :=
  m.table.keys

def handles (m : Methods σ) (method : String) : Bool :=
  m.table.contains method

def dispatch (m : Methods σ) (method : String) : Handler σ := fun params c =>
  match m.table.get? method with
  | some h => h params c
  | none => (.error (.methodNotFound method), c)

def summary (m : Methods σ) : String :=
  "Router \x7b methods: [" ++
    String.intercalate ", " (m.names.map fun name => Text.quote name.toList) ++ "] \x7d"

def route {P R : Type} (method : String) (params : Codec P) (result : Codec R)
    (f : P → Context σ → R × Context σ) (m : Methods σ) : Methods σ :=
  m.add method (.of method params result f)

def bridge [Host σ] : Methods σ :=
  (empty : Methods σ)
    |>.route "vfs/input/readFile" UriParams.codec (ValueResult.codec .text) Context.readFile
    |>.route "vfs/input/exists" UriParams.codec (ValueResult.codec .flag) Context.exists?
    |>.route "vfs/input/lastModified" UriParams.codec (ValueResult.codec .int64)
      Context.lastModified
    |>.route "vfs/input/created" UriParams.codec (ValueResult.codec .int64) Context.created
    |>.route "vfs/input/isDirectory" UriParams.codec (ValueResult.codec .flag) Context.isDirectory
    |>.route "vfs/input/isFile" UriParams.codec (ValueResult.codec .flag) Context.isFile
    |>.route "vfs/input/list" UriParams.codec DirectoryListing.codec Context.list
    |>.route "vfs/output/writeFile" WriteFileParams.codec IoResult.codec Context.writeFile
    |>.route "vfs/output/mkDirectory" UriParams.codec IoResult.codec Context.createDirectory
    |>.route "vfs/output/remove" RemoveParams.codec IoResult.codec Context.remove
    |>.route "vfs/output/rename" RenameParams.codec IoResult.codec Context.rename
    |>.route "vfs/watcher/watch" WatchParams.codec IoResult.codec Context.watch
    |>.route "vfs/watcher/unwatch" WatchParams.codec IoResult.codec Context.unwatch

end Methods

end FileBridge
