import FileBridge.Guard
import FileBridge.Text.Base64
import FileBridge.Watch
import FileBridge.Wire.Envelope
import FileBridge.Wire.Params

/-!
The operations that a peer can ask for. Each one first asks the guard, so that a URI of the peer's
own never reaches the host, and puts whatever goes wrong into the envelope of its answer.
-/
namespace FileBridge

/-- What decides on answers besides the host. -/
structure Policy where
  guard : Guard
  mode : CodeMode

namespace Policy

def refusal? (p : Policy) (operation uri : String) : Option Failure :=
  (p.guard.guardedScheme? uri).map fun scheme =>
    .general (operation ++ " refused: scheme '" ++ scheme ++ "' is served by the remote peer")

def hostFailure (p : Policy) (cause : HostError) : Failure :=
  ⟨p.mode.codeFor cause.kind, cause.message⟩

def watchFailure (p : Policy) : WatchError → Failure
  | .host cause => p.hostFailure cause
  | cause => .general cause.message

end Policy

/-- What an operation of one session can reach. -/
structure Context (σ : Type) where
  policy : Policy
  host : σ
  registry : Registry
  /-- No watch is opened any more. -/
  closing : Bool

namespace Context

variable {σ α : Type} [Host σ]

/-- Asks the host, unless the URI is guarded. -/
def ask (operation uri : String) (f : σ → Reply σ α) (c : Context σ) :
    Except Failure α × Context σ :=
  match c.policy.refusal? operation uri with
  | some refusal => (.error refusal, c)
  | none =>
    let (outcome, h) := f c.host
    (outcome.mapError c.policy.hostFailure, { c with host := h })

def answer {ρ : Type} (envelope : Except Failure α → ρ) (r : Except Failure α × Context σ) :
    ρ × Context σ :=
  (envelope r.1, r.2)

def inspect (operation uri : String) (f : Metadata → α) (c : Context σ) :
    ValueResult α × Context σ :=
  answer .ofOutcome <| c.ask operation uri fun h =>
    let (outcome, h) := Host.stat uri h
    (outcome.map f, h)

def readFile (p : UriParams) (c : Context σ) : ValueResult String × Context σ :=
  answer .ofOutcome <| c.ask "readFile" p.uri fun h =>
    let (outcome, h) := Host.read p.uri h
    (outcome.map fun content => String.ofList (Base64.encode content), h)

/-- Whether an entry can be looked at. That it cannot is no failure. -/
def exists? (p : UriParams) (c : Context σ) : ValueResult Bool × Context σ :=
  answer .ofOutcome <| c.ask "exists" p.uri fun h =>
    let (outcome, h) := Host.stat p.uri h
    (.ok outcome.toBool, h)

def lastModified (p : UriParams) (c : Context σ) : ValueResult Int × Context σ :=
  c.inspect "lastModified" p.uri Metadata.modified

def created (p : UriParams) (c : Context σ) : ValueResult Int × Context σ :=
  c.inspect "created" p.uri Metadata.created

def isDirectory (p : UriParams) (c : Context σ) : ValueResult Bool × Context σ :=
  c.inspect "isDirectory" p.uri fun m => m.kind = .directory

def isFile (p : UriParams) (c : Context σ) : ValueResult Bool × Context σ :=
  c.inspect "isFile" p.uri fun m => m.kind = .file

def list (p : UriParams) (c : Context σ) : DirectoryListing × Context σ :=
  answer .ofOutcome <| c.ask "list" p.uri fun h =>
    let (outcome, h) := Host.list p.uri h
    (outcome.map fun entries => entries.map fun (name, kind) => (name, kind = .directory), h)

def writeFile (p : WriteFileParams) (c : Context σ) : IoResult × Context σ :=
  answer .ofOutcome <| c.ask "writeFile" p.uri fun h =>
    match Base64.decode? p.content.toList with
    | none => (.error (.badContent p.uri), h)
    | some content => Host.write p.uri content p.create p.overwrite h

def createDirectory (p : UriParams) (c : Context σ) : IoResult × Context σ :=
  answer .ofOutcome <| c.ask "mkDirectory" p.uri (Host.createDirectory p.uri)

def remove (p : RemoveParams) (c : Context σ) : IoResult × Context σ :=
  answer .ofOutcome <| c.ask "remove" p.uri (Host.delete p.uri p.recursive)

/-- Moves an entry. Both URIs are asked of the guard, the target first. -/
def rename (p : RenameParams) (c : Context σ) : IoResult × Context σ :=
  match c.policy.refusal? "rename" p.target with
  | some refusal => (.ofOutcome (.error refusal), c)
  | none =>
    answer .ofOutcome <| c.ask "rename" p.source (Host.rename p.source p.target p.overwrite)

def watch (p : WatchParams) (c : Context σ) : IoResult × Context σ :=
  if c.closing then (.ofOutcome (.error (.general "session is closing")), c)
  else
    match c.policy.refusal? "watch" p.uri with
    | some refusal => (.ofOutcome (.error refusal), c)
    | none =>
      let (outcome, r, h) := c.registry.watch p.uri p.watcher c.host
      (.ofOutcome (outcome.mapError c.policy.watchFailure), { c with registry := r, host := h })

/-- Closes a watch. It is found by its URI; under which name it was opened does not matter. -/
def unwatch (p : WatchParams) (c : Context σ) : IoResult × Context σ :=
  match c.policy.refusal? "unwatch" p.uri with
  | some refusal => (.ofOutcome (.error refusal), c)
  | none =>
    let (outcome, r, h) := c.registry.unwatch p.uri c.host
    (.ofOutcome ((outcome.mapError c.policy.watchFailure).map fun _ => ()),
      { c with registry := r, host := h })

end Context

end FileBridge
