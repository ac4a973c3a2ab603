import FileBridge.Host.Basic
import FileBridge.OrderedMap
import FileBridge.Rpc.Message
import FileBridge.Uri
import FileBridge.Wire.Event

/-!
The watches of one session. Each holds a watcher of the host, and what that watcher is told is
relayed to the peer as a notification.
-/
namespace FileBridge

inductive WatchError where
  | alreadyDefined (uri : String)
  | notDefined (uri : String)
  | host (cause : HostError)
deriving DecidableEq, Repr

def WatchError.message : WatchError → String
  | .alreadyDefined uri => "watch already defined for " ++ uri
  | .notDefined uri => "watch not defined for " ++ uri
  | .host cause => cause.message

/-- An open watch: the name that the peer gave it, and the watcher of the host behind it. -/
structure Subscription where
  watchId : String
  watcher : Nat
deriving DecidableEq, Repr

structure Registry where
  table : OrderedMap Subscription

namespace Registry

variable {σ : Type} [Host σ]

def empty : Registry :=
  ⟨.empty⟩

def size (r : Registry) : Nat :=
  r.table.size

def contains (r : Registry) (uri : String) : Bool :=
  r.table.contains uri

def watchId? (r : Registry) (uri : String) : Option String :=
  (r.table.get? uri).map Subscription.watchId

def subscriptions (r : Registry) : List Subscription :=
  r.table.toList.map Prod.snd

/-- Opens a watch. A URI is watched once, however its name. -/
def watch (uri watchId : String) (r : Registry) (h : σ) : Except WatchError Unit × Registry × σ :=
  if r.contains uri then (.error (.alreadyDefined uri), r, h)
  else
    match Host.watch uri h with
    | (.error cause, h) => (.error (.host cause), r, h)
    | (.ok watcher, h) => (.ok (), ⟨r.table.insert uri ⟨watchId, watcher⟩⟩, h)

def unwatch (uri : String) (r : Registry) (h : σ) : Except WatchError String × Registry × σ :=
  match r.table.get? uri with
  | none => (.error (.notDefined uri), r, h)
  | some s => (.ok s.watchId, ⟨r.table.erase uri⟩, Host.unwatch s.watcher h)

def release (r : Registry) (h : σ) : σ :=
  r.subscriptions.foldl (fun h s => Host.unwatch s.watcher h) h

end Registry

/-- What a change is to the peer. Only a created entry can be looked at; what a deleted one was is
guessed from its name. -/
def Change.classify {σ : Type} [Host σ] (c : Change) (h : σ) : (ChangeType × EntryType) × σ :=
  match c.kind with
  | .created =>
    match Host.stat c.uri h with
    | (.ok m, h) => ((.created, if m.kind = .directory then .directory else .file), h)
    | (.error _, h) => ((.created, .file), h)
  | .changed => ((.modified, .file), h)
  | .deleted => ((.deleted, if Uri.looksLikeFile c.uri then .file else .directory), h)

namespace Subscription

variable {σ : Type} [Host σ]

def event (s : Subscription) (c : Change) (h : σ) : ChangeEvent × σ :=
  let ((changeType, entryType), h) := c.classify h
  (⟨s.watchId, c.uri, changeType, entryType⟩, h)

def events (s : Subscription) : List Change → σ → List ChangeEvent × σ
  | [], h => ([], h)
  | c :: cs, h =>
    let (first, h) := s.event c h
    let (rest, h) := s.events cs h
    (first :: rest, h)

/-- Relays what the watcher has been told. If the peer cannot be reached, the first change is looked
at in vain, and nobody listens to the watcher from then on. -/
def relay (reachable : Bool) (s : Subscription) (h : σ) : List ChangeEvent × σ :=
  let (changes, h) := Host.takeChanges s.watcher h
  if reachable then s.events changes h
  else
    match changes with
    | [] => ([], h)
    | c :: _ => ([], Host.mute s.watcher (s.event c h).2)

end Subscription

def Registry.relay {σ : Type} [Host σ] (reachable : Bool) (r : Registry) (h : σ) :
    List ChangeEvent × σ :=
  r.subscriptions.foldl (fun (events, h) s =>
    let (more, h) := s.relay reachable h
    (events ++ more, h)) ([], h)

def ChangeEvent.notification (e : ChangeEvent) : Rpc.Message :=
  .notification "vfs/watcher/emitWatch" (ChangeEvent.codec.write e)

end FileBridge
