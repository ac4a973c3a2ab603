import FileBridge.Bridge.Session

/-!
A host shared by any number of sessions. Whatever happens, the bridge settles: every session reads
what has arrived, works off its requests in order, and then relays the changes.
-/
namespace FileBridge

open Rpc

/-- A host and the sessions that it is served to. -/
structure Bridge (σ : Type) where
  methods : Methods σ
  policy : Policy
  /-- The largest body that is read. -/
  limit : Nat
  host : σ
  /-- All sessions in order of their numbers, the ended ones too. -/
  sessions : List Session

namespace Bridge

variable {σ : Type}

def start [Host σ] (policy : Policy) (limit : Nat) (host : σ) : Bridge σ :=
  ⟨.bridge, policy, limit, host, []⟩

def eachOf (f : Session → σ → Session × σ) : List Session → σ → List Session × σ
  | [], h => ([], h)
  | s :: rest, h =>
    let (s, h) := f s h
    let (rest, h) := eachOf f rest h
    (s :: rest, h)

def each (f : Session → σ → Session × σ) (b : Bridge σ) : Bridge σ :=
  let (sessions, h) := eachOf f b.sessions b.host
  { b with sessions := sessions, host := h }

def onSession (id : Nat) (f : Session → σ → Session × σ) (b : Bridge σ) : Bridge σ :=
  b.each fun s h => if s.id = id then f s h else (s, h)

def session? (b : Bridge σ) (id : Nat) : Option Session :=
  b.sessions.find? fun s => s.id = id

/-- Opens a session. The first has the number one. -/
def openSession (b : Bridge σ) : Nat × Bridge σ :=
  let id := b.sessions.length + 1
  (id, { b with sessions := b.sessions ++ [.start id] })

def liveCount (b : Bridge σ) : Nat :=
  (b.sessions.filter Session.reading).length

def watchCount (b : Bridge σ) : Nat :=
  (b.sessions.map fun s => s.registry.size).foldr (· + ·) 0

variable [Host σ]

/-- Lets every session read, work and relay. -/
def settle (b : Bridge σ) : Bridge σ :=
  b.each (Session.read b.limit)
    |>.each (Session.work b.methods b.policy)
    |>.each Session.relay

def receive (id : Nat) (bytes : List UInt8) (ended : Bool) (b : Bridge σ) : Bridge σ :=
  (b.onSession id fun s h => (s.feed bytes ended, h)).settle

def dispose (id : Nat) (b : Bridge σ) : Bridge σ :=
  (b.onSession id fun s h => if s.disposed then (s, h) else s.stop h).settle

def disposeAll (b : Bridge σ) : Bridge σ :=
  (b.each fun s h => if s.disposed then (s, h) else s.stop h).settle

/-- Queues a message for a peer, and says whether that is still possible. -/
def send (id : Nat) (m : Message) (b : Bridge σ) : Bool × Bridge σ :=
  ((b.session? id).any Session.writing, (b.onSession id fun s h => (s.send m, h)).settle)

def operate {α : Type} (id : Nat) (f : Context σ → α × Context σ) (b : Bridge σ) :
    Option α × Bridge σ :=
  match b.session? id with
  | none => (none, b)
  | some s =>
    let (a, c) := f (s.context b.policy b.host)
    let b := b.onSession id fun s h => ({ s with registry := c.registry }, h)
    (some a, { b with host := c.host }.settle)

def onHost {α : Type} (f : σ → α × σ) (b : Bridge σ) : α × Bridge σ :=
  let (a, h) := f b.host
  (a, { b with host := h }.settle)

def takeWritten (id : Nat) (b : Bridge σ) : List Message × Bridge σ :=
  (((b.session? id).map Session.written).getD [],
    b.onSession id fun s h => ({ s with written := [] }, h))

def breakOff (id sent : Nat) (b : Bridge σ) : Bridge σ :=
  b.onSession id fun s h => (s.breakOff sent, h)

def setGuard (g : Guard) (b : Bridge σ) : Bridge σ :=
  { b with policy := { b.policy with guard := g } }

end Bridge

end FileBridge
