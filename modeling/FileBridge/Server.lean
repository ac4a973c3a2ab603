import FileBridge.Bridge.Basic
import FileBridge.Client
import FileBridge.Local
import FileBridge.Tree.Basic

/-!
A bridge that listens on an address, and the requests of its clients. Clients connect as long as it
listens and the network lets them through.
-/
namespace FileBridge

open Rpc

def Config.createHost (c : Config) (d : Disk) : Except BridgeError (LocalHost ⊕ Tree) :=
  match c.backend, c.root with
  | .memory, _ => .ok (.inr (.empty d.now))
  | .disk, none => .ok (.inl (.whole d))
  | .disk, some root => ((LocalHost.confined d root).mapError .host).map .inl

structure Server (σ : Type) where
  bridge : Bridge σ
  address : Net.Address
  port : Nat
  listening : Bool

namespace Server

variable {σ : Type} [Host σ]

/-- Starts to listen. If the settings leave the port open, it is one that is free. -/
def start (c : Config) (freePort : Nat) (host : σ) : Server σ where
  bridge := .start ⟨.ofList c.guardedSchemes, c.errorCodes⟩ c.maxMessageSize host
  address := c.bindAddress
  port := if c.port = 0 then freePort else c.port
  listening := true

def socket (s : Server σ) : String :=
  s.address.textWithPort s.port

/-- The refusal to listen where this server listens already. -/
def bindAgain? (s : Server σ) : Option BridgeError :=
  if s.listening then some (.bind s.socket "Address already in use (os error 98)") else none

def connect (s : Server σ) (reachable : Bool) : Except BridgeError (Nat × Server σ) :=
  if s.listening && reachable then
    let (id, bridge) := s.bridge.openSession
    .ok (id, { s with bridge := bridge })
  else .error (.io "Connection refused (os error 111)")

def sessionCount (s : Server σ) : Nat :=
  s.bridge.liveCount

def dispose (s : Server σ) : Server σ :=
  { s with bridge := s.bridge.disposeAll, listening := false }

def receive (id : Nat) (bytes : List UInt8) (ended : Bool) (s : Server σ) : Server σ :=
  { s with bridge := s.bridge.receive id bytes ended }

def deliver (id : Nat) (c : Client) (s : Server σ) : Client × Server σ :=
  let ended := !(s.bridge.session? id).any Session.writing
  let (messages, bridge) := s.bridge.takeWritten id
  (c.receive (messages.flatMap Message.encode) ended, { s with bridge := bridge })

/-- A client asks for a result and waits until there is one or the connection has ended. -/
def request (id : Nat) (method : String) (params : Json) (c : Client) (s : Server σ) :
    Option (Except BridgeError Json) × Client × Server σ :=
  let (number, message, c) := c.request method params
  match message with
  | none => (c.outcome? number, c, s)
  | some m =>
    let (c, s) := (s.receive id m.encode false).deliver id c
    (c.outcome? number, c, s)

end Server

end FileBridge
