import FileBridge.Rpc.Frame
import FileBridge.Service.Methods

/-!
One connection to a peer. Bytes that arrive are cut into frames; requests wait for their handlers,
and what goes out is queued until it is written. When the peer has finished or breaks the framing,
the session disposes of itself: its watches are closed, and the writer stops once its queue is
empty. If a write fails, the writer stops at once, and the reader goes on.
-/
namespace FileBridge

open Rpc

structure Request where
  id : RequestId
  method : String
  params : Json

/-- What a session has still to do. -/
inductive Task where
  | handle (request : Request)
  | write

def Task.isWrite : Task → Bool
  | .handle _ => false
  | .write => true

/-- One connection to a peer. -/
structure Session where
  id : Nat
  /-- Bytes that make no frame yet. -/
  unread : List UInt8
  /-- The peer sends nothing more. -/
  peerDone : Bool
  /-- The reader has not stopped. -/
  reading : Bool
  /-- What is to be done, in order. -/
  tasks : List Task
  registry : Registry
  disposed : Bool
  /-- Messages to be written. -/
  outbound : List Message
  /-- The writer has not stopped. -/
  writing : Bool
  /-- Messages that have been written. -/
  written : List Message

namespace Session

variable {σ : Type} [Host σ]

def start (id : Nat) : Session where
  id := id
  unread := []
  peerDone := false
  reading := true
  tasks := []
  registry := .empty
  disposed := false
  outbound := []
  writing := true
  written := []

/-- Puts a task at the end. One turn of the writer is enough for all that is queued. -/
def schedule (task : Task) (s : Session) : Session :=
  if task.isWrite && s.tasks.any Task.isWrite then s else { s with tasks := s.tasks ++ [task] }

/-- Queues a message, as long as there is a writer. -/
def send (s : Session) (m : Message) : Session :=
  if s.writing then { s with outbound := s.outbound ++ [m] } else s

/-- What the peer is told of a frame that holds no message. -/
def complaint : ReadError → Message
  | .notJson => .response none (.error (.parseError "<json>"))
  | .notMessage misfit =>
    .response misfit.id (.error (.invalidRequest ("invalid message: " ++ misfit.cause.message)))
  | e => .response none (.error (.invalidRequest e.message))

/-- Takes in one frame. Only requests are worked on; a frame that holds no message is answered at
once. -/
def accept (s : Session) : Arrival → Session
  | .message (.request id method params) => s.schedule (.handle ⟨id, method, params⟩)
  | .message _ => s
  | .unusable e => (s.send (complaint e)).schedule .write

/-- Closes all watches and opens no new ones. Doing it again changes nothing. -/
def dispose (s : Session) (h : σ) : Session × σ :=
  if s.disposed then (s, h)
  else ({ s with registry := .empty, disposed := true }, s.registry.release h)

def stop (s : Session) (h : σ) : Session × σ :=
  let (s, h) := s.dispose h
  ({ s with reading := false, unread := [] }.schedule .write, h)

def feed (bytes : List UInt8) (ended : Bool) (s : Session) : Session :=
  { s with unread := s.unread ++ bytes, peerDone := s.peerDone || ended }

def read (limit : Nat) (s : Session) (h : σ) : Session × σ :=
  if s.reading then
    let (arrivals, stop) := readFrames limit s.peerDone s.unread
    let s := arrivals.foldl accept s
    match stop with
    | .starved rest => ({ s with unread := rest }, h)
    | .finished => s.stop h
    | .failed _ => s.stop h
  else (s, h)

/-- What an operation of the session can reach. -/
def context (policy : Policy) (s : Session) (h : σ) : Context σ :=
  ⟨policy, h, s.registry, s.disposed⟩

def handle (methods : Methods σ) (policy : Policy) (r : Request) (s : Session) (h : σ) :
    Session × σ :=
  let (outcome, c) := methods.dispatch r.method r.params (s.context policy h)
  ({ s with registry := c.registry }.send (.response (some r.id) outcome), c.host)

/-- Writes what is queued. The writer of a session that is disposed of stops then. -/
def write (s : Session) : Session :=
  { s with
    written := s.written ++ s.outbound
    outbound := []
    writing := s.writing && !s.disposed }

/-- A write fails when some of what is queued has gone out. The rest is lost; the writer stops. -/
def breakOff (sent : Nat) (s : Session) : Session :=
  { s with written := s.written ++ s.outbound.take sent, outbound := [], writing := false }

def perform (methods : Methods σ) (policy : Policy) (s : Session) (h : σ) : Task → Session × σ
  | .handle r => s.handle methods policy r h
  | .write => (s.write, h)

/-- Performs all tasks in order, and writes what they queued. -/
def work (methods : Methods σ) (policy : Policy) (s : Session) (h : σ) : Session × σ :=
  let (s, h) := s.tasks.foldl (fun (s, h) task => s.perform methods policy h task)
    ({ s with tasks := [] }, h)
  (s.write, h)

/-- Tells the peer of the changes that its watches saw. -/
def relay (s : Session) (h : σ) : Session × σ :=
  let (events, h) := s.registry.relay s.writing h
  (((events.map ChangeEvent.notification).foldl send s).write, h)

end Session

end FileBridge
