import FileBridge.Error

/-!
A client of a bridge. Any number of requests may wait at a time; a response completes the one whose
number it carries. Notifications are kept until they are taken. Once the connection has ended, no
request is completed any more.
-/
namespace FileBridge

open Rpc

/-- A connection to a bridge. -/
structure Client where
  /-- The number that the next request gets. -/
  nextId : Int
  /-- The requests without a response, as long as there is a reader. -/
  waiting : Option (List Int)
  /-- Bytes that make no frame yet. -/
  unread : List UInt8
  /-- The responses to requests. -/
  responses : List (Int × Except Fault Json)
  /-- The notifications that have not been taken. -/
  notifications : List Message

namespace Client

def start : Client :=
  ⟨1, some [], [], [], []⟩

def isClosed (c : Client) : Bool :=
  c.waiting.isNone

/-- Makes a request. It gets a number in any case, and is sent as long as there is a reader. -/
def request (method : String) (params : Json) (c : Client) : Int × Option Message × Client :=
  let id := c.nextId
  match c.waiting with
  | some waiting =>
    (id, some (.request (.number id) method params),
      { c with nextId := id + 1, waiting := some (waiting ++ [id]) })
  | none => (id, none, { c with nextId := id + 1 })

/-- A request that could not be written waits no more. -/
def withdraw (id : Int) (c : Client) : Client :=
  { c with waiting := c.waiting.map fun waiting => waiting.filter (· ≠ id) }

def accept (c : Client) : Arrival → Client
  | .message (.response (some (.number n)) outcome) =>
    match c.waiting with
    | some waiting =>
      if waiting.contains n then
        { c with
          waiting := some (waiting.filter (· ≠ n))
          responses := c.responses ++ [(n, outcome)] }
      else c
    | none => c
  | .message (.notification method params) =>
    { c with notifications := c.notifications ++ [.notification method params] }
  | _ => c

def receive (bytes : List UInt8) (ended : Bool) (c : Client) : Client :=
  if c.isClosed then c
  else
    let (arrivals, stop) := readFrames defaultBodyLimit ended (c.unread ++ bytes)
    let c := arrivals.foldl accept c
    match stop with
    | .starved rest => { c with unread := rest }
    | .finished => { c with unread := [], waiting := none }
    | .failed _ => { c with unread := [], waiting := none }

/-- What became of a request, unless it still waits. -/
def outcome? (c : Client) (id : Int) : Option (Except BridgeError Json) :=
  match c.responses.find? fun r => r.1 = id with
  | some (_, outcome) => some (outcome.mapError .rpc)
  | none => if c.isClosed then some (.error .connectionClosed) else none

def nextNotification (c : Client) : Option Message × Client :=
  (c.notifications.head?, { c with notifications := c.notifications.tail })

def takeNotifications (c : Client) : List Message × Client :=
  (c.notifications, { c with notifications := [] })

/-- A result in the form that was asked for. -/
def decode {α : Type} (codec : Codec α) (r : Except BridgeError Json) : Except BridgeError α := do
  (codec.read (← r)).mapError .json

def summary (c : Client) : String :=
  "BridgeClient \x7b next_id: " ++ Text.signed c.nextId ++ ", .. \x7d"

end Client

end FileBridge
