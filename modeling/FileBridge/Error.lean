import FileBridge.Config.Basic
import FileBridge.Rpc.Frame

/-!
What can go wrong around the operations: listening, loading settings, and asking a bridge.
-/
namespace FileBridge

/-- Why the bridge or a client of it cannot go on. -/
inductive BridgeError where
  /-- The address cannot be listened on. -/
  | bind (address : String) (cause : String)
  /-- The operating system fails. -/
  | io (cause : String)
  /-- The framing is broken. -/
  | protocol (cause : Rpc.ReadError)
  /-- A result does not have the form that was asked for. -/
  | json (cause : DecodeError)
  | config (cause : ConfigError)
  | host (cause : HostError)
  /-- The other side says that a request failed. -/
  | rpc (fault : Rpc.Fault)
  /-- The connection ended before there was a response. -/
  | connectionClosed

namespace BridgeError

def message : BridgeError → String
  | .bind address cause => "failed to bind " ++ address ++ ": " ++ cause
  | .io cause => "I/O error: " ++ cause
  | .protocol cause => "protocol error: " ++ cause.message
  | .json cause => "JSON error: " ++ cause.message
  | .config cause => "Configuration error: " ++ cause.message
  | .host cause => "host file system error: " ++ cause.message
  | .rpc fault => "remote error: " ++ fault.display
  | .connectionClosed => "connection closed"

/-- Whether the other side said that a request failed, with a given code. -/
def isRpcError (e : BridgeError) (code : Int) : Bool :=
  match e with
  | .rpc fault => fault.code = code
  | _ => false

end BridgeError

end FileBridge
