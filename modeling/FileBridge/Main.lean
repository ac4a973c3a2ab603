import FileBridge.CommandLine
import FileBridge.Server
import Std.Async.TCP
import Std.Sync.Mutex
import Std.Time.DateTime

/-!
The program: it reads the command line, listens, says on which port, and then serves a tree of files
in memory to everyone who connects. All decisions are made elsewhere; here bytes are passed on. The
disk as a host (`LocalHost`) is a value that holds all entries. There is nothing here that reads a
real disk into one, so the program does not serve it.
-/
namespace FileBridge

open Std.Async

def usage : String :=
  "Serve a file system to a remote process over JSON-RPC on loopback TCP.\n\n" ++
  "Usage: file-bridge [OPTIONS]\n\n" ++
  "Options:\n" ++
  "  -c, --config <CONFIG>        YAML configuration file; flags override its values\n" ++
  "      --bind <BIND>            Address to listen on\n" ++
  "  -p, --port <PORT>            Port to listen on (0 picks a free port)\n" ++
  "      --guard-scheme <SCHEME>  Scheme served by the remote peer; repeat for several\n" ++
  "      --backend <BACKEND>      Host backend\n" ++
  "      --root <DIR>             Confine the local backend to this directory\n" ++
  "      --detailed-errors        Report host failures with specific error codes instead of 1\n" ++
  "  -h, --help                   Print help\n" ++
  "  -V, --version                Print version"

/-- An address and a port as the network takes them. -/
def Net.Address.withPort (a : Address) (port : Nat) : Std.Net.SocketAddress :=
  match a with
  | .v4 a b c d => .v4 ⟨.ofParts a b c d, port.toUInt16⟩
  | .v6 groups size => .v6 ⟨⟨⟨groups.toArray, by simpa using size⟩⟩, port.toUInt16⟩

structure Live where
  server : Server Tree
  peers : List (Nat × TCP.Socket.Client)

/-- Sends every peer what has been written to it, and lets go of those whose session has ended or
who cannot be written to. -/
def Live.flush (l : Live) : IO Live := do
  let mut server := l.server
  let mut peers := []
  for (id, peer) in l.peers do
    let (messages, bridge) := server.bridge.takeWritten id
    server := { server with bridge := bridge }
    try
      (peer.send ⟨(messages.flatMap Rpc.Message.encode).toArray⟩).block
      if (bridge.session? id).any Session.writing then peers := peers ++ [(id, peer)]
      else peer.shutdown.block
    catch _ => server := { server with bridge := server.bridge.breakOff id 0 }
  return ⟨server, peers⟩

def clock : IO Int := do
  return (← Std.Time.Timestamp.now).toSecondsSinceUnixEpoch.val

def Live.receive (live : Std.Mutex Live) (id : Nat) (bytes : List UInt8) (ended : Bool) :
    IO Unit := do
  let now ← clock
  live.atomically do
    let l ← get
    let bridge := { l.server.bridge with host := { l.server.bridge.host with now := now } }
    let server := { l.server with bridge := bridge }.receive id bytes ended
    set (← Live.flush { l with server := server })

def Live.listenTo (live : Std.Mutex Live) (id : Nat) (peer : TCP.Socket.Client) : Async Unit := do
  repeat
    match ← (try peer.recv? 65536 catch _ => pure none) with
    | some bytes => Live.receive live id bytes.data.toList false
    | none =>
      Live.receive live id [] true
      break

def Live.connect (live : Std.Mutex Live) (peer : TCP.Socket.Client) : IO Nat :=
  live.atomically do
    let l ← get
    let (id, bridge) := l.server.bridge.openSession
    set (⟨{ l.server with bridge := bridge }, l.peers ++ [(id, peer)]⟩ : Live)
    return id

/-- Listens as the settings say and serves whoever connects. -/
def Config.serve (c : Config) (tree : Tree) : IO Unit := do
  let listener ← TCP.Socket.Server.mk
  listener.bind (c.bindAddress.withPort c.port)
  listener.listen 128
  let port := (← listener.getSockName).port
  IO.println (Json.ofMembers [("port", .nat port.toNat)]).text
  (← IO.getStdout).flush
  let live ← Std.Mutex.new (⟨.start c port.toNat tree, []⟩ : Live)
  repeat
    let peer ← listener.accept.block
    discard (Live.listenTo live (← Live.connect live peer) peer).toIO

def contentOf (file : String) : IO (Except String (List UInt8)) := do
  try return .ok (← IO.FS.readBinFile file).data.toList
  catch e => return .error (toString e)

def run (arguments : List String) : IO UInt32 := do
  match CommandLine.parse arguments with
  | .error .help => IO.println usage; return 0
  | .error .version => IO.println "file-bridge"; return 0
  | .error e =>
    IO.eprintln ("error: " ++ e.message)
    return e.exitCode.toUInt32
  | .ok a =>
    let content ← match a.config with
      | some file => contentOf file
      | none => pure (.ok [])
    match a.settings fun _ => content with
    | .error e => IO.eprintln ("Error: " ++ e.message); return 1
    | .ok c =>
      match c.backend with
      | .disk => IO.eprintln "Error: only the memory backend is served"; return 1
      | .memory => c.serve (.empty (← clock)); return 0

end FileBridge

def main (arguments : List String) : IO UInt32 :=
  FileBridge.run arguments
