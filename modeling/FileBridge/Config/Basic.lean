import FileBridge.Codec.Record
import FileBridge.Net.Address
import FileBridge.Uri
import FileBridge.Wire.Code

/-!
The settings of a bridge, their defaults, and what makes them acceptable.
-/
namespace FileBridge

/-- Where the entries are kept that a bridge serves. -/
inductive Backend where
  /-- On the disk of this machine. -/
  | disk
  /-- In memory. -/
  | memory
deriving DecidableEq, Repr

namespace Backend

def name : Backend → String
  | .disk => "local"
  | .memory => "memory"

def all : List Backend :=
  [.disk, .memory]

def codec : Codec Backend :=
  .named all name

end Backend

structure Config where
  bindAddress : Net.Address
  port : Nat
  guardedSchemes : List String
  backend : Backend
  /-- The directory that is served, if not the whole disk. -/
  root : Option String
  errorCodes : CodeMode
  maxMessageSize : Nat
deriving DecidableEq, Repr

inductive ConfigError where
  /-- The file does not hold settings. What is wrong with its text is not told apart. -/
  | unreadable (file : String)
  | badScheme (scheme : String)
  | rootWithoutDisk
  | messageSizeTooSmall
deriving DecidableEq, Repr

def ConfigError.message : ConfigError → String
  | .unreadable file => file ++ ": <yaml>"
  | .badScheme scheme => "invalid guarded scheme '" ++ scheme ++ "'"
  | .rootWithoutDisk => "'root' only applies to the local backend"
  | .messageSizeTooSmall => "max-message-size must be at least 1024 bytes"

namespace Config

/-- The settings that nobody set. -/
def default : Config where
  bindAddress := .loopback
  port := 0
  guardedSchemes := []
  backend := .disk
  root := none
  errorCodes := .compact
  maxMessageSize := 67108864

def addressCodec : Codec Net.Address where
  read v := do
    let s ← (Codec.textAs "IP address").read v
    match Net.Address.read? s.toList with
    | some a => .ok a
    | none => .error .badAddress
  write a := .str a.text

def members :
    Members (Net.Address × Nat × List String × Backend × Option String × CodeMode × Nat × Unit) :=
  .cons (.defaulted "bind-address" addressCodec default.bindAddress) <|
    .cons (.defaulted "port" (.natural "u16" 16) default.port) <|
      .cons (.defaulted "guarded-schemes" (.list .text) default.guardedSchemes) <|
        .cons (.defaulted "backend" Backend.codec default.backend) <|
          .cons (.optional "root" (.textAs "path string")) <|
            .cons (.defaulted "error-codes" CodeMode.codec default.errorCodes) <|
              .cons (.defaulted "max-message-size" (.natural "usize" 64) default.maxMessageSize) <|
                .nil

def codec : Codec Config :=
  .record "BridgeConfig" true members
    (fun (address, port, schemes, backend, root, codes, size, _) =>
      ⟨address, port, schemes, backend, root, codes, size⟩)
    fun c => (c.bindAddress, c.port, c.guardedSchemes, c.backend, c.root, c.errorCodes,
      c.maxMessageSize, ())

/-- Checks the settings; the first scheme that is none goes before the rest. -/
def validate (c : Config) : Except ConfigError Unit :=
  match c.guardedSchemes.find? fun s => !Uri.isValidScheme s with
  | some scheme => .error (.badScheme scheme)
  | none =>
    if c.root.isSome ∧ c.backend = .memory then .error .rootWithoutDisk
    else if c.maxMessageSize < 1024 then .error .messageSizeTooSmall
    else .ok ()

def socket (c : Config) : String :=
  c.bindAddress.textWithPort c.port

end Config

end FileBridge
