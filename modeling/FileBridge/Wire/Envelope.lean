import FileBridge.Codec.Record
import FileBridge.Wire.Code

/-!
The envelopes of answers. Each one carries a code; a failure adds a message, and a success the
payload if the operation has one.
-/
namespace FileBridge

/-- A failure before it is put into an envelope. -/
structure Failure where
  code : ErrorCode
  message : String
deriving DecidableEq, Repr

/-- A failure that has the general code in both modes. -/
def Failure.general (message : String) : Failure :=
  ⟨.failed, message⟩

structure IoResult where
  errorCode : ErrorCode
  errorMessage : Option String
deriving DecidableEq, Repr

namespace IoResult

def ofOutcome : Except Failure Unit → IoResult
  | .ok () => ⟨.success, none⟩
  | .error f => ⟨f.code, some f.message⟩

def members : Members (ErrorCode × Option String × Unit) :=
  .cons (.required "errorCode" ErrorCode.codec) <| .cons (.optional "errorMessage" .text) .nil

def codec : Codec IoResult :=
  .record "IoResult" false members (fun (code, message, _) => ⟨code, message⟩)
    fun r => (r.errorCode, r.errorMessage, ())

end IoResult

structure ValueResult (α : Type) where
  errorCode : ErrorCode
  errorMessage : Option String
  result : Option α
deriving DecidableEq, Repr

namespace ValueResult

variable {α : Type}

def ofOutcome : Except Failure α → ValueResult α
  | .ok a => ⟨.success, none, some a⟩
  | .error f => ⟨f.code, some f.message, none⟩

def members (c : Codec α) : Members (ErrorCode × Option String × Option α × Unit) :=
  .cons (.required "errorCode" ErrorCode.codec) <| .cons (.optional "errorMessage" .text) <|
    .cons (.optional "result" c) .nil

def codec (c : Codec α) : Codec (ValueResult α) :=
  .record "ValueResult" false (members c)
    (fun (code, message, result, _) => ⟨code, message, result⟩)
    fun r => (r.errorCode, r.errorMessage, r.result, ())

end ValueResult

/-- The envelope of a directory's listing: the names, and for each whether it is a directory. -/
structure DirectoryListing where
  errorCode : ErrorCode
  errorMessage : Option String
  entries : Option (List String)
  areDirectory : Option (List Bool)
deriving DecidableEq, Repr

namespace DirectoryListing

def ofOutcome : Except Failure (List (String × Bool)) → DirectoryListing
  | .ok listing => ⟨.success, none, some (listing.map Prod.fst), some (listing.map Prod.snd)⟩
  | .error f => ⟨f.code, some f.message, none, none⟩

def members :
    Members (ErrorCode × Option String × Option (List String) × Option (List Bool) × Unit) :=
  .cons (.required "errorCode" ErrorCode.codec) <| .cons (.optional "errorMessage" .text) <|
    .cons (.optional "entries" (.list .text)) <|
      .cons (.optional "areDirectory" (.list .flag)) .nil

def codec : Codec DirectoryListing :=
  .record "DirectoryListing" false members
    (fun (code, message, entries, areDirectory, _) => ⟨code, message, entries, areDirectory⟩)
    fun r => (r.errorCode, r.errorMessage, r.entries, r.areDirectory, ())

end DirectoryListing

end FileBridge
