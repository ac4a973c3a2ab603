import FileBridge.Codec.Record

/-!
Notifications of changes.
-/
namespace FileBridge

/-- What happened, as a notification says it. -/
inductive ChangeType where
  | created
  | deleted
  | modified
deriving DecidableEq, Repr

namespace ChangeType

def all : List ChangeType :=
  [.created, .deleted, .modified]

def toNat : ChangeType → Nat
  | .created => 1
  | .deleted => 2
  | .modified => 3

def codec : Codec ChangeType :=
  .coded all toNat

end ChangeType

/-- What it happened to, as a notification says it. -/
inductive EntryType where
  | file
  | directory
deriving DecidableEq, Repr

namespace EntryType

def all : List EntryType :=
  [.file, .directory]

def toNat : EntryType → Nat
  | .file => 1
  | .directory => 2

def codec : Codec EntryType :=
  .coded all toNat

end EntryType

structure ChangeEvent where
  watchId : String
  location : String
  changeType : ChangeType
  entryType : EntryType
deriving DecidableEq, Repr

namespace ChangeEvent

def members : Members (String × String × ChangeType × EntryType × Unit) :=
  .cons (.required "watchId" .text) <| .cons (.required "location" .text) <|
    .cons (.required "changeType" ChangeType.codec) <|
      .cons (.required "type" EntryType.codec) .nil

def codec : Codec ChangeEvent :=
  .record "ChangeEvent" false members
    (fun (watchId, location, changeType, entryType, _) =>
      ⟨watchId, location, changeType, entryType⟩)
    fun e => (e.watchId, e.location, e.changeType, e.entryType, ())

end ChangeEvent

end FileBridge
