import FileBridge.Codec.Basic
import FileBridge.Host.Error

/-!
The codes that an answer carries. In compact mode every failure has one code; in detailed mode the
kind of a host failure decides it.
-/
namespace FileBridge

inductive ErrorCode where
  | success
  | failed
  | notFound
  | alreadyExists
  | notADirectory
  | isADirectory
  | permissionDenied
  | unavailable
deriving DecidableEq, Repr

namespace ErrorCode

def all : List ErrorCode :=
  [.success, .failed, .notFound, .alreadyExists, .notADirectory, .isADirectory, .permissionDenied,
    .unavailable]

def toNat : ErrorCode → Nat
  | .success => 0
  | .failed => 1
  | .notFound => 2
  | .alreadyExists => 3
  | .notADirectory => 4
  | .isADirectory => 5
  | .permissionDenied => 6
  | .unavailable => 7

def codec : Codec ErrorCode :=
  .coded all toNat

def ofKind : FailureKind → ErrorCode
  | .notFound => .notFound
  | .alreadyExists => .alreadyExists
  | .notADirectory => .notADirectory
  | .isADirectory => .isADirectory
  | .permissionDenied => .permissionDenied
  | .unavailable => .unavailable
  | .other => .failed

end ErrorCode

/-- How much the code of a failure tells. -/
inductive CodeMode where
  | compact
  | detailed
deriving DecidableEq, Repr

namespace CodeMode

def name : CodeMode → String
  | .compact => "compact"
  | .detailed => "detailed"

def all : List CodeMode :=
  [.compact, .detailed]

def codec : Codec CodeMode :=
  .named all name

def codeFor (mode : CodeMode) (kind : FailureKind) : ErrorCode :=
  match mode with
  | .compact => .failed
  | .detailed => .ofKind kind

end CodeMode

end FileBridge
