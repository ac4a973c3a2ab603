/-!
Why a host refuses an operation: the causes, the kind each one is of, and its wording.
-/
namespace FileBridge

/-- The kinds of host failures that a peer may tell apart. -/
inductive FailureKind where
  | notFound
  | alreadyExists
  | notADirectory
  | isADirectory
  | permissionDenied
  | unavailable
  | other
deriving DecidableEq, Repr

structure SystemError where
  kind : FailureKind
  text : String
deriving DecidableEq, Repr

inductive HostError where
  | notFound (uri : String)
  | alreadyExists (uri : String)
  | notADirectory (uri : String)
  | isADirectory (uri : String)
  /-- A path has a segment `.` or `..`. -/
  | dotSegment (uri : String)
  | deletesRoot (uri : String)
  | renamesRoot
  | notEmpty (uri : String)
  /-- A directory would end up below itself. -/
  | movesIntoItself (source target : String)
  /-- The content of a file is not base64. -/
  | badContent (uri : String)
  | system (cause : SystemError)
  | systemAt (cause : SystemError) (uri : String)
  /-- The URI cannot be parsed. -/
  | badUri (uri : String) (cause : String)
  /-- The URI's scheme is not the one of local files. -/
  | foreignScheme (scheme uri : String)
  /-- The URI names no path on this machine. -/
  | notLocal (uri : String)
  /-- The path leaves the directory that is served. -/
  | outside (uri root : String)
  /-- The path goes through a symbolic link whose target is missing. -/
  | danglingLink (uri : String)
  | deletesServedRoot (uri : String)
deriving DecidableEq, Repr

namespace HostError

def kind : HostError → FailureKind
  | .notFound _ => .notFound
  | .alreadyExists _ => .alreadyExists
  | .notADirectory _ => .notADirectory
  | .isADirectory _ => .isADirectory
  | .dotSegment _ => .unavailable
  | .deletesRoot _ => .permissionDenied
  | .renamesRoot => .permissionDenied
  | .notEmpty _ => .other
  | .movesIntoItself .. => .other
  | .badContent _ => .other
  | .system cause => cause.kind
  | .systemAt cause _ => cause.kind
  | .badUri .. => .unavailable
  | .foreignScheme .. => .unavailable
  | .notLocal _ => .unavailable
  | .outside .. => .permissionDenied
  | .danglingLink _ => .permissionDenied
  | .deletesServedRoot _ => .permissionDenied

/-- The wording of a cause. What is wrong with base64 text is not told apart. -/
def message : HostError → String
  | .notFound uri => "file not found: " ++ uri
  | .alreadyExists uri => "file exists: " ++ uri
  | .notADirectory uri => "not a directory: " ++ uri
  | .isADirectory uri => "is a directory: " ++ uri
  | .dotSegment uri => "relative path segments are not supported: " ++ uri
  | .deletesRoot uri => "cannot delete the root directory: " ++ uri
  | .renamesRoot => "cannot rename the root directory"
  | .notEmpty uri => "directory not empty: " ++ uri
  | .movesIntoItself source target =>
    "cannot move " ++ source ++ " into itself (" ++ target ++ ")"
  | .badContent uri => "invalid base64 content for " ++ uri ++ ": <base64>"
  | .system cause => cause.text
  | .systemAt cause uri => uri ++ ": " ++ cause.text
  | .badUri uri cause => "invalid URI " ++ uri ++ ": " ++ cause
  | .foreignScheme scheme uri =>
    "unsupported scheme '" ++ scheme ++ "' for the local file system: " ++ uri
  | .notLocal uri => "not a local path: " ++ uri
  | .outside uri root => uri ++ " is outside of " ++ root
  | .danglingLink uri => uri ++ " goes through a dangling symbolic link"
  | .deletesServedRoot uri => "cannot delete the served root: " ++ uri

end HostError

end FileBridge
