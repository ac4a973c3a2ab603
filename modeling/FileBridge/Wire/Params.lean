import FileBridge.Codec.Record

/-!
The parameters of the methods.
-/
namespace FileBridge

structure UriParams where
  uri : String
deriving DecidableEq, Repr

def UriParams.members : Members (String × Unit) :=
  .cons (.required "uri" .text) .nil

def UriParams.codec : Codec UriParams :=
  .record "UriParams" false members (fun (uri, _) => ⟨uri⟩) fun p => (p.uri, ())

/-- The parameters for writing a file; the content is base64. -/
structure WriteFileParams where
  uri : String
  content : String
  create : Bool
  overwrite : Bool
deriving DecidableEq, Repr

def WriteFileParams.members : Members (String × String × Bool × Bool × Unit) :=
  .cons (.required "uri" .text) <| .cons (.required "content" .text) <|
    .cons (.required "create" .flag) <| .cons (.required "overwrite" .flag) .nil

def WriteFileParams.codec : Codec WriteFileParams :=
  .record "WriteFileParams" false members
    (fun (uri, content, create, overwrite, _) => ⟨uri, content, create, overwrite⟩)
    fun p => (p.uri, p.content, p.create, p.overwrite, ())

structure RemoveParams where
  uri : String
  recursive : Bool
deriving DecidableEq, Repr

def RemoveParams.members : Members (String × Bool × Unit) :=
  .cons (.required "uri" .text) <| .cons (.defaulted "recursive" .flag false) .nil

def RemoveParams.codec : Codec RemoveParams :=
  .record "RemoveParams" false members (fun (uri, recursive, _) => ⟨uri, recursive⟩)
    fun p => (p.uri, p.recursive, ())

structure RenameParams where
  source : String
  target : String
  overwrite : Bool
deriving DecidableEq, Repr

def RenameParams.members : Members (String × String × Bool × Unit) :=
  .cons (.required "from" .text) <| .cons (.required "to" .text) <|
    .cons (.defaulted "overwrite" .flag false) .nil

def RenameParams.codec : Codec RenameParams :=
  .record "RenameParams" false members
    (fun (source, target, overwrite, _) => ⟨source, target, overwrite⟩)
    fun p => (p.source, p.target, p.overwrite, ())

/-- The parameters for opening and closing a watch; the peer chooses the watcher's name. -/
structure WatchParams where
  uri : String
  watcher : String
deriving DecidableEq, Repr

def WatchParams.members : Members (String × String × Unit) :=
  .cons (.required "uri" .text) <| .cons (.required "watcher" .text) .nil

def WatchParams.codec : Codec WatchParams :=
  .record "WatchParams" false members (fun (uri, watcher, _) => ⟨uri, watcher⟩)
    fun p => (p.uri, p.watcher, ())

end FileBridge
