import FileBridge.Disk.Path

/-!
The calls that a disk answers. Each takes paths and tells what went wrong, or does its work.
-/
namespace FileBridge.Disk

abbrev Change : Type :=
  Except DiskError Unit × Disk

def existing (d : Disk) : Place → Except DiskError DiskNode
  | .free .. => .error .notFound
  | .found l =>
    match d.node? l with
    | some node => .ok node
    | none => .error .notFound

/-- What is at a path, with a link at its end followed. -/
def stat (d : Disk) (path : List UInt8) : Except DiskError DiskNode := do
  d.existing (← d.follow (← checkPath path))

/-- What is at a path itself. -/
def linkStat (d : Disk) (path : List UInt8) : Except DiskError DiskNode := do
  d.existing (← d.reach (← checkPath path))

/-- The location that a path leads to. The path itself may be of any length. -/
def canonical (d : Disk) (path : List UInt8) : Except DiskError Location := do
  let p ← checkBytes path
  d.locate linkLimit (d.startOf p) p.names p.slashed

def exists? (d : Disk) (path : List UInt8) : Except DiskError Bool :=
  match d.stat path with
  | .ok _ => .ok true
  | .error .notFound => .ok false
  | .error e => .error e

def content (d : Disk) (path : List UInt8) : Except DiskError (List UInt8) := do
  match ← d.stat path with
  | .file content => .ok content
  | _ => .error .isADirectory

def readDirectory (d : Disk) (path : List UInt8) : Except DiskError (List (Name × DiskNode)) := do
  match ← d.follow (← checkPath path) with
  | .free .. => .error .notFound
  | .found l => if d.isDirectory l then .ok (d.children l) else .error .notADirectory

/-- A call that does its work at once or not at all. -/
def attempt (d : Disk) (r : Except DiskError Disk) : Change :=
  match r with
  | .ok d => (.ok (), d)
  | .error e => (.error e, d)

def write (d : Disk) (path content : List UInt8) : Change :=
  d.attempt do
    match ← d.followToWrite (← checkPath path) with
    | .free l n => .ok (d.put (l ++ [n]) (.file content))
    | .found l => if d.isDirectory l then .error .isADirectory else .ok (d.put l (.file content))

def makeDirectory (d : Disk) (path : List UInt8) : Change :=
  d.attempt do
    match ← d.enter (← checkPath path) with
    | (l, .name n) =>
      if (← d.lookUp l n).isSome then .error .alreadyExists
      else .ok (d.put (l ++ [n]) .directory)
    | _ => .error .alreadyExists

def makeLink (d : Disk) (target path : List UInt8) : Change :=
  d.attempt do
    let _ ← checkPath target
    let p ← checkPath path
    match ← d.enter p with
    | (l, .name n) =>
      if (← d.lookUp l n).isSome then .error .alreadyExists
      else if p.slashed then .error .notFound
      else .ok (d.put (l ++ [n]) (.link target))
    | _ => .error .alreadyExists

def unlink (d : Disk) (path : List UInt8) : Change :=
  d.attempt do
    let p ← checkPath path
    match ← d.enter p with
    | (l, .name n) =>
      match ← d.lookUp l n with
      | none => .error .notFound
      | some .directory => .error .isADirectory
      | some _ => if p.slashed then .error .notADirectory else .ok (d.prune (l ++ [n]))
    | _ => .error .isADirectory

def removeDirectory (d : Disk) (path : List UInt8) : Change :=
  d.attempt do
    match ← d.enter (← checkPath path) with
    | (_, .top) => .error .busy
    | (_, .here) => .error .invalid
    | (_, .above) => .error .notEmpty
    | (l, .name n) =>
      match ← d.lookUp l n with
      | none => .error .notFound
      | some .directory =>
        if d.children (l ++ [n]) = [] then .ok (d.prune (l ++ [n])) else .error .notEmpty
      | some _ => .error .notADirectory

/-- Removes a directory with all below it. What is below goes first; if the path then leads nowhere
any more, that is fine. -/
def removeAll (d : Disk) (path : List UInt8) : Change :=
  match checkPath path >>= d.reach with
  | .error e => (.error e, d)
  | .ok (.free ..) => (.error .notFound, d)
  | .ok (.found l) =>
    match (d.hollow l).removeDirectory path with
    | (.error .notFound, d) => (.ok (), d)
    | change => change

/-- Whether an entry may take the place of what is at its target. -/
def checkReplace (d : Disk) (node : DiskNode) (target : Location) : Except DiskError Unit :=
  match node, d.node? target with
  | _, none => .ok ()
  | .directory, some .directory => if d.children target = [] then .ok () else .error .notEmpty
  | .directory, some _ => .error .notADirectory
  | _, some .directory => .error .isADirectory
  | _, some _ => .ok ()

def rename (d : Disk) (source target : List UInt8) : Change :=
  d.attempt do
    let p ← checkPath source
    let q ← checkPath target
    match ← d.enter p, ← d.enter q with
    | (l, .name m), (k, .name n) =>
      let old := l ++ [m]
      let new := k ++ [n]
      match ← d.lookUp l m with
      | none => .error .notFound
      | some node => do
        let _ ← d.lookUp k n
        if node ≠ .directory && (p.slashed || q.slashed) then .error .notADirectory
        -- Nothing is moved to below itself, or in place of what it lies in.
        else if old.isPrefixOf new && old ≠ new then .error .invalid
        else if new.isPrefixOf old && old ≠ new then .error .notEmpty
        else if old = new then .ok d
        else do
          d.checkReplace node new
          .ok ((d.prune new).transfer old new)
    | _, _ => .error .busy

end FileBridge.Disk
