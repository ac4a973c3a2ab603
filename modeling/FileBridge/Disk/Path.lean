import FileBridge.Disk.Basic

/-!
Paths and their resolution. Between the slashes of a path stand names; `.` stays where it is and
`..` goes to the directory above. A symbolic link on the way is followed, at most forty of them in
all.
-/
namespace FileBridge

def slash : UInt8 :=
  47

def dot : Name :=
  [46]

def dotDot : Name :=
  [46, 46]

/-- A path: where it starts, its names, and whether a slash follows them. -/
structure DiskPath where
  absolute : Bool
  names : List Name
  slashed : Bool
deriving DecidableEq, Repr

namespace DiskPath

def pieces (b : List UInt8) : List Name :=
  b.foldr (fun c pieces =>
    if c = slash then [] :: pieces
    else
      match pieces with
      | [] => [[c]]
      | piece :: rest => (c :: piece) :: rest) [[]]

def joined : List Name → List UInt8
  | [] => []
  | first :: rest => first ++ rest.flatMap (slash :: ·)

def ofBytes (b : List UInt8) : DiskPath :=
  let names := (pieces b).filter (· ≠ [])
  ⟨b.head? = some slash, names, names ≠ [] && b.getLast? = some slash⟩

def bytesOf (place : Location) : List UInt8 :=
  if place = [] then [slash] else place.flatMap (slash :: ·)

def ofLocation (place : Location) : DiskPath :=
  ⟨true, place, false⟩

/-- A piece that stays where it is. -/
def isIdle (piece : Name) : Bool :=
  piece = [] || piece = dot

/-- A path from the top without its last name. What is idle on both sides of that name is left out
as well; all other bytes stay. -/
def parent (b : List UInt8) : List UInt8 :=
  let kept := ((((pieces b).reverse.dropWhile isIdle).drop 1).dropWhile isIdle).reverse
  if kept = [] then [slash] else joined kept

end DiskPath

/-- What a path leads to: an entry, or a name that is free in a directory. -/
inductive Place where
  | found (place : Location)
  | free (directory : Location) (name : Name)
deriving DecidableEq, Repr

/-- The last name of a path: one that an entry can have, or one that stands for another place. -/
inductive LastName where
  | name (n : Name)
  | here
  | above
  | top
deriving DecidableEq, Repr

namespace Disk

def nameLimit : Nat := 255

def pathLimit : Nat := 4095

def linkLimit : Nat := 40

/-- Goes from a location along names, following links. If a slash follows the names, they have to
lead to a directory, and no file can be created there. -/
def walk (d : Disk) (creates : Bool) (links : Nat) (here : Location) (names : List Name)
    (slashed : Bool) : Except DiskError Place :=
  match names with
  | [] => if slashed && !d.isDirectory here then .error .notADirectory else .ok (.found here)
  | name :: rest =>
    if !d.isDirectory here then .error .notADirectory
    else if name = dot then d.walk creates links here rest slashed
    else if name = dotDot then d.walk creates links here.dropLast rest slashed
    else if creates && slashed && rest = [] then .error .isADirectory
    else if nameLimit < name.length then .error .nameTooLong
    else
      match d.node? (here ++ [name]) with
      | none => if rest = [] then .ok (.free here name) else .error .notFound
      | some (.link target) =>
        match links with
        | 0 => .error .tooManyLinks
        | links + 1 =>
          let path := DiskPath.ofBytes target
          if target = [] then .error .notFound
          else
            d.walk creates links (if path.absolute then [] else here) (path.names ++ rest)
              (slashed || (rest = [] && path.slashed))
      | some _ => d.walk creates links (here ++ [name]) rest slashed
termination_by (links, names.length)

def startOf (d : Disk) (path : DiskPath) : Location :=
  if path.absolute then [] else d.current

/-- Bytes that can be a path at all, however long. -/
def checkBytes (b : List UInt8) : Except DiskError DiskPath :=
  if b.contains 0 then .error .zeroByte
  else if b = [] then .error .notFound
  else .ok (.ofBytes b)

/-- Bytes that a call takes for a path. -/
def checkPath (b : List UInt8) : Except DiskError DiskPath := do
  let path ← checkBytes b
  if pathLimit < b.length then .error .nameTooLong else .ok path

/-- What a path leads to, with a link at its end followed. -/
def follow (d : Disk) (path : DiskPath) : Except DiskError Place :=
  d.walk false linkLimit (d.startOf path) path.names path.slashed

def followToWrite (d : Disk) (path : DiskPath) : Except DiskError Place :=
  d.walk true linkLimit (d.startOf path) path.names path.slashed

def enter (d : Disk) (path : DiskPath) : Except DiskError (Location × LastName) :=
  match path.names.getLast? with
  | none => .ok ([], .top)
  | some last => do
    match ← d.walk false linkLimit (d.startOf path) path.names.dropLast true with
    | .free .. => .error .notFound
    | .found l =>
      if last = dot then .ok (l, .here)
      else if last = dotDot then .ok (l, .above)
      else .ok (l, .name last)

def lookUp (d : Disk) (here : Location) (name : Name) : Except DiskError (Option DiskNode) :=
  if nameLimit < name.length then .error .nameTooLong else .ok (d.node? (here ++ [name]))

/-- What a path leads to, with a link at its end left alone, unless a slash follows it. -/
def reach (d : Disk) (path : DiskPath) : Except DiskError Place :=
  if path.slashed then d.follow path
  else do
    match ← d.enter path with
    | (_, .top) => .ok (.found [])
    | (l, .here) => .ok (.found l)
    | (l, .above) => .ok (.found l.dropLast)
    | (l, .name n) =>
      let node ← d.lookUp l n
      .ok (if node.isSome then .found (l ++ [n]) else .free l n)

/-- Whether the rest of a path asks for a directory: it goes up from there, or only dots and slashes
are left. -/
def wantsDirectory (rest : List Name) (slashed : Bool) : Bool :=
  match rest.dropWhile (· = dot) with
  | [] => slashed || rest ≠ []
  | next :: _ => next = dotDot

/-- What has a name at a location, asked for by the path of the location and the name. -/
def ask (d : Disk) (here : Location) (name : Name) (slashed : Bool) :
    Except DiskError (Option DiskNode) :=
  if pathLimit < (DiskPath.bytesOf (here ++ [name])).length + slashed.toNat then
    .error .nameTooLong
  else if !d.isDirectory here then .error .notADirectory
  else d.lookUp here name

/-- The location that names lead to. Every entry on the way is asked for by the path of its own
location, however the names are spelled; and links are read, one after the other. -/
def locate (d : Disk) (links : Nat) (here : Location) (names : List Name) (slashed : Bool) :
    Except DiskError Location :=
  match names with
  | [] => if slashed && !d.isDirectory here then .error .notADirectory else .ok here
  | name :: rest =>
    if name = dot then d.locate links here rest (slashed || rest = [])
    else if name = dotDot then
      if !d.isDirectory here then .error .notADirectory
      else d.locate links here.dropLast rest slashed
    else
      -- It is read as a link first, whatever follows the name.
      match d.ask here name false with
      | .ok (some (.link target)) =>
        match links with
        | 0 => .error .tooManyLinks
        | links + 1 =>
          let path := DiskPath.ofBytes target
          if target = [] then .error .notFound
          else
            d.locate links (if path.absolute then [] else here) (path.names ++ rest)
              (slashed || (rest = [] && path.slashed))
      | _ =>
        match d.ask here name (wantsDirectory rest slashed) with
        | .error e => .error e
        | .ok none => .error .notFound
        | .ok (some _) => d.locate links (here ++ [name]) rest slashed
termination_by (links, names.length)

end Disk

end FileBridge
