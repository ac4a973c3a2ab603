import FileBridge.Host.Error

/-!
A disk: directories, files and symbolic links, each at a location. A location lists the names from
the root directory down, so it has neither links nor dots in it. A path is text that is resolved
against the disk, which may go through links.
-/
namespace FileBridge

abbrev Name : Type :=
  List UInt8

/-- The names from the root directory down to an entry. -/
abbrev Location : Type :=
  List Name

inductive DiskNode where
  | file (content : List UInt8)
  | directory
  /-- A symbolic link to a path. -/
  | link (target : List UInt8)
deriving DecidableEq, Repr

/-- Why the disk refuses a call. -/
inductive DiskError where
  | notFound
  | busy
  | alreadyExists
  | notADirectory
  | isADirectory
  | invalid
  | nameTooLong
  | notEmpty
  | tooManyLinks
  | zeroByte
deriving DecidableEq, Repr

def DiskError.system : DiskError → SystemError
  | .notFound => ⟨.notFound, "No such file or directory (os error 2)"⟩
  | .busy => ⟨.other, "Device or resource busy (os error 16)"⟩
  | .alreadyExists => ⟨.alreadyExists, "File exists (os error 17)"⟩
  | .notADirectory => ⟨.notADirectory, "Not a directory (os error 20)"⟩
  | .isADirectory => ⟨.isADirectory, "Is a directory (os error 21)"⟩
  | .invalid => ⟨.other, "Invalid argument (os error 22)"⟩
  | .nameTooLong => ⟨.other, "File name too long (os error 36)"⟩
  | .notEmpty => ⟨.other, "Directory not empty (os error 39)"⟩
  | .tooManyLinks => ⟨.other, "Too many levels of symbolic links (os error 40)"⟩
  | .zeroByte => ⟨.other, "file name contained an unexpected NUL byte"⟩

/-- A disk. The root directory is always there and is not filed. -/
structure Disk where
  entries : List (Location × DiskNode)
  /-- The directory that paths without a leading slash start from. -/
  current : Location
  /-- What the clock shows. -/
  now : Int

namespace Disk

def node? (d : Disk) (here : Location) : Option DiskNode :=
  if here = [] then some .directory else (d.entries.find? fun a => a.1 = here).map Prod.snd

def isDirectory (d : Disk) (here : Location) : Bool :=
  d.node? here = some .directory

def put (d : Disk) (here : Location) (node : DiskNode) : Disk :=
  { d with entries := (here, node) :: d.entries.filter fun a => a.1 ≠ here }

/-- The disk without what is at a location and below it. -/
def prune (d : Disk) (here : Location) : Disk :=
  { d with entries := d.entries.filter fun a => !here.isPrefixOf a.1 }

/-- The disk without what is below a location. -/
def hollow (d : Disk) (here : Location) : Disk :=
  { d with entries := d.entries.filter fun a => a.1 = here || !here.isPrefixOf a.1 }

def children (d : Disk) (here : Location) : List (Name × DiskNode) :=
  d.entries.filterMap fun (place, node) =>
    match place.getLast? with
    | some name => if place.dropLast = here then some (name, node) else none
    | none => none

/-- The disk after what is at a location, with all below it, has been moved to another one. -/
def transfer (d : Disk) (source target : Location) : Disk :=
  { d with entries := d.entries.map fun (place, node) =>
      if source.isPrefixOf place then (target ++ place.drop source.length, node)
      else (place, node) }

end Disk

end FileBridge
