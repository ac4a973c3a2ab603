import FileBridge.Tree.Basic

/-!
The causes for which a tree refuses an operation. They concern its entries and their paths; no
operation fails for a cause that only disks have.
-/
namespace FileBridge

/-- A cause that concerns the entries of a tree or their paths. -/
def HostError.isOfTree : HostError → Bool
  | .notFound _ | .alreadyExists _ | .notADirectory _ | .isADirectory _ | .dotSegment _
  | .deletesRoot _ | .renamesRoot | .notEmpty _ | .movesIntoItself .. | .badContent _ => true
  | _ => false

/-- A success, or a failure for a cause that a tree has. -/
def TreeOutcome {α : Type} : Except HostError α → Prop
  | .ok _ => True
  | .error cause => cause.isOfTree = true

theorem TreeOutcome.map {α β : Type} {r : Except HostError α} (h : TreeOutcome r) (f : α → β) :
    TreeOutcome (r.map f) := by
  cases r with
  | ok a => trivial
  | error cause => exact h

theorem TreeOutcome.error {α β : Type} {r : Except HostError α} (h : TreeOutcome r)
    {cause : HostError} (hr : r = .error cause) :
    TreeOutcome (.error cause : Except HostError β) := by
  rw [hr] at h
  exact h

theorem Path.treeOutcome_ofUri (uri : String) : TreeOutcome (ofUri uri) := by
  unfold ofUri
  simp only
  split
  · trivial
  split
  · rfl
  split <;> trivial

theorem Entries.treeOutcome_checkParent (e : Entries) (path uri : String) :
    TreeOutcome (e.checkParent path uri) := by
  unfold checkParent
  split
  · trivial
  split <;> rfl

namespace Edit

variable (e : Entries) (path uri : String)

theorem treeOutcome_create (entry : Entry) : TreeOutcome (create e path uri entry).result := by
  unfold create
  cases hcheck : e.checkParent path uri with
  | error cause => exact (Entries.treeOutcome_checkParent e path uri).error hcheck
  | ok => trivial

theorem treeOutcome_write (now : Int) (content : List UInt8) (mayCreate mayOverwrite : Bool) :
    TreeOutcome (write now content mayCreate mayOverwrite path uri e).result := by
  unfold write
  split
  · rfl
  split
  · split
    · rfl
    split
    · rfl
    · trivial
  · split
    · rfl
    · exact treeOutcome_create e path uri _

theorem treeOutcome_createDirectory (now : Int) :
    TreeOutcome (createDirectory now path uri e).result := by
  unfold createDirectory
  split
  · rfl
  · exact treeOutcome_create e path uri _

theorem treeOutcome_delete (recursive : Bool) :
    TreeOutcome (delete recursive path uri e).result := by
  unfold delete
  split
  · rfl
  split
  · rfl
  simp only
  split
  · rfl
  · trivial

theorem treeOutcome_rename (mayOverwrite : Bool) (source target sourceUri targetUri : String) :
    TreeOutcome (rename mayOverwrite source target sourceUri targetUri e).result := by
  unfold rename
  split
  · rfl
  split
  · rfl
  split
  · trivial
  split
  · rfl
  split
  · rfl
  simp only
  split
  next cause hcheck => exact (Entries.treeOutcome_checkParent _ target targetUri).error hcheck
  · trivial

end Edit

namespace Tree

variable (t : Tree) (uri : String)

theorem treeOutcome_look {α : Type} {f : String → Entries → Except HostError α}
    (h : ∀ path, TreeOutcome (f path t.entries)) : TreeOutcome (t.look uri f).1 := by
  unfold look
  cases hpath : Path.ofUri uri with
  | error cause => exact (Path.treeOutcome_ofUri uri).error hpath
  | ok path => exact h path

theorem treeOutcome_edit {f : String → Entries → Edit}
    (h : ∀ path, TreeOutcome (f path t.entries).result) : TreeOutcome (t.edit uri f).1 := by
  unfold edit
  cases hpath : Path.ofUri uri with
  | error cause => exact (Path.treeOutcome_ofUri uri).error hpath
  | ok path => exact h path

theorem treeOutcome_stat : TreeOutcome (t.stat uri).1 := by
  apply treeOutcome_look
  intro path
  unfold metadataAt
  split
  · trivial
  split
  · trivial
  · rfl

theorem treeOutcome_read : TreeOutcome (t.read uri).1 := by
  apply treeOutcome_look
  intro path
  unfold contentAt
  split
  · rfl
  split
  · trivial
  · rfl
  · rfl

theorem treeOutcome_list : TreeOutcome (t.list uri).1 := by
  apply treeOutcome_look
  intro path
  unfold listingAt
  split
  · rfl
  split
  · rfl
  · trivial

theorem treeOutcome_write (content : List UInt8) (mayCreate mayOverwrite : Bool) :
    TreeOutcome (t.write uri content mayCreate mayOverwrite).1 :=
  treeOutcome_edit t uri fun path =>
    Edit.treeOutcome_write t.entries path uri t.now content mayCreate mayOverwrite

theorem treeOutcome_createDirectory : TreeOutcome (t.createDirectory uri).1 :=
  treeOutcome_edit t uri fun path => Edit.treeOutcome_createDirectory t.entries path uri t.now

theorem treeOutcome_delete (recursive : Bool) : TreeOutcome (t.delete uri recursive).1 :=
  treeOutcome_edit t uri fun path => Edit.treeOutcome_delete t.entries path uri recursive

theorem treeOutcome_rename (source target : String) (mayOverwrite : Bool) :
    TreeOutcome (t.rename source target mayOverwrite).1 := by
  unfold rename
  cases hold : Path.ofUri source with
  | error cause => exact (Path.treeOutcome_ofUri source).error hold
  | ok old =>
    cases hnew : Path.ofUri target with
    | error cause => exact (Path.treeOutcome_ofUri target).error hnew
    | ok new => exact Edit.treeOutcome_rename t.entries mayOverwrite old new source target

theorem treeOutcome_watch : TreeOutcome (t.watch uri).1 := by
  unfold watch
  cases hpath : Path.ofUri uri with
  | error cause => exact (Path.treeOutcome_ofUri uri).error hpath
  | ok path => trivial

end Tree

end FileBridge
