import FileBridge.Proofs.Local.Stays

/-!
What a path names. The names before the last one lead into a directory, and the last one is looked
up there. Main statements: a path that points at an entry finds it, unless a link is there, and what
is seen at a path and is no directory is what it points at.
-/
namespace FileBridge

/-- The location that a last name stands for, in a directory. -/
def LastName.locate (directory : Location) : LastName → Location
  | .name n => directory ++ [n]
  | .here => directory
  | .above => directory.dropLast
  | .top => []

namespace Disk

variable {d : Disk} {path : List UInt8} {p : DiskPath} {place place' : Location} {node : DiskNode}

/-- A path names a location: the one of its last name, in the directory that it leads into. -/
def Names (d : Disk) (path : List UInt8) (place : Location) : Prop :=
  ∃ p entered, checkPath path = .ok p ∧ d.enter p = .ok entered ∧
    place = entered.2.locate entered.1

/-- A path that ends in a name that an entry can have. -/
structure Points (d : Disk) (path : List UInt8) (p : DiskPath) (place : Location) : Prop where
  check : checkPath path = .ok p
  enter : ∃ directory name, d.enter p = .ok (directory, .name name) ∧ name.length ≤ nameLimit ∧
    place = directory ++ [name]

theorem Names.eq_of_points (h : d.Names path place) (h' : d.Points path p place') :
    place = place' := by
  obtain ⟨p', entered, hcheck, henter, rfl⟩ := h
  obtain ⟨directory, name, henter', -, rfl⟩ := h'.enter
  obtain rfl := Except.ok.inj (hcheck.symm.trans h'.check)
  obtain rfl := Except.ok.inj (henter.symm.trans henter')
  rfl

theorem Points.names (h : d.Points path p place) : d.Names path place := by
  obtain ⟨directory, name, henter, -, rfl⟩ := h.enter
  exact ⟨p, _, h.check, henter, rfl⟩

theorem lookUp_eq_ok_iff {directory : Location} {name : Name} {o : Option DiskNode} :
    d.lookUp directory name = .ok o ↔
      name.length ≤ nameLimit ∧ o = d.node? (directory ++ [name]) := by
  unfold lookUp
  split
  next hlong =>
    constructor
    · intro h
      cases h
    · rintro ⟨hshort, -⟩
      omega
  next hshort =>
    constructor
    · intro h
      cases h
      exact ⟨Nat.le_of_not_lt hshort, rfl⟩
    · rintro ⟨-, rfl⟩
      rfl

/-- What is entered is the root directory, or where the names before the last one lead. -/
theorem enter_cases {entered : Location × LastName} (h : d.enter p = .ok entered) :
    p.names = [] ∧ entered = ([], .top) ∨
      ∃ before last directory, p.names = before ++ [last] ∧
        d.walk false linkLimit (d.startOf p) before true = .ok (.found directory) ∧
        entered = (directory,
          if last = dot then .here else if last = dotDot then .above else .name last) := by
  unfold enter at h
  split at h
  next hnone =>
    cases h
    exact .inl ⟨List.getLast?_eq_none_iff.mp hnone, rfl⟩
  next last hlast =>
    obtain ⟨before, hnames⟩ := List.getLast?_eq_some_iff.mp hlast
    rw [hnames, List.dropLast_concat] at h
    obtain ⟨found, hwalk, h⟩ := exists_of_bind_eq_ok h
    cases found with
    | free l n => cases h
    | found l =>
      refine .inr ⟨before, last, l, hnames, hwalk, ?_⟩
      replace h : (if last = dot then _ else _) = Except.ok entered := h
      split at h
      next hdot =>
        cases h
        rw [if_pos hdot]
      next hdot =>
        rw [if_neg hdot]
        split at h
        next hup =>
          cases h
          rw [if_pos hup]
        next hup =>
          cases h
          rw [if_neg hup]

/-- What is entered is a directory. -/
theorem isDirectory_of_enter {entered : Location × LastName} (h : d.enter p = .ok entered) :
    d.isDirectory entered.1 = true := by
  rcases enter_cases h with ⟨-, rfl⟩ | ⟨before, last, directory, -, hwalk, rfl⟩
  · exact d.isDirectory_nil
  · have happend := d.walk_append linkLimit (d.startOf p) before (List.cons_ne_nil last []) false
      rfl
    rw [hwalk] at happend
    exact happend.1

/-- The names before the last one lead into the directory that is entered. -/
theorem walk_of_enter {directory : Location} {name : Name}
    (h : d.enter p = .ok (directory, .name name)) :
    ∃ before, p.names = before ++ [name] ∧ name ≠ dot ∧ name ≠ dotDot ∧
      d.walk false linkLimit (d.startOf p) before true = .ok (.found directory) := by
  rcases enter_cases h with ⟨-, heq⟩ | ⟨before, last, l, hnames, hwalk, heq⟩
  · cases heq
  · obtain ⟨rfl, hlast⟩ := Prod.mk.inj heq
    split at hlast
    · cases hlast
    next hdot =>
      split at hlast
      · cases hlast
      next hup =>
        cases hlast
        exact ⟨before, hnames, hdot, hup, hwalk⟩

/-- Unless a link is at the end of a path, what it points at is found by following it, if nothing
else is wrong with the path. -/
theorem Points.stat_ne_notFound (h : d.Points path p place) (hnode : d.node? place = some node)
    (hlink : ∀ target, node ≠ .link target) : d.stat path ≠ .error .notFound := by
  obtain ⟨directory, name, henter, -, rfl⟩ := h.enter
  obtain ⟨before, hnames, hdot, hup, hwalk⟩ := walk_of_enter henter
  have happend := d.walk_append linkLimit (d.startOf p) before (List.cons_ne_nil name []) p.slashed
    rfl
  rw [hwalk] at happend
  obtain ⟨-, left, hleft⟩ := happend
  have hfollow : d.follow p = d.walk false left directory [name] p.slashed := by
    rw [follow, hnames, hleft]
  have hleads : d.Leads directory [name] (directory ++ [name]) :=
    .enter hdot hup hnode hlink (.here _)
  rw [stat, h.check, ok_bind, hfollow]
  rcases hleads.walk false left p.slashed with heq | ⟨cause, hcause, heq⟩
  · rw [heq, ok_bind, existing, hnode]
    simp
  · rw [heq]
    intro herror
    cases herror
    exact hcause rfl

/-- What a path points at is seen at it, unless a slash follows. -/
theorem Points.linkStat_eq (h : d.Points path p place) (hslashed : p.slashed = false)
    (hnode : d.node? place = some node) : d.linkStat path = .ok node := by
  obtain ⟨directory, name, henter, hshort, rfl⟩ := h.enter
  have hlook : d.lookUp directory name = .ok (some node) :=
    lookUp_eq_ok_iff.mpr ⟨hshort, hnode.symm⟩
  have hreach : d.reach p = .ok (.found (directory ++ [name])) := by
    simp only [reach, hslashed, Bool.false_eq_true, if_false, henter, ok_bind, hlook,
      Option.isSome_some, if_true]
  rw [linkStat, h.check, ok_bind, hreach, ok_bind, existing, hnode]

theorem WellFormed.isDirectory_dropLast (hdisk : d.WellFormed) (h : d.isDirectory place = true) :
    d.isDirectory place.dropLast = true := by
  rcases List.eq_nil_or_concat place with rfl | ⟨before, name, heq⟩
  · exact h
  · rw [List.concat_eq_append] at heq
    subst heq
    rw [List.dropLast_concat]
    exact hdisk.parent (isDirectory_iff.mp h)

/-- What is seen at a path and is no directory is what the path points at, and no slash follows. -/
theorem points_of_linkStat (hdisk : d.WellFormed) (h : d.linkStat path = .ok node)
    (hleaf : node ≠ .directory) :
    ∃ p place, d.Points path p place ∧ p.slashed = false ∧ d.node? place = some node := by
  obtain ⟨p, hcheck, h⟩ := exists_of_bind_eq_ok h
  obtain ⟨found, hreach, h⟩ := exists_of_bind_eq_ok h
  cases found with
  | free l n => cases h
  | found l =>
    have hnode : d.node? l = some node := by
      simp only [existing] at h
      split at h
      next heq =>
        cases h
        exact heq
      next => cases h
    have hnot : d.isDirectory l = false := by
      simp [isDirectory, hnode, hleaf]
    unfold reach at hreach
    split at hreach
    next hslashed =>
      -- A slash asks for a directory.
      have happend := d.walk_append linkLimit (d.startOf p) p.names (List.cons_ne_nil dot []) false
        hslashed
      rw [follow] at hreach
      rw [hreach] at happend
      exact absurd happend.1 (by simp [hnot])
    next hslashed =>
      obtain ⟨entered, henter, hreach⟩ := exists_of_bind_eq_ok hreach
      have hdirectory := isDirectory_of_enter henter
      obtain ⟨directory, last⟩ := entered
      cases last with
      | top =>
        cases hreach
        exact absurd d.isDirectory_nil (by simp [hnot])
      | here =>
        cases hreach
        exact absurd hdirectory (by simp [hnot])
      | above =>
        cases hreach
        exact absurd (hdisk.isDirectory_dropLast hdirectory) (by simp [hnot])
      | name n =>
        obtain ⟨o, hlook, hreach⟩ := exists_of_bind_eq_ok hreach
        obtain ⟨hshort, rfl⟩ := lookUp_eq_ok_iff.mp hlook
        replace hreach := Except.ok.inj hreach
        split at hreach
        · cases hreach
          exact ⟨p, _, ⟨hcheck, directory, n, henter, hshort, rfl⟩, by simpa using hslashed, hnode⟩
        · cases hreach

end Disk

end FileBridge
