import FileBridge.Tree.Edit
import FileBridge.Proofs.Tree.Scan

/-!
The shape of a tree, and the edits that keep it. Paths are plain texts, so that the entries form a
tree is a fact about them all: each lies in a directory. Filing an entry where no directory is keeps
that, and so does taking out everything at or below a path.
-/
namespace FileBridge

namespace Entries

/-- The entries form a tree: they have proper paths, and each lies in a directory. -/
structure WellFormed (e : Entries) : Prop where
  proper : ∀ {k : String}, e.contains k = true → Path.IsProper k
  parent : ∀ {k : String}, e.contains k = true → e.hasDirectory (Path.parent k) = true

theorem hasDirectory_iff {e : Entries} {path : String} :
    e.hasDirectory path = true ↔
      path = Path.root ∨ ∃ entry, e.get? path = some entry ∧ entry.isDirectory = true := by
  unfold hasDirectory
  cases e.get? path <;> simp

theorem hasDirectory_congr {e e' : Entries} {path : String}
    (h : path ≠ Path.root → e'.get? path = e.get? path) :
    e'.hasDirectory path = e.hasDirectory path := by
  by_cases hroot : path = Path.root
  · simp [hasDirectory, hroot]
  · simp [hasDirectory, h hroot]

theorem wellFormed_empty : WellFormed (OrderedMap.empty : Entries) where
  proper h := by simp [OrderedMap.contains] at h
  parent h := by simp [OrderedMap.contains] at h

/-- An entry strictly below a path makes that path a directory. -/
theorem WellFormed.hasDirectory_of_below {e : Entries} (h : e.WellFormed) {path k : String}
    (hpath : Path.IsProper path) (hk : e.contains k = true)
    (hwithin : Path.isWithin k path = true) (hne : k ≠ path) : e.hasDirectory path = true := by
  -- Going up from `k` stays at or below `path`, so `path` is reached.
  induction hlength : k.length using Nat.strongRecOn generalizing k with
  | ind n ih =>
    have hparent := h.parent hk
    by_cases heq : Path.parent k = path
    · exact heq ▸ hparent
    · have hup := Path.isWithin_parent hpath hwithin hne
      have hlt := Path.parent_length_lt (h.proper hk)
      rcases hasDirectory_iff.mp hparent with hroot | ⟨entry, hget, -⟩
      · rw [hroot, Path.not_isWithin_root hpath] at hup
        cases hup
      · exact ih _ (hlength ▸ hlt) (OrderedMap.contains_iff.mpr ⟨entry, hget⟩) hup heq rfl

/-- Filing an entry in a directory keeps the shape, unless it takes the place of a directory. -/
theorem WellFormed.insert {e : Entries} (h : e.WellFormed) {path : String} (entry : Entry)
    (hpath : Path.IsProper path) (hparent : e.hasDirectory (Path.parent path) = true)
    (hplace : e.hasDirectory path = false) : WellFormed (e.insert path entry) := by
  have hkeep {k : String} (hk : e.hasDirectory k = true) :
      Entries.hasDirectory (e.insert path entry) k = true := by
    have hne : k ≠ path := by
      rintro rfl
      simp [hk] at hplace
    rw [hasDirectory_congr (e := e) fun _ => by simp [hne]]
    exact hk
  have hold {k : String} (hne : k ≠ path)
      (hk : OrderedMap.contains (e.insert path entry) k = true) : e.contains k = true := by
    simpa [OrderedMap.contains, hne] using hk
  constructor
  · intro k hk
    by_cases hne : k = path
    · exact hne ▸ hpath
    · exact h.proper (hold hne hk)
  · intro k hk
    by_cases hne : k = path
    · exact hne ▸ hkeep hparent
    · exact hkeep (h.parent (hold hne hk))

/-- Without everything at or below a path the other entries still form a tree. -/
theorem WellFormed.prune {e e' : Entries} (h : e.WellFormed) {path : String}
    (hpath : Path.IsProper path)
    (he : ∀ k, e'.get? k = if Path.isWithin k path then none else e.get? k) : e'.WellFormed := by
  have hold {k : String} (hk : e'.contains k = true) :
      Path.isWithin k path = false ∧ e.contains k = true := by
    rw [OrderedMap.contains, he k] at hk
    split at hk
    · simp at hk
    next hnot => exact ⟨by simpa using hnot, hk⟩
  constructor
  · intro k hk
    exact h.proper (hold hk).2
  · intro k hk
    obtain ⟨hnot, hk⟩ := hold hk
    have hup : Path.isWithin (Path.parent k) path = false := by
      rw [Bool.eq_false_iff] at hnot ⊢
      exact fun hw => hnot (Path.isWithin_of_parent (h.proper hk) hpath hw)
    rw [hasDirectory_congr (e := e) fun _ => by simp [he, hup]]
    exact h.parent hk

end Entries

namespace Edit

/-- What every edit keeps to: the shape of the tree stays, and a refused edit does nothing. -/
structure Lawful (edit : Edit) (e : Entries) : Prop where
  wellFormed : edit.entries.WellFormed
  eq_refused : ∀ {cause : HostError}, edit.result = .error cause → edit = refused e cause

variable {e : Entries}

theorem lawful_refused (h : e.WellFormed) (cause : HostError) : (refused e cause).Lawful e where
  wellFormed := h
  eq_refused hcause := by
    obtain rfl := Except.error.inj hcause
    rfl

theorem lawful_done {e' : Entries} (h : e'.WellFormed) (changes : List (ChangeKind × String)) :
    (done e' changes).Lawful e where
  wellFormed := h
  eq_refused hcause := by cases hcause

theorem checkParent_eq_ok_iff {path uri : String} :
    e.checkParent path uri = .ok () ↔ e.hasDirectory (Path.parent path) = true := by
  unfold Entries.checkParent
  split
  · simp_all
  · split <;> simp_all

theorem hasDirectory_of_get?_eq_none {path : String} (hpath : Path.IsProper path)
    (hget : e.get? path = none) : e.hasDirectory path = false := by
  simp [Entries.hasDirectory, hget, hpath.ne_root]

theorem lawful_create (h : e.WellFormed) {path : String} (uri : String) (entry : Entry)
    (hpath : Path.IsProper path) (hget : e.get? path = none) :
    (create e path uri entry).Lawful e := by
  unfold create
  cases hcheck : e.checkParent path uri with
  | error cause => exact lawful_refused h cause
  | ok =>
    have hparent := checkParent_eq_ok_iff.mp hcheck
    exact lawful_done (h.insert entry hpath hparent (hasDirectory_of_get?_eq_none hpath hget)) _

theorem lawful_write (h : e.WellFormed) (now : Int) (content : List UInt8)
    (mayCreate mayOverwrite : Bool) {path : String} (uri : String)
    (hpath : path = Path.root ∨ Path.IsProper path) :
    (write now content mayCreate mayOverwrite path uri e).Lawful e := by
  unfold write
  split
  · exact lawful_refused h _
  next hroot =>
    have hproper := hpath.resolve_left hroot
    split
    next entry hget =>
      split
      · exact lawful_refused h _
      next hfile =>
        split
        · exact lawful_refused h _
        · have hcontains := OrderedMap.contains_iff.mpr ⟨entry, hget⟩
          have hplace : e.hasDirectory path = false := by
            simpa [Entries.hasDirectory, hget, hroot] using hfile
          exact lawful_done (h.insert _ hproper (h.parent hcontains) hplace) _
    next hget =>
      split
      · exact lawful_refused h _
      · exact lawful_create h uri _ hproper hget

theorem lawful_createDirectory (h : e.WellFormed) (now : Int) {path : String} (uri : String)
    (hpath : path = Path.root ∨ Path.IsProper path) :
    (createDirectory now path uri e).Lawful e := by
  unfold createDirectory
  split
  · exact lawful_refused h _
  next hhas =>
    simp only [Entries.has, Bool.or_eq_true, decide_eq_true_eq, not_or] at hhas
    have hget : e.get? path = none := by
      simpa [OrderedMap.contains] using hhas.2
    exact lawful_create h uri _ (hpath.resolve_left hhas.1) hget

theorem lawful_delete (h : e.WellFormed) (recursive : Bool) {path : String} (uri : String)
    (hpath : path = Path.root ∨ Path.IsProper path) : (delete recursive path uri e).Lawful e := by
  unfold delete
  split
  · exact lawful_refused h _
  next hroot =>
    split
    · exact lawful_refused h _
    · simp only
      split
      · exact lawful_refused h _
      · refine lawful_done (h.prune (hpath.resolve_left hroot) ?_) _
        apply Entries.get?_eraseAll_subtree hroot
        intro k
        simp [or_comm]

end Edit

end FileBridge
