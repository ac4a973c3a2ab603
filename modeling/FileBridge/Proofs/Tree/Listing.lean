import FileBridge.Proofs.Tree.Addressed

/-!
What a directory lists. The listing scans the paths that start with the directory's own and keeps
those with no further slash, while a new entry lies in the directory that its path has before the
last slash. The two agree but for one kind of path: after a doubled first slash the text before the
last slash is the root, which does not list such an entry.
-/
namespace FileBridge

namespace Text

theorem afterLast_append {c : Char} (above : List Char) {name : List Char} (h : c ∉ name) :
    afterLast c (above ++ c :: name) = name := by
  have hne : ∀ d ∈ name.reverse, decide (d ≠ c) = true := by
    intro d hd
    have : d ≠ c := fun he => h (he ▸ List.mem_reverse.mp hd)
    simpa using this
  unfold afterLast
  simp only [List.reverse_append, List.reverse_cons, List.append_assoc, List.singleton_append]
  rw [List.takeWhile_append_of_pos hne]
  simp

/-- A common start does not matter for the order. -/
theorem lt_of_append_lt {s a b : List Char} (h : s ++ a < s ++ b) : a < b := by
  induction s with
  | nil => exact h
  | cons c s ih =>
    rcases List.cons_lt_cons_iff.mp h with hlt | ⟨-, hlt⟩
    · exact absurd hlt (Char.lt_irrefl c)
    · exact ih hlt

end Text

namespace Path

/-- The last name of a path. -/
def name (path : String) : String :=
  String.ofList (Text.afterLast '/' path.toList)

/-- A path of one name after a doubled slash. Its parent is the root. -/
def isDoubled (path : String) : Bool :=
  startsWith "//" path && parent path = root

theorem startsWith_iff {start path : String} :
    startsWith start path = true ↔ ∃ rest, path = start ++ rest := by
  rw [startsWith, List.isPrefixOf_iff_prefix]
  constructor
  · rintro ⟨rest, hrest⟩
    exact ⟨String.ofList rest, by rw [← String.toList_inj]; simp [hrest]⟩
  · rintro ⟨rest, rfl⟩
    simp

/-- What stands right below a directory: its stem and a name. -/
def IsChild (path above : String) : Prop :=
  ∃ name, path = stem above ++ name ∧ '/' ∉ name.toList

theorem name_of_isChild {path above last : String} (hpath : path = stem above ++ last)
    (hlast : '/' ∉ last.toList) : name path = last := by
  have hstem : ∃ front, (stem above).toList = front ++ ['/'] := by
    unfold stem
    split
    · exact ⟨[], rfl⟩
    · exact ⟨above.toList, by simp⟩
  obtain ⟨front, hfront⟩ := hstem
  have hlist : path.toList = front ++ '/' :: last.toList := by
    simp [hpath, hfront]
  rw [name, hlist, Text.afterLast_append front hlast, String.ofList_toList]

/-- An entry stands right below its parent, unless its first slash is doubled. -/
theorem isChild_iff {path above : String} (hpath : IsProper path) (habove : above ≠ "") :
    IsChild path above ↔ parent path = above ∧ isDoubled path = false := by
  constructor
  · rintro ⟨last, rfl, hlast⟩
    unfold stem at hpath ⊢
    split at hpath
    next hroot =>
      have hlist : (root ++ last).toList = [] ++ '/' :: last.toList := by simp
      have hparent : parent (root ++ last) = root := by
        simp [parent_of_name hlist hlast]
      refine ⟨by rw [if_pos hroot, hparent, hroot], ?_⟩
      rw [if_pos hroot, isDoubled, Bool.and_eq_false_iff]
      refine .inl ?_
      rw [Bool.eq_false_iff]
      intro hdouble
      obtain ⟨rest, hrest⟩ := startsWith_iff.mp hdouble
      have hlist := congrArg String.toList hrest
      simp only [String.toList_append, root_toList, List.cons_append, List.nil_append] at hlist
      have hlast' : last.toList = '/' :: rest.toList := by simpa using hlist
      exact hlast (hlast' ▸ List.mem_cons_self)
    next hroot =>
      have hlist : (above ++ "/" ++ last).toList = above.toList ++ '/' :: last.toList := by simp
      have hne : above.toList ≠ [] := by simpa using habove
      have hparent : parent (above ++ "/" ++ last) = above := by
        rw [parent_of_name hlist hlast, if_neg hne, String.ofList_toList]
      rw [if_neg hroot]
      exact ⟨hparent, by simp [isDoubled, hparent, hroot]⟩
  · rintro ⟨rfl, hdouble⟩
    obtain ⟨front, last, hlist, hlast, -⟩ := hpath.exists_name
    have hparent := parent_of_name hlist hlast
    refine ⟨String.ofList last, ?_, by simpa using hlast⟩
    rw [← String.toList_inj, String.toList_append, String.toList_ofList, hlist]
    split at hparent
    next hfront => simp [hparent, stem, hfront]
    next hfront =>
      by_cases hroot : parent path = root
      · -- The text before the last slash is a slash, so the path starts with two.
        have hslash : front = ['/'] := by
          rw [← String.toList_ofList (l := front), ← hparent, hroot, root_toList]
        have hstarts : startsWith "//" path = true := by
          rw [startsWith, List.isPrefixOf_iff_prefix, hlist, hslash]
          exact ⟨last, rfl⟩
        simp [isDoubled, hroot, hstarts] at hdouble
      · rw [stem, if_neg hroot, hparent]
        simp

end Path

namespace Entries

variable {e : Entries} {d : String}

theorem child?_of_stem {a : String × Entry} {last : String} (h : a.1 = Path.stem d ++ last) :
    child? d a = if '/' ∈ last.toList then none else some (last, a.2.kind) := by
  simp [child?, h, Path.below_append]

/-- A directory lists the entries that lie in it, but for those with a doubled slash. -/
theorem children_eq_map (h : e.WellFormed) (hd : d ≠ "") :
    e.children d =
      (e.toList.filter fun a => Path.parent a.1 = d && !Path.isDoubled a.1).map
        fun a => (Path.name a.1, a.2.kind) := by
  have hproper : ∀ a ∈ e.toList, Path.IsProper a.1 := fun a ha =>
    h.proper (OrderedMap.contains_iff.mpr ⟨a.2, OrderedMap.get?_eq_some_iff.mpr ha⟩)
  rw [children, scan_eq_filter]
  generalize e.toList = l at hproper
  induction l with
  | nil => rfl
  | cons a rest ih =>
    obtain ⟨ha, hrest⟩ := List.forall_mem_cons.mp hproper
    have hchild := Path.isChild_iff ha hd
    by_cases hstarts : Path.startsWith (Path.stem d) a.1 = true
    · obtain ⟨last, hlast⟩ := Path.startsWith_iff.mp hstarts
      rw [List.filter_cons_of_pos (by simpa using hstarts), List.filterMap_cons,
        child?_of_stem hlast, ih hrest]
      by_cases hslash : '/' ∈ last.toList
      · have hnot : ¬(Path.parent a.1 = d ∧ Path.isDoubled a.1 = false) := by
          rw [← hchild]
          rintro ⟨last', hlast', hslash'⟩
          rw [hlast] at hlast'
          exact hslash' (Path.append_right_inj hlast' ▸ hslash)
        rw [if_pos hslash, List.filter_cons_of_neg (by simpa using hnot)]
      · have hin := hchild.mp ⟨last, hlast, hslash⟩
        rw [if_neg hslash, List.filter_cons_of_pos (by simpa using hin), List.map_cons,
          Path.name_of_isChild hlast hslash]
    · have hnot : ¬(Path.parent a.1 = d ∧ Path.isDoubled a.1 = false) := by
        rw [← hchild]
        rintro ⟨last, hlast, -⟩
        exact hstarts (Path.startsWith_iff.mpr ⟨last, hlast⟩)
      rw [List.filter_cons_of_neg (by simpa using hstarts),
        List.filter_cons_of_neg (by simpa using hnot), ih hrest]

/-- The names of a listing ascend. -/
theorem pairwise_children (e : Entries) (d : String) :
    (e.children d).Pairwise fun a b => a.1 < b.1 := by
  rw [children, scan_eq_filter, List.pairwise_filterMap]
  refine (e.ascending.filter _).imp_of_mem fun {a b} ha hb hlt => ?_
  obtain ⟨last, hlast⟩ := Path.startsWith_iff.mp (List.mem_filter.mp ha).2
  obtain ⟨last', hlast'⟩ := Path.startsWith_iff.mp (List.mem_filter.mp hb).2
  rw [child?_of_stem hlast, child?_of_stem hlast']
  have hnames : last.toList < last'.toList := by
    rw [hlast, hlast'] at hlt
    refine Text.lt_of_append_lt (s := (Path.stem d).toList) ?_
    rw [← String.toList_append, ← String.toList_append]
    exact hlt
  intro x hx y hy
  split at hx
  · cases hx
  split at hy
  · cases hy
  cases hx
  cases hy
  exact hnames

end Entries

namespace Tree

variable {t : Tree} {uri d : String}

theorem stat_of_get? {k : String} {entry : Entry} (hk : Path.IsProper k)
    (hget : t.entries.get? k = some entry) (huri : Path.ofUri uri = .ok k) :
    (t.stat uri).1 = .ok entry.metadata := by
  simp only [stat, look, huri, metadataAt, if_neg hk.ne_root, count, hget]

/-- A directory of a tree that a run ends in lists, in ascending order of the names, the last name
and the kind of each entry whose parent it is, and nothing else; but the root does not list the
entries whose path starts with two slashes. The kind is the one that the metadata of the entry have,
which a URI gives access to. -/
theorem list_gives_children (h : t.Reachable) (hd : Path.ofUri uri = .ok d)
    (hdirectory : t.entries.hasDirectory d = true) :
    ∃ listing, (t.list uri).1 = .ok listing ∧
      listing = (t.entries.toList.filter fun a => Path.parent a.1 = d && !Path.isDoubled a.1).map
        (fun a => (Path.name a.1, a.2.kind)) ∧
      listing.Pairwise (fun a b => a.1 < b.1) ∧
      ∀ k entry, t.entries.get? k = some entry → Path.parent k = d → Path.isDoubled k = false →
        (Path.name k, entry.kind) ∈ listing ∧ (∃ uri', Path.ofUri uri' = .ok k) ∧
        ∀ uri', Path.ofUri uri' = .ok k →
          ∃ metadata, (t.stat uri').1 = .ok metadata ∧ metadata.kind = entry.kind := by
  have hwf := h.wellFormed.entries
  have hne : d ≠ "" := by
    rcases Path.ofUri_proper hd with rfl | hproper
    · decide
    · exact hproper.ne_empty
  have hhas : t.entries.has d = true := by
    rcases Entries.hasDirectory_iff.mp hdirectory with hroot | ⟨entry, hget, -⟩
    · simp [Entries.has, hroot]
    · simp [Entries.has, OrderedMap.contains, hget]
  have hlisting := Entries.children_eq_map hwf hne
  refine ⟨t.entries.children d, ?_, hlisting, Entries.pairwise_children t.entries d, ?_⟩
  · simp [list, look, hd, listingAt, count, hhas, hdirectory]
  · intro k entry hget hparent hdoubled
    have hproper := hwf.proper (OrderedMap.contains_iff.mpr ⟨entry, hget⟩)
    refine ⟨?_, h.exists_uri hget, fun uri' huri =>
      ⟨entry.metadata, stat_of_get? hproper hget huri, rfl⟩⟩
    rw [hlisting]
    refine List.mem_map.mpr ⟨(k, entry), List.mem_filter.mpr ?_, rfl⟩
    exact ⟨OrderedMap.get?_eq_some_iff.mp hget, by simp [hparent, hdoubled]⟩

/-- The directory `/a` lists its file and its directory, not what lies deeper or beside it. -/
theorem list_gives_children_nested :
    let t := run [.perform (.createDirectory "mem:/a"), .perform (.createDirectory "mem:/a/d"),
      .perform (.write "mem:/a/d/deep" [1] true false), .perform (.write "mem:/a!" [] true false),
      .perform (.write "mem:/a/b" [2] true false)] (empty 0)
    t.Reachable ∧ t.entries.hasDirectory "/a" = true ∧
      ∃ listing, (t.list "mem:/a/").1 = .ok listing ∧
        listing = [("b", .file), ("d", .directory)] := by
  intro t
  have h : t.Reachable := ⟨0, _, rfl⟩
  have hd : Path.ofUri "mem:/a/" = .ok "/a" := rfl
  have hdirectory : t.entries.hasDirectory "/a" = true := rfl
  obtain ⟨listing, hlist, heq, -⟩ := list_gives_children h hd hdirectory
  exact ⟨h, hdirectory, listing, hlist, heq⟩

/-- The file `//x` lies in the root, has metadata, and is not listed. -/
theorem doubled_entry_unlisted :
    let t := run [.perform (.write "mem:////x" [7] true false)] (empty 0)
    t.Reachable ∧ t.entries.get? "//x" = some ⟨.file [7], 0, 0⟩ ∧ Path.parent "//x" = Path.root ∧
      Path.ofUri "mem:/" = .ok Path.root ∧ (t.stat "mem:////x").1 = .ok ⟨.file, 0, 0, 1⟩ ∧
      (t.list "mem:/").1 = .ok [] :=
  ⟨⟨0, _, rfl⟩, rfl, rfl, rfl, rfl, rfl⟩

end Tree

end FileBridge
