import FileBridge.Proofs.Local.Points

/-!
Paths on a disk without links. Such a path is resolved to the names as they stand, and what can keep
it from being so can be told from the disk: a file before the end of the path, or a name or a path
that is too long. Main statements: a path with an obstacle is refused for it, and any other one
leads to the location that it spells, or nothing is there.
-/
namespace FileBridge

namespace Disk

variable {d : Disk} {here : Location} {names : List Name} {slashed : Bool} {cause : DiskError}
  {path : List UInt8}

/-- There are no links on a disk. -/
def Linkless (d : Disk) : Prop :=
  ∀ place target, d.node? place ≠ some (.link target)

/-- No name stands for another place. -/
def Dotless (names : List Name) : Prop :=
  ∀ name ∈ names, name ≠ dot ∧ name ≠ dotDot

/-- What keeps names from being resolved: with the next one the path is too long, the next one is
too long itself, or there is a file before the end. -/
inductive Blocked (d : Disk) (here : Location) (names : List Name) (slashed : Bool) :
    DiskError → Prop where
  | path (before rest : List Name) (name : Name) (split : names = before ++ name :: rest)
    (short : ∀ name ∈ before, name.length ≤ nameLimit)
    (there : (d.node? (here ++ before)).isSome = true) (fits : Fits (here ++ before) false)
    (long : ¬Fits (here ++ before ++ [name]) (slashed && rest = [])) :
    Blocked d here names slashed .nameTooLong
  | name (before rest : List Name) (name : Name) (split : names = before ++ name :: rest)
    (short : ∀ name ∈ before, name.length ≤ nameLimit)
    (directory : d.isDirectory (here ++ before) = true)
    (fits : Fits (here ++ before ++ [name]) (slashed && rest = []))
    (long : nameLimit < name.length) : Blocked d here names slashed .nameTooLong
  | file (before rest : List Name) (name : Name) (content : List UInt8)
    (split : names = before ++ name :: rest) (short : ∀ name ∈ before, name.length ≤ nameLimit)
    (file : d.node? (here ++ before) = some (.file content))
    (fits : Fits (here ++ before ++ [name]) (slashed && rest = [])) :
    Blocked d here names slashed .notADirectory
  | slash (content : List UInt8) (ends : slashed = true)
    (short : ∀ name ∈ names, name.length ≤ nameLimit)
    (file : d.node? (here ++ names) = some (.file content)) (fits : Fits (here ++ names) true) :
    Blocked d here names slashed .notADirectory

/-- What keeps a path from being resolved, other than that nothing is there. -/
inductive Obstacle (d : Disk) (path : List UInt8) : DiskError → Prop where
  | zeroByte (zero : 0 ∈ path) : Obstacle d path .zeroByte
  | blocked {cause : DiskError} (nonzero : 0 ∉ path)
    (blocked : d.Blocked [] (DiskPath.ofBytes path).names (DiskPath.ofBytes path).slashed cause) :
    Obstacle d path cause

theorem Linkless.exists_file (hlinks : d.Linkless) (hhere : (d.node? here).isSome = true)
    (hnot : d.isDirectory here = false) : ∃ content, d.node? here = some (.file content) := by
  obtain ⟨node, hnode⟩ := Option.isSome_iff_exists.mp hhere
  cases node with
  | file content => exact ⟨content, hnode⟩
  | directory => simp [isDirectory, hnode] at hnot
  | link target => exact absurd hnode (hlinks here target)

theorem Linkless.solid (hlinks : d.Linkless) (hhere : (d.node? here).isSome = true) :
    d.Solid here := by
  obtain ⟨node, hnode⟩ := Option.isSome_iff_exists.mp hhere
  refine ⟨node, hnode, ?_⟩
  rintro target rfl
  exact hlinks here target hnode

theorem Fits.of_sublist {place place' : Location} (h : Fits place' slashed)
    (hsub : place.Sublist place') : Fits place slashed := by
  refine Nat.le_trans (Nat.add_le_add_right ?_ _) h
  by_cases hnil : place = []
  · subst hnil
    cases place' <;> simp [DiskPath.bytesOf]
  · have hne : place' ≠ [] := fun heq => hnil (List.sublist_nil.mp (heq ▸ hsub))
    rw [DiskPath.bytesOf, if_neg hnil, DiskPath.bytesOf, if_neg hne]
    exact DiskPath.weight_le_of_sublist hsub

theorem wantsDirectory_cons {name : Name} (hdot : name ≠ dot) (hup : name ≠ dotDot)
    (rest : List Name) (slashed : Bool) : wantsDirectory (name :: rest) slashed = false := by
  simp [wantsDirectory, hdot, hup]

theorem Dotless.wantsDirectory_eq (h : Dotless names) (slashed : Bool) :
    wantsDirectory names slashed = (slashed && names = []) := by
  cases names with
  | nil => simp [wantsDirectory]
  | cons name rest =>
    obtain ⟨hdot, hup⟩ := h name List.mem_cons_self
    simp [wantsDirectory_cons hdot hup]

theorem Askable.locate_cons {name : Name} {rest : List Name} {node : DiskNode}
    (h : d.Askable here name (wantsDirectory rest slashed)) (hdot : name ≠ dot)
    (hup : name ≠ dotDot) (hnode : d.node? (here ++ [name]) = some node)
    (hlink : ∀ target, node ≠ .link target) (links : Nat) :
    d.locate links here (name :: rest) slashed = d.locate links (here ++ [name]) rest slashed := by
  rcases locate_of_node? links rest slashed hdot hup hnode hlink with
    ⟨cause, -, hask, -⟩ | ⟨-, heq⟩
  · rw [ask_eq_ok_iff.mpr ⟨h, hnode⟩] at hask
    cases hask
  · exact heq

/-- The names of a location lead straight there, unless it has too many bytes. -/
theorem Solid.locate_append {before rest : List Name} (h : d.Solid (here ++ before))
    (hdisk : d.WellFormed) (hshort : ∀ name ∈ before, name.length ≤ nameLimit)
    (hfits : Fits (here ++ before) (wantsDirectory rest slashed)) (links : Nat) :
    d.locate links here (before ++ rest) slashed =
      d.locate links (here ++ before) rest slashed := by
  induction before generalizing here with
  | nil => rw [List.nil_append, List.append_nil]
  | cons name before ih =>
    obtain ⟨hname, hshort⟩ := List.forall_mem_cons.mp hshort
    obtain ⟨node, hnode, hlink⟩ := h
    have hplain : Plain name := hdisk.plain hnode name (by simp)
    have hdirectory := hdisk.directory_above (List.cons_ne_nil name before) hnode
    have hall : ∀ n ∈ before, Plain n := fun n hn => hdisk.plain hnode n (by simp [hn])
    rw [List.append_cons] at hnode hfits
    have hnext : d.Solid (here ++ [name]) ∧
        d.Askable here name (wantsDirectory (before ++ rest) slashed) := by
      cases before with
      | nil =>
        rw [List.append_nil] at hnode hfits
        exact ⟨⟨node, hnode, hlink⟩, hfits, hdirectory, hname⟩
      | cons next before =>
        have hnext := hall next List.mem_cons_self
        rw [List.cons_append, wantsDirectory_cons hnext.ne_dot hnext.ne_dotDot]
        exact ⟨.of_isDirectory (hdisk.directory_above (List.cons_ne_nil next before) hnode),
          hfits.unslashed.of_sublist (List.sublist_append_left _ _), hdirectory, hname⟩
    obtain ⟨⟨node', hnode', hlink'⟩, haskable⟩ := hnext
    rw [List.cons_append, haskable.locate_cons hplain.ne_dot hplain.ne_dotDot hnode' hlink',
      ih ⟨node, hnode, hlink⟩ hshort hfits, List.append_cons here name before]

theorem Blocked.cons {name : Name} (h : d.Blocked (here ++ [name]) names slashed cause)
    (hshort : name.length ≤ nameLimit) : d.Blocked here (name :: names) slashed cause := by
  cases h with
  | path before rest next hsplit hbefore hthere hfits hlong =>
    rw [← List.append_cons] at hthere hfits hlong
    exact .path (name :: before) rest next (by rw [hsplit]; rfl)
      (List.forall_mem_cons.mpr ⟨hshort, hbefore⟩) hthere hfits hlong
  | name before rest next hsplit hbefore hdirectory hfits hlong =>
    rw [← List.append_cons] at hdirectory hfits
    exact .name (name :: before) rest next (by rw [hsplit]; rfl)
      (List.forall_mem_cons.mpr ⟨hshort, hbefore⟩) hdirectory hfits hlong
  | file before rest next content hsplit hbefore hfile hfits =>
    rw [← List.append_cons] at hfile hfits
    exact .file (name :: before) rest next content (by rw [hsplit]; rfl)
      (List.forall_mem_cons.mpr ⟨hshort, hbefore⟩) hfile hfits
  | slash content hslashed hbefore hfile hfits =>
    rw [← List.append_cons] at hfile hfits
    exact .slash content hslashed (List.forall_mem_cons.mpr ⟨hshort, hbefore⟩) hfile hfits

/-- Without links and dots, names are resolved to the location that they spell, or nothing is there,
unless they are blocked. -/
theorem locate_linkless (hlinks : d.Linkless) (hnames : Dotless names)
    (hhere : (d.node? here).isSome = true) (hfits : Fits here (slashed && names = []))
    (links : Nat) :
    d.locate links here names slashed = .ok (here ++ names) ∨
      names ≠ [] ∧ d.locate links here names slashed = .error .notFound ∨
      ∃ cause, d.locate links here names slashed = .error cause ∧
        d.Blocked here names slashed cause := by
  induction names generalizing here with
  | nil =>
    rw [locate]
    split
    next hnot =>
      rw [Bool.and_eq_true, Bool.not_eq_true'] at hnot
      obtain ⟨content, hfile⟩ := hlinks.exists_file hhere hnot.2
      refine .inr (.inr ⟨_, rfl, .slash content hnot.1 (by simp) (by rwa [List.append_nil]) ?_⟩)
      simpa [hnot.1] using hfits
    next => exact .inl (by rw [List.append_nil])
  | cons name rest ih =>
    obtain ⟨⟨hdot, hup⟩, hrest⟩ := List.forall_mem_cons.mp hnames
    have hrest : Dotless rest := hrest
    rw [locate_step links rest slashed hdot hup fun target => hlinks _ target,
      hrest.wantsDirectory_eq, ask]
    by_cases hlong : Fits (here ++ [name]) (slashed && rest = [])
    · rw [if_neg (Nat.not_lt.mpr hlong)]
      cases hdirectory : d.isDirectory here with
      | false =>
        obtain ⟨content, hfile⟩ := hlinks.exists_file hhere hdirectory
        refine .inr (.inr ⟨.notADirectory, rfl, .file [] rest name content rfl (by simp) ?_ ?_⟩)
        · rwa [List.append_nil]
        · rwa [List.append_nil]
      | true =>
        by_cases hname : nameLimit < name.length
        · refine .inr (.inr ⟨.nameTooLong, ?_, .name [] rest name rfl (by simp) ?_ ?_ hname⟩)
          · rw [lookUp, if_pos hname]
            rfl
          · rwa [List.append_nil]
          · rwa [List.append_nil]
        · rw [lookUp, if_neg hname]
          cases hnode : d.node? (here ++ [name]) with
          | none => exact .inr (.inl ⟨List.cons_ne_nil name rest, rfl⟩)
          | some node =>
            rw [List.append_cons here name rest]
            rcases ih hrest (by rw [hnode]; rfl) hlong with hfound | ⟨-, hmissing⟩ | hblocked
            · exact .inl hfound
            · exact .inr (.inl ⟨List.cons_ne_nil name rest, hmissing⟩)
            · obtain ⟨cause, heq, hblocked⟩ := hblocked
              exact .inr (.inr ⟨cause, heq, hblocked.cons (Nat.le_of_not_lt hname)⟩)
    · refine .inr (.inr ⟨.nameTooLong, ?_, .path [] rest name rfl (by simp) ?_ ?_ ?_⟩)
      · rw [if_pos (Nat.lt_of_not_le hlong)]
        rfl
      · rwa [List.append_nil]
      · rw [List.append_nil]
        simpa using hfits
      · rwa [List.append_nil]

/-- What blocks names is why they are not resolved. -/
theorem Blocked.locate (h : d.Blocked here names slashed cause) (hlinks : d.Linkless)
    (hdisk : d.WellFormed) (hnames : Dotless names) (links : Nat) :
    d.locate links here names slashed = .error cause := by
  -- The names before the obstacle lead straight to it.
  have hstep {before rest : List Name} {name : Name} (hsplit : names = before ++ name :: rest)
      (hshort : ∀ name ∈ before, name.length ≤ nameLimit)
      (hthere : (d.node? (here ++ before)).isSome = true) (hfits : Fits (here ++ before) false) :
      d.locate links here names slashed =
        d.ask (here ++ before) name (slashed && rest = []) >>= fun node =>
          if node.isSome then d.locate links (here ++ before ++ [name]) rest slashed
          else .error .notFound := by
    obtain ⟨hdot, hup⟩ := hnames name (by simp [hsplit])
    have hrest : Dotless rest := fun n hn => hnames n (by simp [hsplit, hn])
    rw [hsplit, (hlinks.solid hthere).locate_append hdisk hshort
      (by rwa [wantsDirectory_cons hdot hup]),
      locate_step links rest slashed hdot hup fun target => hlinks _ target,
      hrest.wantsDirectory_eq]
  cases h with
  | path before rest name hsplit hshort hthere hfits hlong =>
    rw [hstep hsplit hshort hthere hfits, ask, if_pos (Nat.lt_of_not_le hlong)]
    rfl
  | name before rest name hsplit hshort hdirectory hfits hlong =>
    have hthere := (Solid.of_isDirectory hdirectory).isSome
    rw [hstep hsplit hshort hthere (hfits.unslashed.of_sublist (List.sublist_append_left _ _)), ask,
      if_neg (Nat.not_lt.mpr hfits), if_neg (by simp [hdirectory]), lookUp, if_pos hlong]
    rfl
  | file before rest name content hsplit hshort hfile hfits =>
    have hnot : d.isDirectory (here ++ before) = false := by simp [isDirectory, hfile]
    rw [hstep hsplit hshort (by rw [hfile]; rfl)
      (hfits.unslashed.of_sublist (List.sublist_append_left _ _)), ask,
      if_neg (Nat.not_lt.mpr hfits), if_pos (by simp [hnot])]
    rfl
  | slash content hslashed hshort hfile hfits =>
    have hnot : d.isDirectory (here ++ names) = false := by simp [isDirectory, hfile]
    have hsolid : d.Solid (here ++ names) := hlinks.solid (by rw [hfile]; rfl)
    subst hslashed
    have hfits : Fits (here ++ names) (wantsDirectory [] true) := hfits
    have hends : d.locate links here (names ++ []) true = d.locate links (here ++ names) [] true :=
      hsolid.locate_append hdisk hshort hfits links
    rw [List.append_nil] at hends
    rw [hends, Disk.locate, if_pos (by simp [hnot])]

/-- What blocks names blocks them with more names after them. -/
theorem Blocked.append (h : d.Blocked here names false cause) {more : List Name} (hmore : more ≠ [])
    (slashed : Bool) : d.Blocked here (names ++ more) slashed cause := by
  have hflag (rest : List Name) : (slashed && decide (rest ++ more = [])) = false := by
    simp [hmore]
  cases h with
  | path before rest name hsplit hshort hthere hfits hlong =>
    exact .path before (rest ++ more) name (by simp [hsplit]) hshort hthere hfits
      (by rwa [hflag])
  | name before rest name hsplit hshort hdirectory hfits hlong =>
    exact .name before (rest ++ more) name (by simp [hsplit]) hshort hdirectory
      (by rwa [hflag]) hlong
  | file before rest name content hsplit hshort hfile hfits =>
    exact .file before (rest ++ more) name content (by simp [hsplit]) hshort hfile (by rwa [hflag])
  | slash content hslashed => cases hslashed

theorem Obstacle.ne_notFound (h : d.Obstacle path cause) : cause ≠ .notFound := by
  rintro rfl
  cases h with
  | blocked _ h => cases h

theorem Obstacle.canonical (h : d.Obstacle path cause) (hlinks : d.Linkless) (hdisk : d.WellFormed)
    (hpath : path.head? = some slash) (hnames : Dotless (DiskPath.ofBytes path).names) :
    d.canonical path = .error cause := by
  rw [canonical_eq hpath]
  cases h with
  | zeroByte hzero => rw [if_pos (List.contains_iff_mem.mpr hzero)]
  | blocked hzero h => rw [if_neg (by simpa using hzero), h.locate hlinks hdisk hnames]

/-- Without an obstacle, a path leads to the location that it spells, or nothing is there. -/
theorem canonical_of_clear (hlinks : d.Linkless) (hpath : path.head? = some slash)
    (hnames : Dotless (DiskPath.ofBytes path).names) (hclear : ∀ cause, ¬d.Obstacle path cause) :
    d.canonical path = .ok (DiskPath.ofBytes path).names ∨
      d.canonical path = .error .notFound ∧ (DiskPath.ofBytes path).names ≠ [] := by
  have hzero : 0 ∉ path := fun hzero => hclear _ (.zeroByte hzero)
  have hfits : Fits [] ((DiskPath.ofBytes path).slashed && (DiskPath.ofBytes path).names = []) := by
    cases (DiskPath.ofBytes path).slashed && (DiskPath.ofBytes path).names = [] <;> decide
  rw [canonical_eq hpath, if_neg (by simpa using hzero)]
  have hroot : (d.node? []).isSome = true := rfl
  rcases locate_linkless hlinks hnames hroot hfits linkLimit with
    heq | ⟨hne, heq⟩ | ⟨cause, -, hblocked⟩
  · exact .inl heq
  · exact .inr ⟨heq, hne⟩
  · exact absurd (.blocked hzero hblocked) (hclear cause)

/-- What is seen at a path is where the path leads, or a link at its end. -/
theorem leads_or_link_of_linkStat (hpath : path.head? = some slash) {node : DiskNode}
    (h : d.linkStat path = .ok node) :
    (∃ l, d.Leads [] (DiskPath.ofBytes path).names l) ∨
      ∃ before name base target, (DiskPath.ofBytes path).names = before ++ [name] ∧ name ≠ dot ∧
        d.Leads [] before base ∧ d.node? (base ++ [name]) = some (.link target) := by
  obtain ⟨p, hcheck, h⟩ := exists_of_bind_eq_ok h
  obtain ⟨found, hreach, h⟩ := exists_of_bind_eq_ok h
  have hp : p = DiskPath.ofBytes path := by
    rw [checkPath_eq hpath] at hcheck
    split at hcheck
    · cases hcheck
    · split at hcheck <;> cases hcheck
      rfl
  subst hp
  have hstart : d.startOf (DiskPath.ofBytes path) = [] := by
    simp [startOf, DiskPath.ofBytes, hpath]
  cases found with
  | free l n => cases h
  | found l =>
    unfold reach at hreach
    split at hreach
    next =>
      rw [follow, hstart] at hreach
      exact .inl ⟨l, leads_of_walk hreach⟩
    next =>
      obtain ⟨entered, henter, hreach⟩ := exists_of_bind_eq_ok hreach
      rcases enter_cases henter with ⟨hnil, -⟩ | ⟨before, last, directory, hsplit, hwalk, rfl⟩
      · rw [hnil]
        exact .inl ⟨[], .here []⟩
      · rw [hstart] at hwalk
        have hbefore := leads_of_walk hwalk
        rw [hsplit]
        by_cases hdot : last = dot
        · subst hdot
          exact .inl ⟨directory, hbefore.append (.dot (.here _))⟩
        · by_cases hup : last = dotDot
          · subst hup
            exact .inl ⟨directory.dropLast, hbefore.append (.up (.here _))⟩
          · rw [if_neg hdot, if_neg hup] at hreach
            obtain ⟨o, hlook, hreach⟩ := exists_of_bind_eq_ok hreach
            obtain ⟨-, rfl⟩ := lookUp_eq_ok_iff.mp hlook
            cases hnode : d.node? (directory ++ [last]) with
            | none =>
              rw [hnode] at hreach
              cases hreach
            | some node =>
              by_cases hlink : ∃ target, node = .link target
              · obtain ⟨target, rfl⟩ := hlink
                exact .inr ⟨before, last, directory, target, rfl, hdot, hbefore, hnode⟩
              · rw [not_exists] at hlink
                exact .inl ⟨_, hbefore.append (.enter hdot hup hnode hlink (.here _))⟩

end Disk

end FileBridge
