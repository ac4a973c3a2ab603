import Mathlib.Data.Fin.Tuple.Basic
import Mathlib.Data.List.Permutation
import FileBridge.Proofs.Local.Obstacle

/-!
The location that a path is resolved to. As many names of the path as lead somewhere are followed,
and the others are put after the location that they lead to. Main statement: a path is refused for
one of three reasons, or it is resolved to a location without dots. Unless the end of the path hides
a link that leads nowhere, no link is on the way to the location, and resolving it again gives it
back.
-/
namespace FileBridge

open Disk

namespace DiskPath

theorem zero_not_mem_bytesOf {names : List Name} (h : ∀ name ∈ names, (0 : UInt8) ∉ name) :
    0 ∉ bytesOf names := by
  unfold bytesOf
  split
  · decide
  · intro hzero
    obtain ⟨name, hname, hzero⟩ := List.mem_flatMap.mp hzero
    rcases List.mem_cons.mp hzero with heq | hzero
    · exact absurd heq (by decide)
    · exact h name hname hzero

end DiskPath

namespace Disk

variable {d : Disk} {path : List UInt8} {here l place : Location} {names : List Name}

/-- No name on a disk has a zero byte, which no call would have taken in a path. -/
def Zeroless (d : Disk) : Prop :=
  ∀ place node, d.node? place = some node → ∀ name ∈ place, (0 : UInt8) ∉ name

/-- No link is at a location or above it. -/
def LinkFree (d : Disk) (place : Location) : Prop :=
  ∀ l, l <+: place → ∀ target, d.node? l ≠ some (.link target)

theorem zeroless_of_entries (h : ∀ a ∈ d.entries, ∀ name ∈ a.1, (0 : UInt8) ∉ name) :
    d.Zeroless := by
  intro place node hnode
  unfold node? at hnode
  split at hnode
  next hnil =>
    subst hnil
    exact fun _ hmem => absurd hmem List.not_mem_nil
  next =>
    obtain ⟨a, hfind, -⟩ := Option.map_eq_some_iff.mp hnode
    obtain rfl : a.1 = place := by simpa using List.find?_some hfind
    exact h a (List.mem_of_find?_eq_some hfind)

/-- What is there and is no link is below directories only. -/
theorem Solid.linkFree (h : d.Solid place) (hdisk : d.WellFormed) : d.LinkFree place := by
  obtain ⟨node, hnode, hlink⟩ := h
  rintro l ⟨below, rfl⟩ target htarget
  cases below with
  | nil =>
    rw [List.append_nil] at hnode
    exact hlink target (Option.some.inj (hnode.symm.trans htarget))
  | cons name rest =>
    have hdirectory := hdisk.directory_above (List.cons_ne_nil name rest) hnode
    rw [isDirectory_iff, htarget] at hdirectory
    cases hdirectory

/-- Neither the names of a location that is resolved nor its path are too long. -/
theorem fits_of_locate {slashed : Bool} {links : Nat}
    (hshort : ∀ name ∈ here, name.length ≤ nameLimit) (hfits : Fits here false)
    (h : d.locate links here names slashed = .ok l) :
    (∀ name ∈ l, name.length ≤ nameLimit) ∧ Fits l false := by
  fun_induction d.locate links here names slashed with
  | case1 | case4 | case6 | case7 | case9 | case10 => cases h
  | case2 =>
    cases h
    exact ⟨hshort, hfits⟩
  | case3 _ _ _ _ ih => exact ih hshort hfits h
  | case5 _ here _ _ _ _ ih =>
    exact ih (fun n hn => hshort n (List.dropLast_subset _ hn))
      (hfits.of_sublist (List.dropLast_sublist here)) h
  | case8 here _ _ _ _ _ _ _ _ path _ ih =>
    refine ih (fun n hn => ?_) ?_ h
    · split at hn
      · cases hn
      · exact hshort n hn
    · split
      · decide
      · exact hfits
  | case11 _ here _ name _ _ _ _ hask _ ih =>
    have haskable := (ask_eq_ok_iff.mp hask).1
    refine ih (fun n hn => ?_) haskable.fits.unslashed h
    rcases List.mem_append.mp hn with hn | hn
    · exact hshort n hn
    · rw [List.mem_singleton.mp hn]
      exact haskable.short

/-- A location that is no link is found at its own path. -/
theorem canonical_bytesOf (hdisk : d.WellFormed) (hzero : d.Zeroless) (hsolid : d.Solid place)
    (hshort : ∀ name ∈ place, name.length ≤ nameLimit) (hfits : Fits place false) :
    d.canonical (DiskPath.bytesOf place) = .ok place := by
  obtain ⟨node, hnode, hlink⟩ := hsolid
  have hbytes : 0 ∉ DiskPath.bytesOf place := DiskPath.zero_not_mem_bytesOf (hzero place node hnode)
  have hsolid : d.Solid ([] ++ place) := ⟨node, hnode, hlink⟩
  have hfits : Fits ([] ++ place) (wantsDirectory [] false) := hfits
  have hlocate : d.locate linkLimit [] (place ++ []) false = .ok place := by
    rw [hsolid.locate_append hdisk hshort hfits, locate]
    rfl
  rw [List.append_nil] at hlocate
  rw [canonical_eq (DiskPath.head?_bytesOf place), if_neg (by simpa using hbytes),
    DiskPath.ofBytes_bytesOf fun name hname => (hdisk.plain hnode name hname).spelled]
  exact hlocate

/-- If nothing has the next name, nothing is found through it. -/
theorem canonical_append_eq_notFound (hdisk : d.WellFormed) {name : Name} {rest : List Name}
    (haskable : d.Askable place name false) (hshort : ∀ n ∈ place, n.length ≤ nameLimit)
    (hplain : ∀ n ∈ place ++ name :: rest, Plain n)
    (hbytes : 0 ∉ DiskPath.bytesOf (place ++ name :: rest))
    (hnone : d.node? (place ++ [name]) = none) :
    d.canonical (DiskPath.bytesOf (place ++ name :: rest)) = .error .notFound := by
  have hname : Plain name := hplain name (by simp)
  have hdots : Dotless rest := fun n hn =>
    ⟨(hplain n (by simp [hn])).ne_dot, (hplain n (by simp [hn])).ne_dotDot⟩
  have hsolid : d.Solid ([] ++ place) := .of_isDirectory haskable.directory
  have hfits : Fits ([] ++ place) (wantsDirectory (name :: rest) false) := by
    rw [wantsDirectory_cons hname.ne_dot hname.ne_dotDot]
    exact haskable.fits.of_sublist (List.sublist_append_left _ _)
  rw [canonical_eq (DiskPath.head?_bytesOf _), if_neg (by simpa using hbytes),
    DiskPath.ofBytes_bytesOf fun n hn => (hplain n hn).spelled]
  show d.locate linkLimit [] (place ++ name :: rest) false = _
  rw [hsolid.locate_append hdisk hshort hfits, List.nil_append,
    locate_step linkLimit rest false hname.ne_dot hname.ne_dotDot (by simp [hnone]),
    hdots.wantsDirectory_eq, Bool.false_and, ask_eq_ok_iff.mpr ⟨haskable, hnone⟩]
  rfl

end Disk

namespace LocalHost

variable {d : Disk} {path : List UInt8} {uri : String} {above missing : List Name}
  {base : Location} {name : Name}

/-- Why a path is not resolved: a link on it leads nowhere, it goes up from where nothing is, or a
part of it fails for another reason than that nothing is there. -/
inductive Refused (d : Disk) (uri : String) (path : List UInt8) : HostError → Prop where
  | dangling {before missing : List Name} {name : Name} {base : Location} {target : List UInt8}
    (split : lexicalNames path = before ++ name :: missing) (leads : d.Leads [] before base)
    (link : d.node? (base ++ [name]) = some (.link target))
    (nowhere : d.Nowhere (before ++ [name])) : Refused d uri path (.danglingLink uri)
  | up {before missing : List Name} (split : lexicalNames path = before ++ dotDot :: missing)
    (nowhere : d.Nowhere before) : Refused d uri path (.systemAt DiskError.notFound.system uri)
  | failed {above missing : List Name} {cause : DiskError}
    (split : lexicalNames path = above ++ missing) (ne_notFound : cause ≠ .notFound)
    (failed : d.canonical (part path missing) = .error cause) :
    Refused d uri path (.systemAt cause.system uri)

/-- Why a path is refused with its last name dropped is why it is refused. -/
theorem Refused.concat {cause : HostError} (h : Refused d uri (DiskPath.parent path) cause)
    (hpath : path.head? = some slash) (hnames : lexicalNames path = above ++ [name]) :
    Refused d uri path cause := by
  have habove := lexicalNames_parent hpath hnames
  cases h with
  | dangling hsplit hleads hlink hnowhere =>
    rw [← habove, hsplit, List.append_assoc] at hnames
    exact .dangling hnames hleads hlink hnowhere
  | up hsplit hnowhere =>
    rw [← habove, hsplit, List.append_assoc] at hnames
    exact .up hnames hnowhere
  | failed hsplit hcause hfailed =>
    obtain rfl := habove.symm.trans hsplit
    rw [List.append_assoc] at hnames
    exact .failed hnames hcause (by rw [part_concat, hfailed])

theorem refused_of_resolveWhole (hpath : path.head? = some slash) {cause : HostError}
    (h : resolveWhole d uri path = .error cause) : Refused d uri path cause := by
  have hnames : lexicalNames path = lexicalNames path ++ [] := (List.append_nil _).symm
  unfold resolveWhole at h
  split at h
  next => cases h
  next heq =>
    split at h
    next hseen =>
      cases h
      obtain ⟨node, hseen⟩ : ∃ node, d.linkStat path = .ok node := by
        cases hstat : d.linkStat path with
        | error cause =>
          rw [hstat] at hseen
          cases hseen
        | ok node => exact ⟨node, rfl⟩
      have hnowhere := nowhere_of_part hpath hnames heq
      rcases leads_or_link_of_linkStat hpath hseen with
        ⟨l, hleads⟩ | ⟨before, name, base, target, hsplit, hdot, hleads, hlink⟩
      · exact absurd (leads_lexicalNames_iff.mpr hleads) (hnowhere l)
      · have hlast : lexicalNames path = before.filter (· ≠ dot) ++ [name] := by
          rw [lexicalNames, hsplit, List.filter_append,
            List.filter_cons_of_pos (by simpa using hdot), List.filter_nil]
        have hbefore : d.Leads [] (before.filter (· ≠ dot)) base := hleads.of_filter (by simp)
        exact .dangling hlast hbefore hlink (hlast ▸ hnowhere)
    next => cases h
  next cause hcause heq =>
    cases h
    exact .failed hnames hcause heq

/-- A step of resolving that fails: the path itself is refused, or nothing is there and its last
name goes up or is dropped. -/
theorem resolveUpTo_error_cases {names after : List Name} {cause : HostError}
    (h : resolveUpTo d uri path after names = .error cause) :
    resolveWhole d uri path = .error cause ∨
      d.canonical path = .error .notFound ∧
        (names = [] ∨ ∃ name above, names = name :: above ∧
          (name = dotDot ∧ cause = .systemAt DiskError.notFound.system uri ∨
            resolveUpTo d uri (DiskPath.parent path) (name :: after) above =
              .error cause)) := by
  cases hwhole : resolveWhole d uri path with
  | error cause' =>
    rw [resolveUpTo_of_error hwhole] at h
    cases h
    exact .inl rfl
  | ok o =>
    cases o with
    | some base =>
      rw [resolveUpTo_of_some hwhole] at h
      cases h
    | none =>
      refine .inr ⟨(resolveWhole_eq_ok hwhole).1, ?_⟩
      cases names with
      | nil => exact .inl rfl
      | cons name above =>
        refine .inr ⟨name, above, rfl, ?_⟩
        by_cases hname : name = dotDot
        · subst hname
          rw [resolveUpTo_of_dotDot hwhole] at h
          cases h
          exact .inl ⟨rfl, rfl⟩
        · rw [resolveUpTo_of_none hwhole hname] at h
          exact .inr h

theorem refused_of_resolveUpTo {names after : List Name} {cause : HostError}
    (hpath : path.head? = some slash) (hnames : lexicalNames path = names.reverse)
    (h : resolveUpTo d uri path after names = .error cause) : Refused d uri path cause := by
  have hall := (List.append_nil (lexicalNames path)).symm
  induction names generalizing path after with
  | nil =>
    rcases resolveUpTo_error_cases h with hwhole | ⟨hlost, -⟩
    · exact refused_of_resolveWhole hpath hwhole
    · -- The top is always there.
      exact absurd (hnames ▸ .here []) (nowhere_of_part hpath hall hlost [])
  | cons name above ih =>
    rw [List.reverse_cons] at hnames
    rcases resolveUpTo_error_cases h with hwhole | ⟨hlost, hnil | ⟨name', above', heq, hnext⟩⟩
    · exact refused_of_resolveWhole hpath hwhole
    · cases hnil
    · obtain ⟨rfl, rfl⟩ := List.cons.inj heq
      rcases hnext with ⟨rfl, rfl⟩ | hrest
      · have hnowhere := nowhere_of_part hpath hall hlost
        rw [hnames] at hnowhere
        exact .up hnames fun l hleads => hnowhere l.dropLast (hleads.append (.up (.here _)))
      · have hrefused := ih (head?_parent hpath hnames) (lexicalNames_parent hpath hnames) hrest
          (List.append_nil _).symm
        exact hrefused.concat hpath hnames

namespace Trace

variable {more rest : List Name}

theorem solid (h : Trace d path above base missing) (hdisk : d.WellFormed) : d.Solid base :=
  (h.resolution).solid hdisk

theorem plain_append (h : Trace d path above base missing) (hdisk : d.WellFormed) :
    ∀ n ∈ base ++ missing, Plain n :=
  ((h.resolution).reached hdisk).plain_append hdisk

/-- The first of the names left over, however many, make a place below the location. -/
theorem reached (h : Trace d path above base missing) (hdisk : d.WellFormed)
    (hmissing : missing = more ++ rest) : Reached d base more where
  solid := h.solid hdisk
  plain n hn := (h.resolution).plain n (hmissing ▸ List.mem_append_left rest hn)
  lost first next last heq := by
    subst heq
    exact h.lost hmissing

theorem fits (h : Trace d path above base missing) :
    (∀ n ∈ base, n.length ≤ nameLimit) ∧ Fits base false :=
  fits_of_locate (fun _ hmem => absurd hmem List.not_mem_nil) (by decide)
    (locate_of_canonical (head?_part h.absolute h.names) h.found)

/-- The first of the names left over could be looked up. -/
theorem askable (h : Trace d path above base missing) (hmissing : missing = name :: rest) :
    d.Askable base name false := by
  have hgone := (h.gone [name] rest hmissing (by simp)).1
  have hplain : Plain name := h.resolution.plain name (by simp [hmissing])
  have hnames := h.names_cons hmissing
  have hlexical := lexicalNames_part h.absolute hnames
  -- Dots may stand before the name and after it.
  obtain ⟨before, tail, hsplit, hbefore, htail⟩ := List.filter_eq_append_iff.mp hlexical
  obtain ⟨dots, after, rfl, hdots, -, -⟩ := List.filter_eq_cons_iff.mp htail
  have hlocate := (locate_of_canonical_notFound (head?_part h.absolute hnames) hgone).2
  rw [hsplit, ← List.append_assoc] at hlocate
  have hleads : d.Leads [] (before ++ dots) base := by
    refine h.leads.of_filter ?_
    rw [List.filter_append, hbefore, List.filter_eq_nil_iff.mpr hdots, List.append_nil, ← hbefore]
    simp
  exact (walk_above hplain.ne_dot hplain.ne_dotDot hleads hlocate).2

/-- A zero byte would have kept the path from being looked up. -/
theorem zero_not_mem (h : Trace d path above base missing) (hdisk : d.WellFormed)
    (hzero : d.Zeroless) : ∀ n ∈ base ++ missing, (0 : UInt8) ∉ n := by
  intro n hn
  rcases List.mem_append.mp hn with hn | hn
  · obtain ⟨node, hnode, -⟩ := h.solid hdisk
    exact hzero base node hnode n hn
  · have hgone := (h.gone missing [] (List.append_nil _).symm (List.ne_nil_of_mem hn)).1
    have hnonzero := (locate_of_canonical_notFound h.absolute hgone).1
    have hlexical : n ∈ lexicalNames path := h.names ▸ List.mem_append_right above hn
    have hpieces := (List.mem_filter.mp (List.mem_filter.mp hlexical).1).1
    intro hmem
    exact absurd (DiskPath.mem_of_mem_pieces hpieces hmem) (by simpa using hnonzero)

/-- If something is at one of the names left over, it is a link at the first. -/
theorem link_of_node? (h : Trace d path above base missing) (hdisk : d.WellFormed)
    (hmissing : missing = name :: more ++ rest) {node : DiskNode}
    (hnode : d.node? (base ++ name :: more) = some node) :
    more = [] ∧ ∃ target, node = .link target := by
  have hlost : d.Lost base name := h.lost hmissing
  have hplain : Plain name := (h.resolution).plain name (by simp [hmissing])
  rw [List.append_cons] at hnode
  by_cases hmore : more = []
  · rw [hmore, List.append_nil] at hnode
    exact ⟨hmore, hlost.exists_link hplain.ne_dot hplain.ne_dotDot hnode⟩
  · have hdirectory := isDirectory_iff.mp (hdisk.directory_above hmore hnode)
    obtain ⟨target, heq⟩ := hlost.exists_link hplain.ne_dot hplain.ne_dotDot hdirectory
    cases heq

/-- Only at the first name left over can there be a link. -/
theorem linkFree_of_first (h : Trace d path above base missing) (hdisk : d.WellFormed)
    (hfirst : ∀ name rest, missing = name :: rest →
      ∀ target, d.node? (base ++ [name]) ≠ some (.link target)) :
    d.LinkFree (base ++ missing) := by
  intro l hl target hnode
  have hbase := (h.solid hdisk).linkFree hdisk
  rcases List.prefix_or_prefix_of_prefix hl (List.prefix_append base missing) with
    habove | ⟨more, rfl⟩
  · exact hbase l habove target hnode
  · obtain ⟨rest, hmissing⟩ := (List.prefix_append_right_inj base).mp hl
    cases more with
    | nil =>
      rw [List.append_nil] at hnode
      exact hbase base (List.prefix_refl base) target hnode
    | cons name more =>
      obtain ⟨rfl, -⟩ := h.link_of_node? hdisk hmissing.symm hnode
      exact hfirst name rest hmissing.symm target hnode

theorem node?_eq_none (h : Trace d path above base missing) (hdisk : d.WellFormed)
    (hfree : d.LinkFree (base ++ missing)) (hmissing : missing = more ++ rest) (hmore : more ≠ []) :
    d.node? (base ++ more) = none := by
  obtain ⟨name, more, rfl⟩ := List.exists_cons_of_ne_nil hmore
  cases hnode : d.node? (base ++ name :: more) with
  | none => rfl
  | some node =>
    obtain ⟨-, target, rfl⟩ := h.link_of_node? hdisk hmissing hnode
    have hbelow : base ++ name :: more <+: base ++ missing :=
      hmissing ▸ ⟨rest, List.append_assoc ..⟩
    exact absurd hnode (hfree _ hbelow target)

theorem linkFree_of_careful (h : Trace d path above base missing) (hdisk : d.WellFormed)
    (hcareful : ¬Careless path) : d.LinkFree (base ++ missing) :=
  h.linkFree_of_first hdisk fun name rest hmissing =>
    (h.resolution).no_link name rest hmissing hcareful

/-- If a path is not too long, the only link can be at its last name. -/
theorem linkFree_of_last (h : Trace d path above base missing) (hdisk : d.WellFormed)
    (hlength : path.length ≤ pathLimit)
    (hlast : ∀ target, d.node? (base ++ missing) ≠ some (.link target)) :
    d.LinkFree (base ++ missing) := by
  refine h.linkFree_of_first hdisk fun name rest hmissing => ?_
  by_cases hrest : rest = []
  · rw [hmissing, hrest] at hlast
    exact hlast
  · exact h.no_link hmissing hlength fun hnil => absurd hnil hrest

/-- Nothing is at the names left over when they are looked up again. -/
theorem resolveWhole_eq_none (h : Trace d path above base missing) (hdisk : d.WellFormed)
    (hzero : d.Zeroless) (hfree : d.LinkFree (base ++ missing)) (uri : String)
    (hmissing : missing = more ++ rest) (hmore : more ≠ []) :
    resolveWhole d uri (DiskPath.bytesOf (base ++ more)) = .ok none := by
  have hnone := h.node?_eq_none hdisk hfree hmissing hmore
  have hsubset : ∀ n ∈ base ++ more, n ∈ base ++ missing := by
    intro n hn
    rw [hmissing, ← List.append_assoc]
    exact List.mem_append_left rest hn
  have hcanonical : d.canonical (DiskPath.bytesOf (base ++ more)) = .error .notFound := by
    obtain ⟨name, more, rfl⟩ := List.exists_cons_of_ne_nil hmore
    have hfirst : missing = [name] ++ (more ++ rest) := hmissing
    exact canonical_append_eq_notFound hdisk (h.askable hfirst) h.fits.1
      (fun n hn => h.plain_append hdisk n (hsubset n hn))
      (DiskPath.zero_not_mem_bytesOf fun n hn => h.zero_not_mem hdisk hzero n (hsubset n hn))
      (h.node?_eq_none hdisk hfree hfirst (by simp))
  have hunseen : (d.linkStat (DiskPath.bytesOf (base ++ more))).toBool = false := by
    cases hstat : d.linkStat (DiskPath.bytesOf (base ++ more)) with
    | error cause => rfl
    | ok node =>
      have hnode := (h.reached hdisk hmissing).node?_of_linkStat hdisk hstat
      rw [hnone] at hnode
      cases hnode
  rw [resolveWhole, hcanonical, hunseen]
  rfl

/-- The names left over are dropped one after another again, down to the location that is there. -/
theorem resolveUpTo_again (h : Trace d path above base missing) (hdisk : d.WellFormed)
    (hzero : d.Zeroless) (hfree : d.LinkFree (base ++ missing)) (uri : String)
    (hmissing : missing = more ++ rest) :
    resolveUpTo d uri (DiskPath.bytesOf (base ++ more)) rest (base ++ more).reverse =
      .ok (base ++ missing) := by
  induction more using List.reverseRecOn generalizing rest with
  | nil =>
    have hcanonical := canonical_bytesOf hdisk hzero (h.solid hdisk) h.fits.1 h.fits.2
    have hwhole : resolveWhole d uri (DiskPath.bytesOf base) = .ok (some base) := by
      rw [resolveWhole, hcanonical]
    rw [List.append_nil, resolveUpTo_of_some hwhole, hmissing, List.nil_append]
  | append_singleton more name ih =>
    have hwhole := h.resolveWhole_eq_none hdisk hzero hfree uri hmissing (by simp)
    have hname : name ≠ dotDot := h.ne_dotDot name (by simp [hmissing])
    have hreverse : (base ++ (more ++ [name])).reverse = name :: (base ++ more).reverse := by simp
    have hparent : DiskPath.parent (DiskPath.bytesOf (base ++ (more ++ [name]))) =
        DiskPath.bytesOf (base ++ more) := by
      rw [← List.append_assoc]
      refine DiskPath.parent_bytesOf fun n hn => ?_
      have hplain := h.plain_append hdisk n (by rw [hmissing]; simp at hn ⊢; tauto)
      exact ⟨hplain.spelled, hplain.ne_dot⟩
    rw [hreverse, resolveUpTo_of_none hwhole hname, hparent]
    exact ih (by rw [hmissing, List.append_assoc, List.singleton_append])

theorem resolveExisting_again (h : Trace d path above base missing) (hdisk : d.WellFormed)
    (hzero : d.Zeroless) (hfree : d.LinkFree (base ++ missing)) (uri : String) :
    resolveExisting d uri (DiskPath.bytesOf (base ++ missing)) = .ok (base ++ missing) := by
  have hplain := h.plain_append hdisk
  have hnames : lexicalNames (DiskPath.bytesOf (base ++ missing)) = base ++ missing := by
    rw [lexicalNames, DiskPath.ofBytes_bytesOf fun n hn => (hplain n hn).spelled,
      DiskPath.ofLocation, List.filter_eq_self]
    exact fun n hn => by simpa using (hplain n hn).ne_dot
  rw [resolveExisting, hnames]
  exact h.resolveUpTo_again hdisk hzero hfree uri (List.append_nil missing).symm

end Trace

/-- A location is made of where the longest part of a path leads that leads anywhere, and of the
names after that part. -/
def Longest (d : Disk) (path : List UInt8) (place : Location) : Prop :=
  ∃ above missing base, place = base ++ missing ∧ lexicalNames path = above ++ missing ∧
    d.Leads [] above base ∧ d.LinkFree base ∧
    ∀ more rest, missing = more ++ rest → more ≠ [] → d.Nowhere (above ++ more)

/-- A path is refused for a reason, or resolved to the longest part that leads anywhere, with the
names after it. No dots are left, and no link unless the path hides its last name; where there is
none, resolving the location again changes nothing. -/
theorem resolveExisting_canonicalizes (hdisk : d.WellFormed) (hzero : d.Zeroless)
    (hpath : path.head? = some slash) (uri : String) :
    (∃ cause, resolveExisting d uri path = .error cause ∧ Refused d uri path cause) ∨
      ∃ place, resolveExisting d uri path = .ok place ∧ Longest d path place ∧
        (∀ name ∈ place, Plain name) ∧
        DiskPath.ofBytes (DiskPath.bytesOf place) = .ofLocation place ∧
        (¬Careless path → d.LinkFree place) ∧
        (path.length ≤ pathLimit →
          (d.LinkFree place ↔ ∀ target, d.node? place ≠ some (.link target))) ∧
        (d.LinkFree place → resolveExisting d uri (DiskPath.bytesOf place) = .ok place) ∧
        ((DiskPath.bytesOf place).length ≤ pathLimit →
          resolveExisting d uri (DiskPath.bytesOf place) = .ok place → d.LinkFree place) := by
  cases heq : resolveExisting d uri path with
  | error cause =>
    have hnames := (List.reverse_reverse (lexicalNames path)).symm
    exact .inl ⟨cause, rfl, refused_of_resolveUpTo hpath hnames heq⟩
  | ok place =>
    obtain ⟨above, base, missing, htrace, rfl⟩ := exists_trace hpath heq
    have hplain := htrace.plain_append hdisk
    have hspelled : ∀ name ∈ base ++ missing, Spelled name :=
      fun name hname => (hplain name hname).spelled
    have hlongest : Longest d path (base ++ missing) :=
      ⟨above, missing, base, rfl, htrace.names, htrace.leads, (htrace.solid hdisk).linkFree hdisk,
        fun more rest => htrace.nowhere⟩
    refine .inr ⟨base ++ missing, rfl, hlongest, hplain, DiskPath.ofBytes_bytesOf hspelled,
      htrace.linkFree_of_careful hdisk, fun hlength => ⟨fun hfree => ?_, ?_⟩, ?_, ?_⟩
    · exact hfree _ (List.prefix_refl _)
    · exact htrace.linkFree_of_last hdisk hlength
    · exact fun hfree => htrace.resolveExisting_again hdisk hzero hfree uri
    · -- The path of the location shows its last name, so no link can be there.
      intro hlength hagain
      have hdots : dot ∉ base ++ missing := fun hdot => (hplain dot hdot).ne_dot rfl
      obtain ⟨above', base', missing', htrace', hplace⟩ :=
        exists_trace (DiskPath.head?_bytesOf (base ++ missing)) hagain
      have hfree := htrace'.linkFree_of_careful hdisk (careful_of_length hspelled hdots hlength)
      exact hplace ▸ hfree

/-- A disk with a link to the directory beside it, and a link that leads nowhere. -/
def crossing : Disk :=
  ((((⟨[], [], 0⟩ : Disk).put [[111]] .directory).put [[114]] .directory).put [[114], [103]]
    (.link [47, 111, 47, 103])).put [[114], [108]] (.link [46, 46, 47, 111])

theorem wellFormed_crossing : crossing.WellFormed := by
  have hplain (b : UInt8) (hb : b ≠ slash ∧ b ≠ 46) : Plain [b] := plain_singleton hb.1 hb.2
  have hbeside := (wellFormed_bare [] 0).put (isDirectory_nil _) (hplain 111 (by decide)) rfl
    .directory
  have hserved := hbeside.put (isDirectory_nil _) (hplain 114 (by decide)) rfl .directory
  have hghost := hserved.put (show isDirectory _ [[114]] = true from rfl) (hplain 103 (by decide))
    rfl (.link [47, 111, 47, 103])
  exact hghost.put (show isDirectory _ [[114]] = true from rfl) (hplain 108 (by decide)) rfl _

theorem zeroless_crossing : crossing.Zeroless :=
  zeroless_of_entries (by decide)

/-- With a slash after it, the link that leads nowhere is not seen. The location is the link, and
resolving it again fails. -/
theorem resolveExisting_stops_at_link :
    crossing.WellFormed ∧ crossing.Zeroless ∧
      resolveExisting crossing "file:///r/g/" [47, 114, 47, 103, 47] = .ok [[114], [103]] ∧
      crossing.node? [[114], [103]] = some (.link [47, 111, 47, 103]) ∧
      ¬crossing.LinkFree [[114], [103]] ∧
      resolveExisting crossing "file:///r/g/" (DiskPath.bytesOf [[114], [103]]) =
        .error (.danglingLink "file:///r/g/") := by
  refine ⟨wellFormed_crossing, zeroless_crossing, by cbv, rfl, ?_, by cbv⟩
  exact fun hfree => hfree _ (List.prefix_refl _) _ rfl

/-- Through the other link the path leads beside the directory, and two names are left over. -/
theorem resolveExisting_canonicalizes_crossing :
    let path : List UInt8 := [47, 114, 47, 108, 47, 110, 47, 120]
    crossing.WellFormed ∧ crossing.Zeroless ∧ path.head? = some slash ∧
      resolveExisting crossing "file:///r/l/n/x" path = .ok [[111], [110], [120]] ∧
      Longest crossing path [[111], [110], [120]] ∧ crossing.LinkFree [[111], [110], [120]] ∧
      resolveExisting crossing "file:///r/l/n/x" (DiskPath.bytesOf [[111], [110], [120]]) =
        .ok [[111], [110], [120]] := by
  intro path
  have hresolve : resolveExisting crossing "file:///r/l/n/x" path = .ok [[111], [110], [120]] := by
    cbv
  have hcareful : ¬Careless path := by
    unfold Careless
    decide
  refine ⟨wellFormed_crossing, zeroless_crossing, rfl, hresolve, ?_⟩
  rcases resolveExisting_canonicalizes wellFormed_crossing zeroless_crossing
    (show path.head? = some slash from rfl) "file:///r/l/n/x" with
    ⟨cause, herror, -⟩ | ⟨place, heq, hlongest, -, -, hfree, -, hagain, -⟩
  · cases hresolve.symm.trans herror
  · obtain rfl := Except.ok.inj (hresolve.symm.trans heq)
    exact ⟨hlongest, hfree hcareful, hagain (hfree hcareful)⟩

end LocalHost

end FileBridge
