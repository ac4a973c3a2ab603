import FileBridge.Proofs.Disk.Locate
import FileBridge.Proofs.Disk.Shape

/-!
How a host that serves one directory resolves paths. The result is a location that exists, and after
it names through which nothing can be found. Main statements: what is entered at such a place is the
place itself, and a path that shows its last name is never resolved past a link that leads nowhere.
-/
namespace FileBridge

open Disk

theorem ok_bind {ε α β : Type} (a : α) (f : α → Except ε β) : (Except.ok a >>= f) = f a :=
  rfl

theorem exists_of_bind_eq_ok {ε α β : Type} {x : Except ε α} {f : α → Except ε β} {r : β}
    (h : x >>= f = .ok r) : ∃ a, x = .ok a ∧ f a = .ok r := by
  cases x with
  | error cause => cases h
  | ok a => exact ⟨a, rfl, h⟩

namespace Disk

variable {d : Disk} {path : List UInt8} {l base : Location} {name : Name}

/-- Nothing is found through a name at a location. -/
def Lost (d : Disk) (base : Location) (name : Name) : Prop :=
  ∀ l, ¬d.Leads base [name] l

/-- From the top, names lead to no location. -/
def Nowhere (d : Disk) (names : List Name) : Prop :=
  ∀ l, ¬d.Leads [] names l

theorem Lost.not_leads (h : d.Lost base name) (names : List Name) :
    ¬d.Leads base (name :: names) l := by
  intro hleads
  obtain ⟨l', hfirst, -⟩ := (show d.Leads base ([name] ++ names) l from hleads).split
  exact h l' hfirst

theorem Lost.exists_link (h : d.Lost base name) (hdot : name ≠ dot) (hup : name ≠ dotDot)
    {node : DiskNode} (hnode : d.node? (base ++ [name]) = some node) :
    ∃ target, node = .link target := by
  cases node with
  | link target => exact ⟨target, rfl⟩
  | file content =>
    exact absurd (.enter hdot hup hnode (fun _ heq => by cases heq) (.here _)) (h _)
  | directory =>
    exact absurd (.enter hdot hup hnode (fun _ heq => by cases heq) (.here _)) (h _)

theorem checkPath_eq (hpath : path.head? = some slash) :
    checkPath path =
      if path.contains 0 then .error .zeroByte
      else if pathLimit < path.length then .error .nameTooLong
      else .ok (.ofBytes path) := by
  have hne : path ≠ [] := by
    rintro rfl
    cases hpath
  simp only [checkPath, checkBytes, if_neg hne]
  split <;> rfl

theorem canonical_eq (hpath : path.head? = some slash) :
    d.canonical path =
      if path.contains 0 then .error .zeroByte
      else d.locate linkLimit [] (DiskPath.ofBytes path).names (DiskPath.ofBytes path).slashed := by
  have hne : path ≠ [] := by
    rintro rfl
    cases hpath
  have habsolute : (DiskPath.ofBytes path).absolute = true := by simp [DiskPath.ofBytes, hpath]
  simp only [canonical, checkBytes, if_neg hne]
  split
  · rfl
  · simp only [ok_bind, startOf, habsolute, if_true]

theorem locate_of_canonical (hpath : path.head? = some slash) (h : d.canonical path = .ok l) :
    d.locate linkLimit [] (DiskPath.ofBytes path).names (DiskPath.ofBytes path).slashed =
      .ok l := by
  rw [canonical_eq hpath] at h
  split at h
  · cases h
  · exact h

theorem leads_of_canonical (hpath : path.head? = some slash) (h : d.canonical path = .ok l) :
    d.Leads [] (DiskPath.ofBytes path).names l :=
  leads_of_locate (locate_of_canonical hpath h)

theorem locate_of_canonical_notFound (hpath : path.head? = some slash)
    (h : d.canonical path = .error .notFound) :
    path.contains 0 = false ∧ d.locate linkLimit [] (DiskPath.ofBytes path).names
      (DiskPath.ofBytes path).slashed = .error .notFound := by
  rw [canonical_eq hpath] at h
  split at h
  · cases h
  next hzero => exact ⟨by simpa using hzero, h⟩

/-- A path that leads somewhere is not refused because nothing is there. -/
theorem canonical_ne_notFound (hpath : path.head? = some slash)
    (hleads : d.Leads [] (DiskPath.ofBytes path).names l) :
    d.canonical path ≠ .error .notFound :=
  fun h => hleads.locate_ne_notFound _ _ (locate_of_canonical_notFound hpath h).2

theorem reach_eq {p : DiskPath} {before : List Name} (habsolute : p.absolute = true)
    (hslashed : p.slashed = false) (hnames : p.names = before ++ [name]) (hdot : name ≠ dot)
    (hup : name ≠ dotDot) (hfound : d.walk false linkLimit [] before true = .ok (.found base))
    (hshort : name.length ≤ nameLimit) :
    d.reach p = .ok (if (d.node? (base ++ [name])).isSome then .found (base ++ [name])
      else .free base name) := by
  have henter : d.enter p = .ok (base, .name name) := by
    simp only [enter, hnames, List.getLast?_concat, List.dropLast_concat, startOf, habsolute,
      if_true, hfound, ok_bind, if_neg hdot, if_neg hup]
  have hlook : d.lookUp base name = .ok (d.node? (base ++ [name])) :=
    if_neg (Nat.not_lt.mpr hshort)
  simp only [reach, hslashed, Bool.false_eq_true, if_false, henter, ok_bind, hlook]

end Disk

/-- The last name of a path is not seen: a slash follows it, a dot stands in its place, or the path
is too long for a call. -/
def Careless (path : List UInt8) : Prop :=
  (DiskPath.ofBytes path).slashed = true ∨ (DiskPath.ofBytes path).names.getLast? = some dot ∨
    pathLimit < path.length

namespace LocalHost

variable {d : Disk} {path : List UInt8} {base place : Location} {name : Name} {uri : String}

theorem spelled_of_mem_lexicalNames (h : name ∈ lexicalNames path) : Spelled name :=
  DiskPath.spelled_of_mem (List.mem_filter.mp h).1

theorem ne_dot_of_mem_lexicalNames (h : name ∈ lexicalNames path) : name ≠ dot := by
  simpa using (List.mem_filter.mp h).2

/-- The last of all names of a path is the last of those that matter, unless a dot stands there. -/
theorem names_of_lexicalNames {above : List Name}
    (hlast : (DiskPath.ofBytes path).names.getLast? ≠ some dot)
    (hnames : lexicalNames path = above ++ [name]) :
    ∃ before, (DiskPath.ofBytes path).names = before ++ [name] ∧
      before.filter (· ≠ dot) = above := by
  unfold lexicalNames at hnames
  generalize (DiskPath.ofBytes path).names = names at hlast hnames
  rcases List.eq_nil_or_concat names with rfl | ⟨before, last, heq⟩
  · simp at hnames
  · rw [List.concat_eq_append] at heq
    subst heq
    have hdot : last ≠ dot := by simpa using hlast
    rw [List.filter_append, List.filter_cons_of_pos (by simpa using hdot), List.filter_nil]
      at hnames
    obtain ⟨hbefore, rfl⟩ := List.append_singleton_inj.mp hnames
    exact ⟨before, rfl, hbefore⟩

/-- The path of names without dots shows its last name, unless it is too long. -/
theorem careful_of_length {names : List Name} (hspelled : ∀ name ∈ names, Spelled name)
    (hdots : dot ∉ names) (hlength : (DiskPath.bytesOf names).length ≤ pathLimit) :
    ¬Careless (DiskPath.bytesOf names) := by
  rw [Careless, DiskPath.ofBytes_bytesOf hspelled]
  rintro (hslashed | hdot | hlong)
  · cases hslashed
  · exact hdots (List.mem_of_getLast? hdot)
  · exact Nat.not_lt.mpr hlength hlong

/-- Names that stay in place do not matter for where a path leads. -/
theorem leads_lexicalNames_iff {here l : Location} :
    d.Leads here (lexicalNames path) l ↔ d.Leads here (DiskPath.ofBytes path).names l := by
  have hfilter : (lexicalNames path).filter (· ≠ dot) = lexicalNames path := by
    rw [lexicalNames, List.filter_filter]
    simp
  exact ⟨fun h => h.of_filter hfilter.symm, fun h => h.of_filter hfilter⟩

theorem filter_lexical {names : List Name} (h : lexicalNames path = names ++ [name]) :
    names.filter (· ≠ dot) = names := by
  rw [List.filter_eq_self]
  intro n hn
  have hmem : n ∈ lexicalNames path := by simp [h, hn]
  simpa using ne_dot_of_mem_lexicalNames hmem

/-- What is right below a place that a path leads to is seen at the path, unless it is careless. -/
theorem linkStat_eq (hpath : path.head? = some slash) (hcareful : ¬Careless path)
    {above : List Name} (hnames : lexicalNames path = above ++ [name]) (hname : name ≠ dotDot)
    (hleads : d.Leads [] above base) {node : DiskNode}
    (hnode : d.node? (base ++ [name]) = some node) (hlost : d.canonical path = .error .notFound) :
    d.linkStat path = .ok node := by
  obtain ⟨hzero, hlocate⟩ := locate_of_canonical_notFound hpath hlost
  simp only [Careless, not_or, Bool.not_eq_true, Nat.not_lt] at hcareful
  obtain ⟨hslashed, hlast, hlength⟩ := hcareful
  have hmem : name ∈ lexicalNames path := by simp [hnames]
  have hdot := ne_dot_of_mem_lexicalNames hmem
  obtain ⟨before, hbefore, habove⟩ := names_of_lexicalNames hlast hnames
  have hbase : d.Leads [] before base := hleads.of_filter (by rw [habove, filter_lexical hnames])
  have hcheck : checkPath path = .ok (DiskPath.ofBytes path) := by
    rw [checkPath_eq hpath, hzero, if_neg Bool.false_ne_true, if_neg (Nat.not_lt.mpr hlength)]
  have habsolute : (DiskPath.ofBytes path).absolute = true := by simp [DiskPath.ofBytes, hpath]
  rw [hslashed, hbefore] at hlocate
  obtain ⟨hfound, haskable⟩ := walk_above hdot hname hbase hlocate
  rw [linkStat, hcheck, ok_bind,
    reach_eq habsolute hslashed hbefore hdot hname hfound haskable.short, hnode]
  show d.existing (.found (base ++ [name])) = .ok node
  rw [existing, hnode]

/-- A path is resolved to a location that exists, and the names left after it lead nowhere. -/
structure Resolution (d : Disk) (path : List UInt8) (base : Location) (missing : List Name) :
    Prop where
  leads : ∃ above, lexicalNames path = above ++ missing ∧ d.Leads [] above base
  ne_dotDot : ∀ name ∈ missing, name ≠ dotDot
  lost : ∀ name rest, missing = name :: rest → d.Lost base name
  no_link : ∀ name rest, missing = name :: rest → ¬Careless path →
    ∀ target, d.node? (base ++ [name]) ≠ some (.link target)

section Parts

variable {above missing more rest : List Name}

/-- The path that is asked for when names at the end of a path have been dropped. -/
def part (path : List UInt8) (missing : List Name) : List UInt8 :=
  DiskPath.parent^[missing.length] path

theorem part_concat (path : List UInt8) (missing : List Name) (name : Name) :
    part path (missing ++ [name]) = part (DiskPath.parent path) missing := by
  rw [part, List.length_append, List.length_singleton, Function.iterate_succ_apply, part]

/-- What is left of a path is an absolute path with the names that were not dropped, and no longer
than the path. If any name was dropped, the last one left is shown. -/
theorem part_cases (hpath : path.head? = some slash)
    (hnames : lexicalNames path = above ++ missing) :
    (part path missing).head? = some slash ∧ lexicalNames (part path missing) = above ∧
      (part path missing).length ≤ path.length ∧
      (missing ≠ [] → (DiskPath.ofBytes (part path missing)).slashed = false ∧
        (DiskPath.ofBytes (part path missing)).names.getLast? ≠ some dot) := by
  induction missing using List.reverseRecOn generalizing path with
  | nil =>
    rw [List.append_nil] at hnames
    exact ⟨hpath, hnames, Nat.le_refl _, by simp⟩
  | append_singleton missing name ih =>
    rw [← List.append_assoc] at hnames
    obtain ⟨hhead, hlexical, hlength, hshown⟩ :=
      ih (head?_parent hpath hnames) (lexicalNames_parent hpath hnames)
    rw [part_concat]
    refine ⟨hhead, hlexical, Nat.le_trans hlength (length_parent_le hpath hnames), fun _ => ?_⟩
    by_cases hnil : missing = []
    · rw [hnil]
      exact parent_shows_last hpath hnames
    · exact hshown hnil

theorem head?_part (hpath : path.head? = some slash)
    (hnames : lexicalNames path = above ++ missing) :
    (part path missing).head? = some slash :=
  (part_cases hpath hnames).1

theorem lexicalNames_part (hpath : path.head? = some slash)
    (hnames : lexicalNames path = above ++ missing) : lexicalNames (part path missing) = above :=
  (part_cases hpath hnames).2.1

/-- A part of a path is resolved only if its names lead somewhere. -/
theorem nowhere_of_part (hpath : path.head? = some slash)
    (hnames : lexicalNames path = above ++ missing)
    (h : d.canonical (part path missing) = .error .notFound) : d.Nowhere above := by
  intro l hleads
  rw [← lexicalNames_part hpath hnames] at hleads
  exact canonical_ne_notFound (head?_part hpath hnames) (leads_lexicalNames_iff.mp hleads) h

/-- How a path is resolved: its first names are found, and with any more of them nothing is. -/
structure Trace (d : Disk) (path : List UInt8) (above : List Name) (base : Location)
    (missing : List Name) : Prop where
  absolute : path.head? = some slash
  names : lexicalNames path = above ++ missing
  found : d.canonical (part path missing) = .ok base
  ne_dotDot : ∀ name ∈ missing, name ≠ dotDot
  gone : ∀ more rest, missing = more ++ rest → more ≠ [] →
    d.canonical (part path rest) = .error .notFound ∧
      (d.linkStat (part path rest)).toBool = false

namespace Trace

theorem of_canonical (hpath : path.head? = some slash) (h : d.canonical path = .ok base) :
    Trace d path (lexicalNames path) base [] where
  absolute := hpath
  names := (List.append_nil _).symm
  found := h
  ne_dotDot _ hmem := absurd hmem List.not_mem_nil
  gone _ _ heq hne := absurd (List.append_eq_nil_iff.mp heq.symm).1 hne

theorem concat (hpath : path.head? = some slash) (hlost : d.canonical path = .error .notFound)
    (hlink : (d.linkStat path).toBool = false) {first : List Name}
    (hnames : lexicalNames path = first ++ [name]) (hname : name ≠ dotDot)
    (h : Trace d (DiskPath.parent path) above base missing) :
    Trace d path above base (missing ++ [name]) := by
  obtain rfl : first = above ++ missing := by rw [← h.names, lexicalNames_parent hpath hnames]
  constructor
  · exact hpath
  · rw [hnames, List.append_assoc]
  · rw [part_concat, h.found]
  · intro n hn
    rcases List.mem_append.mp hn with hn | hn
    · exact h.ne_dotDot n hn
    · exact List.mem_singleton.mp hn ▸ hname
  · intro more rest heq hmore
    rcases List.eq_nil_or_concat rest with rfl | ⟨rest, last, hrest⟩
    · exact ⟨hlost, hlink⟩
    · rw [List.concat_eq_append] at hrest
      subst hrest
      rw [← List.append_assoc] at heq
      obtain ⟨rfl, rfl⟩ := List.append_singleton_inj.mp heq
      rw [part_concat]
      exact h.gone more rest rfl hmore

theorem leads (h : Trace d path above base missing) : d.Leads [] above base := by
  have hleads := leads_of_canonical (head?_part h.absolute h.names) h.found
  rw [← leads_lexicalNames_iff, lexicalNames_part h.absolute h.names] at hleads
  exact hleads

/-- No more names of the path lead anywhere. -/
theorem nowhere (h : Trace d path above base missing) (hmissing : missing = more ++ rest)
    (hmore : more ≠ []) : d.Nowhere (above ++ more) := by
  have hnames : lexicalNames path = above ++ more ++ rest := by
    rw [h.names, hmissing, List.append_assoc]
  exact nowhere_of_part h.absolute hnames (h.gone more rest hmissing hmore).1

theorem lost (h : Trace d path above base missing) (hmissing : missing = name :: rest) :
    d.Lost base name :=
  fun l hleads => h.nowhere (show missing = [name] ++ rest from hmissing) (by simp) l
    (h.leads.append hleads)

theorem names_cons (h : Trace d path above base missing) (hmissing : missing = name :: rest) :
    lexicalNames path = above ++ [name] ++ rest := by
  rw [h.names, hmissing, List.append_cons]

/-- No link is at the first name left over, unless the path is too long or hides its last name. -/
theorem no_link (h : Trace d path above base missing) (hmissing : missing = name :: rest)
    (hlength : path.length ≤ pathLimit) (hshown : rest = [] → ¬Careless path)
    (target : List UInt8) : d.node? (base ++ [name]) ≠ some (.link target) := by
  intro hnode
  obtain ⟨hlost, hlink⟩ := h.gone [name] rest hmissing (by simp)
  have hnames := h.names_cons hmissing
  have hname : name ≠ dotDot := h.ne_dotDot name (by simp [hmissing])
  obtain ⟨hhead, hlexical, hle, hshows⟩ := part_cases h.absolute hnames
  have hcareful : ¬Careless (part path rest) := by
    by_cases hrest : rest = []
    · rw [hrest]
      exact hshown hrest
    · rintro (hslashed | hdot | hlong)
      · exact absurd hslashed (by simp [(hshows hrest).1])
      · exact (hshows hrest).2 hdot
      · omega
  rw [linkStat_eq hhead hcareful hlexical hname h.leads hnode hlost] at hlink
  cases hlink

theorem resolution (h : Trace d path above base missing) : Resolution d path base missing where
  leads := ⟨above, h.names, h.leads⟩
  ne_dotDot := h.ne_dotDot
  lost _ _ := h.lost
  no_link _ _ hmissing hcareful :=
    h.no_link hmissing (Nat.le_of_not_lt fun hlong => hcareful (.inr (.inr hlong)))
      fun _ => hcareful

end Trace

end Parts

theorem resolveWhole_eq_ok {o : Option Location} (h : resolveWhole d uri path = .ok o) :
    match o with
    | some place => d.canonical path = .ok place
    | none => d.canonical path = .error .notFound ∧ (d.linkStat path).toBool = false := by
  unfold resolveWhole at h
  split at h
  next heq =>
    cases h
    exact heq
  next heq =>
    split at h
    · cases h
    next hlink =>
      cases h
      exact ⟨heq, by simpa using hlink⟩
  next => cases h

section Steps

variable {names after : List Name}

theorem resolveUpTo_of_error {cause : HostError} (h : resolveWhole d uri path = .error cause) :
    resolveUpTo d uri path after names = .error cause := by
  cases names <;> simp only [resolveUpTo, h] <;> rfl

theorem resolveUpTo_of_some (h : resolveWhole d uri path = .ok (some base)) :
    resolveUpTo d uri path after names = .ok (base ++ after) := by
  cases names <;> simp only [resolveUpTo, h] <;> rfl

theorem resolveUpTo_of_none (h : resolveWhole d uri path = .ok none) (hname : name ≠ dotDot) :
    resolveUpTo d uri path after (name :: names) =
      resolveUpTo d uri (DiskPath.parent path) (name :: after) names := by
  simp only [resolveUpTo, h, ok_bind, if_neg hname]

theorem resolveUpTo_of_dotDot (h : resolveWhole d uri path = .ok none) :
    resolveUpTo d uri path after (dotDot :: names) =
      .error (.systemAt DiskError.notFound.system uri) := by
  simp only [resolveUpTo, h, ok_bind, if_true]

/-- A step of resolving: the path exists, or nothing is there and its last name goes to the names
that come after. -/
theorem resolveUpTo_cases (h : resolveUpTo d uri path after names = .ok place) :
    (∃ base, d.canonical path = .ok base ∧ place = base ++ after) ∨
      d.canonical path = .error .notFound ∧ (d.linkStat path).toBool = false ∧
        ∃ name above, names = name :: above ∧ name ≠ dotDot ∧
          resolveUpTo d uri (DiskPath.parent path) (name :: after) above = .ok place := by
  cases hwhole : resolveWhole d uri path with
  | error cause =>
    rw [resolveUpTo_of_error hwhole] at h
    cases h
  | ok o =>
    have hcanonical := resolveWhole_eq_ok hwhole
    cases o with
    | some base =>
      rw [resolveUpTo_of_some hwhole] at h
      cases h
      exact .inl ⟨base, hcanonical, rfl⟩
    | none =>
      refine .inr ⟨hcanonical.1, hcanonical.2, ?_⟩
      cases names with
      | nil =>
        simp only [resolveUpTo, hwhole] at h
        cases h
      | cons name above =>
        by_cases hname : name = dotDot
        · subst hname
          rw [resolveUpTo_of_dotDot hwhole] at h
          cases h
        · rw [resolveUpTo_of_none hwhole hname] at h
          exact ⟨name, above, rfl, hname, h⟩

theorem resolveUpTo_eq_ok (hpath : path.head? = some slash)
    (hnames : lexicalNames path = names.reverse)
    (h : resolveUpTo d uri path after names = .ok place) :
    ∃ above base missing, Trace d path above base missing ∧ place = base ++ missing ++ after := by
  induction names generalizing path after with
  | nil =>
    rcases resolveUpTo_cases h with ⟨base, hcanonical, rfl⟩ | ⟨-, -, name, above, heq, -⟩
    · exact ⟨_, base, [], .of_canonical hpath hcanonical, by rw [List.append_nil]⟩
    · cases heq
  | cons name first ih =>
    rcases resolveUpTo_cases h with ⟨base, hcanonical, rfl⟩ |
      ⟨hlost, hlink, name', first', heq, hname, hrest⟩
    · exact ⟨_, base, [], .of_canonical hpath hcanonical, by rw [List.append_nil]⟩
    · obtain ⟨rfl, rfl⟩ := List.cons.inj heq
      rw [List.reverse_cons] at hnames
      obtain ⟨above, base, missing, htrace, rfl⟩ :=
        ih (head?_parent hpath hnames) (lexicalNames_parent hpath hnames) hrest
      refine ⟨above, base, missing ++ [name], htrace.concat hpath hlost hlink hnames hname, ?_⟩
      simp

end Steps

theorem exists_trace (hpath : path.head? = some slash)
    (h : resolveExisting d uri path = .ok place) :
    ∃ above base missing, Trace d path above base missing ∧ place = base ++ missing := by
  have hnames : lexicalNames path = (lexicalNames path).reverse.reverse := by
    rw [List.reverse_reverse]
  obtain ⟨above, base, missing, htrace, rfl⟩ := resolveUpTo_eq_ok hpath hnames h
  exact ⟨above, base, missing, htrace, by rw [List.append_nil]⟩

theorem resolveExisting_eq_ok (hpath : path.head? = some slash)
    (h : resolveExisting d uri path = .ok place) :
    ∃ base missing, Resolution d path base missing ∧ place = base ++ missing := by
  obtain ⟨above, base, missing, htrace, rfl⟩ := exists_trace hpath h
  exact ⟨base, missing, htrace.resolution, rfl⟩

namespace Resolution

variable {missing : List Name}

theorem solid (h : Resolution d path base missing) (hdisk : d.WellFormed) : d.Solid base := by
  obtain ⟨above, -, hleads⟩ := h.leads
  exact hleads.solid hdisk (.of_isDirectory d.isDirectory_nil)

theorem plain (h : Resolution d path base missing) : ∀ name ∈ missing, Plain name := by
  intro name hmem
  obtain ⟨above, hnames, -⟩ := h.leads
  have hlexical : name ∈ lexicalNames path := hnames ▸ List.mem_append_right above hmem
  exact ⟨spelled_of_mem_lexicalNames hlexical, ne_dot_of_mem_lexicalNames hlexical,
    h.ne_dotDot name hmem⟩

/-- Where a walk along a resolved path ends: where the path leads, at a name that is free, or beyond
a link that leads nowhere. -/
theorem walk_eq_ok (h : Resolution d path base missing) (hdisk : d.WellFormed) {creates : Bool}
    {links : Nat} {p : Place}
    (hwalk : d.walk creates links [] (base ++ missing) false = .ok p) :
    missing = [] ∧ p = .found base ∨
      (∃ name, missing = [name] ∧ p = .free base name) ∨
      ∃ name rest target l n, missing = name :: rest ∧
        d.node? (base ++ [name]) = some (.link target) ∧ p = .free l n := by
  rcases walk_straight hdisk [] base missing (h.solid hdisk) creates links false with
    ⟨cause, -, heq⟩ | heq
  · cases heq.symm.trans hwalk
  rw [heq, List.nil_append] at hwalk
  cases missing with
  | nil =>
    rw [Disk.walk] at hwalk
    cases hwalk
    exact .inl ⟨rfl, rfl⟩
  | cons name rest =>
    have hlost := h.lost name rest rfl
    have hplain := h.plain name List.mem_cons_self
    rcases d.walk_name creates links base rest false hplain.ne_dot hplain.ne_dotDot with
      ⟨cause, -, heq⟩ | ⟨-, -, heq⟩
    · cases heq.symm.trans hwalk
    cases p with
    | found l => exact absurd (leads_of_walk hwalk) (hlost.not_leads rest)
    | free l n =>
      cases hnode : d.node? (base ++ [name]) with
      | none =>
        rw [heq, hnode] at hwalk
        simp only at hwalk
        split at hwalk
        next hrest =>
          cases hwalk
          exact .inr (.inl ⟨name, by rw [hrest], rfl⟩)
        next => cases hwalk
      | some node =>
        obtain ⟨target, rfl⟩ := hlost.exists_link hplain.ne_dot hplain.ne_dotDot hnode
        exact .inr (.inr ⟨name, rest, target, l, n, rfl, hnode, rfl⟩)

end Resolution

/-- A place below a location that exists. If there are more names after the location, nothing is
found through the first. -/
structure Reached (d : Disk) (base : Location) (missing : List Name) : Prop where
  solid : d.Solid base
  plain : ∀ name ∈ missing, Plain name
  lost : ∀ name next rest, missing = name :: next :: rest → d.Lost base name

namespace Reached

variable {missing : List Name}

theorem plain_append (h : Reached d base missing) (hdisk : d.WellFormed) :
    ∀ name ∈ base ++ missing, Plain name := by
  intro name hmem
  obtain ⟨node, hnode, -⟩ := h.solid
  rcases List.mem_append.mp hmem with hmem | hmem
  · exact hdisk.plain hnode name hmem
  · exact h.plain name hmem

/-- The walk to the directory that a place is in gets there. -/
theorem walk_eq_ok (h : Reached d base missing) (hdisk : d.WellFormed) {before : Location}
    (hbefore : base ++ missing = before ++ [name]) {l : Location}
    (hwalk : d.walk false linkLimit [] before true = .ok (.found l)) :
    l = before ∧ d.isDirectory before = true := by
  have hdone {here : Location} (h : d.walk false linkLimit here [] true = .ok (.found l)) :
      l = here ∧ d.isDirectory here = true := by
    rw [Disk.walk] at h
    split at h
    · cases h
    next hdirectory =>
      cases h
      exact ⟨rfl, by simpa using hdirectory⟩
  rcases List.eq_nil_or_concat missing with rfl | ⟨more, last, heq⟩
  · rw [List.append_nil] at hbefore
    subst hbefore
    obtain ⟨node, hnode, -⟩ := h.solid
    have hsolid : d.Solid before := .of_isDirectory (hdisk.parent hnode)
    rcases walk_straight hdisk [] before [] hsolid false linkLimit true with ⟨cause, -, heq⟩ | heq
    · rw [List.append_nil] at heq
      cases heq.symm.trans hwalk
    · rw [List.append_nil] at heq
      exact hdone (heq.symm.trans hwalk)
  · rw [List.concat_eq_append] at heq
    subst heq
    rw [← List.append_assoc] at hbefore
    obtain ⟨rfl, -⟩ := List.append_singleton_inj.mp hbefore
    rcases walk_straight hdisk [] base more h.solid false linkLimit true with ⟨cause, -, heq⟩ | heq
    · cases heq.symm.trans hwalk
    · rw [heq, List.nil_append] at hwalk
      cases more with
      | nil =>
        rw [List.append_nil]
        exact hdone hwalk
      | cons m ms =>
        -- More than one name is missing, so the walk would have found something through the first.
        obtain ⟨next, rest, hrest⟩ : ∃ next rest, ms ++ [last] = next :: rest :=
          List.exists_cons_of_ne_nil (by simp)
        have hlost := h.lost m next rest (by rw [List.cons_append, hrest])
        exact absurd (leads_of_walk hwalk) (hlost.not_leads ms)

/-- What is entered at a place is the place. -/
theorem enter_eq_ok (h : Reached d base missing) (hdisk : d.WellFormed)
    {entered : Location × LastName}
    (henter : d.enter (DiskPath.ofLocation (base ++ missing)) = .ok entered) :
    base ++ missing = [] ∧ entered = ([], .top) ∨
      ∃ before name, base ++ missing = before ++ [name] ∧
        entered = (before, .name name) ∧ d.isDirectory before = true ∧ Plain name := by
  have hplain := h.plain_append hdisk
  rcases List.eq_nil_or_concat (base ++ missing) with hnil | ⟨before, name, heq⟩
  · rw [hnil] at henter
    cases henter
    exact .inl ⟨hnil, rfl⟩
  · rw [List.concat_eq_append] at heq
    have hname : Plain name := hplain name (by simp [heq])
    rw [heq] at henter
    simp only [enter, DiskPath.ofLocation, List.getLast?_concat, List.dropLast_concat, startOf,
      if_true] at henter
    obtain ⟨p, hwalk, hentered⟩ := exists_of_bind_eq_ok henter
    cases p with
    | free l n => cases hentered
    | found l =>
      simp only [if_neg hname.ne_dot, if_neg hname.ne_dotDot] at hentered
      cases hentered
      obtain ⟨rfl, hdirectory⟩ := h.walk_eq_ok hdisk heq hwalk
      exact .inr ⟨l, name, heq, rfl, hdirectory, hname⟩

end Reached

theorem Resolution.reached {missing : List Name} (h : Resolution d path base missing)
    (hdisk : d.WellFormed) : Reached d base missing :=
  ⟨h.solid hdisk, h.plain, fun name next rest heq => h.lost name (next :: rest) heq⟩

/-- A link at the end of a path is left alone, since its name is put after the place above. -/
theorem resolveAbove_eq_ok (hdisk : d.WellFormed) (hpath : path.head? = some slash)
    (h : resolveAbove d uri path = .ok place) :
    ∃ base missing, Reached d base missing ∧ place = base ++ missing := by
  have hexisting (h : resolveExisting d uri path = .ok place) :
      ∃ base missing, Reached d base missing ∧ place = base ++ missing := by
    obtain ⟨base, missing, hresolution, rfl⟩ := resolveExisting_eq_ok hpath h
    exact ⟨base, missing, hresolution.reached hdisk, rfl⟩
  unfold resolveAbove at h
  split at h
  next => exact hexisting h
  next name hlast =>
    split at h
    · exact hexisting h
    next hname =>
      obtain ⟨above, habove, heq⟩ := exists_of_bind_eq_ok h
      cases heq
      obtain ⟨first, hnames⟩ := List.getLast?_eq_some_iff.mp hlast
      obtain ⟨base, missing, hresolution, rfl⟩ :=
        resolveExisting_eq_ok (head?_parent hpath hnames) habove
      have hmem := List.mem_of_getLast? hlast
      refine ⟨base, missing ++ [name], ⟨hresolution.solid hdisk, ?_, ?_⟩, List.append_assoc ..⟩
      · intro n hn
        rcases List.mem_append.mp hn with hn | hn
        · exact hresolution.plain n hn
        · rw [List.mem_singleton.mp hn]
          exact ⟨spelled_of_mem_lexicalNames hmem, ne_dot_of_mem_lexicalNames hmem, hname⟩
      · intro first next rest heq
        cases missing with
        | nil => cases heq
        | cons m ms =>
          obtain ⟨rfl, -⟩ := List.cons.inj heq
          exact hresolution.lost m ms rfl

end LocalHost

end FileBridge
