import Mathlib.Data.Fin.Tuple.Basic
import Mathlib.Data.List.Permutation
import FileBridge.Proofs.Local.Obstacle
import FileBridge.Proofs.Tree.Run

/-!
What a host that serves one directory answers for paths outside of it, on a disk without links. Main
statement: every operation is refused and changes nothing. The refusal says that the path is
outside, unless something stops the path from being resolved: a file on the way to the rest of it,
or a name or a byte that no path can have.
-/
namespace FileBridge

namespace LocalHost

open Disk

variable {d : Disk} {path : List UInt8} {uri : String} {cause : DiskError}

theorem lexicalNames_of_dotless (hnames : Dotless (DiskPath.ofBytes path).names) :
    lexicalNames path = (DiskPath.ofBytes path).names := by
  rw [lexicalNames, List.filter_eq_self]
  exact fun name hmem => by simpa using (hnames name hmem).1

theorem resolveWhole_of_obstacle (h : d.Obstacle path cause) (hlinks : d.Linkless)
    (hdisk : d.WellFormed) (hpath : path.head? = some slash)
    (hnames : Dotless (DiskPath.ofBytes path).names) (uri : String) :
    resolveWhole d uri path = .error (.systemAt cause.system uri) := by
  have hne := h.ne_notFound
  rw [resolveWhole, h.canonical hlinks hdisk hpath hnames]
  split
  next heq => cases heq
  next heq =>
    cases heq
    exact absurd rfl hne
  next heq =>
    cases heq
    rfl

/-- Without an obstacle, a path is resolved to the location that it spells, or nothing is there. -/
theorem resolveWhole_of_clear (hlinks : d.Linkless) (hpath : path.head? = some slash)
    (hnames : Dotless (DiskPath.ofBytes path).names) (hclear : ∀ cause, ¬d.Obstacle path cause)
    (uri : String) :
    resolveWhole d uri path = .ok (some (DiskPath.ofBytes path).names) ∨
      resolveWhole d uri path = .ok none ∧ (DiskPath.ofBytes path).names ≠ [] := by
  rcases canonical_of_clear hlinks hpath hnames hclear with heq | ⟨heq, hne⟩
  · refine .inl ?_
    rw [resolveWhole, heq]
  · refine .inr ⟨?_, hne⟩
    have hunseen : (d.linkStat path).toBool = false := by
      cases hseen : d.linkStat path with
      | error cause => rfl
      | ok node =>
        rcases leads_or_link_of_linkStat hpath hseen with
          ⟨l, hleads⟩ | ⟨before, name, base, target, -, -, -, hlink⟩
        · exact absurd heq (canonical_ne_notFound hpath hleads)
        · exact absurd hlink (hlinks _ target)
    rw [resolveWhole, heq, hunseen]
    rfl

/-- The path above the last name has just the names above it. -/
theorem dotless_parent {above : List Name} {name : Name} (hpath : path.head? = some slash)
    (hdots : Dotless (DiskPath.ofBytes path).names)
    (hnames : (DiskPath.ofBytes path).names = above ++ [name]) :
    (DiskPath.parent path).head? = some slash ∧
      (DiskPath.ofBytes (DiskPath.parent path)).names = above ∧ Dotless above := by
  have hlexical : lexicalNames path = above ++ [name] := by
    rw [lexicalNames_of_dotless hdots, hnames]
  have hdots' : Dotless (DiskPath.ofBytes (DiskPath.parent path)).names :=
    fun n hn => hdots n ((isPrefix_names_parent hpath hlexical).subset hn)
  have hparent := lexicalNames_parent hpath hlexical
  rw [lexicalNames_of_dotless hdots'] at hparent
  exact ⟨head?_parent hpath hlexical, hparent, hparent ▸ hdots'⟩

/-- Nothing stops the path above the last name that does not stop the whole path. -/
theorem not_obstacle_parent {above : List Name} {name : Name} (hpath : path.head? = some slash)
    (hdots : Dotless (DiskPath.ofBytes path).names)
    (hnames : (DiskPath.ofBytes path).names = above ++ [name])
    (hclear : ∀ cause, ¬d.Obstacle path cause) (cause : DiskError) :
    ¬d.Obstacle (DiskPath.parent path) cause := by
  have hlexical : lexicalNames path = above ++ [name] := by
    rw [lexicalNames_of_dotless hdots, hnames]
  have hzero : 0 ∉ path := fun hzero => hclear _ (.zeroByte hzero)
  intro h
  cases h with
  | zeroByte h => exact hzero (mem_of_mem_parent hpath hlexical h (by decide))
  | blocked _ h =>
    rw [(dotless_parent hpath hdots hnames).2.1, (parent_shows_last hpath hlexical).1] at h
    have hblocked := h.append (List.cons_ne_nil name []) (DiskPath.ofBytes path).slashed
    exact hclear cause (.blocked hzero (hnames ▸ hblocked))

theorem resolveUpTo_of_obstacle (h : d.Obstacle path cause) (hlinks : d.Linkless)
    (hdisk : d.WellFormed) (hpath : path.head? = some slash)
    (hnames : Dotless (DiskPath.ofBytes path).names) (after names : List Name) :
    resolveUpTo d uri path after names = .error (.systemAt cause.system uri) := by
  have hwhole := resolveWhole_of_obstacle h hlinks hdisk hpath hnames uri
  cases names <;> rw [resolveUpTo, hwhole] <;> rfl

/-- Names that nothing has are dropped from the end of a path, and put back. -/
theorem resolveUpTo_of_clear (hlinks : d.Linkless) {names : List Name}
    (hpath : path.head? = some slash) (hdots : Dotless (DiskPath.ofBytes path).names)
    (hnames : (DiskPath.ofBytes path).names = names.reverse)
    (hclear : ∀ cause, ¬d.Obstacle path cause) (after : List Name) :
    resolveUpTo d uri path after names = .ok (names.reverse ++ after) := by
  induction names generalizing path after with
  | nil =>
    rcases resolveWhole_of_clear hlinks hpath hdots hclear uri with heq | ⟨-, hne⟩
    · rw [resolveUpTo, heq, hnames]
      rfl
    · exact absurd hnames hne
  | cons name above ih =>
    rcases resolveWhole_of_clear hlinks hpath hdots hclear uri with heq | ⟨heq, -⟩
    · rw [resolveUpTo, heq, hnames]
      rfl
    · have hsplit : (DiskPath.ofBytes path).names = above.reverse ++ [name] := by
        rw [hnames, List.reverse_cons]
      obtain ⟨hhead, hparent, hdots'⟩ := dotless_parent hpath hdots hsplit
      have hname := (hdots name (by simp [hsplit])).2
      have hrest := ih hhead (hparent.symm ▸ hdots') hparent
        (not_obstacle_parent hpath hdots hsplit hclear) (name :: after)
      rw [resolveUpTo, heq]
      show (if name = dotDot then _ else _) = _
      rw [if_neg hname, hrest, List.reverse_cons, List.append_assoc]
      rfl

theorem resolveExisting_of_clear (hlinks : d.Linkless) (hpath : path.head? = some slash)
    (hdots : Dotless (DiskPath.ofBytes path).names) (hclear : ∀ cause, ¬d.Obstacle path cause) :
    resolveExisting d uri path = .ok (DiskPath.ofBytes path).names := by
  rw [resolveExisting, lexicalNames_of_dotless hdots,
    resolveUpTo_of_clear hlinks hpath hdots (List.reverse_reverse _).symm hclear,
    List.reverse_reverse, List.append_nil]

/-- The part of a path whose links are followed: all of it, or all but the last name. -/
def followed (path : List UInt8) (followLast : Bool) : List UInt8 :=
  if followLast = true ∨ (DiskPath.ofBytes path).names = [] then path
  else DiskPath.parent path

/-- One part of a path is resolved, and the rest of it is left as it is. -/
theorem resolve_eq_followed (hpath : path.head? = some slash)
    (hdots : Dotless (DiskPath.ofBytes path).names) (d : Disk) (uri : String) (followLast : Bool) :
    (followed path followLast).head? = some slash ∧
      Dotless (DiskPath.ofBytes (followed path followLast)).names ∧
      ∃ last, (DiskPath.ofBytes path).names =
          (DiskPath.ofBytes (followed path followLast)).names ++ last ∧
        (if followLast then resolveExisting d uri path else resolveAbove d uri path) =
          (resolveExisting d uri (followed path followLast)).map (· ++ last) := by
  have hwhole : (resolveExisting d uri path).map (· ++ []) = resolveExisting d uri path := by
    cases resolveExisting d uri path with
    | error e => rfl
    | ok place => exact congrArg Except.ok (List.append_nil place)
  cases followLast with
  | true =>
    rw [followed, if_pos (.inl rfl)]
    exact ⟨hpath, hdots, [], (List.append_nil _).symm, hwhole.symm⟩
  | false =>
    simp only [resolveAbove, lexicalNames_of_dotless hdots, Bool.false_eq_true, if_false]
    rcases List.eq_nil_or_concat (DiskPath.ofBytes path).names with hnil | ⟨above, name, hnames⟩
    · rw [followed, if_pos (.inr hnil)]
      refine ⟨hpath, hdots, [], (List.append_nil _).symm, ?_⟩
      rw [hwhole, hnil]
      rfl
    · rw [List.concat_eq_append] at hnames
      obtain ⟨hhead, hparent, hdots'⟩ := dotless_parent hpath hdots hnames
      have hname := (hdots name (by simp [hnames])).2
      have hfollowed : followed path false = DiskPath.parent path := by
        rw [followed, if_neg (by simp [hnames])]
      rw [hfollowed, hparent]
      refine ⟨hhead, hdots', [name], hnames, ?_⟩
      rw [hnames, List.getLast?_concat]
      simp only [if_neg hname]
      cases resolveExisting d uri (DiskPath.parent path) <;> rfl

section Refusal

variable {h : LocalHost} {root : Location} {e : HostError} {followLast : Bool} {o : Tree.Operation}

theorem resolve_of_root (hroot : h.root = some root) (hpath : localPath uri = .ok path)
    (followLast : Bool) :
    h.resolve uri followLast =
      (if followLast then resolveExisting h.disk uri path else resolveAbove h.disk uri path) >>=
        fun place =>
          if root.isPrefixOf place then .ok (DiskPath.bytesOf place)
          else .error (.outside uri (shown root)) := by
  rw [resolve, hpath, ok_bind, hroot]
  cases followLast <;> rfl

theorem resolve_outside (hroot : h.root = some root) (hdisk : h.disk.WellFormed)
    (hlinks : h.disk.Linkless) (hpath : localPath uri = .ok path)
    (hdots : Dotless (DiskPath.ofBytes path).names)
    (houtside : ¬root <+: (DiskPath.ofBytes path).names) (followLast : Bool) :
    (∀ cause, h.disk.Obstacle (followed path followLast) cause →
        h.resolve uri followLast = .error (.systemAt cause.system uri)) ∧
      ((∀ cause, ¬h.disk.Obstacle (followed path followLast) cause) →
        h.resolve uri followLast = .error (.outside uri (shown root))) := by
  obtain ⟨hhead, hdots', last, hnames, heq⟩ :=
    resolve_eq_followed (head?_of_localPath hpath) hdots h.disk uri followLast
  rw [resolve_of_root hroot hpath, heq]
  constructor
  · intro cause hobstacle
    rw [resolveExisting, resolveUpTo_of_obstacle hobstacle hlinks hdisk hhead hdots']
    rfl
  · intro hclear
    rw [resolveExisting_of_clear hlinks hhead hdots' hclear]
    show (if root.isPrefixOf (_ ++ last) then _ else _) = _
    rw [← hnames, if_neg]
    rwa [List.isPrefixOf_iff_prefix]

/-- An operation asks for what is at a URL, with a link there followed or not. Of a move, the target
matters only if the source may be used. -/
inductive Asks (h : LocalHost) (uri : String) : Bool → Tree.Operation → Prop where
  | stat : Asks h uri true (.stat uri)
  | read : Asks h uri true (.read uri)
  | write (content : List UInt8) (mayCreate mayOverwrite : Bool) :
    Asks h uri true (.write uri content mayCreate mayOverwrite)
  | createDirectory : Asks h uri true (.createDirectory uri)
  | list : Asks h uri true (.list uri)
  | watch : Asks h uri true (.watch uri)
  | delete (recursive : Bool) : Asks h uri false (.delete uri recursive)
  | source (target : String) (mayOverwrite : Bool) :
    Asks h uri false (.rename uri target mayOverwrite)
  | target {source : String} {old : List UInt8} (mayOverwrite : Bool)
    (resolved : h.resolve source false = .ok old) :
    Asks h uri false (.rename source uri mayOverwrite)

/-- An operation fails, and the host stays as it is. -/
def Refuses (h : LocalHost) (e : HostError) : Tree.Operation → Prop
  | .stat uri => h.stat uri = (.error e, h)
  | .read uri => h.read uri = (.error e, h)
  | .write uri content mayCreate mayOverwrite =>
    h.write uri content mayCreate mayOverwrite = (.error e, h)
  | .createDirectory uri => h.createDirectory uri = (.error e, h)
  | .delete uri recursive => h.delete uri recursive = (.error e, h)
  | .rename source target mayOverwrite => h.rename source target mayOverwrite = (.error e, h)
  | .list uri => h.list uri = (.error e, h)
  | .watch uri => h.watch uri = (.error e, h)

/-- A URL that may not be used is why an operation on it fails. -/
theorem refuses_of_asks (ho : h.Asks uri followLast o)
    (hresolve : h.resolve uri followLast = .error e) (hpath : localPath uri = .ok path) :
    h.Refuses e o := by
  cases ho with
  | stat =>
    show h.look _ = _
    rw [hresolve]
    rfl
  | read =>
    show h.look _ = _
    rw [hresolve]
    rfl
  | list =>
    show h.look _ = _
    rw [hresolve]
    rfl
  | write content mayCreate mayOverwrite =>
    show h.write uri content mayCreate mayOverwrite = _
    rw [write, hresolve]
  | createDirectory =>
    show h.createDirectory uri = _
    rw [createDirectory, hresolve]
  | watch =>
    show h.watch uri = _
    rw [watch, hpath, hresolve]
    rfl
  | delete recursive =>
    show h.delete uri recursive = _
    rw [delete, hresolve]
  | source target mayOverwrite =>
    show h.rename uri target mayOverwrite = _
    rw [rename, hresolve]
  | target mayOverwrite hold =>
    show h.rename _ uri mayOverwrite = _
    rw [rename, hold, hresolve]

/-- On a disk without links, a path without dots that is not at or below the served directory is
refused by every operation, and nothing changes. It is refused for being outside, unless there is an
obstacle: then the answer tells which. -/
theorem outside_refused_iff_no_obstacle (hroot : h.root = some root) (hdisk : h.disk.WellFormed)
    (hlinks : h.disk.Linkless) (hpath : localPath uri = .ok path)
    (hdots : Dotless (DiskPath.ofBytes path).names)
    (houtside : ¬root <+: (DiskPath.ofBytes path).names) (ho : h.Asks uri followLast o) :
    ∃ e, h.Refuses e o ∧
      (e.kind = .permissionDenied ↔ ∀ cause, ¬h.disk.Obstacle (followed path followLast) cause) ∧
      (e.kind = .permissionDenied → e = .outside uri (shown root)) ∧
      ∀ cause, h.disk.Obstacle (followed path followLast) cause →
        e = .systemAt cause.system uri := by
  obtain ⟨hobstacle, hclear⟩ := resolve_outside hroot hdisk hlinks hpath hdots houtside followLast
  by_cases hstop : ∃ cause, h.disk.Obstacle (followed path followLast) cause
  · obtain ⟨cause, hcause⟩ := hstop
    have hkind : (HostError.systemAt cause.system uri).kind ≠ .permissionDenied := by
      show cause.system.kind ≠ _
      cases cause <;> decide
    refine ⟨_, refuses_of_asks ho (hobstacle cause hcause) hpath,
      ⟨fun hdenied => absurd hdenied hkind, fun hnone => absurd hcause (hnone cause)⟩,
      fun hdenied => absurd hdenied hkind, fun cause' hcause' => ?_⟩
    exact Except.error.inj ((hobstacle cause hcause).symm.trans (hobstacle cause' hcause'))
  · have hnone : ∀ cause, ¬h.disk.Obstacle (followed path followLast) cause :=
      fun cause hcause => hstop ⟨cause, hcause⟩
    exact ⟨_, refuses_of_asks ho (hclear hnone) hpath, ⟨fun _ => hnone, fun _ => rfl⟩, fun _ => rfl,
      fun cause hcause => absurd hcause (hnone cause)⟩

end Refusal

/-- The directory `/r` is served. Beside it are a directory `/o` and a file `/o/f`. -/
def beside : LocalHost where
  disk :=
    (((⟨[], [], 0⟩ : Disk).put [[114]] .directory).put [[111]] .directory).put [[111], [102]]
      (.file [1])
  root := some [[114]]
  watchers := []
  nextWatcher := 0

theorem wellFormed_beside : beside.disk.WellFormed := by
  have hserved := (wellFormed_bare [] 0).put (isDirectory_nil _)
    (plain_singleton (b := 114) (by decide) (by decide)) rfl .directory
  have hother := hserved.put (isDirectory_nil _)
    (plain_singleton (b := 111) (by decide) (by decide)) rfl .directory
  exact hother.put (show isDirectory _ [[111]] = true from rfl)
    (plain_singleton (b := 102) (by decide) (by decide)) rfl _

theorem linkless_beside : beside.disk.Linkless := by
  intro place target h
  rw [beside, node?_put (by simp)] at h
  split at h
  · cases h
  · rw [node?_put (by simp)] at h
    split at h
    · cases h
    · rw [node?_put (by simp)] at h
      split at h
      · cases h
      · unfold node? at h
        split at h <;> cases h

theorem outside_beside :
    Dotless [[111], [102], [120]] ∧ ¬[[114]] <+: [[111], [102], ([120] : Name)] := by
  refine ⟨?_, ?_⟩
  · unfold Dotless
    decide
  · rw [← List.isPrefixOf_iff_prefix]
    decide

/-- A file outside shows: the path through it is refused for another cause than the one where
nothing is. -/
theorem file_outside_shows :
    beside.root = some [[114]] ∧ beside.disk.WellFormed ∧ beside.disk.Linkless ∧
      localPath "file:///o/f/x" = .ok [47, 111, 47, 102, 47, 120] ∧
      Dotless [[111], [102], [120]] ∧ ¬[[114]] <+: [[111], [102], ([120] : Name)] ∧
      (beside.stat "file:///o/f/x").1 =
        .error (.systemAt DiskError.notADirectory.system "file:///o/f/x") ∧
      (beside.stat "file:///o/g/x").1 = .error (.outside "file:///o/g/x" (shown [[114]])) := by
  have hpath : localPath "file:///o/f/x" = .ok [47, 111, 47, 102, 47, 120] := by decide +kernel
  have hmissing : localPath "file:///o/g/x" = .ok [47, 111, 47, 103, 47, 120] := by decide +kernel
  have hplace : resolveExisting beside.disk "file:///o/g/x" [47, 111, 47, 103, 47, 120] =
      .ok [[111], [103], [120]] := by
    cbv
  have hresolve : beside.resolve "file:///o/g/x" true =
      .error (.outside "file:///o/g/x" (shown [[114]])) := by
    rw [resolve_of_root rfl hmissing, if_pos rfl, hplace]
    rfl
  have hrefuses :
      beside.Refuses (.outside "file:///o/g/x" (shown [[114]])) (.stat "file:///o/g/x") :=
    refuses_of_asks .stat hresolve hmissing
  refine ⟨rfl, wellFormed_beside, linkless_beside, hpath, outside_beside.1, outside_beside.2, ?_,
    congrArg Prod.fst hrefuses⟩
  simp only [stat, look, resolve, hpath]
  cbv

/-- The same file is why the path cannot be watched. -/
theorem outside_refused_beside :
    let uri := "file:///o/f/x"
    beside.root = some [[114]] ∧ beside.disk.WellFormed ∧ beside.disk.Linkless ∧
      localPath uri = .ok [47, 111, 47, 102, 47, 120] ∧
      beside.disk.Obstacle (followed [47, 111, 47, 102, 47, 120] true) .notADirectory ∧
      beside.Refuses (.systemAt DiskError.notADirectory.system uri) (.watch uri) := by
  intro uri
  have hpath : localPath uri = .ok [47, 111, 47, 102, 47, 120] := by decide +kernel
  have hnames : (DiskPath.ofBytes [47, 111, 47, 102, 47, 120]).names = [[111], [102], [120]] := by
    decide
  have hobstacle :
      beside.disk.Obstacle (followed [47, 111, 47, 102, 47, 120] true) .notADirectory := by
    rw [followed, if_pos (.inl rfl)]
    refine .blocked (by decide) (.file [[111], [102]] [] [120] [1] hnames (by decide) rfl ?_)
    decide
  obtain ⟨e, hrefuses, -, -, hcause⟩ := outside_refused_iff_no_obstacle (h := beside) rfl
    wellFormed_beside linkless_beside hpath (hnames ▸ outside_beside.1) (hnames ▸ outside_beside.2)
    .watch
  exact ⟨rfl, wellFormed_beside, linkless_beside, hpath, hobstacle, hcause _ hobstacle ▸ hrefuses⟩

end LocalHost

end FileBridge
