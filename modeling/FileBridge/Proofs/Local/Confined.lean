import Mathlib.Data.Fin.Tuple.Basic
import Mathlib.Data.List.Permutation
import FileBridge.Proofs.Local.Stays
import FileBridge.Proofs.Tree.Run

/-!
A host that serves one directory, and what happens outside of it. Main statement: after any
requests, what is not below the directory is as it was, but for files that a write with a careless
path has created, and what can be looked at is in the directory.
-/
namespace FileBridge.LocalHost

open Disk

variable {h : LocalHost} {root : Location} {uri : String} {bytes : List UInt8}

/-- A path of a URL that may be used has been resolved to a place in the directory. -/
theorem resolution_of_resolve (hroot : h.root = some root)
    (hresolve : h.resolve uri true = .ok bytes) :
    ∃ path base missing, localPath uri = .ok path ∧ Resolution h.disk path base missing ∧
      root <+: base ++ missing ∧ bytes = DiskPath.bytesOf (base ++ missing) := by
  obtain ⟨path, hpath, hresolve⟩ := exists_of_bind_eq_ok hresolve
  simp only [hroot] at hresolve
  obtain ⟨place, hplace, hresolve⟩ := exists_of_bind_eq_ok hresolve
  split at hresolve
  next hbelow =>
    cases hresolve
    obtain ⟨base, missing, hresolution, rfl⟩ :=
      resolveExisting_eq_ok (head?_of_localPath hpath) hplace
    exact ⟨path, base, missing, hpath, hresolution, List.isPrefixOf_iff_prefix.mp hbelow, rfl⟩
  next => cases hresolve

theorem reached_of_resolve (hroot : h.root = some root) (hdisk : h.disk.WellFormed)
    (hresolve : h.resolve uri false = .ok bytes) :
    ∃ base missing, Reached h.disk base missing ∧ root <+: base ++ missing ∧
      bytes = DiskPath.bytesOf (base ++ missing) := by
  obtain ⟨path, hpath, hresolve⟩ := exists_of_bind_eq_ok hresolve
  simp only [hroot] at hresolve
  obtain ⟨place, hplace, hresolve⟩ := exists_of_bind_eq_ok hresolve
  split at hresolve
  next hbelow =>
    cases hresolve
    obtain ⟨base, missing, hreached, rfl⟩ :=
      resolveAbove_eq_ok hdisk (head?_of_localPath hpath) hplace
    exact ⟨base, missing, hreached, List.isPrefixOf_iff_prefix.mp hbelow, rfl⟩
  next => cases hresolve

section Changes

theorem stays_createDirectory (hroot : h.root = some root) (hdisk : h.disk.WellFormed)
    (hdirectory : h.disk.isDirectory root = true) (uri : String) :
    Stays root h.disk (h.createDirectory uri).2.disk := by
  unfold createDirectory
  split
  next => exact .refl hdisk
  next bytes hresolve =>
    obtain ⟨path, base, missing, -, hresolution, hbelow, rfl⟩ :=
      resolution_of_resolve hroot hresolve
    exact (hresolution.reached hdisk).stays_makeDirectory hdisk hdirectory hbelow

theorem stays_delete (hroot : h.root = some root) (hdisk : h.disk.WellFormed) (uri : String)
    (recursive : Bool) : Stays root h.disk (h.delete uri recursive).2.disk := by
  unfold delete
  split
  next => exact .refl hdisk
  next bytes hresolve =>
    obtain ⟨base, missing, hreached, hbelow, rfl⟩ := reached_of_resolve hroot hdisk hresolve
    split
    next => exact .refl hdisk
    next hkeep =>
      have hne : base ++ missing ≠ root := by
        rintro rfl
        simp [hroot] at hkeep
      split
      next => exact .refl hdisk
      next hstat =>
        have hplace := isDirectory_iff.mpr (hreached.node?_of_linkStat hdisk hstat)
        cases recursive with
        | false => exact hreached.stays_removeDirectory hdisk hne hbelow
        | true => exact hreached.stays_removeAll hdisk hplace hne hbelow
      next => exact hreached.stays_unlink hdisk hne hbelow

theorem stays_rename (hroot : h.root = some root) (hdisk : h.disk.WellFormed)
    (source target : String) (mayOverwrite : Bool) :
    Stays root h.disk (h.rename source target mayOverwrite).2.disk := by
  unfold rename
  split
  next => exact .refl hdisk
  next => exact .refl hdisk
  next old new hold hnew =>
    obtain ⟨base, missing, hreached, hbelow, rfl⟩ := reached_of_resolve hroot hdisk hold
    obtain ⟨base', missing', hreached', hbelow', rfl⟩ := reached_of_resolve hroot hdisk hnew
    dsimp only
    split
    next => exact .refl hdisk
    next => exact .refl hdisk
    next => exact hreached.stays_rename hreached' hdisk hbelow hbelow'

theorem stat_of_checkWrite {mayCreate mayOverwrite : Bool} (hcreate : ¬mayCreate = true)
    (hcheck : h.checkWrite uri bytes mayCreate mayOverwrite = .ok ()) :
    ∃ node, h.disk.stat bytes = .ok node := by
  unfold checkWrite at hcheck
  split at hcheck
  next => cases hcheck
  next heq => exact ⟨_, heq⟩
  next => cases (if_neg hcreate).symm.trans hcheck
  next => cases hcheck

/-- Only a write that may create a file strays, and only if its path is careless. -/
theorem stays_or_strays_write (hroot : h.root = some root) (hdisk : h.disk.WellFormed)
    (hdirectory : h.disk.isDirectory root = true) (uri : String) (content : List UInt8)
    (mayCreate mayOverwrite : Bool) :
    Stays root h.disk (h.write uri content mayCreate mayOverwrite).2.disk ∨
      mayCreate = true ∧ (∃ path, localPath uri = .ok path ∧ Careless path) ∧
        Strays content h.disk (h.write uri content mayCreate mayOverwrite).2.disk := by
  unfold write
  split
  next => exact .inl (.refl hdisk)
  next bytes hresolve =>
    obtain ⟨path, base, missing, hpath, hresolution, hbelow, rfl⟩ :=
      resolution_of_resolve hroot hresolve
    split
    next => exact .inl (.refl hdisk)
    next hcheck =>
      rcases hresolution.stays_or_strays_write hdisk hdirectory hbelow with hstays |
        ⟨hmissing, hcareless, hstrays⟩
      · exact .inl hstays
      · refine .inr ⟨?_, ⟨path, hpath, hcareless⟩, hstrays⟩
        by_contra hcreate
        obtain ⟨node, hstat⟩ := stat_of_checkWrite hcreate hcheck
        exact hmissing (hresolution.stat_eq_ok hdisk hstat)

end Changes

section Looks

/-- Where a URL leads on a disk if every link is followed. -/
def LeadsTo (d : Disk) (uri : String) (l : Location) : Prop :=
  ∃ path, localPath uri = .ok path ∧ d.Leads [] (DiskPath.ofBytes path).names l

theorem LeadsTo.unique {d : Disk} {l l' : Location} (hl : LeadsTo d uri l)
    (hl' : LeadsTo d uri l') : l' = l := by
  obtain ⟨path, hpath, hleads⟩ := hl
  obtain ⟨path', hpath', hleads'⟩ := hl'
  obtain rfl := Except.ok.inj (hpath.symm.trans hpath')
  exact hleads.unique hleads'

/-- Something is at the path that is used for a URL only if the URL leads into the directory. -/
theorem leadsTo_of_stat (hroot : h.root = some root) (hdisk : h.disk.WellFormed)
    (hresolve : h.resolve uri true = .ok bytes) {node : DiskNode}
    (hstat : h.disk.stat bytes = .ok node) :
    ∃ l, root <+: l ∧ ∀ l', LeadsTo h.disk uri l' ↔ l' = l := by
  obtain ⟨path, base, missing, hpath, hresolution, hbelow, rfl⟩ :=
    resolution_of_resolve hroot hresolve
  obtain rfl := hresolution.stat_eq_ok hdisk hstat
  obtain ⟨above, hnames, hleads⟩ := hresolution.leads
  rw [List.append_nil] at hnames hbelow
  have hbase : LeadsTo h.disk uri base :=
    ⟨path, hpath, leads_lexicalNames_iff.mp (hnames ▸ hleads)⟩
  refine ⟨base, hbelow, fun l' => ⟨hbase.unique, ?_⟩⟩
  rintro rfl
  exact hbase

/-- An entry can be looked at: its metadata, its content or its children are given. -/
def Shows (h : LocalHost) (uri : String) : Prop :=
  (h.stat uri).1.toBool = true ∨ (h.read uri).1.toBool = true ∨ (h.list uri).1.toBool = true

theorem eq_ok_of_failed {α : Type} {r : Except DiskError α} {a : α} (h : failed uri r = .ok a) :
    r = .ok a := by
  cases r with
  | error cause => cases h
  | ok b =>
    cases h
    rfl

theorem exists_of_toBool {ε α : Type} {r : Except ε α} (h : r.toBool = true) : ∃ a, r = .ok a := by
  cases r with
  | error cause => cases h
  | ok a => exact ⟨a, rfl⟩

theorem stat_of_shows (hshows : h.Shows uri) :
    ∃ bytes node, h.resolve uri true = .ok bytes ∧ h.disk.stat bytes = .ok node := by
  rcases hshows with hshows | hshows | hshows <;> obtain ⟨a, ha⟩ := exists_of_toBool hshows <;>
    obtain ⟨bytes, hresolve, ha⟩ := exists_of_bind_eq_ok ha
  · obtain ⟨node, hnode, -⟩ := exists_of_bind_eq_ok ha
    exact ⟨bytes, node, hresolve, eq_ok_of_failed hnode⟩
  · obtain ⟨node, hnode, -⟩ := exists_of_bind_eq_ok (eq_ok_of_failed ha)
    exact ⟨bytes, node, hresolve, hnode⟩
  · obtain ⟨node, hnode, -⟩ := exists_of_bind_eq_ok ha
    exact ⟨bytes, node, hresolve, eq_ok_of_failed hnode⟩

end Looks

/-- What a host can be asked for. -/
inductive Request where
  | perform (o : Tree.Operation)
  | unwatch (watcher : Nat)

/-- The host after a request. -/
def after (h : LocalHost) : Request → LocalHost
  | .perform (.stat uri) => (h.stat uri).2
  | .perform (.read uri) => (h.read uri).2
  | .perform (.write uri content mayCreate mayOverwrite) =>
    (h.write uri content mayCreate mayOverwrite).2
  | .perform (.createDirectory uri) => (h.createDirectory uri).2
  | .perform (.delete uri recursive) => (h.delete uri recursive).2
  | .perform (.rename source target mayOverwrite) => (h.rename source target mayOverwrite).2
  | .perform (.list uri) => (h.list uri).2
  | .perform (.watch uri) => (h.watch uri).2
  | .unwatch watcher => h.unwatch watcher

/-- The host after some requests. -/
def run (requests : List Request) (h : LocalHost) : LocalHost :=
  requests.foldl after h

/-- Among requests is a write that may create a file, by a careless path. -/
def WroteCarelessly (requests : List Request) (content : List UInt8) : Prop :=
  ∃ uri mayOverwrite path, .perform (.write uri content true mayOverwrite) ∈ requests ∧
    localPath uri = .ok path ∧ Careless path

theorem root_after (h : LocalHost) (r : Request) : (h.after r).root = h.root := by
  cases r with
  | unwatch watcher => rfl
  | perform o =>
    cases o with
    | stat uri => rfl
    | read uri => rfl
    | list uri => rfl
    | write uri content mayCreate mayOverwrite =>
      simp only [after]
      unfold write
      split
      · rfl
      · split <;> rfl
    | createDirectory uri =>
      simp only [after]
      unfold createDirectory
      split <;> rfl
    | delete uri recursive =>
      simp only [after]
      unfold delete
      split
      · rfl
      · split
        · rfl
        · split <;> rfl
    | rename source target mayOverwrite =>
      simp only [after]
      unfold rename
      split
      · rfl
      · rfl
      · dsimp only
        split <;> rfl
    | watch uri =>
      simp only [after]
      unfold watch
      dsimp only
      split <;> rfl

/-- A request stays below the directory, or creates one file by a careless write. -/
theorem stays_or_strays_after (hroot : h.root = some root) (hdisk : h.disk.WellFormed)
    (hdirectory : h.disk.isDirectory root = true) (r : Request) :
    Stays root h.disk (h.after r).disk ∨
      ∃ content, WroteCarelessly [r] content ∧ Strays content h.disk (h.after r).disk := by
  cases r with
  | unwatch watcher => exact .inl (.refl hdisk)
  | perform o =>
    cases o with
    | stat uri => exact .inl (.refl hdisk)
    | read uri => exact .inl (.refl hdisk)
    | list uri => exact .inl (.refl hdisk)
    | createDirectory uri =>
      simp only [after]
      exact .inl (stays_createDirectory hroot hdisk hdirectory uri)
    | delete uri recursive =>
      simp only [after]
      exact .inl (stays_delete hroot hdisk uri recursive)
    | rename source target mayOverwrite =>
      simp only [after]
      exact .inl (stays_rename hroot hdisk source target mayOverwrite)
    | watch uri =>
      have hsame : (h.watch uri).2.disk = h.disk := by
        unfold watch
        dsimp only
        split <;> rfl
      simp only [after, hsame]
      exact .inl (.refl hdisk)
    | write uri content mayCreate mayOverwrite =>
      simp only [after]
      rcases stays_or_strays_write hroot hdisk hdirectory uri content mayCreate mayOverwrite with
        hstays | ⟨rfl, ⟨path, hpath, hcareless⟩, hstrays⟩
      · exact .inl hstays
      · exact .inr ⟨content, ⟨uri, mayOverwrite, path, List.mem_singleton_self _, hpath, hcareless⟩,
          hstrays⟩

/-- What some requests leave of the disk outside the directory. -/
structure Confined (root : Location) (requests : List Request) (h h' : LocalHost) : Prop where
  serves : h'.root = some root
  wellFormed : h'.disk.WellFormed
  outside : ∀ x, ¬Below root x → h'.disk.node? x = h.disk.node? x ∨
    h.disk.node? x = none ∧
      ∃ content, WroteCarelessly requests content ∧ h'.disk.node? x = some (.file content)

theorem WroteCarelessly.mono {requests requests' : List Request} {content : List UInt8}
    (h : WroteCarelessly requests content) (hsub : requests ⊆ requests') :
    WroteCarelessly requests' content := by
  obtain ⟨uri, mayOverwrite, path, hmem, hpath, hcareless⟩ := h
  exact ⟨uri, mayOverwrite, path, hsub hmem, hpath, hcareless⟩

theorem confined_run (hroot : h.root = some root) (hdisk : h.disk.WellFormed)
    (hdirectory : h.disk.isDirectory root = true) (requests : List Request) :
    Confined root requests h (run requests h) := by
  induction requests using List.reverseRecOn with
  | nil => exact ⟨hroot, hdisk, fun x _ => .inl rfl⟩
  | append_singleton requests r ih =>
    have hrun : run (requests ++ [r]) h = (run requests h).after r := by
      simp only [run, List.foldl_append, List.foldl_cons, List.foldl_nil]
    -- The directory was there, so no file can have been created in its place.
    have hkept : (run requests h).disk.isDirectory root = true := by
      have hnode := isDirectory_iff.mp hdirectory
      rcases ih.outside root fun hbelow => hbelow.2 rfl with heq | ⟨hnone, -⟩
      · exact isDirectory_iff.mpr (heq.trans hnode)
      · cases hnone.symm.trans hnode
    rw [hrun]
    have hroot' : ((run requests h).after r).root = some root := by
      rw [root_after, ih.serves]
    rcases stays_or_strays_after ih.serves ih.wellFormed hkept r with hstays |
      ⟨content, hcareless, hwellFormed, y, hfree, hcreated, hrest⟩
    · refine ⟨hroot', hstays.wellFormed, fun x hx => ?_⟩
      rw [hstays.outside x hx]
      rcases ih.outside x hx with heq | ⟨hnone, content, hcareless, heq⟩
      · exact .inl heq
      · exact .inr ⟨hnone, content, hcareless.mono (List.subset_append_left _ _), heq⟩
    · refine ⟨hroot', hwellFormed, fun x hx => ?_⟩
      by_cases hxy : x = y
      · subst hxy
        rcases ih.outside x hx with heq | ⟨-, content', -, heq⟩
        · exact .inr ⟨heq.symm.trans hfree, content,
            hcareless.mono (List.subset_append_right _ _), hcreated⟩
        · cases heq.symm.trans hfree
      · rw [hrest x hxy]
        rcases ih.outside x hx with heq | ⟨hnone, content', hcareless', heq⟩
        · exact .inl heq
        · exact .inr ⟨hnone, content', hcareless'.mono (List.subset_append_left _ _), heq⟩

/-- After any requests, what is not below the directory is as it was, or it is a file that a
careless write created where nothing was. What is shown for a URL is where the URL leads, and that
is in the directory. -/
theorem run_leaves_outside (hroot : h.root = some root) (hdisk : h.disk.WellFormed)
    (hdirectory : h.disk.isDirectory root = true) (requests : List Request) :
    (∀ x, ¬Below root x →
      (run requests h).disk.node? x = h.disk.node? x ∨
        h.disk.node? x = none ∧ ∃ content, WroteCarelessly requests content ∧
          (run requests h).disk.node? x = some (.file content)) ∧
    ∀ uri, (run requests h).Shows uri →
      ∃ l, root <+: l ∧ ∀ l', LeadsTo (run requests h).disk uri l' ↔ l' = l := by
  have hconfined := confined_run hroot hdisk hdirectory requests
  refine ⟨hconfined.outside, fun uri hshows => ?_⟩
  obtain ⟨bytes, node, hresolve, hstat⟩ := stat_of_shows hshows
  exact leadsTo_of_stat hconfined.serves hconfined.wellFormed hresolve hstat

/-- The directory `/r` is served. In it are a file `a` and a link `g` to `/o/g`, which is free. -/
def beyond : LocalHost where
  disk :=
    ((((⟨[], [], 0⟩ : Disk).put [[111]] .directory).put [[114]] .directory).put [[114], [97]]
      (.file [1])).put [[114], [103]] (.link [47, 111, 47, 103])
  root := some [[114]]
  watchers := []
  nextWatcher := 0

theorem wellFormed_beyond : beyond.disk.WellFormed := by
  have hplain (b : UInt8) (hb : b ≠ slash ∧ b ≠ 46) : Plain [b] := plain_singleton hb.1 hb.2
  have houtside :=
    (wellFormed_bare [] 0).put (isDirectory_nil _) (hplain 111 (by decide)) rfl .directory
  have hserved := houtside.put (isDirectory_nil _) (hplain 114 (by decide)) rfl .directory
  have hfile := hserved.put (show isDirectory _ [[114]] = true from rfl) (hplain 97 (by decide)) rfl
    (.file [1])
  exact hfile.put (show isDirectory _ [[114]] = true from rfl) (hplain 103 (by decide)) rfl _

/-- A slash after the name of the link hides that a link is there. -/
theorem write_beyond : beyond.write "file:///r/g/" [120] true false =
    (.ok (), { beyond with disk := beyond.disk.put [[111], [103]] (.file [120]) }) := by
  have hpath : localPath "file:///r/g/" = .ok [47, 114, 47, 103, 47] := by decide +kernel
  have hresolve : beyond.resolve "file:///r/g/" true = .ok [47, 114, 47, 103] := by
    rw [resolve, hpath]
    cbv
  rw [write, hresolve]
  cbv

/-- The file is created where the link leads, which is not below the directory that is served. -/
theorem write_strays_beyond_link :
    beyond.root = some [[114]] ∧ beyond.disk.WellFormed ∧ beyond.disk.isDirectory [[114]] = true ∧
      ¬Below [[114]] [[111], [103]] ∧ beyond.disk.node? [[111], [103]] = none ∧
      (run [.perform (.write "file:///r/g/" [120] true false)] beyond).disk.node? [[111], [103]] =
        some (.file [120]) := by
  refine ⟨rfl, wellFormed_beyond, rfl, ?_, rfl, ?_⟩
  · rintro ⟨hbelow, -⟩
    exact absurd (List.isPrefixOf_iff_prefix.mpr hbelow) (by decide)
  · show (beyond.write "file:///r/g/" [120] true false).2.disk.node? _ = _
    rw [write_beyond]
    rfl

/-- Only what the careless write created is new outside, and what was moved can be looked at. -/
theorem run_leaves_outside_beyond :
    let requests : List Request :=
      [.perform (.write "file:///r/g/" [120] true false),
        .perform (.rename "file:///r/a" "file:///r/b" false)]
    beyond.root = some [[114]] ∧ beyond.disk.WellFormed ∧ beyond.disk.isDirectory [[114]] = true ∧
      ¬Below [[114]] [[111]] ∧ (run requests beyond).Shows "file:///r/b" ∧
      ((run requests beyond).disk.node? [[111]] = beyond.disk.node? [[111]] ∨
        beyond.disk.node? [[111]] = none ∧ ∃ content, WroteCarelessly requests content ∧
          (run requests beyond).disk.node? [[111]] = some (.file content)) ∧
      ∃ l, [[114]] <+: l ∧ ∀ l', LeadsTo (run requests beyond).disk "file:///r/b" l' ↔ l' = l := by
  intro requests
  have hall := run_leaves_outside (h := beyond) rfl wellFormed_beyond rfl requests
  have houtside : ¬Below [[114]] [[111]] := by
    rintro ⟨hbelow, -⟩
    exact absurd (List.isPrefixOf_iff_prefix.mpr hbelow) (by decide)
  have hold : localPath "file:///r/a" = .ok [47, 114, 47, 97] := by decide +kernel
  have hnew : localPath "file:///r/b" = .ok [47, 114, 47, 98] := by decide +kernel
  have hshows : (run requests beyond).Shows "file:///r/b" := by
    left
    simp only [requests, run, List.foldl_cons, List.foldl_nil, after, write_beyond, rename, stat,
      look, resolve, hold, hnew]
    cbv
  exact ⟨rfl, wellFormed_beyond, rfl, houtside, hshows, hall.1 _ houtside, hall.2 _ hshows⟩

end FileBridge.LocalHost
