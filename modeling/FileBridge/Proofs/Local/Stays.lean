import FileBridge.Proofs.Local.Resolve

/-!
What the calls of a disk change if their paths have been resolved. All of it is below the location
that the places are below, but for one case: a file may be created beyond a link that leads nowhere,
if the path did not show that a link is at its end.
-/
namespace FileBridge

namespace Disk

/-- A location below another one, and not that one itself. -/
def Below (root x : Location) : Prop :=
  root <+: x ∧ x ≠ root

/-- A change below a location only, after which the disk is still in shape. -/
structure Stays (root : Location) (d d' : Disk) : Prop where
  wellFormed : d'.WellFormed
  outside : ∀ x, ¬Below root x → d'.node? x = d.node? x

/-- A file has been created where nothing was, and nothing else has changed. -/
structure Strays (content : List UInt8) (d d' : Disk) : Prop where
  wellFormed : d'.WellFormed
  created : ∃ x, d.node? x = none ∧ d'.node? x = some (.file content) ∧
    ∀ y, y ≠ x → d'.node? y = d.node? y

variable {d d' d'' : Disk} {root place before x : Location} {name : Name}

theorem Below.of_isPrefix (hplace : root <+: place) (hne : place ≠ root) (hx : place <+: x) :
    Below root x := by
  refine ⟨hplace.trans hx, ?_⟩
  rintro rfl
  exact hne (hx.eq_of_length (Nat.le_antisymm hx.length_le hplace.length_le))

namespace Stays

theorem refl (hdisk : d.WellFormed) : Stays root d d :=
  ⟨hdisk, fun _ _ => rfl⟩

theorem trans (h : Stays root d d') (h' : Stays root d' d'') : Stays root d d'' :=
  ⟨h'.wellFormed, fun x hx => (h'.outside x hx).trans (h.outside x hx)⟩

theorem put (hdisk : d.WellFormed) (hdirectory : d.isDirectory root = true)
    (hbefore : d.isDirectory before = true) (hname : Plain name)
    (hold : d.isDirectory (before ++ [name]) = false) (hroot : root <+: before ++ [name])
    (node : DiskNode) : Stays root d (d.put (before ++ [name]) node) := by
  refine ⟨hdisk.put hbefore hname hold node, fun x hx => ?_⟩
  rw [node?_put (by simp), if_neg]
  rintro rfl
  refine hx ⟨hroot, ?_⟩
  rintro rfl
  exact Bool.false_ne_true (hold.symm.trans hdirectory)

theorem prune (hdisk : d.WellFormed) (hroot : root <+: place) (hne : place ≠ root) :
    Stays root d (d.prune place) := by
  refine ⟨hdisk.prune place, fun x hx => ?_⟩
  rw [node?_prune, if_neg]
  rintro ⟨-, hbelow⟩
  exact hx (.of_isPrefix hroot hne hbelow)

theorem hollow (hdisk : d.WellFormed) (hroot : root <+: place) (hne : place ≠ root) :
    Stays root d (d.hollow place) := by
  refine ⟨hdisk.hollow place, fun x hx => ?_⟩
  rw [node?_hollow, if_neg]
  rintro ⟨-, -, hbelow⟩
  exact hx (.of_isPrefix hroot hne hbelow)

/-- A move to a place that is neither below nor above the old one. Of the two, none can be the
location that all is below. -/
theorem transfer (hdisk : d.WellFormed) {old : Location} (hold : root <+: old)
    (hnew : root <+: before ++ [name]) (hbefore : d.isDirectory before = true) (hname : Plain name)
    (hinto : ¬old <+: before ++ [name]) (honto : ¬before ++ [name] <+: old) :
    Stays root d ((d.prune (before ++ [name])).transfer old (before ++ [name])) := by
  have hne : before ++ [name] ≠ [] := by simp
  have hold_ne : old ≠ [] := by
    rintro rfl
    exact hinto List.nil_prefix
  have hfree (x : Location) (hx : before ++ [name] <+: x) :
      (d.prune (before ++ [name])).node? x = none := by
    rw [node?_prune, if_pos]
    refine ⟨?_, hx⟩
    rintro rfl
    exact hne (List.prefix_nil.mp hx)
  have hkept : (d.prune (before ++ [name])).isDirectory before = true := by
    rw [isDirectory_iff, node?_prune, if_neg fun h => not_concat_isPrefix_self before name h.2]
    exact isDirectory_iff.mp hbefore
  refine ⟨(hdisk.prune _).transfer hold_ne hkept hname
    (fun h => hinto (h.trans (List.prefix_append before [name]))) hfree, fun x hx => ?_⟩
  have hold_root : old ≠ root := by
    rintro rfl
    exact hinto hnew
  have hnew_root : before ++ [name] ≠ root := by
    intro heq
    exact honto (heq ▸ hold)
  have hnotNew : ¬before ++ [name] <+: x := fun h => hx (.of_isPrefix hnew hnew_root h)
  have hnotOld : ¬old <+: x := fun h => hx (.of_isPrefix hold hold_root h)
  rw [node?_transfer hold_ne hne hfree, if_neg hnotNew, if_neg hnotOld, node?_prune,
    if_neg fun h => hnotNew h.2]

end Stays

/-- A call that fails leaves the disk as it is. -/
theorem attempt_of {P : Disk → Prop} {r : Except DiskError Disk} (hd : P d)
    (h : ∀ d', r = .ok d' → P d') : P (d.attempt r).2 := by
  cases r with
  | error cause => exact hd
  | ok d' => exact h d' rfl

theorem eq_node?_of_lookUp {o : Option DiskNode} (h : d.lookUp before name = .ok o) :
    o = d.node? (before ++ [name]) := by
  unfold lookUp at h
  split at h
  · cases h
  · cases h
    rfl

end Disk

open Disk

namespace LocalHost.Reached

variable {d : Disk} {root base : Location} {missing : List Name}

theorem checkPath_eq_ok (h : Reached d base missing) (hdisk : d.WellFormed) {p : DiskPath}
    (hcheck : checkPath (DiskPath.bytesOf (base ++ missing)) = .ok p) :
    p = .ofLocation (base ++ missing) := by
  rw [checkPath_eq (DiskPath.head?_bytesOf _)] at hcheck
  split at hcheck
  · cases hcheck
  · split at hcheck
    · cases hcheck
    · cases hcheck
      exact DiskPath.ofBytes_bytesOf fun name hmem => (h.plain_append hdisk name hmem).spelled

/-- A call that enters a place works at the top or at the place. -/
theorem call_eq_ok (h : Reached d base missing) (hdisk : d.WellFormed) {α : Type}
    {f : DiskPath → Location × LastName → Except DiskError α} {r : α}
    (hcall : (do
      let p ← checkPath (DiskPath.bytesOf (base ++ missing))
      let entered ← d.enter p
      f p entered) = .ok r) :
    f (.ofLocation (base ++ missing)) ([], .top) = .ok r ∨
      ∃ before name, base ++ missing = before ++ [name] ∧ d.isDirectory before = true ∧ Plain name ∧
        f (.ofLocation (base ++ missing)) (before, .name name) = .ok r := by
  obtain ⟨p, hcheck, hcall⟩ := exists_of_bind_eq_ok hcall
  obtain rfl := h.checkPath_eq_ok hdisk hcheck
  obtain ⟨entered, henter, hcall⟩ := exists_of_bind_eq_ok hcall
  rcases h.enter_eq_ok hdisk henter with ⟨-, rfl⟩ | ⟨before, name, heq, rfl, hbefore, hname⟩
  · exact .inl hcall
  · exact .inr ⟨before, name, heq, hbefore, hname, hcall⟩

theorem stays_makeDirectory (h : Reached d base missing) (hdisk : d.WellFormed)
    (hdirectory : d.isDirectory root = true) (hroot : root <+: base ++ missing) :
    Stays root d (d.makeDirectory (DiskPath.bytesOf (base ++ missing))).2 := by
  refine attempt_of (P := Stays root d) (.refl hdisk) fun d' hd' => ?_
  rcases h.call_eq_ok hdisk hd' with hd' | ⟨before, name, heq, hbefore, hname, hd'⟩
  · cases hd'
  · obtain ⟨o, hlook, hd'⟩ := exists_of_bind_eq_ok hd'
    split at hd'
    · cases hd'
    next hnone =>
      cases hd'
      rw [eq_node?_of_lookUp hlook, Option.not_isSome_iff_eq_none] at hnone
      rw [heq] at hroot
      exact .put hdisk hdirectory hbefore hname (by simp [isDirectory, hnone]) hroot _

theorem stays_unlink (h : Reached d base missing) (hdisk : d.WellFormed)
    (hne : base ++ missing ≠ root) (hroot : root <+: base ++ missing) :
    Stays root d (d.unlink (DiskPath.bytesOf (base ++ missing))).2 := by
  refine attempt_of (P := Stays root d) (.refl hdisk) fun d' hd' => ?_
  rcases h.call_eq_ok hdisk hd' with hd' | ⟨before, name, heq, -, -, hd'⟩
  · cases hd'
  · obtain ⟨o, -, hd'⟩ := exists_of_bind_eq_ok hd'
    rw [heq] at hroot hne
    split at hd'
    · cases hd'
    · cases hd'
    · split at hd'
      · cases hd'
      · cases hd'
        exact .prune hdisk hroot hne

theorem stays_removeDirectory (h : Reached d base missing) (hdisk : d.WellFormed)
    (hne : base ++ missing ≠ root) (hroot : root <+: base ++ missing) :
    Stays root d (d.removeDirectory (DiskPath.bytesOf (base ++ missing))).2 := by
  refine attempt_of (P := Stays root d) (.refl hdisk) fun d' hd' => ?_
  rcases h.call_eq_ok hdisk hd' with hd' | ⟨before, name, heq, -, -, hd'⟩
  · cases hd'
  · obtain ⟨o, -, hd'⟩ := exists_of_bind_eq_ok hd'
    rw [heq] at hroot hne
    split at hd'
    · cases hd'
    · split at hd'
      · cases hd'
        exact .prune hdisk hroot hne
      · cases hd'
    · cases hd'

/-- What is found at a place is the place. -/
theorem reach_eq_ok (h : Reached d base missing) (hdisk : d.WellFormed) {l : Location}
    (hreach : checkPath (DiskPath.bytesOf (base ++ missing)) >>= d.reach = .ok (.found l)) :
    l = base ++ missing := by
  obtain ⟨p, hcheck, hreach⟩ := exists_of_bind_eq_ok hreach
  obtain rfl := h.checkPath_eq_ok hdisk hcheck
  obtain ⟨entered, henter, hreach⟩ := exists_of_bind_eq_ok hreach
  rcases h.enter_eq_ok hdisk henter with ⟨hnil, rfl⟩ | ⟨before, name, heq, rfl, -, -⟩
  · cases hreach
    exact hnil.symm
  · obtain ⟨o, -, hreach⟩ := exists_of_bind_eq_ok hreach
    rw [heq]
    replace hreach := Except.ok.inj hreach
    split at hreach
    · cases hreach
      rfl
    · cases hreach

theorem node?_of_linkStat (h : Reached d base missing) (hdisk : d.WellFormed) {node : DiskNode}
    (hstat : d.linkStat (DiskPath.bytesOf (base ++ missing)) = .ok node) :
    d.node? (base ++ missing) = some node := by
  obtain ⟨p, hcheck, hstat⟩ := exists_of_bind_eq_ok hstat
  obtain ⟨found, hreach, hstat⟩ := exists_of_bind_eq_ok hstat
  have hboth : checkPath (DiskPath.bytesOf (base ++ missing)) >>= d.reach = .ok found := by
    rw [hcheck]
    exact hreach
  cases found with
  | free l n => cases hstat
  | found l =>
    obtain rfl := h.reach_eq_ok hdisk hboth
    simp only [existing] at hstat
    split at hstat
    next heq =>
      cases hstat
      exact heq
    next => cases hstat

theorem stays_removeAll (h : Reached d base missing) (hdisk : d.WellFormed)
    (hplace : d.isDirectory (base ++ missing) = true) (hne : base ++ missing ≠ root)
    (hroot : root <+: base ++ missing) :
    Stays root d (d.removeAll (DiskPath.bytesOf (base ++ missing))).2 := by
  unfold removeAll
  split
  next => exact .refl hdisk
  next => exact .refl hdisk
  next l hreach =>
    obtain rfl := h.reach_eq_ok hdisk hreach
    have hhollow : Stays root d (d.hollow (base ++ missing)) := .hollow hdisk hroot hne
    -- With nothing left below it, the directory is still found at its path.
    have hleft : Reached (d.hollow (base ++ missing)) (base ++ missing) [] := by
      refine ⟨.of_isDirectory ?_, fun _ hmem => absurd hmem List.not_mem_nil, fun _ _ _ heq => ?_⟩
      · rw [isDirectory_iff, node?_hollow, if_neg fun h => h.1 rfl]
        exact isDirectory_iff.mp hplace
      · cases heq
    have hremove := hleft.stays_removeDirectory hhollow.wellFormed
      (by rwa [List.append_nil]) (by rwa [List.append_nil])
    rw [List.append_nil] at hremove
    have hstays := hhollow.trans hremove
    split
    next heq =>
      rw [heq] at hstays
      exact hstays
    next => exact hstays

/-- A move between two places that are not above one another. -/
theorem stays_rename (h : Reached d base missing) {base' : Location} {missing' : List Name}
    (h' : Reached d base' missing') (hdisk : d.WellFormed)
    (hroot : root <+: base ++ missing) (hroot' : root <+: base' ++ missing') :
    Stays root d
      (d.rename (DiskPath.bytesOf (base ++ missing)) (DiskPath.bytesOf (base' ++ missing'))).2 := by
  refine attempt_of (P := Stays root d) (.refl hdisk) fun d' hd' => ?_
  obtain ⟨p, hcheck, hd'⟩ := exists_of_bind_eq_ok hd'
  obtain rfl := h.checkPath_eq_ok hdisk hcheck
  obtain ⟨q, hcheck', hd'⟩ := exists_of_bind_eq_ok hd'
  obtain rfl := h'.checkPath_eq_ok hdisk hcheck'
  obtain ⟨entered, henter, hd'⟩ := exists_of_bind_eq_ok hd'
  obtain ⟨entered', henter', hd'⟩ := exists_of_bind_eq_ok hd'
  rcases h.enter_eq_ok hdisk henter with ⟨-, rfl⟩ | ⟨l, m, heq, rfl, -, -⟩
  · cases hd'
  rcases h'.enter_eq_ok hdisk henter' with ⟨-, rfl⟩ | ⟨k, n, heq', rfl, hk, hn⟩
  · cases hd'
  obtain ⟨o, -, hd'⟩ := exists_of_bind_eq_ok hd'
  rw [heq] at hroot
  rw [heq'] at hroot'
  split at hd'
  · cases hd'
  next node =>
    obtain ⟨o', -, hd'⟩ := exists_of_bind_eq_ok hd'
    split at hd'
    · cases hd'
    split at hd'
    · cases hd'
    next hinto =>
    split at hd'
    · cases hd'
    next honto =>
    split at hd'
    · cases hd'
      exact .refl hdisk
    next hne =>
      obtain ⟨_, -, hd'⟩ := exists_of_bind_eq_ok hd'
      cases hd'
      simp only [isPrefixOf_eq_decide, ne_eq, hne, not_false_eq_true, decide_true, Bool.and_true,
        decide_eq_true_eq] at hinto honto
      exact .transfer hdisk hroot hroot' hk hn hinto honto

end LocalHost.Reached

namespace LocalHost.Resolution

variable {d : Disk} {path content : List UInt8} {root base : Location} {missing : List Name}

/-- Where a file at a resolved path is, or where it would be created. -/
theorem followToWrite_eq_ok (h : Resolution d path base missing) (hdisk : d.WellFormed) {p : Place}
    (hfollow : checkPath (DiskPath.bytesOf (base ++ missing)) >>= d.followToWrite = .ok p) :
    missing = [] ∧ p = .found base ∨
      ∃ l n, p = .free l n ∧ d.isDirectory l = true ∧ d.node? (l ++ [n]) = none ∧ Plain n ∧
        (base ++ missing = l ++ [n] ∨ missing ≠ [] ∧ Careless path) := by
  obtain ⟨q, hcheck, hwalk⟩ := exists_of_bind_eq_ok hfollow
  obtain rfl := (h.reached hdisk).checkPath_eq_ok hdisk hcheck
  have hspelled : ∀ name ∈ base ++ missing, Spelled name := fun name hmem =>
    ((h.reached hdisk).plain_append hdisk name hmem).spelled
  rcases h.walk_eq_ok hdisk hwalk with hfound | ⟨name, rfl, rfl⟩ |
    ⟨name, rest, target, l, n, hmissing, hlink, rfl⟩
  · exact .inl hfound
  · obtain ⟨hdirectory, hnone, hplain⟩ := free_of_walk hspelled hwalk
    exact .inr ⟨base, name, rfl, hdirectory, hnone, hplain, .inl rfl⟩
  · obtain ⟨hdirectory, hnone, hplain⟩ := free_of_walk hspelled hwalk
    refine .inr ⟨l, n, rfl, hdirectory, hnone, hplain, .inr ⟨by simp [hmissing], ?_⟩⟩
    by_contra hcareful
    exact h.no_link name rest hmissing hcareful target hlink

/-- What is written is in the place that the path was resolved to, or it is a new file beyond a link
that leads nowhere. A path that shows its last name is not resolved to such a link. -/
theorem stays_or_strays_write (h : Resolution d path base missing) (hdisk : d.WellFormed)
    (hdirectory : d.isDirectory root = true) (hroot : root <+: base ++ missing) :
    Stays root d (d.write (DiskPath.bytesOf (base ++ missing)) content).2 ∨
      missing ≠ [] ∧ Careless path ∧
        Strays content d (d.write (DiskPath.bytesOf (base ++ missing)) content).2 := by
  refine attempt_of
    (P := fun d' => Stays root d d' ∨ missing ≠ [] ∧ Careless path ∧ Strays content d d')
    (.inl (.refl hdisk)) fun d' hd' => ?_
  obtain ⟨q, hcheck, hd'⟩ := exists_of_bind_eq_ok hd'
  obtain ⟨p, hfollow, hd'⟩ := exists_of_bind_eq_ok hd'
  have hboth : checkPath (DiskPath.bytesOf (base ++ missing)) >>= d.followToWrite = .ok p := by
    rw [hcheck]
    exact hfollow
  rcases h.followToWrite_eq_ok hdisk hboth with ⟨rfl, rfl⟩ | ⟨l, n, rfl, hl, hnone, hn, hplace⟩
  · simp only at hd'
    split at hd'
    · cases hd'
    next hfile =>
      cases hd'
      rw [List.append_nil] at hroot
      rcases List.eq_nil_or_concat base with rfl | ⟨before, name, heq⟩
      · exact absurd d.isDirectory_nil hfile
      · rw [List.concat_eq_append] at heq
        subst heq
        obtain ⟨node, hnode, -⟩ := h.solid hdisk
        exact .inl (.put hdisk hdirectory (hdisk.parent hnode) (hdisk.plain hnode name (by simp))
          (by simpa using hfile) hroot _)
  · cases hd'
    have hold : d.isDirectory (l ++ [n]) = false := by simp [isDirectory, hnone]
    rcases hplace with heq | ⟨hmissing, hcareless⟩
    · exact .inl (.put hdisk hdirectory hl hn hold (heq ▸ hroot) _)
    · refine .inr ⟨hmissing, hcareless, hdisk.put hl hn hold _, l ++ [n], hnone, ?_, fun y hy => ?_⟩
      · rw [node?_put (by simp), if_pos rfl]
      · rw [node?_put (by simp), if_neg hy]

/-- Something is at the place that a path was resolved to only if the path leads there. -/
theorem stat_eq_ok (h : Resolution d path base missing) (hdisk : d.WellFormed) {node : DiskNode}
    (hstat : d.stat (DiskPath.bytesOf (base ++ missing)) = .ok node) : missing = [] := by
  obtain ⟨q, hcheck, hstat⟩ := exists_of_bind_eq_ok hstat
  obtain rfl := (h.reached hdisk).checkPath_eq_ok hdisk hcheck
  obtain ⟨p, hwalk, hstat⟩ := exists_of_bind_eq_ok hstat
  rcases h.walk_eq_ok hdisk hwalk with ⟨hmissing, -⟩ | ⟨name, -, rfl⟩ | ⟨_, _, _, l, n, -, -, rfl⟩
  · exact hmissing
  · cases hstat
  · cases hstat

end LocalHost.Resolution

end FileBridge
