import FileBridge.Proofs.Tree.Run

/-!
What operations leave alone. A file is written at one path, a directory is created where nothing is,
a deletion concerns what lies at or below one path, and a move what lies at or below two. Whatever
fails concerns no entry at all.
-/
namespace FileBridge

namespace Edit

variable {e : Entries} {path uri : String}

theorem result_create_eq_ok {entry : Entry} (h : (create e path uri entry).result = .ok ()) :
    (create e path uri entry).entries = e.insert path entry := by
  unfold create at h ⊢
  cases hcheck : e.checkParent path uri with
  | error cause =>
    rw [hcheck] at h
    cases h
  | ok => rfl

/-- What the paths hold after a file has been written. -/
theorem get?_write {now : Int} {content : List UInt8} {mayCreate mayOverwrite : Bool}
    (h : (write now content mayCreate mayOverwrite path uri e).result = .ok ()) :
    path ≠ Path.root ∧ ∃ created, ∀ k,
      (write now content mayCreate mayOverwrite path uri e).entries.get? k =
        if k = path then some ⟨.file content, created, now⟩ else e.get? k := by
  revert h
  fun_cases write now content mayCreate mayOverwrite path uri e with
  | case4 hroot entry =>
    exact fun _ => ⟨hroot, entry.created, fun k => OrderedMap.get?_insert ..⟩
  | case6 hroot =>
    intro h
    refine ⟨hroot, now, fun k => ?_⟩
    rw [result_create_eq_ok h]
    exact OrderedMap.get?_insert ..
  | _ => exact fun h => by cases h

/-- A directory is created where nothing is. -/
theorem get?_createDirectory {now : Int} (h : (createDirectory now path uri e).result = .ok ()) :
    e.get? path = none ∧ ∀ k, (createDirectory now path uri e).entries.get? k =
      if k = path then some ⟨.directory, now, now⟩ else e.get? k := by
  revert h
  fun_cases createDirectory now path uri e with
  | case1 => exact fun h => by cases h
  | case2 hhas =>
    intro h
    simp only [Entries.has, Bool.or_eq_true, decide_eq_true_eq, not_or, Bool.not_eq_true,
      OrderedMap.contains_eq_false_iff] at hhas
    refine ⟨hhas.2, fun k => ?_⟩
    rw [result_create_eq_ok h]
    exact OrderedMap.get?_insert ..

/-- A deletion removes what lies at or below its path. -/
theorem get?_delete {recursive : Bool} (h : (delete recursive path uri e).result = .ok ())
    (k : String) : (delete recursive path uri e).entries.get? k =
      if Path.isWithin k path then none else e.get? k := by
  revert h
  fun_cases delete recursive path uri e with
  | case4 hroot _ below _ removed =>
    intro _
    apply Entries.get?_eraseAll_subtree hroot
    intro k
    simp [removed, below, or_comm]
  | _ => exact fun h => by cases h

/-- Once the target is cleared, a move concerns only what lies at or below the two places. -/
theorem get?_move {source target : String} (hsource : Path.IsProper source)
    (htarget : Path.IsProper target) (hinto : Path.isWithin target source = false)
    {cleared : Entries}
    (hcleared : ∀ k, cleared.get? k = if Path.isWithin k target then none else e.get? k)
    {k : String} (hk : Path.isWithin k source = false) (hk' : Path.isWithin k target = false) :
    (moveAll source target cleared).get? k = e.get? k := by
  have hkeep : cleared.get? k = e.get? k := by simp [hcleared, hk']
  cases hbelow : Path.isWithin source target with
  | true =>
    -- The source itself was cleared away, so nothing moves.
    rw [moveAll_eq_self hsource.ne_root fun k hk => by
      simp [hcleared, Path.isWithin_trans hsource.ne_root htarget.ne_root hk hbelow]]
    exact hkeep
  | false =>
    rw [get?_moveAll_other ⟨hsource, htarget, hinto, hbelow⟩ hk hk']
    exact hkeep

/-- A move concerns only what lies at or below its source or its target. -/
theorem get?_rename {source target sourceUri targetUri : String} {mayOverwrite : Bool}
    (hwf : e.WellFormed) (hsource : source = Path.root ∨ Path.IsProper source)
    (htarget : target = Path.root ∨ Path.IsProper target)
    (h : (rename mayOverwrite source target sourceUri targetUri e).result = .ok ()) {k : String}
    (hk : Path.isWithin k source = false) (hk' : Path.isWithin k target = false) :
    (rename mayOverwrite source target sourceUri targetUri e).entries.get? k = e.get? k := by
  revert h
  fun_cases rename mayOverwrite source target sourceUri targetUri e with
  | case7 hroots hin hsame hinto hover cleared hcheck =>
    intro h
    simp only [Bool.or_eq_true, decide_eq_true_eq, not_or] at hroots
    have htarget := htarget.resolve_left hroots.2
    exact get?_move (hsource.resolve_left hroots.1) htarget (by simpa using hinto)
      (get?_cleared hwf htarget) hk hk'
  | case3 => exact fun _ => rfl
  | _ => exact fun h => by cases h

end Edit

namespace Tree

variable {t : Tree} {path : String}

/-- The tree stays well formed, and a path holds what it held. -/
structure Keeps (path : String) (t t' : Tree) : Prop where
  wellFormed : t'.WellFormed
  get? : t'.entries.get? path = t.entries.get? path

theorem Keeps.of_entries {t' : Tree} (h : t'.WellFormed) (hentries : t'.entries = t.entries) :
    Keeps path t t' :=
  ⟨h, by rw [hentries]⟩

/-- An operation keeps a path if it does so in the case that it succeeds. -/
theorem Lawful.keeps {α : Type} {r : Reply Tree α} (h : t.Lawful r)
    (hok : ∀ a, r.1 = .ok a → r.2.entries.get? path = t.entries.get? path) : Keeps path t r.2 where
  wellFormed := h.wellFormed
  get? := by
    cases hr : r.1 with
    | error cause =>
      rw [h.eq_count hr]
      rfl
    | ok a => exact hok a hr

theorem entries_commit (edit : Edit) : (t.commit edit).2.entries = edit.entries := by
  simp [commit, foldl_report]

/-- An edit that succeeds is one of the path that the URI addresses. -/
theorem edit_eq_ok {uri : String} {f : String → Entries → Edit} {a : Unit}
    (h : (t.edit uri f).1 = .ok a) :
    ∃ path, Path.ofUri uri = .ok path ∧ (f path t.entries).result = .ok () ∧
      (t.edit uri f).2.entries = (f path t.entries).entries := by
  unfold edit at h ⊢
  cases hpath : Path.ofUri uri with
  | error cause =>
    rw [hpath] at h
    cases h
  | ok path =>
    rw [hpath] at h
    exact ⟨path, rfl, h, entries_commit _⟩

theorem keeps_look {α : Type} (h : t.WellFormed) (uri : String)
    (f : String → Entries → Except HostError α) : Keeps path t (t.look uri f).2 := by
  refine (lawful_look h uri f).keeps fun a ha => ?_
  unfold look
  cases Path.ofUri uri with
  | error cause => rfl
  | ok path => rfl

theorem lawful_write (h : t.WellFormed) (uri : String) (content : List UInt8)
    (mayCreate mayOverwrite : Bool) : t.Lawful (t.write uri content mayCreate mayOverwrite) :=
  lawful_edit h uri fun _ hpath =>
    Edit.lawful_write h.entries t.now content mayCreate mayOverwrite uri hpath

/-- Writing a file concerns its own path only. -/
theorem keeps_write (h : t.WellFormed) {uri : String} {content : List UInt8}
    {mayCreate mayOverwrite : Bool}
    (hother : ∀ a, (t.write uri content mayCreate mayOverwrite).1 = .ok a →
      Path.ofUri uri ≠ .ok path) :
    Keeps path t (t.write uri content mayCreate mayOverwrite).2 := by
  refine (lawful_write h uri content mayCreate mayOverwrite).keeps fun a ha => ?_
  obtain ⟨place, hplace, hresult, hentries⟩ := edit_eq_ok ha
  obtain ⟨-, created, hget⟩ := Edit.get?_write hresult
  have hne : path ≠ place := by
    rintro rfl
    exact hother a ha hplace
  rw [write, hentries, hget, if_neg hne]

/-- Creating a directory concerns no path that holds anything. -/
theorem keeps_createDirectory (h : t.WellFormed) {uri : String} {entry : Entry}
    (hpath : t.entries.get? path = some entry) : Keeps path t (t.createDirectory uri).2 := by
  have hlawful : t.Lawful (t.createDirectory uri) :=
    lawful_edit h uri fun _ hpath => Edit.lawful_createDirectory h.entries t.now uri hpath
  refine hlawful.keeps fun a ha => ?_
  obtain ⟨place, -, hresult, hentries⟩ := edit_eq_ok ha
  obtain ⟨hnone, hget⟩ := Edit.get?_createDirectory hresult
  have hne : path ≠ place := by
    rintro rfl
    rw [hnone] at hpath
    cases hpath
  rw [createDirectory, hentries, hget, if_neg hne]

/-- Deleting an entry concerns only what lies at or below it. -/
theorem keeps_delete (h : t.WellFormed) {uri : String} {recursive : Bool}
    (hother : ∀ a, (t.delete uri recursive).1 = .ok a →
      ∀ place, Path.ofUri uri = .ok place → Path.isWithin path place = false) :
    Keeps path t (t.delete uri recursive).2 := by
  have hlawful : t.Lawful (t.delete uri recursive) :=
    lawful_edit h uri fun _ hpath => Edit.lawful_delete h.entries recursive uri hpath
  refine hlawful.keeps fun a ha => ?_
  obtain ⟨place, hplace, hresult, hentries⟩ := edit_eq_ok ha
  rw [delete, hentries, Edit.get?_delete hresult, hother a ha place hplace]
  rfl

/-- Moving an entry concerns only what lies at or below its old or its new place. -/
theorem keeps_rename (h : t.WellFormed) {source target : String} {mayOverwrite : Bool}
    (hother : ∀ a, (t.rename source target mayOverwrite).1 = .ok a → ∀ place,
      (Path.ofUri source = .ok place ∨ Path.ofUri target = .ok place) →
        Path.isWithin path place = false) :
    Keeps path t (t.rename source target mayOverwrite).2 := by
  refine (lawful_rename h source target mayOverwrite).keeps fun a ha => ?_
  have hother := hother a ha
  unfold rename at ha ⊢
  cases hold : Path.ofUri source with
  | error cause =>
    rw [hold] at ha
    cases ha
  | ok old =>
    cases hnew : Path.ofUri target with
    | error cause =>
      rw [hold, hnew] at ha
      cases ha
    | ok new =>
      simp only [hold, hnew] at ha ⊢
      rw [entries_commit]
      exact Edit.get?_rename h.entries (Path.ofUri_proper hold) (Path.ofUri_proper hnew) ha
        (hother old (.inl hold)) (hother new (.inr hnew))

theorem keeps_watch (h : t.WellFormed) (uri : String) : Keeps path t (t.watch uri).2 := by
  refine (lawful_watch h uri).keeps fun a ha => ?_
  unfold watch
  cases Path.ofUri uri with
  | error cause => rfl
  | ok path => rfl

/-- An action that is no operation. -/
def Action.isIdle : Action → Bool
  | .perform _ => false
  | _ => true

theorem keeps_after (h : t.WellFormed) {a : Action} (hidle : a.isIdle = true) :
    Keeps path t (t.after a) := by
  refine .of_entries (h.after a) ?_
  cases a with
  | perform o => cases hidle
  | emit kind uri =>
    simp only [after, emit]
    cases Path.ofUri uri with
    | error cause => rfl
    | ok path => rfl
  | _ => rfl

end Tree

end FileBridge
