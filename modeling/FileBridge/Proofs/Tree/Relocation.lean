import FileBridge.Proofs.Tree.Frame

/-!
What a successful move does to every path. Unless the target lies above the source, what stood at
the source with any tail stands at the target with that tail, nothing is left at the source, and all
other paths are as before. A target above the source is cleared together with the source, so then
everything that was to be moved is gone.
-/
namespace FileBridge

namespace Edit

variable {e : Entries} {source target sourceUri targetUri : String} {mayOverwrite : Bool}

/-- A move that succeeds between two places is one of an entry to a place not below it, once the
target has been cleared. -/
theorem exists_cleared_of_rename (hwf : e.WellFormed)
    (hsource : source = Path.root ∨ Path.IsProper source)
    (htarget : target = Path.root ∨ Path.IsProper target) (hne : source ≠ target)
    (h : (rename mayOverwrite source target sourceUri targetUri e).result = .ok ()) :
    Path.IsProper source ∧ Path.IsProper target ∧ e.contains source = true ∧
      Path.isWithin target source = false ∧
      ∃ cleared : Entries,
        (∀ k, cleared.get? k = if Path.isWithin k target then none else e.get? k) ∧
        (rename mayOverwrite source target sourceUri targetUri e).entries =
          moveAll source target cleared := by
  revert h
  fun_cases rename mayOverwrite source target sourceUri targetUri e with
  | case7 hroots hin hsame hinto hover cleared hcheck =>
    intro _
    simp only [Bool.or_eq_true, decide_eq_true_eq, not_or] at hroots
    have htarget := htarget.resolve_left hroots.2
    exact ⟨hsource.resolve_left hroots.1, htarget, by simpa using hin, by simpa using hinto,
      cleared, get?_cleared hwf htarget, rfl⟩
  | case3 hroots hin heq => exact fun _ => absurd heq hne
  | _ => exact fun h => by cases h

theorem entries_rename_self
    (h : (rename mayOverwrite source source sourceUri targetUri e).result = .ok ()) :
    (rename mayOverwrite source source sourceUri targetUri e).entries = e := by
  revert h
  fun_cases rename mayOverwrite source source sourceUri targetUri e with
  | case3 => exact fun _ => rfl
  | case7 _ _ hsame => exact absurd rfl hsame
  | _ => exact fun h => by cases h

/-- What the target with a tail holds after a move. -/
theorem get?_rename_target (hwf : e.WellFormed)
    (hsource : source = Path.root ∨ Path.IsProper source)
    (htarget : target = Path.root ∨ Path.IsProper target) (hne : source ≠ target)
    (h : (rename mayOverwrite source target sourceUri targetUri e).result = .ok ())
    {tail : String} (htail : Path.IsTail tail) :
    (rename mayOverwrite source target sourceUri targetUri e).entries.get? (target ++ tail) =
      if Path.isWithin source target then none else e.get? (source ++ tail) := by
  obtain ⟨hsource, htarget, hin, hinto, cleared, hcleared, hentries⟩ :=
    exists_cleared_of_rename hwf hsource htarget hne h
  have hfree (k : String) (hk : Path.isWithin k target = true) : cleared.get? k = none := by
    rw [hcleared, if_pos hk]
  rw [hentries]
  cases hbelow : Path.isWithin source target with
  | true =>
    have hgone : moveAll source target cleared = cleared :=
      moveAll_eq_self hsource.ne_root fun k hk =>
        hfree k (Path.isWithin_trans hsource.ne_root htarget.ne_root hk hbelow)
    rw [hgone, hfree _ (Path.isWithin_append htarget.ne_root htail), if_pos rfl]
  | false =>
    have hapart : Apart source target := ⟨hsource, htarget, hinto, hbelow⟩
    have houtside : Path.isWithin (source ++ tail) target = false := by
      rw [Bool.eq_false_iff]
      intro hwithin
      obtain ⟨tail', htail', heq⟩ := (Path.isWithin_iff htarget.ne_root).mp hwithin
      exact hapart.append_ne htail htail' heq
    have hstays : cleared.contains source = true := by
      simpa [OrderedMap.contains, hcleared, hbelow] using hin
    rw [get?_moveAll_target hapart hstays hfree htail, hcleared, houtside]

/-- Nothing is left at or below the source, except what lies at or below the target. -/
theorem get?_rename_source (hwf : e.WellFormed)
    (hsource : source = Path.root ∨ Path.IsProper source)
    (htarget : target = Path.root ∨ Path.IsProper target) (hne : source ≠ target)
    (h : (rename mayOverwrite source target sourceUri targetUri e).result = .ok ()) {k : String}
    (hk : Path.isWithin k source = true) (hk' : Path.isWithin k target = false) :
    (rename mayOverwrite source target sourceUri targetUri e).entries.get? k = none := by
  obtain ⟨hsource, htarget, -, hinto, cleared, -, hentries⟩ :=
    exists_cleared_of_rename hwf hsource htarget hne h
  have hbelow : Path.isWithin source target = false := by
    rw [Bool.eq_false_iff] at hk' ⊢
    exact fun hbelow => hk' (Path.isWithin_trans hsource.ne_root htarget.ne_root hk hbelow)
  rw [hentries]
  exact get?_moveAll_source ⟨hsource, htarget, hinto, hbelow⟩ hk

end Edit

namespace Tree

variable {t : Tree} {source target old new : String} {mayOverwrite : Bool}

theorem rename_of_paths (hold : Path.ofUri source = .ok old) (hnew : Path.ofUri target = .ok new) :
    t.rename source target mayOverwrite =
      t.count.commit (Edit.rename mayOverwrite old new source target t.entries) := by
  simp only [rename, hold, hnew]
  rfl

/-- A move that succeeds between two places of a tree that a run ends in. If the target does not lie
above the source, the target with any tail holds what the source with that tail held; if it does,
nothing is left at or below the target. Nothing is left at or below the source that is not at or
below the target, and all other paths hold what they held. -/
theorem rename_relocates (h : t.Reachable) (hold : Path.ofUri source = .ok old)
    (hnew : Path.ofUri target = .ok new) (hne : old ≠ new)
    (hok : (t.rename source target mayOverwrite).1 = .ok ()) :
    let after := (t.rename source target mayOverwrite).2.entries
    (∀ tail, Path.IsTail tail → after.get? (new ++ tail) =
      if Path.isWithin old new then none else t.entries.get? (old ++ tail)) ∧
    (∀ k, Path.isWithin k old = true → Path.isWithin k new = false → after.get? k = none) ∧
    ∀ k, Path.isWithin k old = false → Path.isWithin k new = false →
      after.get? k = t.entries.get? k := by
  have hwf := h.wellFormed.entries
  have hsource := Path.ofUri_proper hold
  have htarget := Path.ofUri_proper hnew
  rw [rename_of_paths hold hnew] at hok ⊢
  rw [entries_commit]
  exact ⟨fun tail htail => Edit.get?_rename_target hwf hsource htarget hne hok htail,
    fun k hk hk' => Edit.get?_rename_source hwf hsource htarget hne hok hk hk',
    fun k hk hk' => Edit.get?_rename hwf hsource htarget hok hk hk'⟩

/-- The directory `/a` moves over `/ab`, whose name extends its own. -/
theorem rename_relocates_neighbour :
    let t := run [.perform (.createDirectory "mem:/a"), .perform (.write "mem:/a/f" [1] true false),
      .perform (.createDirectory "mem:/ab"), .perform (.write "mem:/ab/g" [2] true false)] (empty 0)
    let r := t.rename "mem:/a" "mem://host/ab/" true
    t.Reachable ∧ r.1 = .ok () ∧
      r.2.entries.get? ("/ab" ++ "/f") = t.entries.get? ("/a" ++ "/f") ∧
      r.2.entries.get? ("/ab" ++ "/g") = none ∧ r.2.entries.get? "/a" = none := by
  intro t r
  have h : t.Reachable := ⟨0, _, rfl⟩
  have hok : r.1 = .ok () := rfl
  have hold : Path.ofUri "mem:/a" = .ok "/a" := rfl
  have hnew : Path.ofUri "mem://host/ab/" = .ok "/ab" := rfl
  obtain ⟨hmoved, hleft, -⟩ := rename_relocates h hold hnew (by decide) hok
  exact ⟨h, hok, hmoved "/f" (.inr rfl), hmoved "/g" (.inr rfl), hleft "/a" rfl rfl⟩

/-- Moving `/a/b` over its own parent succeeds and loses `/a/b` with the file below it: the target
does not hold what the source held, and the tree is empty. -/
theorem rename_onto_parent_loses_source :
    let t := run [.perform (.createDirectory "mem:/a"), .perform (.createDirectory "mem:/a/b"),
      .perform (.write "mem:/a/b/c" [7] true false)] (empty 0)
    let r := t.rename "mem:/a/b" "mem:/a" true
    t.Reachable ∧ r.1 = .ok () ∧ Path.ofUri "mem:/a/b" = .ok "/a/b" ∧
      Path.ofUri "mem:/a" = .ok "/a" ∧
      r.2.entries.get? ("/a" ++ "/c") ≠ t.entries.get? ("/a/b" ++ "/c") ∧
      r.2.entries.toList = [] := by
  intro t r
  have hlost : r.2.entries.get? ("/a" ++ "/c") = none := rfl
  have hheld : t.entries.get? ("/a/b" ++ "/c") = some ⟨.file [7], 0, 0⟩ := rfl
  refine ⟨⟨0, _, rfl⟩, rfl, rfl, rfl, ?_, rfl⟩
  rw [hlost, hheld]
  simp

end Tree

end FileBridge
