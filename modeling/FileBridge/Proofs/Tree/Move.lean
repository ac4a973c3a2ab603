import FileBridge.Proofs.Tree.Shape

/-!
Moving an entry with all below it. The paths that move are the source with a tail, and each goes to
the target with the same tail. Source and target have no path in common, so the entries can be
refiled one by one; what was at or below the target is gone before.
-/
namespace FileBridge

/-- A tail that ends one proper path ends every proper path. -/
theorem Path.IsProper.append {above place tail : String} (h : IsProper above)
    (htail : IsProper (place ++ tail)) : IsProper (above ++ tail) := by
  have hhead : (above ++ tail).toList.head? = some '/' := by
    obtain ⟨rest, hrest⟩ := List.head?_eq_some_iff.mp h.1
    simp [hrest]
  refine ⟨hhead, ?_⟩
  have hlast := htail.2
  rw [String.toList_append, List.getLast?_append] at hlast ⊢
  cases hget : tail.toList.getLast? with
  | none => simpa [hget] using h.2
  | some c => simpa [hget] using hlast

namespace Edit

variable {e : Entries} {source target : String}

theorem get?_moveOne (tail k : String) :
    (moveOne source target e (source ++ tail)).get? k =
      if e.contains (source ++ tail) = true ∧ k = target ++ tail then e.get? (source ++ tail)
      else if k = source ++ tail then none
      else e.get? k := by
  unfold moveOne
  cases hget : e.get? (source ++ tail) with
  | none =>
    by_cases hk : k = source ++ tail
    · simp [OrderedMap.contains, hget, hk]
    · simp [OrderedMap.contains, hget, hk]
  | some entry => simp [OrderedMap.contains, hget]

/-- Paths that are neither moved nor moved to keep their entries. -/
theorem get?_foldl_moveOne_of_apart {tails : List String} {k : String}
    (hsource : ∀ tail ∈ tails, k ≠ source ++ tail) (htarget : ∀ tail ∈ tails, k ≠ target ++ tail) :
    ((tails.map (source ++ ·)).foldl (moveOne source target) e).get? k = e.get? k := by
  induction tails generalizing e with
  | nil => rfl
  | cons tail rest ih =>
    rw [List.map_cons, List.foldl_cons,
      ih (fun t ht => hsource t (List.mem_cons_of_mem _ ht))
        (fun t ht => htarget t (List.mem_cons_of_mem _ ht)), get?_moveOne]
    simp [hsource tail List.mem_cons_self, htarget tail List.mem_cons_self]

section

variable {tails : List String} (hnodup : tails.Nodup)
  (hapart : ∀ s ∈ tails, ∀ t ∈ tails, source ++ s ≠ target ++ t)
include hnodup hapart

/-- Nothing is left where entries moved away. -/
theorem get?_foldl_moveOne_source {tail : String} (htail : tail ∈ tails) :
    ((tails.map (source ++ ·)).foldl (moveOne source target) e).get? (source ++ tail) = none := by
  induction tails generalizing e with
  | nil => simp at htail
  | cons first rest ih =>
    obtain ⟨hfirst, hrest⟩ := List.nodup_cons.mp hnodup
    have hapart' : ∀ s ∈ rest, ∀ t ∈ rest, source ++ s ≠ target ++ t := fun s hs t ht =>
      hapart s (List.mem_cons_of_mem _ hs) t (List.mem_cons_of_mem _ ht)
    rw [List.map_cons, List.foldl_cons]
    rcases List.mem_cons.mp htail with rfl | htail
    · rw [get?_foldl_moveOne_of_apart, get?_moveOne]
      · simp [hapart tail List.mem_cons_self tail List.mem_cons_self]
      · rintro t ht heq
        exact hfirst (Path.append_right_inj heq ▸ ht)
      · exact fun t ht => hapart tail List.mem_cons_self t (List.mem_cons_of_mem _ ht)
    · exact ih hrest hapart' htail

/-- What stood at the source with a tail stands at the target with that tail. -/
theorem get?_foldl_moveOne_target (hin : ∀ tail ∈ tails, e.contains (source ++ tail) = true)
    {tail : String} (htail : tail ∈ tails) :
    ((tails.map (source ++ ·)).foldl (moveOne source target) e).get? (target ++ tail) =
      e.get? (source ++ tail) := by
  induction tails generalizing e with
  | nil => simp at htail
  | cons first rest ih =>
    obtain ⟨hfirst, hrest⟩ := List.nodup_cons.mp hnodup
    have hapart' : ∀ s ∈ rest, ∀ t ∈ rest, source ++ s ≠ target ++ t := fun s hs t ht =>
      hapart s (List.mem_cons_of_mem _ hs) t (List.mem_cons_of_mem _ ht)
    rw [List.map_cons, List.foldl_cons]
    rcases List.mem_cons.mp htail with rfl | htail
    · rw [get?_foldl_moveOne_of_apart, get?_moveOne]
      · simp [hin tail List.mem_cons_self]
      · exact fun s hs heq => hapart s (List.mem_cons_of_mem _ hs) tail List.mem_cons_self heq.symm
      · rintro t ht heq
        exact hfirst (Path.append_right_inj heq ▸ ht)
    · -- The first move leaves the source of the later ones alone.
      have hstay (t : String) (ht : t ∈ rest) :
          (moveOne source target e (source ++ first)).get? (source ++ t) =
            e.get? (source ++ t) := by
        have hne : source ++ t ≠ source ++ first := fun heq =>
          hfirst (Path.append_right_inj heq ▸ ht)
        rw [get?_moveOne]
        simp [hapart t (List.mem_cons_of_mem _ ht) first List.mem_cons_self, hne]
      rw [ih hrest hapart' _ htail, hstay tail htail]
      intro t ht
      rw [OrderedMap.contains, hstay t ht]
      exact hin t (List.mem_cons_of_mem _ ht)

end

/-- The tails of a path and of all entries below it. -/
def tailsAt (e : Entries) (source : String) : List String :=
  (source :: e.descendants source).map (Path.below · source)

theorem mem_tailsAt_iff (hsource : source ≠ Path.root) {tail : String} :
    tail ∈ tailsAt e source ↔
      tail = "" ∨ tail.toList.head? = some '/' ∧ e.contains (source ++ tail) = true := by
  have hself : Path.below source source = "" := by
    simpa using Path.below_append source ""
  simp only [tailsAt, List.map_cons, List.mem_cons, hself, List.mem_map,
    Entries.mem_descendants_iff hsource]
  constructor
  · rintro (rfl | ⟨path, ⟨hcontains, hwithin, hne⟩, rfl⟩)
    · exact .inl rfl
    · obtain ⟨tail, htail, rfl⟩ := (Path.isWithin_iff hsource).mp hwithin
      rw [Path.below_append]
      rcases htail with rfl | htail
      · simp at hne
      · exact .inr ⟨htail, hcontains⟩
  · rintro (rfl | ⟨htail, hcontains⟩)
    · exact .inl rfl
    · refine .inr ⟨source ++ tail, ⟨hcontains, ?_, ?_⟩, Path.below_append source tail⟩
      · exact Path.isWithin_append hsource (.inr htail)
      · intro heq
        have hempty : source ++ tail = source ++ "" := by simpa using heq
        simp [Path.append_right_inj hempty] at htail

theorem isTail_of_mem_tailsAt (hsource : source ≠ Path.root) {tail : String}
    (h : tail ∈ tailsAt e source) : Path.IsTail tail :=
  ((mem_tailsAt_iff hsource).mp h).imp id And.left

theorem get?_of_not_mem_tailsAt (hsource : source ≠ Path.root) {tail : String}
    (htail : Path.IsTail tail) (h : tail ∉ tailsAt e source) : e.get? (source ++ tail) = none := by
  rw [mem_tailsAt_iff hsource] at h
  obtain ⟨hne, hnot⟩ := not_or.mp h
  rw [← OrderedMap.contains_eq_false_iff, Bool.eq_false_iff]
  exact fun hcontains => hnot ⟨htail.resolve_left hne, hcontains⟩

theorem map_tailsAt (e : Entries) (hsource : source ≠ Path.root) :
    (tailsAt e source).map (source ++ ·) = source :: e.descendants source := by
  rw [tailsAt, List.map_map]
  refine (List.map_congr_left ?_).trans (List.map_id _)
  intro path hpath
  have hwithin : Path.isWithin path source = true := by
    rcases List.mem_cons.mp hpath with rfl | hpath
    · exact Path.isWithin_self path
    · exact ((Entries.mem_descendants_iff hsource).mp hpath).2.1
  obtain ⟨tail, -, rfl⟩ := (Path.isWithin_iff hsource).mp hwithin
  simp

theorem nodup_tailsAt (e : Entries) (hsource : source ≠ Path.root) :
    (tailsAt e source).Nodup := by
  have hnodup : (source :: e.descendants source).Nodup := by
    refine List.nodup_cons.mpr ⟨?_, Entries.nodup_descendants e source⟩
    rw [Entries.mem_descendants_iff hsource]
    simp
  rw [← map_tailsAt e hsource] at hnodup
  exact List.Pairwise.of_map (source ++ ·) (fun a b hne heq => hne (heq ▸ rfl)) hnodup

theorem moveAll_eq_foldl (hsource : source ≠ Path.root) :
    moveAll source target e =
      ((tailsAt e source).map (source ++ ·)).foldl (moveOne source target) e := by
  rw [map_tailsAt e hsource, moveAll]

/-- Nothing moves from where nothing is. -/
theorem moveAll_eq_self (hsource : source ≠ Path.root)
    (hempty : ∀ k, Path.isWithin k source = true → e.get? k = none) :
    moveAll source target e = e := by
  have hdescendants : e.descendants source = [] := by
    refine List.eq_nil_iff_forall_not_mem.mpr fun k hk => ?_
    obtain ⟨hcontains, hwithin, -⟩ := (Entries.mem_descendants_iff hsource).mp hk
    simp [OrderedMap.contains, hempty k hwithin] at hcontains
  simp [moveAll, hdescendants, moveOne, hempty source (Path.isWithin_self source)]

/-- Neither of two places lies below the other. -/
structure Apart (source target : String) : Prop where
  properSource : Path.IsProper source
  properTarget : Path.IsProper target
  target_outside : Path.isWithin target source = false
  source_outside : Path.isWithin source target = false

theorem Apart.append_ne (h : Apart source target) {s t : String} (hs : Path.IsTail s)
    (ht : Path.IsTail t) : source ++ s ≠ target ++ t := by
  intro heq
  have hsource := Path.isWithin_append h.properSource.ne_root hs
  have htarget := Path.isWithin_append h.properTarget.ne_root ht
  rw [heq] at hsource
  have hor :=
    Path.isWithin_or_isWithin h.properSource.ne_root h.properTarget.ne_root hsource htarget
  simp [h.source_outside, h.target_outside] at hor

theorem Apart.tails_ne (h : Apart source target) :
    ∀ s ∈ tailsAt e source, ∀ t ∈ tailsAt e source, source ++ s ≠ target ++ t := by
  intro s hs t ht
  exact h.append_ne (isTail_of_mem_tailsAt h.properSource.ne_root hs)
    (isTail_of_mem_tailsAt h.properSource.ne_root ht)

/-- Paths at or below neither place keep their entries. -/
theorem get?_moveAll_other (h : Apart source target) {k : String}
    (hsource : Path.isWithin k source = false) (htarget : Path.isWithin k target = false) :
    (moveAll source target e).get? k = e.get? k := by
  have hproper := h.properSource.ne_root
  rw [moveAll_eq_foldl h.properSource.ne_root, get?_foldl_moveOne_of_apart]
  · rintro tail ht rfl
    simp [Path.isWithin_append hproper (isTail_of_mem_tailsAt hproper ht)] at hsource
  · rintro tail ht rfl
    simp [Path.isWithin_append h.properTarget.ne_root (isTail_of_mem_tailsAt hproper ht)] at htarget

/-- Nothing is left at or below the source. -/
theorem get?_moveAll_source (h : Apart source target) {k : String}
    (hsource : Path.isWithin k source = true) : (moveAll source target e).get? k = none := by
  obtain ⟨tail, htail, rfl⟩ := (Path.isWithin_iff h.properSource.ne_root).mp hsource
  rw [moveAll_eq_foldl h.properSource.ne_root]
  by_cases hmem : tail ∈ tailsAt e source
  · exact get?_foldl_moveOne_source (nodup_tailsAt e h.properSource.ne_root) h.tails_ne hmem
  · have hget := get?_of_not_mem_tailsAt h.properSource.ne_root htail hmem
    rw [get?_foldl_moveOne_of_apart, hget]
    · rintro t ht heq
      exact hmem (Path.append_right_inj heq ▸ ht)
    · intro t ht
      exact h.append_ne htail (isTail_of_mem_tailsAt h.properSource.ne_root ht)

/-- The target with a tail holds what the source with that tail held, provided that nothing was at
or below the target. -/
theorem get?_moveAll_target (h : Apart source target) (hin : e.contains source = true)
    (hfree : ∀ k, Path.isWithin k target = true → e.get? k = none) {tail : String}
    (htail : Path.IsTail tail) :
    (moveAll source target e).get? (target ++ tail) = e.get? (source ++ tail) := by
  rw [moveAll_eq_foldl h.properSource.ne_root]
  by_cases hmem : tail ∈ tailsAt e source
  · apply get?_foldl_moveOne_target (nodup_tailsAt e h.properSource.ne_root) h.tails_ne _ hmem
    intro t ht
    rcases (mem_tailsAt_iff h.properSource.ne_root).mp ht with rfl | ⟨-, hcontains⟩
    · simpa using hin
    · exact hcontains
  · have hget := get?_of_not_mem_tailsAt h.properSource.ne_root htail hmem
    rw [get?_foldl_moveOne_of_apart, hget]
    · exact hfree _ (Path.isWithin_append h.properTarget.ne_root htail)
    · intro t ht heq
      exact h.append_ne (isTail_of_mem_tailsAt h.properSource.ne_root ht) htail heq.symm
    · rintro t ht heq
      exact hmem (Path.append_right_inj heq ▸ ht)

/-- A path that holds an entry after a move held it before, or got it from the source. -/
theorem contains_moveAll (h : Apart source target) (hin : e.contains source = true)
    (hfree : ∀ k, Path.isWithin k target = true → e.get? k = none) {k : String}
    (hk : (moveAll source target e).contains k = true) :
    (Path.isWithin k source = false ∧ Path.isWithin k target = false ∧ e.contains k = true) ∨
      ∃ tail, Path.IsTail tail ∧ k = target ++ tail ∧ e.contains (source ++ tail) = true := by
  rw [OrderedMap.contains] at hk
  cases hsource : Path.isWithin k source with
  | true => simp [get?_moveAll_source h hsource] at hk
  | false =>
    cases htarget : Path.isWithin k target with
    | true =>
      obtain ⟨tail, htail, rfl⟩ := (Path.isWithin_iff h.properTarget.ne_root).mp htarget
      rw [get?_moveAll_target h hin hfree htail] at hk
      exact .inr ⟨tail, htail, rfl, hk⟩
    | false =>
      rw [get?_moveAll_other h hsource htarget] at hk
      exact .inl ⟨rfl, rfl, hk⟩

theorem hasDirectory_moveAll_other (h : Apart source target) {k : String}
    (hsource : Path.isWithin k source = false) (htarget : Path.isWithin k target = false) :
    Entries.hasDirectory (moveAll source target e) k = e.hasDirectory k :=
  Entries.hasDirectory_congr fun _ => get?_moveAll_other h hsource htarget

/-- Moving to a free place in a directory keeps the shape. -/
theorem wellFormed_moveAll (hwf : e.WellFormed) (h : Apart source target)
    (hin : e.contains source = true)
    (hfree : ∀ k, Path.isWithin k target = true → e.get? k = none)
    (hparent : e.hasDirectory (Path.parent target) = true) :
    (moveAll source target e).WellFormed := by
  -- A parent lies below neither place unless its child does.
  have hup {k above : String} (hk : Path.IsProper k) (habove : Path.IsProper above)
      (hnot : Path.isWithin k above = false) : Path.isWithin (Path.parent k) above = false := by
    rw [Bool.eq_false_iff] at hnot ⊢
    exact fun hw => hnot (Path.isWithin_of_parent hk habove hw)
  constructor
  · intro k hk
    rcases contains_moveAll h hin hfree hk with ⟨-, -, hold⟩ | ⟨tail, -, rfl, hold⟩
    · exact hwf.proper hold
    · exact h.properTarget.append (hwf.proper hold)
  · intro k hk
    rcases contains_moveAll h hin hfree hk with
      ⟨hsource, htarget, hold⟩ | ⟨tail, htail, rfl, hold⟩
    · have hproper := hwf.proper hold
      rw [hasDirectory_moveAll_other h (hup hproper h.properSource hsource)
        (hup hproper h.properTarget htarget)]
      exact hwf.parent hold
    · rcases htail with rfl | htail
      · rw [String.append_empty, hasDirectory_moveAll_other h
          (hup h.properTarget h.properSource h.target_outside)
          (Path.not_isWithin_parent h.properTarget)]
        exact hparent
      · obtain ⟨tail', htail', hparents⟩ := Path.exists_parent_tail htail
        have hdirectory := hwf.parent hold
        rw [hparents source h.properSource.ne_empty] at hdirectory
        rw [hparents target h.properTarget.ne_empty]
        rcases Entries.hasDirectory_iff.mp hdirectory with hroot | ⟨entry, hget, hentry⟩
        · have := Path.isWithin_append h.properSource.ne_root htail'
          simp [hroot, Path.not_isWithin_root h.properSource] at this
        · refine Entries.hasDirectory_iff.mpr (.inr ⟨entry, ?_, hentry⟩)
          rw [get?_moveAll_target h hin hfree htail', hget]

/-- Once the target is cleared, nothing is at or below it, and all else is as it was. -/
theorem get?_cleared (hwf : e.WellFormed) (htarget : Path.IsProper target) (k : String) :
    (if e.contains target then e.eraseAll (e.descendants target ++ [target]) else e).get? k =
      if Path.isWithin k target then none else e.get? k := by
  cases hcontains : e.contains target with
  | true =>
    rw [if_pos rfl]
    apply Entries.get?_eraseAll_subtree htarget.ne_root
    intro k
    simp [or_comm]
  | false =>
    simp only [Bool.false_eq_true, if_false]
    split
    next hwithin =>
      rw [← OrderedMap.contains_eq_false_iff, Bool.eq_false_iff]
      intro hk
      by_cases hne : k = target
      · simp [hne, hcontains] at hk
      · have hdirectory := hwf.hasDirectory_of_below htarget hk hwithin hne
        rcases Entries.hasDirectory_iff.mp hdirectory with hroot | ⟨entry, hget, -⟩
        · exact htarget.ne_root hroot
        · simp [OrderedMap.contains, hget] at hcontains
    · rfl

/-- After the target is cleared, the check of its parent fails only if nothing was cleared. -/
theorem lawful_move (hwf : e.WellFormed) (hsource : Path.IsProper source)
    (htarget : Path.IsProper target) (hin : e.contains source = true)
    (hinto : Path.isWithin target source = false) {cleared : Entries}
    (hcleared : ∀ k, cleared.get? k = if Path.isWithin k target then none else e.get? k)
    (hsame : e.contains target = false → cleared = e) (uri : String)
    (changes : List (ChangeKind × String)) :
    Lawful (match cleared.checkParent target uri with
      | .error cause => refused cleared cause
      | .ok () => done (moveAll source target cleared) changes) e := by
  have hwf' : cleared.WellFormed := hwf.prune htarget hcleared
  have hfree (k : String) (hk : Path.isWithin k target = true) : cleared.get? k = none := by
    simp [hcleared, hk]
  cases hcheck : cleared.checkParent target uri with
  | error cause =>
    cases hcontains : e.contains target with
    | false =>
      rw [hsame hcontains]
      exact lawful_refused hwf cause
    | true =>
      have hparent : cleared.hasDirectory (Path.parent target) = true := by
        rw [Entries.hasDirectory_congr (e := e) fun _ => by
          simp [hcleared, Path.not_isWithin_parent htarget]]
        exact hwf.parent hcontains
      rw [checkParent_eq_ok_iff.mpr hparent] at hcheck
      cases hcheck
  | ok =>
    refine lawful_done ?_ _
    cases hbelow : Path.isWithin source target with
    | true =>
      -- The source itself was cleared away.
      rw [moveAll_eq_self hsource.ne_root fun k hk =>
        hfree k (Path.isWithin_trans hsource.ne_root htarget.ne_root hk hbelow)]
      exact hwf'
    | false =>
      have hstays : cleared.contains source = true := by
        simpa [OrderedMap.contains, hcleared, hbelow] using hin
      exact wellFormed_moveAll hwf' ⟨hsource, htarget, hinto, hbelow⟩ hstays hfree
        (checkParent_eq_ok_iff.mp hcheck)

theorem lawful_rename (hwf : e.WellFormed) (mayOverwrite : Bool) (sourceUri targetUri : String)
    (hsource : source = Path.root ∨ Path.IsProper source)
    (htarget : target = Path.root ∨ Path.IsProper target) :
    (rename mayOverwrite source target sourceUri targetUri e).Lawful e := by
  unfold rename
  split
  · exact lawful_refused hwf _
  next hroots =>
    simp only [Bool.or_eq_true, decide_eq_true_eq, not_or] at hroots
    have hsource := hsource.resolve_left hroots.1
    have htarget := htarget.resolve_left hroots.2
    split
    · exact lawful_refused hwf _
    next hin =>
      split
      · exact lawful_done hwf _
      split
      · exact lawful_refused hwf _
      next hinto =>
        split
        · exact lawful_refused hwf _
        · apply lawful_move hwf hsource htarget (by simpa using hin) (by simpa using hinto)
            (get?_cleared hwf htarget)
          intro hcontains
          simp [hcontains]

end Edit

end FileBridge
