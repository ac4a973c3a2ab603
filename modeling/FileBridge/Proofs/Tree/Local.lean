import FileBridge.Proofs.Tree.Frame

/-!
What an operation depends on. Its outcome, and what it leaves at the paths that it concerns, are
decided by the entries at or below the paths that it addresses and by the directories these lie in.
Times are compared as far as a given function tells them apart, so that clocks may differ.
-/
namespace FileBridge

namespace Fields

variable {α β : Type}

/-- Pairs under ascending keys are told by their lookups. -/
theorem ext_get? {l l' : List (String × α)} (h : Ascending l) (h' : Ascending l')
    (heq : ∀ k, get? k l = get? k l') : l = l' := by
  have hmem (a : String × α) : a ∈ l ↔ a ∈ l' := by
    have hl : a ∈ l ↔ get? a.1 l = some a.2 := ⟨get?_eq_some_of_mem h, mem_of_get?⟩
    have hl' : a ∈ l' ↔ get? a.1 l' = some a.2 := ⟨get?_eq_some_of_mem h', mem_of_get?⟩
    rw [hl, hl', heq]
  have hnodup {l : List (String × α)} (h : Ascending l) : l.Nodup := by
    refine List.Pairwise.imp ?_ h
    rintro a b hlt rfl
    exact String.lt_irrefl _ hlt
  have hperm := (List.perm_ext_iff_of_nodup (hnodup h) (hnodup h')).mpr hmem
  refine List.Perm.eq_of_pairwise ?_ h h' hperm
  intro a b _ _ hab hba
  exact absurd hba (String.lt_asymm hab)

theorem ascending_map {l : List (String × α)} (h : Ascending l) (g : α → β) :
    Ascending (l.map fun a => (a.1, g a.2)) :=
  List.pairwise_map.mpr h

theorem get?_map (g : α → β) (k : String) (l : List (String × α)) :
    get? k (l.map fun a => (a.1, g a.2)) = (get? k l).map g := by
  induction l with
  | nil => rfl
  | cons a rest ih =>
    rw [List.map_cons, get?, get?]
    split
    · rfl
    · exact ih

theorem get?_filter (p : String → Bool) (k : String) (l : List (String × α)) :
    get? k (l.filter fun a => p a.1) = if p k then get? k l else none := by
  induction l with
  | nil => simp [get?]
  | cons a rest ih =>
    obtain ⟨k', v⟩ := a
    by_cases hk : k = k'
    · subst hk
      cases hp : p k with
      | true => simp [hp, get?]
      | false => simpa [hp] using ih
    · cases hp : p k' with
      | true => simpa [hp, get?, hk] using ih
      | false => simpa [hp, get?, hk] using ih

/-- Lookups that agree on some keys give the same pairs under these keys. -/
theorem filter_map_congr {l l' : List (String × α)} (h : Ascending l) (h' : Ascending l')
    (p : String → Bool) (g : α → β)
    (heq : ∀ k, p k = true → (get? k l).map g = (get? k l').map g) :
    (l.filter fun a => p a.1).map (fun a => (a.1, g a.2)) =
      (l'.filter fun a => p a.1).map fun a => (a.1, g a.2) := by
  refine ext_get? (ascending_map (h.filter _) g) (ascending_map (h'.filter _) g) fun k => ?_
  rw [get?_map, get?_map, get?_filter, get?_filter]
  split
  next hk => exact heq k hk
  · rfl

end Fields

/-- An entry whose times are told apart as far as a function does. -/
def Entry.blur (f : Int → Int) (e : Entry) : Entry :=
  ⟨e.node, f e.created, f e.modified⟩

theorem Entry.isDirectory_congr {f : Int → Int} {a b : Entry} (h : a.blur f = b.blur f) :
    a.isDirectory = b.isDirectory := by
  have hnode : (a.blur f).node = (b.blur f).node := by rw [h]
  simp only [blur] at hnode
  rw [isDirectory, isDirectory, hnode]

theorem Entry.kind_congr {f : Int → Int} {a b : Entry} (h : a.blur f = b.blur f) :
    a.kind = b.kind := by
  have hnode : (a.blur f).node = (b.blur f).node := by rw [h]
  simp only [blur] at hnode
  rw [kind, kind, hnode]

namespace Entries

variable {f : Int → Int} {e e' : Entries}

/-- What is at a path, with its times blurred. -/
def seenAt (f : Int → Int) (e : Entries) (path : String) : Option Entry :=
  (e.get? path).map (Entry.blur f)

/-- The entries with their times blurred. -/
def blur (f : Int → Int) (e : Entries) : Entries :=
  ⟨e.toList.map fun a => (a.1, a.2.blur f), Fields.ascending_map e.ascending _⟩

theorem blur_eq_of_seenAt (h : ∀ k, seenAt f e k = seenAt f e' k) : e.blur f = e'.blur f := by
  apply OrderedMap.ext_toList
  refine Fields.ext_get? (e.blur f).ascending (e'.blur f).ascending fun k => ?_
  exact (Fields.get?_map _ k _).trans ((h k).trans (Fields.get?_map _ k _).symm)

/-- Two lookups that look alike find nothing, or entries that look alike. -/
theorem seenAt_cases {k : String} (h : seenAt f e k = seenAt f e' k) :
    (e.get? k = none ∧ e'.get? k = none) ∨
      ∃ a b, e.get? k = some a ∧ e'.get? k = some b ∧ a.blur f = b.blur f := by
  unfold seenAt at h
  cases ha : e.get? k with
  | none => exact .inl ⟨rfl, by simpa [ha] using h.symm⟩
  | some a =>
    cases hb : e'.get? k with
    | none => simp [ha, hb] at h
    | some b => exact .inr ⟨a, b, rfl, rfl, by simpa [ha, hb] using h⟩

theorem contains_congr {k : String} (h : seenAt f e k = seenAt f e' k) :
    e.contains k = e'.contains k := by
  rcases seenAt_cases h with ⟨ha, hb⟩ | ⟨a, b, ha, hb, -⟩ <;> simp [OrderedMap.contains, ha, hb]

theorem has_congr {k : String} (h : seenAt f e k = seenAt f e' k) : e.has k = e'.has k := by
  rw [has, has, contains_congr h]

theorem hasDirectory_congr_seenAt {k : String} (h : seenAt f e k = seenAt f e' k) :
    e.hasDirectory k = e'.hasDirectory k := by
  unfold hasDirectory
  rcases seenAt_cases h with ⟨ha, hb⟩ | ⟨a, b, ha, hb, hab⟩
  · rw [ha, hb]
  · simp [ha, hb, Entry.isDirectory_congr hab]

theorem checkParent_congr {path : String}
    (h : seenAt f e (Path.parent path) = seenAt f e' (Path.parent path)) (uri : String) :
    e.checkParent path uri = e'.checkParent path uri := by
  rw [checkParent, checkParent, hasDirectory_congr_seenAt h, has_congr h]

theorem seenAt_insert {path k : String} {a b : Entry} (hab : a.blur f = b.blur f)
    (h : seenAt f e k = seenAt f e' k) :
    seenAt f (e.insert path a) k = seenAt f (e'.insert path b) k := by
  rw [seenAt, seenAt, OrderedMap.get?_insert, OrderedMap.get?_insert]
  split
  · exact congrArg some hab
  · exact h

section Scan

variable {path : String}
  (h : ∀ k, Path.isWithin k path = true → seenAt f e k = seenAt f e' k)
include h

/-- A scan is decided by what lies below its path. -/
theorem scan_congr {β : Type} {g : Entry → β}
    (hg : ∀ {a b : Entry}, a.blur f = b.blur f → g a = g b) :
    (e.scan path).map (fun a => (a.1, g a.2)) = (e'.scan path).map fun a => (a.1, g a.2) := by
  rw [scan_eq_filter, scan_eq_filter]
  refine Fields.filter_map_congr e.ascending e'.ascending _ g fun k hk => ?_
  have hwithin : Path.isWithin k path = true := by simp [Path.isWithin, hk]
  rcases seenAt_cases (h k hwithin) with ⟨ha, hb⟩ | ⟨a, b, ha, hb, hab⟩
  · rw [show Fields.get? k e.toList = _ from ha, show Fields.get? k e'.toList = _ from hb]
  · rw [show Fields.get? k e.toList = _ from ha, show Fields.get? k e'.toList = _ from hb]
    exact congrArg some (hg hab)

theorem descendants_congr : e.descendants path = e'.descendants path := by
  have hscan := congrArg (List.map Prod.fst) (scan_congr h (g := fun _ => ()) fun _ => rfl)
  simpa [descendants, Function.comp_def] using hscan

theorem children_congr : e.children path = e'.children path := by
  have hchildren (e : Entries) : e.children path =
      ((e.scan path).map fun a => (a.1, a.2.kind)).filterMap fun a =>
        if (Path.below a.1 (Path.stem path)).toList.contains '/' then none
        else some (Path.below a.1 (Path.stem path), a.2) := by
    have hchild : (fun a : String × FileKind =>
        if (Path.below a.1 (Path.stem path)).toList.contains '/' then none
        else some (Path.below a.1 (Path.stem path), a.2)) ∘
          (fun a : String × Entry => (a.1, a.2.kind)) =
          child? path := by
      funext a
      simp only [child?, Function.comp_apply]
    rw [children, List.filterMap_map, hchild]
  rw [hchildren, hchildren, scan_congr h (g := Entry.kind) Entry.kind_congr]

end Scan

end Entries

namespace Edit

variable {f : Int → Int} {e e' : Entries}

/-- Two edits have the same result, and entries that looked alike before them do so after them. -/
structure Alike (f : Int → Int) (e e' : Entries) (edit edit' : Edit) : Prop where
  result : edit.result = edit'.result
  seenAt : ∀ {k : String}, e.seenAt f k = e'.seenAt f k →
    edit.entries.seenAt f k = edit'.entries.seenAt f k

theorem alike_refused (cause : HostError) : Alike f e e' (refused e cause) (refused e' cause) :=
  ⟨rfl, id⟩

theorem alike_insert (path : String) {a b : Entry} (h : a.blur f = b.blur f)
    (changes : List (ChangeKind × String)) :
    Alike f e e' (done (e.insert path a) changes) (done (e'.insert path b) changes) :=
  ⟨rfl, Entries.seenAt_insert h⟩

/-- An edit that may fail has to be looked at only where it succeeds. -/
theorem alike_of_lawful {edit edit' : Edit} (h : edit.Lawful e) (h' : edit'.Lawful e')
    (hresult : edit.result = edit'.result)
    (hok : edit.result = .ok () → edit'.result = .ok () → ∀ {k : String},
      e.seenAt f k = e'.seenAt f k → edit.entries.seenAt f k = edit'.entries.seenAt f k) :
    Alike f e e' edit edit' := by
  cases hr : edit.result with
  | error cause =>
    rw [h.eq_refused hr, h'.eq_refused (hresult ▸ hr)]
    exact alike_refused cause
  | ok => exact ⟨hresult, hok hr (hresult ▸ hr)⟩

variable {path : String}

theorem alike_create (hparent : e.seenAt f (Path.parent path) = e'.seenAt f (Path.parent path))
    (uri : String) {a b : Entry} (h : a.blur f = b.blur f) :
    Alike f e e' (create e path uri a) (create e' path uri b) := by
  unfold create
  rw [Entries.checkParent_congr hparent]
  cases e'.checkParent path uri with
  | error cause => exact alike_refused cause
  | ok => exact alike_insert path h _

theorem alike_write {now now' : Int} (hnow : f now = f now')
    (hpath : e.seenAt f path = e'.seenAt f path)
    (hparent : e.seenAt f (Path.parent path) = e'.seenAt f (Path.parent path))
    (content : List UInt8) (mayCreate mayOverwrite : Bool) (uri : String) :
    Alike f e e' (write now content mayCreate mayOverwrite path uri e)
      (write now' content mayCreate mayOverwrite path uri e') := by
  unfold write
  split
  · exact alike_refused _
  rcases Entries.seenAt_cases hpath with ⟨ha, hb⟩ | ⟨a, b, ha, hb, hab⟩
  · simp only [ha, hb]
    split
    · exact alike_refused _
    · exact alike_create hparent uri (by simp [Entry.blur, hnow])
  · simp only [ha, hb, Entry.isDirectory_congr hab]
    split
    · exact alike_refused _
    split
    · exact alike_refused _
    · refine alike_insert path ?_ _
      have hcreated : f a.created = f b.created := congrArg Entry.created hab
      simp [Entry.blur, hnow, hcreated]

theorem alike_createDirectory {now now' : Int} (hnow : f now = f now')
    (hpath : e.seenAt f path = e'.seenAt f path)
    (hparent : e.seenAt f (Path.parent path) = e'.seenAt f (Path.parent path)) (uri : String) :
    Alike f e e' (createDirectory now path uri e) (createDirectory now' path uri e') := by
  unfold createDirectory
  rw [Entries.has_congr hpath]
  split
  · exact alike_refused _
  · exact alike_create hparent uri (by simp [Entry.blur, hnow])

theorem alike_delete (hwf : e.WellFormed) (hwf' : e'.WellFormed)
    (hpath : path = Path.root ∨ Path.IsProper path)
    (h : ∀ k, Path.isWithin k path = true → e.seenAt f k = e'.seenAt f k) (recursive : Bool)
    (uri : String) :
    Alike f e e' (delete recursive path uri e) (delete recursive path uri e') := by
  refine alike_of_lawful (lawful_delete hwf recursive uri hpath)
    (lawful_delete hwf' recursive uri hpath) ?_ ?_
  · simp only [delete, Entries.contains_congr (h path (Path.isWithin_self path)),
      Entries.descendants_congr h]
    split
    · rfl
    split
    · rfl
    split <;> rfl
  · intro hok hok' k hk
    rw [Entries.seenAt, Entries.seenAt, get?_delete hok, get?_delete hok']
    split
    · rfl
    · exact hk

variable {source target : String}

theorem ne_root_of_rename_ok {mayOverwrite : Bool} {sourceUri targetUri : String}
    (h : (rename mayOverwrite source target sourceUri targetUri e).result = .ok ()) :
    source ≠ Path.root ∧ target ≠ Path.root := by
  unfold rename at h
  split at h
  · cases h
  next hroots => simpa using hroots

/-- What a move that succeeds leaves where. If the source lay below the target, it is gone with what
stood there. -/
theorem get?_rename_eq (hwf : e.WellFormed) (hsource : source = Path.root ∨ Path.IsProper source)
    (htarget : target = Path.root ∨ Path.IsProper target) {mayOverwrite : Bool}
    {sourceUri targetUri : String}
    (h : (rename mayOverwrite source target sourceUri targetUri e).result = .ok ())
    (hne : source ≠ target) (k : String) :
    (rename mayOverwrite source target sourceUri targetUri e).entries.get? k =
      if Path.isWithin k target then
        if Path.isWithin source target then none else e.get? (source ++ Path.below k target)
      else if Path.isWithin k source then none
      else e.get? k := by
  revert h
  fun_cases rename mayOverwrite source target sourceUri targetUri e with
  | case3 hroots hin hsame => exact absurd hsame hne
  | case7 hroots hin hsame hinto hover cleared hcheck =>
    intro h
    simp only [Bool.or_eq_true, decide_eq_true_eq, not_or] at hroots
    have hsource := hsource.resolve_left hroots.1
    have htarget := htarget.resolve_left hroots.2
    have hcleared (k : String) :
        cleared.get? k = if Path.isWithin k target then none else e.get? k :=
      get?_cleared hwf htarget k
    show (moveAll source target cleared).get? k = _
    cases hbelow : Path.isWithin source target with
    | true =>
      -- The source itself was cleared away, so nothing moves.
      rw [moveAll_eq_self hsource.ne_root fun k hk => by
        simp [hcleared, Path.isWithin_trans hsource.ne_root htarget.ne_root hk hbelow], hcleared]
      cases hk : Path.isWithin k target with
      | true => simp
      | false =>
        have hk' : Path.isWithin k source = false := by
          rw [Bool.eq_false_iff] at hk ⊢
          exact fun hk' => hk (Path.isWithin_trans hsource.ne_root htarget.ne_root hk' hbelow)
        simp [hk']
    | false =>
      have hapart : Apart source target := ⟨hsource, htarget, by simpa using hinto, hbelow⟩
      have hstays : cleared.contains source = true := by
        have hcontains : e.contains source = true := by simpa using hin
        simpa [OrderedMap.contains, hcleared, hbelow] using hcontains
      cases hk : Path.isWithin k target with
      | true =>
        obtain ⟨tail, htail, rfl⟩ := (Path.isWithin_iff htarget.ne_root).mp hk
        have hout : Path.isWithin (source ++ tail) target = false := by
          rw [Bool.eq_false_iff]
          intro hw
          obtain ⟨tail', htail', heq⟩ := (Path.isWithin_iff htarget.ne_root).mp hw
          exact hapart.append_ne htail htail' heq
        rw [get?_moveAll_target hapart hstays (fun k hk => by simp [hcleared, hk]) htail, hcleared]
        simp [hout]
      | false =>
        cases hk' : Path.isWithin k source with
        | true => simp [get?_moveAll_source hapart hk']
        | false => simp [get?_moveAll_other hapart hk' hk, hcleared, hk]
  | _ => exact fun h => by cases h

/-- Clearing the target does not concern the directory that it lies in. -/
theorem checkParent_cleared (hwf : e.WellFormed) (htarget : Path.IsProper target) (uri : String) :
    (if e.contains target then e.eraseAll (e.descendants target ++ [target])
      else e).checkParent target uri = e.checkParent target uri := by
  refine Entries.checkParent_congr (f := id) ?_ uri
  rw [Entries.seenAt, Entries.seenAt, get?_cleared hwf htarget,
    Path.not_isWithin_parent htarget]
  rfl

theorem alike_rename (hwf : e.WellFormed) (hwf' : e'.WellFormed)
    (hsource : source = Path.root ∨ Path.IsProper source)
    (htarget : target = Path.root ∨ Path.IsProper target)
    (hs : ∀ k, Path.isWithin k source = true → e.seenAt f k = e'.seenAt f k)
    (ht : ∀ k, Path.isWithin k target = true → e.seenAt f k = e'.seenAt f k)
    (hparent : e.seenAt f (Path.parent target) = e'.seenAt f (Path.parent target))
    (mayOverwrite : Bool) (sourceUri targetUri : String) :
    Alike f e e' (rename mayOverwrite source target sourceUri targetUri e)
      (rename mayOverwrite source target sourceUri targetUri e') := by
  refine alike_of_lawful (lawful_rename hwf mayOverwrite sourceUri targetUri hsource htarget)
    (lawful_rename hwf' mayOverwrite sourceUri targetUri hsource htarget) ?_ ?_
  · unfold rename
    split
    · rfl
    next hroots =>
      simp only [Bool.or_eq_true, decide_eq_true_eq, not_or] at hroots
      have htarget := htarget.resolve_left hroots.2
      simp only [Entries.contains_congr (hs source (Path.isWithin_self source)),
        Entries.contains_congr (ht target (Path.isWithin_self target))]
      split
      · rfl
      split
      · rfl
      split
      · rfl
      split
      · rfl
      · have hcheck := checkParent_cleared hwf htarget targetUri
        have hcheck' := checkParent_cleared hwf' htarget targetUri
        rw [Entries.contains_congr (ht target (Path.isWithin_self target))] at hcheck
        rw [hcheck, hcheck', Entries.checkParent_congr hparent]
        cases e'.checkParent target targetUri <;> rfl
  · intro hok hok' k hk
    by_cases hne : source = target
    · have hsame {e : Entries}
          (hok : (rename mayOverwrite source target sourceUri targetUri e).result = .ok ()) :
          (rename mayOverwrite source target sourceUri targetUri e).entries = e := by
        revert hok
        fun_cases rename mayOverwrite source target sourceUri targetUri e with
        | case3 => exact fun _ => rfl
        | case7 hroots hin hdiffer => exact absurd hne hdiffer
        | _ => exact fun h => by cases h
      rw [hsame hok, hsame hok']
      exact hk
    · obtain ⟨hsroot, htroot⟩ := ne_root_of_rename_ok hok
      rw [Entries.seenAt, Entries.seenAt, get?_rename_eq hwf hsource htarget hok hne,
        get?_rename_eq hwf' hsource htarget hok' hne]
      split
      next hwithin =>
        split
        · rfl
        · obtain ⟨tail, htail, rfl⟩ := (Path.isWithin_iff htroot).mp hwithin
          rw [Path.below_append]
          exact hs _ (Path.isWithin_append hsroot htail)
      · split
        · rfl
        · exact hk

end Edit

end FileBridge
