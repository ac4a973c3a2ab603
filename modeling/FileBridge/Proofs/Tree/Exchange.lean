import FileBridge.Proofs.Tree.Local

/-!
Operations on separate parts of a tree. Each reads and changes only what lies at or below the paths
that it addresses, apart from the directories that these paths lie in, which it does not change.
Main statement: operations none of whose paths lie above or below one another can be performed in
any order.
-/
namespace FileBridge

def Metadata.blur (f : Int → Int) (m : Metadata) : Metadata :=
  { m with created := f m.created, modified := f m.modified }

namespace Tree

/-- An answer with its times blurred. -/
def Answer.blur (f : Int → Int) : Answer → Answer
  | .metadata m => .metadata (m.blur f)
  | answer => answer

namespace Operation

/-- The URIs that an operation is given. -/
def uris : Operation → List String
  | .stat uri | .read uri | .write uri .. | .createDirectory uri | .delete uri _ | .list uri
  | .watch uri => [uri]
  | .rename source target _ => [source, target]

/-- The paths that an operation addresses. A URI that is refused addresses none. -/
def paths (o : Operation) : List String :=
  o.uris.filterMap fun uri => (Path.ofUri uri).toOption

/-- An operation that opens a watcher. -/
def isWatch : Operation → Bool
  | .watch _ => true
  | _ => false

/-- No path of one operation lies at, above or below a path of the other. -/
def Apart (o o' : Operation) : Prop :=
  ∀ p ∈ o.paths, ∀ q ∈ o'.paths, Path.isWithin p q = false ∧ Path.isWithin q p = false

instance (o o' : Operation) : Decidable (Apart o o') :=
  inferInstanceAs (Decidable (∀ p ∈ o.paths, ∀ q ∈ o'.paths, _ ∧ _))

/-- An operation may depend on what is at a path. -/
def Reads (o : Operation) (k : String) : Prop :=
  ∃ p ∈ o.paths, Path.isWithin k p = true ∨ k = Path.parent p

theorem Apart.symm {o o' : Operation} (h : Apart o o') : Apart o' o :=
  fun q hq p hp => (h p hp q hq).symm

theorem mem_paths_of_ofUri {o : Operation} {uri path : String} (huri : uri ∈ o.uris)
    (hpath : Path.ofUri uri = .ok path) : path ∈ o.paths :=
  List.mem_filterMap.mpr ⟨uri, huri, by rw [hpath]; rfl⟩

theorem proper_of_mem_paths {o : Operation} {path : String} (h : path ∈ o.paths) :
    path = Path.root ∨ Path.IsProper path := by
  obtain ⟨uri, -, huri⟩ := List.mem_filterMap.mp h
  cases hpath : Path.ofUri uri with
  | error cause =>
    rw [hpath] at huri
    cases huri
  | ok place =>
    rw [hpath] at huri
    obtain rfl : place = path := Option.some.inj huri
    exact Path.ofUri_proper hpath

/-- What one operation reads, another one that is apart from it does not change. -/
theorem Apart.not_isWithin {o o' : Operation} (h : Apart o o') {k : String} (hk : o.Reads k) :
    ∀ q ∈ o'.paths, Path.isWithin k q = false := by
  intro q hq
  obtain ⟨p, hp, hk⟩ := hk
  obtain ⟨hpq, hqp⟩ := h p hp q hq
  have hp := (proper_of_mem_paths hp).resolve_left (by rintro rfl; simp [Path.isWithin] at hqp)
  have hq := (proper_of_mem_paths hq).resolve_left (by rintro rfl; simp [Path.isWithin] at hpq)
  rw [Bool.eq_false_iff]
  intro hkq
  rcases hk with hkp | rfl
  · have hor := Path.isWithin_or_isWithin hp.ne_root hq.ne_root hkp hkq
    simp [hpq, hqp] at hor
  · simp [Path.isWithin_of_parent hp hq hkq] at hpq

end Operation

variable {t t' : Tree} {o o' : Operation}

/-- An operation leaves alone what lies below none of its paths. -/
theorem get?_perform (h : t.WellFormed) (o : Operation) {k : String}
    (hk : ∀ p ∈ o.paths, Path.isWithin k p = false) :
    (t.perform o).2.entries.get? k = t.entries.get? k := by
  have hpath {uri path : String} (huri : uri ∈ o.uris) (hpath : Path.ofUri uri = .ok path) :
      Path.isWithin k path = false :=
    hk path (Operation.mem_paths_of_ofUri huri hpath)
  cases o with
  | stat uri => exact (keeps_look h uri (metadataAt uri)).get?
  | read uri => exact (keeps_look h uri (contentAt uri)).get?
  | list uri => exact (keeps_look h uri (listingAt uri)).get?
  | watch uri => exact (keeps_watch h uri).get?
  | write uri content mayCreate mayOverwrite =>
    refine (keeps_write h fun a ha hplace => ?_).get?
    simpa using hpath List.mem_cons_self hplace
  | createDirectory uri =>
    have hlawful : t.Lawful (t.createDirectory uri) :=
      lawful_edit h uri fun _ hpath => Edit.lawful_createDirectory h.entries t.now uri hpath
    refine (hlawful.keeps fun a ha => ?_).get?
    obtain ⟨place, hplace, hresult, hentries⟩ := edit_eq_ok ha
    have hne : k ≠ place := by
      rintro rfl
      simpa using hpath List.mem_cons_self hplace
    rw [createDirectory, hentries, (Edit.get?_createDirectory hresult).2, if_neg hne]
  | delete uri recursive =>
    exact (keeps_delete h fun a ha place hplace => hpath List.mem_cons_self hplace).get?
  | rename source target mayOverwrite =>
    refine (keeps_rename h fun a ha place hplace => ?_).get?
    rcases hplace with hplace | hplace
    · exact hpath List.mem_cons_self hplace
    · exact hpath (List.mem_cons_of_mem _ List.mem_cons_self) hplace

/-- Two replies give the same answer, and entries that looked alike before do so after. -/
structure Alike (f : Int → Int) (t t' : Tree) (r r' : Reply Tree Answer) : Prop where
  answer : r.1.map (Answer.blur f) = r'.1.map (Answer.blur f)
  seenAt : ∀ {k : String}, t.entries.seenAt f k = t'.entries.seenAt f k →
    r.2.entries.seenAt f k = r'.2.entries.seenAt f k

section Alike

variable {f : Int → Int}

theorem alike_look {α : Type} (uri : String) {g : String → Entries → Except HostError α}
    {wrap : α → Answer}
    (hg : ∀ path, Path.ofUri uri = .ok path →
      ((g path t.entries).map wrap).map (Answer.blur f) =
        ((g path t'.entries).map wrap).map (Answer.blur f)) :
    Alike f t t' (answer wrap (t.look uri g)) (answer wrap (t'.look uri g)) := by
  unfold look answer
  cases hpath : Path.ofUri uri with
  | error cause => exact ⟨rfl, id⟩
  | ok path => exact ⟨hg path hpath, id⟩

theorem alike_commit {edit edit' : Edit} (h : Edit.Alike f t.entries t'.entries edit edit') :
    Alike f t t' (answer (fun _ => .done) (t.count.commit edit))
      (answer (fun _ => .done) (t'.count.commit edit')) where
  answer := by
    show (edit.result.map _).map _ = (edit'.result.map _).map _
    rw [h.result]
  seenAt hk := by
    show ((t.count.commit edit).2.entries).seenAt f _ =
      ((t'.count.commit edit').2.entries).seenAt f _
    rw [entries_commit, entries_commit]
    exact h.seenAt hk

theorem alike_edit (uri : String) {g g' : String → Entries → Edit}
    (hg : ∀ path, Path.ofUri uri = .ok path →
      Edit.Alike f t.entries t'.entries (g path t.entries) (g' path t'.entries)) :
    Alike f t t' (answer (fun _ => .done) (t.edit uri g))
      (answer (fun _ => .done) (t'.edit uri g')) := by
  unfold edit
  cases hpath : Path.ofUri uri with
  | error cause => exact ⟨rfl, id⟩
  | ok path => exact alike_commit (hg path hpath)

/-- Where two trees look alike to an operation, it gives the same answer, and it leaves alike what
looked alike. -/
theorem alike_perform (h : t.WellFormed) (h' : t'.WellFormed) (hnow : f t.now = f t'.now)
    (ho : o.isWatch = false)
    (hreads : ∀ k, o.Reads k → t.entries.seenAt f k = t'.entries.seenAt f k) :
    Alike f t t' (t.perform o) (t'.perform o) := by
  have hwithin {uri path : String} (huri : uri ∈ o.uris) (hpath : Path.ofUri uri = .ok path)
      (k : String) (hk : Path.isWithin k path = true) :
      t.entries.seenAt f k = t'.entries.seenAt f k :=
    hreads k ⟨path, Operation.mem_paths_of_ofUri huri hpath, .inl hk⟩
  have hself {uri path : String} (huri : uri ∈ o.uris) (hpath : Path.ofUri uri = .ok path) :
      t.entries.seenAt f path = t'.entries.seenAt f path :=
    hwithin huri hpath path (Path.isWithin_self path)
  have hparent {uri path : String} (huri : uri ∈ o.uris) (hpath : Path.ofUri uri = .ok path) :
      t.entries.seenAt f (Path.parent path) = t'.entries.seenAt f (Path.parent path) :=
    hreads _ ⟨path, Operation.mem_paths_of_ofUri huri hpath, .inr rfl⟩
  cases o with
  | watch uri => cases ho
  | stat uri =>
    refine alike_look uri fun path hpath => ?_
    unfold metadataAt
    split
    · rfl
    rcases Entries.seenAt_cases (hself List.mem_cons_self hpath) with
      ⟨ha, hb⟩ | ⟨a, b, ha, hb, hab⟩
    · rw [ha, hb]
    · rw [ha, hb]
      have hblur : a.metadata.blur f = b.metadata.blur f := congrArg Entry.metadata hab
      simp [Except.map, Answer.blur, hblur]
  | read uri =>
    refine alike_look uri fun path hpath => ?_
    unfold contentAt
    split
    · rfl
    rcases Entries.seenAt_cases (hself List.mem_cons_self hpath) with
      ⟨ha, hb⟩ | ⟨a, b, ha, hb, hab⟩
    · rw [ha, hb]
    · obtain ⟨node, created, modified⟩ := a
      obtain ⟨node', created', modified'⟩ := b
      obtain rfl : node = node' := congrArg Entry.node hab
      rw [ha, hb]
      cases node <;> rfl
  | list uri =>
    refine alike_look uri fun path hpath => ?_
    have hpart := hwithin List.mem_cons_self hpath
    rw [listingAt, listingAt, Entries.has_congr (hself List.mem_cons_self hpath),
      Entries.hasDirectory_congr_seenAt (hself List.mem_cons_self hpath),
      Entries.children_congr hpart]
  | write uri content mayCreate mayOverwrite =>
    exact alike_edit uri fun path hpath => Edit.alike_write hnow (hself List.mem_cons_self hpath)
      (hparent List.mem_cons_self hpath) content mayCreate mayOverwrite uri
  | createDirectory uri =>
    exact alike_edit uri fun path hpath => Edit.alike_createDirectory hnow
      (hself List.mem_cons_self hpath) (hparent List.mem_cons_self hpath) uri
  | delete uri recursive =>
    exact alike_edit uri fun path hpath => Edit.alike_delete h.entries h'.entries
      (Path.ofUri_proper hpath) (hwithin List.mem_cons_self hpath) recursive uri
  | rename source target mayOverwrite =>
    simp only [perform, rename]
    cases hold : Path.ofUri source with
    | error cause => exact ⟨rfl, id⟩
    | ok old =>
      cases hnew : Path.ofUri target with
      | error cause => exact ⟨rfl, id⟩
      | ok new =>
        have htarget : target ∈ (Operation.rename source target mayOverwrite).uris :=
          List.mem_cons_of_mem _ List.mem_cons_self
        exact alike_commit (Edit.alike_rename h.entries h'.entries (Path.ofUri_proper hold)
          (Path.ofUri_proper hnew) (hwithin List.mem_cons_self hold) (hwithin htarget hnew)
          (hparent htarget hnew) mayOverwrite source target)

end Alike

/-- The tree with another time on the clock. -/
def atTime (t : Tree) (now : Int) : Tree :=
  { t with now := now }

theorem WellFormed.atTime (h : t.WellFormed) (now : Int) : (t.atTime now).WellFormed :=
  ⟨h.entries, h.watchers⟩

theorem WellFormed.perform (h : t.WellFormed) (o : Operation) : (t.perform o).2.WellFormed :=
  (lawful_perform h o).wellFormed

section Exchange

variable {f : Int → Int} {n n' m m' : Int}

/-- What one operation reads looks as it did after another one that is apart from it. -/
theorem seenAt_perform_of_reads (h : t.WellFormed) (hapart : o.Apart o') {k : String}
    (hk : o'.Reads k) : (t.perform o).2.entries.seenAt f k = t.entries.seenAt f k := by
  rw [Entries.seenAt, Entries.seenAt, get?_perform h o (hapart.symm.not_isWithin hk)]

/-- The second of two operations answers as it would if it came first. -/
theorem alike_second (h : t.WellFormed) (ho' : o'.isWatch = false) (hapart : o.Apart o')
    (hf : f n' = f m') :
    Alike f ((t.atTime n).perform o).2 t ((((t.atTime n).perform o).2.atTime n').perform o')
      ((t.atTime m').perform o') := by
  have hfirst := h.atTime n
  have halike : Alike f (((t.atTime n).perform o).2.atTime n') (t.atTime m') _ _ :=
    alike_perform ((hfirst.perform o).atTime n') (h.atTime m') hf ho'
      fun k hk => seenAt_perform_of_reads hfirst hapart hk
  exact ⟨halike.answer, halike.seenAt⟩

/-- Two operations that are apart leave the same entries in either order. -/
theorem seenAt_exchange (h : t.WellFormed) (ho : o.isWatch = false) (ho' : o'.isWatch = false)
    (hapart : o.Apart o') (hf : f n = f m) (hf' : f n' = f m') (k : String) :
    ((((t.atTime n).perform o).2.atTime n').perform o').2.entries.seenAt f k =
      ((((t.atTime m').perform o').2.atTime m).perform o).2.entries.seenAt f k := by
  have hwf := (h.atTime n).perform o
  have hwf' := (h.atTime m').perform o'
  -- What neither operation concerns, or only one of them, is settled by the other's frame.
  by_cases hk : ∃ p ∈ o.paths, Path.isWithin k p = true
  · obtain ⟨p, hp, hwithin⟩ := hk
    have hreads : o.Reads k := ⟨p, hp, .inl hwithin⟩
    have hlast : ((((t.atTime n).perform o).2.atTime n').perform o').2.entries.seenAt f k =
        ((t.atTime n).perform o).2.entries.seenAt f k :=
      seenAt_perform_of_reads (hwf.atTime n') hapart.symm hreads
    have hfirst := (alike_second (n := m') h ho hapart.symm hf.symm).seenAt
      (seenAt_perform_of_reads (h.atTime m') hapart.symm hreads)
    exact hlast.trans hfirst.symm
  · have hnot : ∀ p ∈ o.paths, Path.isWithin k p = false := fun p hp => by
      simpa using fun hw => hk ⟨p, hp, hw⟩
    have hkeep {t : Tree} (h : t.WellFormed) :
        (t.perform o).2.entries.seenAt f k = t.entries.seenAt f k := by
      rw [Entries.seenAt, Entries.seenAt, get?_perform h o hnot]
    have hsecond := (alike_second (n := n) h ho' hapart hf').seenAt (hkeep (h.atTime n))
    exact hsecond.trans (hkeep (hwf'.atTime m)).symm

end Exchange

/-- Performs operations one after the other, each at the time that the clock then shows. -/
def performAll : List (Operation × Int) → Tree → List (Except HostError Answer) × Tree
  | [], t => ([], t)
  | (o, now) :: rest, t =>
    let (answer, t) := (t.atTime now).perform o
    let (answers, t) := performAll rest t
    (answer :: answers, t)

theorem performAll_cons (r : Operation × Int) (rest : List (Operation × Int)) (t : Tree) :
    performAll (r :: rest) t =
      (((t.atTime r.2).perform r.1).1 :: (performAll rest ((t.atTime r.2).perform r.1).2).1,
        (performAll rest ((t.atTime r.2).perform r.1).2).2) :=
  rfl

theorem blur_id (e : Entries) : e.blur id = e :=
  OrderedMap.ext_toList (List.map_id _)

theorem Answer.map_blur_id (r : Except HostError Answer) : r.map (Answer.blur id) = r := by
  cases r with
  | error cause => rfl
  | ok a => cases a <;> rfl

/-- Answers depend on the entries only. -/
theorem performAll_congr {requests : List (Operation × Int)}
    (hrequests : ∀ r ∈ requests, r.1.isWatch = false) (h : t.WellFormed) (h' : t'.WellFormed)
    (heq : t.entries = t'.entries) :
    (performAll requests t).1 = (performAll requests t').1 ∧
      (performAll requests t).2.entries = (performAll requests t').2.entries := by
  induction requests generalizing t t' with
  | nil => exact ⟨rfl, heq⟩
  | cons r rest ih =>
    obtain ⟨hr, hrest⟩ := List.forall_mem_cons.mp hrequests
    have halike : Alike id (t.atTime r.2) (t'.atTime r.2) _ _ :=
      alike_perform (h.atTime r.2) (h'.atTime r.2) rfl hr
        fun k _ => congrArg (Entries.seenAt id · k) heq
    have hanswer := halike.answer
    rw [Answer.map_blur_id, Answer.map_blur_id] at hanswer
    have hentries : ((t.atTime r.2).perform r.1).2.entries =
        ((t'.atTime r.2).perform r.1).2.entries := by
      rw [← blur_id (Tree.entries _), ← blur_id ((t'.atTime r.2).perform r.1).2.entries]
      exact Entries.blur_eq_of_seenAt fun k => halike.seenAt (congrArg (Entries.seenAt id · k) heq)
    obtain ⟨hanswers, hlast⟩ :=
      ih hrest ((h.atTime r.2).perform r.1) ((h'.atTime r.2).perform r.1) hentries
    rw [performAll_cons, performAll_cons]
    exact ⟨by rw [hanswer, hanswers], hlast⟩

/-- Requests that are apart from one another are answered alike in any order. -/
theorem performAll_perm {requests requests' : List (Operation × Int)}
    (hperm : requests.Perm requests') (hrequests : ∀ r ∈ requests, r.1.isWatch = false)
    (hapart : requests.Pairwise fun r r' => r.1.Apart r'.1) (h : t.WellFormed) :
    (requests.zip (performAll requests t).1).Perm (requests'.zip (performAll requests' t).1) ∧
      (performAll requests t).2.entries = (performAll requests' t).2.entries := by
  induction hperm generalizing t with
  | nil => exact ⟨.nil, rfl⟩
  | cons r hperm ih =>
    obtain ⟨hr, hrest⟩ := List.forall_mem_cons.mp hrequests
    obtain ⟨hanswers, hlast⟩ := ih hrest hapart.of_cons ((h.atTime r.2).perform r.1)
    exact ⟨hanswers.cons _, hlast⟩
  | swap r r' rest =>
    obtain ⟨hr', hrequests⟩ := List.forall_mem_cons.mp hrequests
    obtain ⟨hr, hrest⟩ := List.forall_mem_cons.mp hrequests
    have hpair : r'.1.Apart r.1 := (List.pairwise_cons.mp hapart).1 r List.mem_cons_self
    have hsecond := (alike_second (f := id) (n := r'.2) h hr hpair (Eq.refl r.2)).answer
    have hfirst := (alike_second (f := id) (n := r.2) h hr' hpair.symm (Eq.refl r'.2)).answer
    have hentries := Entries.blur_eq_of_seenAt (seenAt_exchange (f := id) h hr' hr hpair
      (Eq.refl r'.2) (Eq.refl r.2))
    rw [Answer.map_blur_id, Answer.map_blur_id] at hsecond hfirst
    rw [blur_id, blur_id] at hentries
    obtain ⟨hanswers, hlast⟩ := performAll_congr hrest
      ((((h.atTime r'.2).perform r'.1).atTime r.2).perform r.1)
      ((((h.atTime r.2).perform r.1).atTime r'.2).perform r'.1) hentries
    simp only [performAll_cons, List.zip_cons_cons, hsecond, hfirst, hanswers]
    exact ⟨.swap _ _ _, hlast⟩
  | trans hperm hperm' ih ih' =>
    obtain ⟨hanswers, hlast⟩ := ih hrequests hapart h
    obtain ⟨hanswers', hlast'⟩ := ih' (fun r hr => hrequests r (hperm.mem_iff.mpr hr))
      (hperm.pairwise hapart Operation.Apart.symm) h
    exact ⟨hanswers.trans hanswers', hlast.trans hlast'⟩

/-- Two operations that are apart from one another, on a tree that a run ends in. In either order
each gives the same answer, and the entries after both are the same, as far as times can be told
apart that the clock shows in one order and the other. Hence any number of requests that are apart
from one another, each at its own time, are answered alike in whatever order they come. -/
theorem operations_apart_commute (h : t.Reachable) :
    (∀ o o' : Operation, o.isWatch = false → o'.isWatch = false → o.Apart o' →
      ∀ (f : Int → Int) (n n' m m' : Int), f n = f m → f n' = f m' →
        let first := (t.atTime n).perform o
        let second := (first.2.atTime n').perform o'
        let second' := (t.atTime m').perform o'
        let first' := (second'.2.atTime m).perform o
        first.1.map (Answer.blur f) = first'.1.map (Answer.blur f) ∧
        second.1.map (Answer.blur f) = second'.1.map (Answer.blur f) ∧
        second.2.entries.blur f = first'.2.entries.blur f) ∧
    ∀ requests requests' : List (Operation × Int), requests.Perm requests' →
      (∀ r ∈ requests, r.1.isWatch = false) →
      requests.Pairwise (fun r r' => r.1.Apart r'.1) →
        (requests.zip (performAll requests t).1).Perm (requests'.zip (performAll requests' t).1) ∧
        (performAll requests t).2.entries = (performAll requests' t).2.entries := by
  have hwf := h.wellFormed
  refine ⟨?_, fun requests requests' hperm hrequests hapart =>
    performAll_perm hperm hrequests hapart hwf⟩
  intro o o' ho ho' hapart f n n' m m' hf hf'
  refine ⟨?_, (alike_second hwf ho' hapart hf').answer,
    Entries.blur_eq_of_seenAt (seenAt_exchange hwf ho ho' hapart hf hf')⟩
  exact ((alike_second hwf ho hapart.symm hf.symm).answer).symm

/-- A move to `/ab` and a deletion of `/a`, whose path starts the other's, and a look at `/a.b`. -/
theorem operations_apart_commute_neighbours :
    let t := run [.perform (.createDirectory "mem:/a"), .perform (.write "mem:/a/f" [1] true false),
      .perform (.write "mem:/a.b" [2] true false),
      .perform (.write "mem:/x" [3] true false)] (empty 5)
    let move : Operation := .rename "mem:/x" "mem:/ab" false
    let drop : Operation := .delete "other:/a/" true
    let look : Operation := .stat "mem:/a.b"
    t.Reachable ∧ move.Apart drop ∧ [(move, 6), (drop, 7), (look, 8)].Pairwise
        (fun r r' : Operation × Int => r.1.Apart r'.1) ∧
      ((t.atTime 6).perform move).1.map (Answer.blur fun _ => 0) =
        ((((t.atTime 9).perform drop).2.atTime 10).perform move).1.map (Answer.blur fun _ => 0) ∧
      (performAll [(move, 6), (drop, 7), (look, 8)] t).2.entries =
        (performAll [(look, 8), (drop, 7), (move, 6)] t).2.entries := by
  intro t move drop look
  have h : t.Reachable := ⟨5, _, rfl⟩
  have hapart : move.Apart drop := by decide
  have hpairwise : [(move, 6), (drop, 7), (look, 8)].Pairwise
      (fun r r' : Operation × Int => r.1.Apart r'.1) := by decide
  obtain ⟨hpair, hany⟩ := operations_apart_commute h
  refine ⟨h, hapart, hpairwise, ?_, ?_⟩
  · exact (hpair move drop rfl rfl hapart (fun _ => 0) 6 7 10 9 rfl rfl).1
  · refine (hany _ _ ?_ ?_ hpairwise).2
    · exact (List.reverse_perm _).symm
    · decide

end Tree

end FileBridge
