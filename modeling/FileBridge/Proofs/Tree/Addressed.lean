import Mathlib.Data.List.TakeDrop
import FileBridge.Proofs.Tree.Relocation

/-!
Every entry can be addressed. A path without query, fragment and dot segments is the one that a URI
of it addresses, and operations file entries under such paths only: they come from URIs, or from two
such paths by a move.
-/
namespace FileBridge

namespace Text

theorem splitAt_cons_self (c : Char) (s : List Char) : splitAt c (c :: s) = [] :: splitAt c s := by
  simp [splitAt]

theorem exists_splitAt_cons {c d : Char} (h : d ≠ c) (s : List Char) :
    ∃ piece rest, splitAt c s = piece :: rest ∧ splitAt c (d :: s) = (d :: piece) :: rest := by
  have hne : splitAt c s ≠ [] := by
    cases s with
    | nil => simp [splitAt]
    | cons e s =>
      simp only [splitAt, List.foldr_cons]
      split
      · simp
      · split <;> simp
  obtain ⟨piece, rest, hs⟩ := List.exists_cons_of_ne_nil hne
  refine ⟨piece, rest, hs, ?_⟩
  unfold splitAt at hs ⊢
  rw [List.foldr_cons, hs, if_neg h]

theorem splitAt_append (c : Char) (s t : List Char) :
    splitAt c (s ++ c :: t) = splitAt c s ++ splitAt c t := by
  induction s with
  | nil => exact splitAt_cons_self c t
  | cons d s ih =>
    by_cases hd : d = c
    · subst hd
      rw [List.cons_append, splitAt_cons_self, splitAt_cons_self, ih, List.cons_append]
    · obtain ⟨piece, rest, hs, hcons⟩ := exists_splitAt_cons hd s
      obtain ⟨piece', rest', hs', hcons'⟩ := exists_splitAt_cons hd (s ++ c :: t)
      rw [ih, hs, List.cons_append] at hs'
      obtain ⟨rfl, rfl⟩ := List.cons.inj hs'
      rw [List.cons_append, hcons, hcons', List.cons_append]

theorem dropTrailing_eq_self {c : Char} {s : List Char} (h : s.getLast? ≠ some c) :
    dropTrailing c s = s := by
  unfold dropTrailing
  cases hs : s.reverse with
  | nil => simpa using hs.symm
  | cons d rest =>
    have hd : d ≠ c := by
      rintro rfl
      rw [List.getLast?_eq_head?_reverse, hs] at h
      exact h rfl
    rw [List.dropWhile_cons_of_neg (by simpa using hd), ← hs, List.reverse_reverse]

end Text

namespace Path

/-- A path in which nothing would be read as a query, a fragment or a dot segment. -/
def IsPlain (path : String) : Prop :=
  (∀ c ∈ path.toList, c ≠ '?' ∧ c ≠ '#') ∧
    ∀ segment ∈ Text.splitAt '/' path.toList, isDotSegment segment = false

theorem mem_address {uri : List Char} {c : Char} (h : c ∈ address uri) : c ≠ '?' ∧ c ≠ '#' := by
  unfold address Text.dropTrailing at h
  have hmem := (List.dropWhile_sublist _).subset (List.mem_reverse.mp h)
  simpa using List.all_eq_true.mp List.all_takeWhile c (List.mem_reverse.mp hmem)

/-- A URI addresses a plain path. -/
theorem ofUri_isPlain {uri path : String} (h : ofUri uri = .ok path) : IsPlain path := by
  unfold ofUri at h
  simp only at h
  split at h
  · obtain rfl := Except.ok.inj h
    exact ⟨by simp [root_toList], by decide⟩
  split at h
  · cases h
  next hdots =>
    simp only [List.any_eq_true, not_exists, not_and, Bool.not_eq_true] at hdots
    split at h
    · obtain rfl := Except.ok.inj h
      exact ⟨fun c hc => mem_address (by simpa using hc), by simpa using hdots⟩
    · obtain rfl := Except.ok.inj h
      refine ⟨?_, ?_⟩
      · intro c hc
        rcases List.mem_cons.mp (by simpa using hc) with rfl | hc
        · decide
        · exact mem_address hc
      · rw [String.toList_ofList, Text.splitAt_cons_self]
        rintro segment (_ | ⟨_, hsegment⟩)
        · rfl
        · exact hdots segment hsegment

/-- A plain path is addressed by a URI of it. -/
theorem ofUri_of_isPlain {path : String} (hproper : IsProper path) (h : IsPlain path) :
    ofUri ("mem://" ++ path) = .ok path := by
  obtain ⟨rest, hrest⟩ := List.head?_eq_some_iff.mp hproper.1
  have hscheme : afterScheme ("mem://" ++ path).toList = '/' :: '/' :: path.toList := by
    simp [afterScheme, Text.cutFirst?, List.span, List.span.loop]
  have hauthority : afterAuthority ('/' :: '/' :: path.toList) = path.toList := by
    simp [afterAuthority, hrest]
  have htake : path.toList.takeWhile (fun c => c ≠ '?' && c ≠ '#') = path.toList := by
    have hall : ∀ c ∈ path.toList, (c ≠ '?' && c ≠ '#') = true := by simpa using h.1
    rw [← List.append_nil path.toList, List.takeWhile_append_of_pos hall, List.takeWhile_nil]
  have haddress : address ("mem://" ++ path).toList = path.toList := by
    rw [address, hscheme, hauthority, htake, Text.dropTrailing_eq_self hproper.2]
  have hdots : (Text.splitAt '/' path.toList).any isDotSegment = false := by
    simpa using h.2
  simp only [ofUri, haddress, hproper.ne_nil, hdots, hproper.1, if_false, if_true,
    String.ofList_toList, Bool.false_eq_true]

/-- A tail of one plain path makes a plain path after every other. -/
theorem IsPlain.append {above place tail : String} (h : IsPlain above) (htail : IsTail tail)
    (hplace : IsPlain (place ++ tail)) : IsPlain (above ++ tail) := by
  rcases htail with rfl | hhead
  · simpa using h
  obtain ⟨rest, hrest⟩ := List.head?_eq_some_iff.mp hhead
  obtain ⟨hchars, hdots⟩ := hplace
  rw [String.toList_append, hrest] at hchars hdots
  rw [Text.splitAt_append] at hdots
  constructor
  · intro c hc
    rw [String.toList_append, hrest] at hc
    rcases List.mem_append.mp hc with hc | hc
    · exact h.1 c hc
    · exact hchars c (List.mem_append_right _ hc)
  · intro segment hsegment
    rw [String.toList_append, hrest, Text.splitAt_append] at hsegment
    rcases List.mem_append.mp hsegment with hsegment | hsegment
    · exact h.2 segment hsegment
    · exact hdots segment (List.mem_append_right _ hsegment)

end Path

namespace Tree

variable {t : Tree}

/-- Every entry is filed under a plain path. -/
def Addressed (t : Tree) : Prop :=
  ∀ k entry, t.entries.get? k = some entry → Path.IsPlain k

theorem Addressed.of_keeps (h : t.Addressed) {t' : Tree} (hkeeps : ∀ path, Keeps path t t') :
    t'.Addressed := by
  intro k entry hget
  rw [(hkeeps k).get?] at hget
  exact h k entry hget

/-- Only operations that succeed have to be looked at. -/
theorem Addressed.of_lawful (h : t.Addressed) {α : Type} {r : Reply Tree α} (hr : t.Lawful r)
    (hok : ∀ a, r.1 = .ok a → r.2.Addressed) : r.2.Addressed := by
  cases hresult : r.1 with
  | error cause =>
    rw [hr.eq_count hresult]
    exact h
  | ok a => exact hok a hresult

theorem Addressed.insert (h : t.Addressed) {t' : Tree} {path : String} {entry : Entry}
    (hpath : Path.IsPlain path)
    (hget : ∀ k, t'.entries.get? k = if k = path then some entry else t.entries.get? k) :
    t'.Addressed := by
  intro k other hk
  rw [hget] at hk
  split at hk
  next heq => exact heq ▸ hpath
  · exact h k other hk

theorem Addressed.write (h : t.Addressed) (hwf : t.WellFormed) (uri : String)
    (content : List UInt8) (mayCreate mayOverwrite : Bool) :
    (t.write uri content mayCreate mayOverwrite).2.Addressed := by
  refine h.of_lawful (lawful_write hwf uri content mayCreate mayOverwrite) fun a ha => ?_
  obtain ⟨path, hpath, hresult, hentries⟩ := edit_eq_ok ha
  obtain ⟨-, created, hget⟩ := Edit.get?_write hresult
  rw [← hentries] at hget
  exact h.insert (Path.ofUri_isPlain hpath) hget

theorem Addressed.createDirectory (h : t.Addressed) (hwf : t.WellFormed) (uri : String) :
    (t.createDirectory uri).2.Addressed := by
  have hlawful : t.Lawful (t.createDirectory uri) :=
    lawful_edit hwf uri fun _ hpath => Edit.lawful_createDirectory hwf.entries t.now uri hpath
  refine h.of_lawful hlawful fun a ha => ?_
  obtain ⟨path, hpath, hresult, hentries⟩ := edit_eq_ok ha
  obtain ⟨-, hget⟩ := Edit.get?_createDirectory hresult
  rw [← hentries] at hget
  exact h.insert (Path.ofUri_isPlain hpath) hget

theorem Addressed.delete (h : t.Addressed) (hwf : t.WellFormed) (uri : String)
    (recursive : Bool) : (t.delete uri recursive).2.Addressed := by
  have hlawful : t.Lawful (t.delete uri recursive) :=
    lawful_edit hwf uri fun _ hpath => Edit.lawful_delete hwf.entries recursive uri hpath
  refine h.of_lawful hlawful fun a ha k entry hk => ?_
  obtain ⟨path, -, hresult, hentries⟩ := edit_eq_ok ha
  rw [Tree.delete, hentries, Edit.get?_delete hresult] at hk
  split at hk
  · cases hk
  · exact h k entry hk

/-- What moves gets the target for the part of its path that the source was. -/
theorem Addressed.rename (h : t.Addressed) (hwf : t.WellFormed) (source target : String)
    (mayOverwrite : Bool) : (t.rename source target mayOverwrite).2.Addressed := by
  refine h.of_lawful (lawful_rename hwf source target mayOverwrite) fun a ha k entry hk => ?_
  cases hold : Path.ofUri source with
  | error cause =>
    simp only [Tree.rename, hold] at ha
    cases ha
  | ok old =>
    cases hnew : Path.ofUri target with
    | error cause =>
      simp only [Tree.rename, hold, hnew] at ha
      cases ha
    | ok new =>
      have hsource := Path.ofUri_proper hold
      have htarget := Path.ofUri_proper hnew
      rw [rename_of_paths hold hnew] at ha hk
      rw [entries_commit] at hk
      by_cases hne : old = new
      · subst hne
        rw [Edit.entries_rename_self ha] at hk
        exact h k entry hk
      cases hbelow : Path.isWithin k new with
      | true =>
        obtain ⟨-, hproper, -⟩ :=
          Edit.exists_cleared_of_rename hwf.entries hsource htarget hne ha
        obtain ⟨tail, htail, rfl⟩ := (Path.isWithin_iff hproper.ne_root).mp hbelow
        rw [Edit.get?_rename_target hwf.entries hsource htarget hne ha htail] at hk
        split at hk
        · cases hk
        · exact (Path.ofUri_isPlain hnew).append htail (h _ entry hk)
      | false =>
        cases hfrom : Path.isWithin k old with
        | true =>
          rw [Edit.get?_rename_source hwf.entries hsource htarget hne ha hfrom hbelow] at hk
          cases hk
        | false =>
          rw [Edit.get?_rename hwf.entries hsource htarget ha hfrom hbelow] at hk
          exact h k entry hk

theorem Addressed.after (h : t.Addressed) (hwf : t.WellFormed) (a : Action) :
    (t.after a).Addressed := by
  cases a with
  | perform o =>
    rw [Tree.after]
    cases o <;> rw [perform, answer]
    case stat uri => exact h.of_keeps fun path => keeps_look hwf uri (metadataAt uri)
    case read uri => exact h.of_keeps fun path => keeps_look hwf uri (contentAt uri)
    case list uri => exact h.of_keeps fun path => keeps_look hwf uri (listingAt uri)
    case watch uri => exact h.of_keeps fun path => keeps_watch hwf uri
    case write uri content mayCreate mayOverwrite =>
      exact h.write hwf uri content mayCreate mayOverwrite
    case createDirectory uri => exact h.createDirectory hwf uri
    case delete uri recursive => exact h.delete hwf uri recursive
    case rename source target mayOverwrite => exact h.rename hwf source target mayOverwrite
  | _ => exact h.of_keeps fun path => keeps_after hwf rfl

theorem Addressed.run (h : t.Addressed) (hwf : t.WellFormed) (actions : List Action) :
    (run actions t).Addressed := by
  induction actions generalizing t with
  | nil => exact h
  | cons a rest ih => exact ih (h.after hwf a) (hwf.after a)

/-- In a tree that a run ends in, every entry is addressed by a URI. -/
theorem Reachable.exists_uri (h : t.Reachable) {k : String} {entry : Entry}
    (hget : t.entries.get? k = some entry) : ∃ uri, Path.ofUri uri = .ok k := by
  have hproper := h.wellFormed.entries.proper (OrderedMap.contains_iff.mpr ⟨entry, hget⟩)
  obtain ⟨now, actions, rfl⟩ := h
  have hempty : (empty now).Addressed := fun k entry hk => by cases hk
  have hplain := hempty.run (wellFormed_empty now) actions k entry hget
  exact ⟨"mem://" ++ k, Path.ofUri_of_isPlain hproper hplain⟩

end Tree

end FileBridge
