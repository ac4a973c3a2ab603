import FileBridge.Tree.Path

/-!
Where paths lie with respect to one another. A path below another one is that path followed by a
tail, which is empty or starts with a slash; taking the parent of a path shortens its tail, so
parents of paths below a place stay at or below it.
-/
namespace FileBridge

namespace Text

theorem beforeLast_append {c : Char} (above : List Char) {name : List Char} (h : c ∉ name) :
    beforeLast c (above ++ c :: name) = above := by
  have hne : ∀ d ∈ name.reverse, decide (d ≠ c) = true := by
    intro d hd
    have : d ≠ c := fun he => h (he ▸ List.mem_reverse.mp hd)
    simpa using this
  have hdrop : (name.reverse ++ c :: above.reverse).dropWhile (fun d => decide (d ≠ c)) =
      c :: above.reverse := by
    rw [List.dropWhile_append_of_pos hne]
    simp
  unfold beforeLast
  simp only [List.reverse_append, List.reverse_cons, List.append_assoc, List.singleton_append]
  rw [hdrop]
  simp

theorem dropTrailing_getLast? (c : Char) (s : List Char) :
    (dropTrailing c s).getLast? ≠ some c := by
  have h := List.head?_dropWhile_not (fun d => decide (d = c)) s.reverse
  unfold dropTrailing
  rw [List.getLast?_reverse]
  intro he
  rw [he] at h
  simp at h

end Text

namespace Path

/-- A path that an entry can be filed under: it starts with a slash and does not end in one. -/
def IsProper (path : String) : Prop :=
  path.toList.head? = some '/' ∧ path.toList.getLast? ≠ some '/'

instance (path : String) : Decidable (IsProper path) :=
  inferInstanceAs (Decidable (_ ∧ _))

/-- What can follow a path in the paths at or below it. -/
def IsTail (tail : String) : Prop :=
  tail = "" ∨ tail.toList.head? = some '/'

@[simp] theorem root_toList : root.toList = ['/'] := rfl

theorem IsProper.ne_root {path : String} (h : IsProper path) : path ≠ root := by
  rintro rfl
  exact h.2 rfl

theorem IsProper.ne_nil {path : String} (h : IsProper path) : path.toList ≠ [] := by
  intro he
  have := h.1
  simp [he] at this

/-- A text with a slash has a last one. -/
theorem exists_last_slash {s : List Char} (h : '/' ∈ s) :
    ∃ above name, s = above ++ '/' :: name ∧ '/' ∉ name := by
  obtain ⟨back, front, heq, hnot⟩ := List.eq_append_cons_of_mem (List.mem_reverse.mpr h)
  refine ⟨front.reverse, back.reverse, ?_, by simpa using hnot⟩
  simpa using congrArg List.reverse heq

/-- A proper path has a name after its last slash. -/
theorem IsProper.exists_name {path : String} (h : IsProper path) :
    ∃ above name, path.toList = above ++ '/' :: name ∧ '/' ∉ name ∧ name ≠ [] := by
  obtain ⟨above, name, hpath, hname⟩ := exists_last_slash (List.mem_of_head? h.1)
  refine ⟨above, name, hpath, hname, ?_⟩
  rintro rfl
  apply h.2
  rw [hpath]
  simp

/-- The parent of a path with one name below a place is that place. -/
theorem parent_of_name {path : String} {above name : List Char}
    (hpath : path.toList = above ++ '/' :: name) (hname : '/' ∉ name) :
    parent path = if above = [] then root else String.ofList above := by
  unfold parent
  rw [hpath, Text.beforeLast_append above hname]
  cases above <;> simp

theorem parent_length_lt {path : String} (h : IsProper path) :
    (parent path).length < path.length := by
  obtain ⟨above, name, hpath, hname, hne⟩ := h.exists_name
  have hlength := congrArg List.length hpath
  have hpos := List.length_pos_iff.mpr hne
  rw [parent_of_name hpath hname]
  simp only [String.length_toList, List.length_append, List.length_cons] at hlength
  split
  · have : root.length = 1 := rfl
    omega
  · rw [String.length_ofList]
    omega

/-- A URI addresses the root or a proper path. -/
theorem ofUri_proper {uri path : String} (h : ofUri uri = .ok path) :
    path = root ∨ IsProper path := by
  have hlast : (address uri.toList).getLast? ≠ some '/' := Text.dropTrailing_getLast? '/' _
  unfold ofUri at h
  simp only at h
  split at h
  · exact .inl (by simpa using h.symm)
  split at h
  · simp at h
  next hne _ =>
    split at h
    next hhead =>
      obtain rfl := Except.ok.inj h
      exact .inr ⟨by simpa using hhead, by simpa using hlast⟩
    next =>
      obtain rfl := Except.ok.inj h
      refine .inr ⟨by simp, ?_⟩
      rw [String.toList_ofList, List.getLast?_cons]
      intro he
      cases haddress : (address uri.toList).getLast? with
      | none => exact hne (List.getLast?_eq_none_iff.mp haddress)
      | some c =>
        rw [haddress] at he hlast
        exact hlast (by simpa using he)

/-- The paths at or below a path are that path with a tail. -/
theorem isWithin_iff {path above : String} (h : above ≠ root) :
    isWithin path above = true ↔ ∃ tail, IsTail tail ∧ path = above ++ tail := by
  have hstem : stem above = above ++ "/" := by simp [stem, h]
  simp only [isWithin, h, hstem, startsWith, decide_false, Bool.false_or, Bool.or_eq_true,
    decide_eq_true_eq, List.isPrefixOf_iff_prefix]
  constructor
  · rintro (rfl | ⟨rest, hrest⟩)
    · exact ⟨"", .inl rfl, by simp⟩
    · refine ⟨String.ofList ('/' :: rest), .inr (by simp), ?_⟩
      apply String.ext
      simpa using hrest.symm
  · rintro ⟨tail, rfl | htail, rfl⟩
    · exact .inl (by simp)
    · obtain ⟨rest, hrest⟩ := List.head?_eq_some_iff.mp htail
      exact .inr ⟨rest, by simp [hrest]⟩

theorem isWithin_append {above tail : String} (habove : above ≠ root) (htail : IsTail tail) :
    isWithin (above ++ tail) above = true :=
  (isWithin_iff habove).mpr ⟨tail, htail, rfl⟩

theorem IsTail.append {s t : String} (hs : IsTail s) (ht : IsTail t) : IsTail (s ++ t) := by
  rcases hs with rfl | hs
  · simpa using ht
  · exact .inr (by simp [hs])

theorem isWithin_trans {a b c : String} (hb : b ≠ root) (hc : c ≠ root)
    (hab : isWithin a b = true) (hbc : isWithin b c = true) : isWithin a c = true := by
  obtain ⟨s, hs, rfl⟩ := (isWithin_iff hb).mp hab
  obtain ⟨t, ht, rfl⟩ := (isWithin_iff hc).mp hbc
  rw [String.append_assoc]
  exact isWithin_append hc (ht.append hs)

@[simp] theorem isWithin_self (path : String) : isWithin path path = true := by
  simp [isWithin]

/-- Strictly below a path is what starts with its stem. -/
theorem startsWith_stem_iff {path above : String} (h : above ≠ root) :
    startsWith (stem above) path = true ↔ isWithin path above = true ∧ path ≠ above := by
  have hstem : stem above = above ++ "/" := by simp [stem, h]
  constructor
  · intro hs
    refine ⟨by simp [isWithin, hs], ?_⟩
    rintro rfl
    rw [hstem, startsWith, List.isPrefixOf_iff_prefix] at hs
    have hlength := hs.length_le
    rw [String.toList_append, List.length_append] at hlength
    have : "/".toList.length = 1 := rfl
    omega
  · rintro ⟨hwithin, hne⟩
    simpa [isWithin, h, hne] using hwithin

@[simp] theorem below_append (above tail : String) : below (above ++ tail) above = tail := by
  rw [below, String.toList_append, ← String.length_toList, List.drop_left, String.ofList_toList]

theorem append_right_inj {above tail tail' : String} (h : above ++ tail = above ++ tail') :
    tail = tail' := by
  have hbelow := congrArg (below · above) h
  simpa only [below_append] using hbelow

/-- The parent of a path below a place is found in its tail, whatever the place. -/
theorem exists_parent_tail {tail : String} (h : tail.toList.head? = some '/') :
    ∃ tail', IsTail tail' ∧ ∀ above, above ≠ "" → parent (above ++ tail) = above ++ tail' := by
  obtain ⟨front, name, htail, hname⟩ := exists_last_slash (List.mem_of_head? h)
  refine ⟨String.ofList front, ?_, ?_⟩
  · cases front with
    | nil => exact .inl (by simp)
    | cons c rest =>
      rw [htail] at h
      exact .inr (by simpa using h)
  · intro above habove
    have hpath : (above ++ tail).toList = (above.toList ++ front) ++ '/' :: name := by
      simp [htail]
    have hne : above.toList ++ front ≠ [] := by
      intro he
      exact habove (String.ext (by simpa using (List.append_eq_nil_iff.mp he).1))
    rw [parent_of_name hpath hname, if_neg hne]
    apply String.ext
    simp

theorem IsProper.ne_empty {path : String} (h : IsProper path) : path ≠ "" := by
  rintro rfl
  exact h.ne_nil rfl

/-- The parent of what lies strictly below a path lies at or below it. -/
theorem isWithin_parent {path above : String} (habove : IsProper above)
    (h : isWithin path above = true) (hne : path ≠ above) :
    isWithin (parent path) above = true := by
  obtain ⟨tail, htail, rfl⟩ := (isWithin_iff habove.ne_root).mp h
  rcases htail with rfl | htail
  · simp at hne
  · obtain ⟨tail', htail', hparent⟩ := exists_parent_tail htail
    rw [hparent above habove.ne_empty]
    exact isWithin_append habove.ne_root htail'

theorem not_isWithin_root {above : String} (h : IsProper above) : isWithin root above = false := by
  rw [Bool.eq_false_iff]
  intro hwithin
  obtain ⟨tail, -, hroot⟩ := (isWithin_iff h.ne_root).mp hwithin
  have hlist : above.toList ++ tail.toList = ['/'] := by
    simpa using (congrArg String.toList hroot).symm
  rcases List.append_eq_cons_iff.mp hlist with ⟨hnil, -⟩ | ⟨rest, hcons, hrest⟩
  · exact h.ne_nil hnil
  · have hnil := (List.append_eq_nil_iff.mp hrest.symm).1
    exact h.ne_root (String.ext (by simp [hcons, hnil]))

/-- What lies right below a path at or below a place lies below that place. -/
theorem isWithin_of_parent {path above : String} (hpath : IsProper path) (habove : IsProper above)
    (h : isWithin (parent path) above = true) : isWithin path above = true := by
  obtain ⟨front, name, heq, hname, -⟩ := hpath.exists_name
  rw [parent_of_name heq hname] at h
  split at h
  · simp [not_isWithin_root habove] at h
  · obtain ⟨tail, htail, hparent⟩ := (isWithin_iff habove.ne_root).mp h
    have hfront : front = above.toList ++ tail.toList := by
      simpa using congrArg String.toList hparent
    refine (isWithin_iff habove.ne_root).mpr ⟨String.ofList (tail.toList ++ '/' :: name), ?_, ?_⟩
    · rcases htail with rfl | htail
      · exact .inr (by simp)
      · exact .inr (by simp [htail])
    · apply String.ext
      simp [heq, hfront]

theorem not_isWithin_parent {path : String} (h : IsProper path) :
    isWithin (parent path) path = false := by
  rw [Bool.eq_false_iff]
  intro hwithin
  obtain ⟨tail, -, hparent⟩ := (isWithin_iff h.ne_root).mp hwithin
  have hlt := parent_length_lt h
  rw [hparent, String.length_append] at hlt
  omega

/-- Of two paths with a common path below them one lies below the other. -/
theorem isWithin_or_isWithin {path a b : String} (ha : a ≠ root) (hb : b ≠ root)
    (hpa : isWithin path a = true) (hpb : isWithin path b = true) :
    isWithin a b = true ∨ isWithin b a = true := by
  obtain ⟨s, hs, rfl⟩ := (isWithin_iff ha).mp hpa
  obtain ⟨t, ht, heq⟩ := (isWithin_iff hb).mp hpb
  have hlist : a.toList ++ s.toList = b.toList ++ t.toList := by
    simpa using congrArg String.toList heq
  -- The part between the two starts a tail, or is empty.
  have htail {u v w : List Char} (hv : IsTail (String.ofList v)) (h : v = u ++ w) :
      IsTail (String.ofList u) := by
    cases u with
    | nil => exact .inl rfl
    | cons c rest =>
      subst h
      rcases hv with hv | hv
      · have := congrArg String.toList hv
        simp at this
      · exact .inr (by simpa using hv)
  rcases List.append_eq_append_iff.mp hlist with ⟨u, hu, hsu⟩ | ⟨u, hu, htu⟩
  · right
    refine (isWithin_iff ha).mpr ⟨String.ofList u, htail (by simpa using hs) hsu, ?_⟩
    apply String.ext
    simpa using hu
  · left
    refine (isWithin_iff hb).mpr ⟨String.ofList u, htail (by simpa using ht) htu, ?_⟩
    apply String.ext
    simpa using hu

end Path

end FileBridge
