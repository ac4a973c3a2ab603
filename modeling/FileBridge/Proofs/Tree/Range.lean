import FileBridge.Proofs.Text.Order
import FileBridge.Proofs.Tree.Deletion

/-!
The entries below a path as a range of all entries. A scan in the order of bytes, from the stem of
the path up to the first path without it, finds each entry strictly below the path once, and after
all that it lies below itself. Entries whose names merely start like the path stand before or after
the range, whichever characters follow.
-/
namespace FileBridge

namespace Path

theorem stem_eq {path : String} (h : path ≠ root) : stem path = path ++ "/" :=
  if_neg h

/-- Where a path goes on decides between it and another one with the same start. -/
theorem append_lt_append {c d : Char} (h : c < d) (path : String) (s t : List Char) :
    path ++ String.ofList (c :: s) < path ++ String.ofList (d :: t) := by
  show (path ++ String.ofList (c :: s)).toList < (path ++ String.ofList (d :: t)).toList
  rw [String.toList_append, String.toList_append, String.toList_ofList, String.toList_ofList]
  exact List.append_left_lt (List.cons_lt_cons_iff.mpr (.inl h))

/-- What lies strictly below a path goes on with a slash. -/
theorem exists_slash {path above : String} (h : above ≠ root) (hwithin : isWithin path above = true)
    (hne : path ≠ above) : ∃ rest, path = above ++ String.ofList ('/' :: rest) := by
  obtain ⟨tail, rfl | htail, rfl⟩ := (isWithin_iff h).mp hwithin
  · exact absurd String.append_empty hne
  · obtain ⟨rest, hrest⟩ := List.head?_eq_some_iff.mp htail
    exact ⟨rest, by rw [← hrest, String.ofList_toList]⟩

end Path

namespace Entries

variable {e : Entries} {path : String}

/-- The entries below a path are found by a scan in the order of bytes. -/
theorem descendants_eq_range (e : Entries) (path : String) :
    e.descendants path =
      (e.keys.dropWhile fun k => decide (Text.bytes k < Text.bytes (Path.stem path))).takeWhile
        (Path.startsWith (Path.stem path)) := by
  rw [descendants, scan, OrderedMap.fromKey, OrderedMap.keys, List.dropWhile_map,
    List.takeWhile_map]
  simp only [Text.bytes_lt_bytes_iff]
  rfl

/-- The entries below a path stand together. -/
theorem exists_keys_eq (e : Entries) (path : String) :
    ∃ before after, e.keys = before ++ e.descendants path ++ after := by
  rw [descendants_eq_range]
  generalize hrange : e.keys.dropWhile
    (fun k => decide (Text.bytes k < Text.bytes (Path.stem path))) = range
  refine ⟨e.keys.takeWhile fun k => decide (Text.bytes k < Text.bytes (Path.stem path)),
    range.dropWhile (Path.startsWith (Path.stem path)), ?_⟩
  rw [List.append_assoc, List.takeWhile_append_dropWhile, ← hrange,
    List.takeWhile_append_dropWhile]

/-- A path comes after all that it lies below. -/
theorem mem_front_of_isWithin {front back : List String} {k a : String}
    (hroot : a ≠ Path.root) (hsplit : e.descendants path = front ++ k :: back)
    (ha : a ∈ e.descendants path) (hwithin : Path.isWithin k a = true) (hne : a ≠ k) :
    a ∈ front := by
  have hascends := pairwise_descendants e path
  rw [hsplit] at hascends ha
  have hback := (List.pairwise_cons.mp (List.pairwise_append.mp hascends).2.1).1
  rcases List.mem_append.mp ha with ha | ha
  · exact ha
  · rcases List.mem_cons.mp ha with ha | ha
    · exact absurd ha hne
    · exact absurd (hback a ha) (Path.not_lt_of_isWithin hroot hwithin)

/-- The directory of an entry below a path is the path, or is found before the entry. -/
theorem parent_mem_front (h : e.WellFormed) (hpath : Path.IsProper path) {front back : List String}
    {k : String} (hsplit : e.descendants path = front ++ k :: back) :
    Path.parent k = path ∨ Path.parent k ∈ front := by
  have hk : k ∈ e.descendants path := by simp [hsplit]
  obtain ⟨hcontains, hwithin, hne⟩ := (mem_descendants_iff hpath.ne_root).mp hk
  have hproper := h.proper hcontains
  have hup := Path.isWithin_parent hpath hwithin hne
  by_cases heq : Path.parent k = path
  · exact .inl heq
  · right
    have hroot : Path.parent k ≠ Path.root := by
      intro hroot
      rw [hroot, Path.not_isWithin_root hpath] at hup
      cases hup
    obtain ⟨entry, hget, -⟩ := (hasDirectory_iff.mp (h.parent hcontains)).resolve_left hroot
    have hmem := (mem_descendants_iff hpath.ne_root).mpr
      ⟨OrderedMap.contains_iff.mpr ⟨entry, hget⟩, hup, heq⟩
    refine mem_front_of_isWithin hroot hsplit hmem (Path.isWithin_own_parent hproper) ?_
    intro hself
    have hlt := Path.parent_length_lt hproper
    rw [hself] at hlt
    exact Nat.lt_irrefl _ hlt

/-- A path that goes on with another character than a slash stands on one side of the range. -/
theorem lt_of_mem_descendants (hroot : path ≠ Path.root) {k : String}
    (hk : k ∈ e.descendants path) (c : Char) (name : List Char) :
    (c < '/' → path ++ String.ofList (c :: name) < k) ∧
      ('/' < c → k < path ++ String.ofList (c :: name)) := by
  obtain ⟨-, hwithin, hne⟩ := (mem_descendants_iff hroot).mp hk
  obtain ⟨rest, rfl⟩ := Path.exists_slash hroot hwithin hne
  exact ⟨fun hc => Path.append_lt_append hc path name rest,
    fun hc => Path.append_lt_append hc path rest name⟩

theorem append_not_mem_descendants (hroot : path ≠ Path.root) {c : Char} (hc : c ≠ '/')
    (name : List Char) : path ++ String.ofList (c :: name) ∉ e.descendants path := by
  intro hmem
  obtain ⟨hbefore, hafter⟩ := lt_of_mem_descendants hroot hmem c name
  rcases Nat.lt_or_gt_of_ne (fun h => hc (Char.toNat_inj.mp h)) with hlt | hlt
  · exact String.lt_irrefl _ (hbefore hlt)
  · exact String.lt_irrefl _ (hafter hlt)

end Entries

namespace Tree

variable {t : Tree}

/-- The scan below a path, from its stem on in the order of bytes up to the first key without it,
gives the keys strictly below the path and no others. They are a range of all keys, so each is given
once. A key comes after all keys of the range that it lies below, its own directory among them
unless that is the path itself. A path that goes on with another character than a slash is not in
the range, and comes before or after all of it. -/
theorem descendants_are_range_below (h : t.Reachable) {p : String} (hp : p ≠ Path.root) :
    let keys := t.entries.keys
    let below := t.entries.descendants p
    below =
      (keys.dropWhile fun k => decide (Text.bytes k < Text.bytes (p ++ "/"))).takeWhile
        (Path.startsWith (p ++ "/")) ∧
    (∀ k, k ∈ below ↔ k ∈ keys ∧ Path.isWithin k p = true ∧ k ≠ p) ∧
    below.Nodup ∧
    (∃ before after, keys = before ++ below ++ after) ∧
    (∀ front k back, below = front ++ k :: back →
      (Path.IsProper p → Path.parent k = p ∨ Path.parent k ∈ front) ∧
        ∀ a ∈ keys, Path.isWithin k a = true → a ≠ k → Path.isWithin a p = true → a ≠ p →
          a ∈ front) ∧
    ∀ c name, c ≠ '/' →
      p ++ String.ofList (c :: name) ∉ below ∧
        ∀ k ∈ below, (c < '/' → p ++ String.ofList (c :: name) < k) ∧
          ('/' < c → k < p ++ String.ofList (c :: name)) := by
  intro keys below
  have hwf := h.wellFormed.entries
  have hmem (k : String) : k ∈ below ↔ k ∈ keys ∧ Path.isWithin k p = true ∧ k ≠ p := by
    rw [OrderedMap.mem_keys_iff]
    exact Entries.mem_descendants_iff hp
  refine ⟨?_, hmem, Entries.nodup_descendants _ p, Entries.exists_keys_eq _ p, ?_, ?_⟩
  · rw [← Path.stem_eq hp]
    exact Entries.descendants_eq_range _ p
  · intro front k back hsplit
    refine ⟨fun hproper => Entries.parent_mem_front hwf hproper hsplit, ?_⟩
    intro a ha hwithin hne habove hbelow
    have hroot : a ≠ Path.root := (hwf.proper (OrderedMap.mem_keys_iff.mp ha)).ne_root
    exact Entries.mem_front_of_isWithin hroot hsplit ((hmem a).mpr ⟨ha, habove, hbelow⟩) hwithin hne
  · intro c name hc
    exact ⟨Entries.append_not_mem_descendants hp hc name,
      fun k hk => Entries.lt_of_mem_descendants hp hk c name⟩

/-- Beside the directory `/d` there are names that start like it, with characters on both sides of
the slash. -/
theorem descendants_are_range_below_siblings :
    let t := run [.perform (.createDirectory "mem:/d"), .perform (.write "mem:/d/é" [1] true false),
      .perform (.createDirectory "mem:/d/e"), .perform (.write "mem:/d/e/f" [2] true false),
      .perform (.write "mem:/dx" [] true false), .perform (.write "mem:/d!" [] true false),
      .perform (.createDirectory "mem:/d.b"), .perform (.write "mem:/d.b/f" [] true false)]
      (empty 0)
    let below := t.entries.descendants "/d"
    t.Reachable ∧ "/d" ≠ Path.root ∧
      t.entries.keys = ["/d", "/d!", "/d.b", "/d.b/f", "/d/e", "/d/e/f", "/d/é", "/dx"] ∧
      below = ["/d/e", "/d/e/f", "/d/é"] ∧
      (∀ front k back, below = front ++ k :: back →
        Path.parent k = "/d" ∨ Path.parent k ∈ front) ∧
      ("/d.b" ∉ below ∧ "/dx" ∉ below) ∧ ∀ k ∈ below, "/d.b" < k ∧ k < "/dx" := by
  intro t below
  have h : t.Reachable := ⟨0, _, rfl⟩
  have hroot : "/d" ≠ Path.root := by decide
  obtain ⟨-, -, -, -, hfront, hsiblings⟩ := descendants_are_range_below h hroot
  obtain ⟨hdot, hbefore⟩ := hsiblings '.' ['b'] (by decide)
  obtain ⟨hx, hafter⟩ := hsiblings 'x' [] (by decide)
  exact ⟨h, hroot, rfl, rfl, fun front k back hsplit => (hfront front k back hsplit).1 (by decide),
    ⟨hdot, hx⟩, fun k hk => ⟨(hbefore k hk).1 (by decide), (hafter k hk).2 (by decide)⟩⟩

end Tree

end FileBridge
