import FileBridge.Tree.Entries
import FileBridge.Proofs.OrderedMap
import FileBridge.Proofs.Tree.Ancestry

/-!
Entries by path, and the entries below a path. In the order of paths those that start with a given
text stand together, so a scan from that text on, up to the first path without it, finds them all.
-/
namespace FileBridge

namespace Text

/-- No text comes before what it starts with. -/
theorem not_lt_of_prefix {s t : List Char} (h : s <+: t) : ¬t < s := by
  induction s generalizing t with
  | nil => exact List.not_lt_nil t
  | cons c s ih =>
    obtain ⟨t, rfl, ht⟩ := List.cons_prefix_iff.mp h
    rw [List.cons_lt_cons_iff]
    rintro (hlt | ⟨-, hlt⟩)
    · exact Char.lt_irrefl c hlt
    · exact ih ht hlt

/-- A text between another one and a continuation of that one is itself a continuation. -/
theorem prefix_of_between {s a b : List Char} (hsa : ¬a < s) (hab : a < b) (hsb : s <+: b) :
    s <+: a := by
  induction s generalizing a b with
  | nil => exact List.nil_prefix
  | cons c s ih =>
    obtain ⟨b, rfl, hb⟩ := List.cons_prefix_iff.mp hsb
    cases a with
    | nil => exact absurd (List.nil_lt_cons c s) hsa
    | cons d a =>
      rw [List.cons_lt_cons_iff] at hsa hab
      obtain ⟨hdc, hsa⟩ := not_or.mp hsa
      rcases hab with hlt | ⟨rfl, hab⟩
      · exact absurd hlt hdc
      · exact List.cons_prefix_cons.mpr ⟨rfl, ih (fun h => hsa ⟨rfl, h⟩) hab hb⟩

end Text

namespace Entries

/-- From a stem on, the paths with that stem come first. -/
theorem takeWhile_startsWith {l : List (String × Entry)} (h : Fields.Ascending l) {start : String}
    (hl : ∀ a ∈ l, ¬a.1 < start) :
    l.takeWhile (fun a => Path.startsWith start a.1) =
      l.filter fun a => Path.startsWith start a.1 := by
  induction l with
  | nil => rfl
  | cons a rest ih =>
    obtain ⟨hhead, hrest⟩ := List.pairwise_cons.mp h
    by_cases ha : Path.startsWith start a.1 = true
    · rw [List.takeWhile_cons_of_pos (by simpa using ha),
        List.filter_cons_of_pos (by simpa using ha),
        ih hrest fun b hb => hl b (List.mem_cons_of_mem _ hb)]
    · rw [List.takeWhile_cons_of_neg (by simpa using ha),
        List.filter_cons_of_neg (by simpa using ha)]
      refine (List.filter_eq_nil_iff.mpr ?_).symm
      intro b hb hstart
      apply ha
      rw [Path.startsWith, List.isPrefixOf_iff_prefix] at hstart ⊢
      exact Text.prefix_of_between (hl a List.mem_cons_self) (hhead b hb) hstart

theorem dropWhile_takeWhile_startsWith {l : List (String × Entry)} (h : Fields.Ascending l)
    (start : String) :
    (l.dropWhile fun a => decide (a.1 < start)).takeWhile
        (fun a => Path.startsWith start a.1) =
      l.filter fun a => Path.startsWith start a.1 := by
  induction l with
  | nil => rfl
  | cons a rest ih =>
    obtain ⟨hhead, hrest⟩ := List.pairwise_cons.mp h
    by_cases ha : a.1 < start
    · have hnot : ¬Path.startsWith start a.1 = true := by
        intro hstart
        rw [Path.startsWith, List.isPrefixOf_iff_prefix] at hstart
        exact Text.not_lt_of_prefix hstart ha
      rw [List.dropWhile_cons_of_pos (by simpa using ha),
        List.filter_cons_of_neg (by simpa using hnot)]
      exact ih hrest
    · rw [List.dropWhile_cons_of_neg (by simpa using ha)]
      apply takeWhile_startsWith h
      intro b hb
      rcases List.mem_cons.mp hb with rfl | hb
      · exact ha
      · exact fun hlt => ha (String.lt_trans (hhead b hb) hlt)

/-- The scan below a path finds the entries that start with its stem, and nothing else. -/
theorem scan_eq_filter (e : Entries) (path : String) :
    e.scan path = e.toList.filter fun a => Path.startsWith (Path.stem path) a.1 :=
  dropWhile_takeWhile_startsWith e.ascending (Path.stem path)

/-- The descendants of a path are the entries strictly below it. -/
theorem mem_descendants_iff {e : Entries} {path k : String} (h : path ≠ Path.root) :
    k ∈ e.descendants path ↔
      e.contains k = true ∧ Path.isWithin k path = true ∧ k ≠ path := by
  simp only [descendants, scan_eq_filter, List.mem_map, List.mem_filter, Prod.exists,
    exists_and_right, exists_eq_right, Path.startsWith_stem_iff h, OrderedMap.contains_iff,
    OrderedMap.get?_eq_some_iff]

theorem nodup_descendants (e : Entries) (path : String) : (e.descendants path).Nodup := by
  have hascending : (e.scan path).Pairwise fun a b => a.1 < b.1 := by
    rw [scan_eq_filter]
    exact e.ascending.filter _
  refine (List.pairwise_map.mpr hascending).imp ?_
  rintro a b hlt rfl
  exact String.lt_irrefl a hlt

@[simp] theorem get?_eraseAll (e : Entries) (paths : List String) (k : String) :
    (e.eraseAll paths).get? k = if k ∈ paths then none else e.get? k := by
  induction paths generalizing e with
  | nil => simp [eraseAll]
  | cons path rest ih =>
    have hstep : eraseAll e (path :: rest) = eraseAll (e.erase path) rest := rfl
    rw [hstep, ih, OrderedMap.get?_erase]
    by_cases hrest : k ∈ rest
    · simp [hrest]
    · by_cases hk : k = path <;> simp [hrest, hk]

/-- Erasing a path and its descendants takes out everything at or below the path. -/
theorem get?_eraseAll_subtree {e : Entries} {path : String} (h : path ≠ Path.root)
    {paths : List String} (hpaths : ∀ k, k ∈ paths ↔ k = path ∨ k ∈ e.descendants path)
    (k : String) :
    (e.eraseAll paths).get? k = if Path.isWithin k path then none else e.get? k := by
  rw [get?_eraseAll]
  have hmem := hpaths k
  rw [mem_descendants_iff h] at hmem
  by_cases hwithin : Path.isWithin k path = true
  · rw [if_pos hwithin]
    split
    · rfl
    next hnot =>
      cases hget : e.get? k with
      | none => rfl
      | some entry =>
        have hcontains := OrderedMap.contains_iff.mpr ⟨entry, hget⟩
        by_cases hk : k = path
        · exact absurd (hmem.mpr (.inl hk)) hnot
        · exact absurd (hmem.mpr (.inr ⟨hcontains, hwithin, hk⟩)) hnot
  · have hnot : k ∉ paths := by
      rw [hmem]
      rintro (rfl | ⟨-, hw, -⟩)
      · exact hwithin (Path.isWithin_self k)
      · exact hwithin hw
    rw [if_neg hwithin, if_neg hnot]

end Entries

end FileBridge
