import FileBridge.Proofs.Tree.Frame
import FileBridge.Proofs.Tree.Reports

/-!
Deleting an entry. What lies at or below its path goes, from the bottom up, and the watchers are
told in that order. Since a path comes before every path below it, the order in which the paths are
found is one from the top down, whatever the names are.
-/
namespace FileBridge

namespace Path

/-- A path does not come after what lies below it. -/
theorem not_lt_of_isWithin {path above : String} (h : above ≠ root)
    (hwithin : isWithin path above = true) : ¬path < above := by
  obtain ⟨tail, -, rfl⟩ := (isWithin_iff h).mp hwithin
  intro hlt
  apply Text.not_lt_of_prefix (s := above.toList) (t := (above ++ tail).toList)
  · rw [String.toList_append]
    exact List.prefix_append _ _
  · exact hlt

theorem isWithin_own_parent {path : String} (h : IsProper path) :
    isWithin path (parent path) = true := by
  by_cases hroot : parent path = root
  · simp [isWithin, hroot]
  obtain ⟨above, name, hpath, hname, -⟩ := h.exists_name
  have hparent := parent_of_name hpath hname
  split at hparent
  · exact absurd hparent hroot
  · refine (isWithin_iff hroot).mpr ⟨String.ofList ('/' :: name), .inr (by simp), ?_⟩
    rw [← String.toList_inj, hpath, hparent]
    simp

end Path

namespace Entries

variable {e : Entries} {path : String}

/-- The paths that a deletion takes out, in its order. -/
def removed (e : Entries) (path : String) : List String :=
  (e.descendants path).reverse ++ [path]

theorem mem_removed_iff (hroot : path ≠ Path.root) (hpath : e.contains path = true) {k : String} :
    k ∈ e.removed path ↔ e.contains k = true ∧ Path.isWithin k path = true := by
  rw [removed, List.mem_append, List.mem_reverse, mem_descendants_iff hroot, List.mem_singleton]
  constructor
  · rintro (⟨hk, hwithin, -⟩ | rfl)
    · exact ⟨hk, hwithin⟩
    · exact ⟨hpath, Path.isWithin_self k⟩
  · rintro ⟨hk, hwithin⟩
    by_cases heq : k = path
    · exact .inr heq
    · exact .inl ⟨hk, hwithin, heq⟩

theorem pairwise_descendants (e : Entries) (path : String) :
    (e.descendants path).Pairwise fun a b => a < b := by
  rw [descendants, scan_eq_filter]
  exact List.pairwise_map.mpr (e.ascending.filter _)

/-- Read backwards, the paths ascend. -/
theorem pairwise_path_descendants (hroot : path ≠ Path.root) :
    (path :: e.descendants path).Pairwise fun a b => a < b := by
  refine List.pairwise_cons.mpr ⟨fun k hk => ?_, pairwise_descendants e path⟩
  obtain ⟨-, hwithin, hne⟩ := (mem_descendants_iff hroot).mp hk
  exact Fields.lt_of_not_lt_of_ne (Path.not_lt_of_isWithin hroot hwithin) hne

/-- Nothing is taken out before what lies below it. -/
theorem pairwise_removed (h : e.WellFormed) (hroot : path ≠ Path.root)
    (hpath : e.contains path = true) :
    (e.removed path).Pairwise fun a b => Path.isWithin b a = false ∧ Path.parent b ≠ a := by
  have hreverse : (e.removed path).reverse = path :: e.descendants path := by simp [removed]
  rw [← List.pairwise_reverse, hreverse]
  refine (pairwise_path_descendants hroot).imp_of_mem fun {b a} hb ha hlt => ?_
  have hproper {k : String} (hk : k ∈ path :: e.descendants path) : Path.IsProper k := by
    rw [← hreverse, List.mem_reverse, mem_removed_iff hroot hpath] at hk
    exact h.proper hk.1
  have hnot : Path.isWithin b a = false := by
    rw [Bool.eq_false_iff]
    exact fun hwithin => Path.not_lt_of_isWithin (hproper ha).ne_root hwithin hlt
  refine ⟨hnot, ?_⟩
  rintro rfl
  rw [Path.isWithin_own_parent (hproper hb)] at hnot
  cases hnot

theorem nodup_removed (h : e.WellFormed) (hroot : path ≠ Path.root)
    (hpath : e.contains path = true) : (e.removed path).Nodup := by
  refine (pairwise_removed h hroot hpath).imp ?_
  rintro a b ⟨hnot, -⟩ rfl
  rw [Path.isWithin_self] at hnot
  cases hnot

theorem toList_eraseAll (e : Entries) (paths : List String) :
    (e.eraseAll paths).toList = e.toList.filter fun a => a.1 ∉ paths := by
  induction paths generalizing e with
  | nil => exact (List.filter_eq_self.mpr (by simp)).symm
  | cons path rest ih =>
    have hstep : eraseAll e (path :: rest) = eraseAll (e.erase path) rest := rfl
    have herase : OrderedMap.toList (e.erase path) =
        e.toList.filter fun a => !decide (a.1 = path) := rfl
    rw [hstep, ih, herase, List.filter_filter]
    refine List.filter_congr fun a _ => ?_
    simp [Bool.and_comm]

/-- What is left are the entries that do not lie at or below the path. -/
theorem toList_eraseAll_removed (hroot : path ≠ Path.root) (hpath : e.contains path = true) :
    (e.eraseAll (e.removed path)).toList = e.toList.filter fun a => !Path.isWithin a.1 path := by
  rw [toList_eraseAll]
  refine List.filter_congr fun a ha => ?_
  have hcontains : e.contains a.1 = true :=
    OrderedMap.contains_iff.mpr ⟨a.2, OrderedMap.get?_eq_some_iff.mpr ha⟩
  simp [mem_removed_iff hroot hpath, hcontains]

end Entries

namespace Edit

variable {e : Entries} {path uri : String} {recursive : Bool}

theorem below_eq_nil_iff (hroot : path ≠ Path.root) :
    e.descendants path = [] ↔
      ∀ k, e.contains k = true → Path.isWithin k path = true → k = path := by
  simp only [List.eq_nil_iff_forall_not_mem, Entries.mem_descendants_iff hroot, not_and, ne_eq,
    Decidable.not_not]

theorem result_delete_eq_ok_iff :
    (delete recursive path uri e).result = .ok () ↔
      path ≠ Path.root ∧ e.contains path = true ∧
        (recursive = true ∨
          ∀ k, e.contains k = true → Path.isWithin k path = true → k = path) := by
  unfold delete
  split
  next hroot => exact iff_of_false (fun h => by cases h) fun h => h.1 hroot
  next hroot =>
    split
    next hmissing => exact iff_of_false (fun h => by cases h) fun h => by simp [h.2.1] at hmissing
    next hpath =>
      rw [← below_eq_nil_iff hroot]
      simp only
      split
      next hrefused =>
        refine iff_of_false (fun h => by cases h) fun h => ?_
        simp only [Bool.and_eq_true, decide_eq_true_eq, Bool.not_eq_true'] at hrefused
        rcases h.2.2 with hrecursive | hnil
        · simp [hrecursive] at hrefused
        · exact hrefused.1 hnil
      next hleave =>
        refine iff_of_true rfl ⟨hroot, by simpa using hpath, ?_⟩
        cases recursive with
        | true => exact .inl rfl
        | false => exact .inr (by simpa using hleave)

theorem delete_eq_done (h : (delete recursive path uri e).result = .ok ()) :
    delete recursive path uri e =
      done (e.eraseAll (e.removed path)) ((e.removed path).map fun k => (.deleted, k)) := by
  revert h
  fun_cases delete recursive path uri e with
  | case4 => exact fun _ => rfl
  | _ => exact fun h => by cases h

end Edit

namespace Watcher

variable {w : Watcher}

/-- What a watcher is told tells the paths apart. -/
theorem uriFor_inj {k k' : String} (hk : w.covers k = true) (hk' : w.covers k' = true)
    (h : w.uriFor k = w.uriFor k') : k = k' := by
  unfold uriFor at h
  simp only at h
  by_cases hroot : w.path = Path.root
  · rw [if_pos hroot, if_pos hroot] at h
    exact Path.append_right_inj h
  · rw [if_neg hroot, if_neg hroot] at h
    obtain ⟨tail, -, rfl⟩ := (Path.isWithin_iff hroot).mp hk
    obtain ⟨tail', -, rfl⟩ := (Path.isWithin_iff hroot).mp hk'
    have htail := Path.append_right_inj h
    rw [Path.below_append, Path.below_append] at htail
    rw [htail]

theorem nodup_told {paths : List String} (h : paths.Nodup) (w : Watcher) (kind : ChangeKind) :
    ((paths.filter w.covers).map fun k => (⟨kind, w.uriFor k⟩ : Change)).Nodup := by
  rw [List.Nodup, List.pairwise_map]
  refine (h.filter w.covers).imp_of_mem fun {a b} ha hb hne heq => hne ?_
  exact uriFor_inj (List.mem_filter.mp ha).2 (List.mem_filter.mp hb).2 (congrArg Change.uri heq)

theorem told_of_not_listening (h : w.listening = false) (changes : List (ChangeKind × String)) :
    w.told changes = w := by
  induction changes with
  | nil => rfl
  | cons c rest ih =>
    have htell : w.tell c.1 c.2 = w := by simp [tell, h]
    have htold : w.told (c :: rest) = (w.tell c.1 c.2).told rest := rfl
    rw [htold, htell, ih]

theorem told_map (kind : ChangeKind) (paths : List String) (w : Watcher) :
    w.told (paths.map fun k => (kind, k)) =
      if w.listening then
        { w with
          pending := w.pending ++ (paths.filter w.covers).map fun k => ⟨kind, w.uriFor k⟩ }
      else w := by
  by_cases hlistening : w.listening = true
  · rw [if_pos hlistening, told_eq hlistening, noted, List.filter_map, List.map_map]
    rfl
  · rw [if_neg hlistening]
    exact told_of_not_listening (by simpa using hlistening) _

end Watcher

namespace Tree

variable {t : Tree}

theorem delete_of_path {uri p : String} (hp : Path.ofUri uri = .ok p) (recursive : Bool)
    (t : Tree) :
    t.delete uri recursive = t.count.commit (Edit.delete recursive p uri t.entries) := by
  simp only [delete, edit, hp]
  rfl

/-- Deleting succeeds exactly if the URI addresses an entry, not the root, that either has nothing
below it or may go with all of that. Then those entries are left that do not lie at or below its
path. Each watcher that is listened to is told once of each entry that went, if that lies at or
below its own path, and of nothing else. Nothing is told of before what lies below it, so every
parent comes after its children, and the addressed entry comes last. -/
theorem delete_takes_subtree (h : t.Reachable) (uri : String) (recursive : Bool) :
    ((t.delete uri recursive).1 = .ok () ↔
      ∃ p, Path.ofUri uri = .ok p ∧ p ≠ Path.root ∧ t.entries.contains p = true ∧
        (recursive = true ∨
          ∀ k, t.entries.contains k = true → Path.isWithin k p = true → k = p)) ∧
    ∀ p, Path.ofUri uri = .ok p → (t.delete uri recursive).1 = .ok () →
      let t' := (t.delete uri recursive).2
      t'.entries.toList = t.entries.toList.filter (fun a => !Path.isWithin a.1 p) ∧
      ∃ below : List String,
        (∀ k, k ∈ below ++ [p] ↔ t.entries.contains k = true ∧ Path.isWithin k p = true) ∧
        (below ++ [p]).Nodup ∧
        (below ++ [p]).Pairwise (fun a b => Path.isWithin b a = false ∧ Path.parent b ≠ a) ∧
        let told (w : Watcher) : List Change :=
          ((below ++ [p]).filter w.covers).map fun k => ⟨.deleted, w.uriFor k⟩
        (∀ w, (told w).Nodup) ∧
        t' = { t with
          entries := t'.entries
          watchers := t.watchers.map fun w =>
            if w.listening then { w with pending := w.pending ++ told w } else w
          calls := t.calls + 1 } := by
  have hwf := h.wellFormed.entries
  constructor
  · cases hp : Path.ofUri uri with
    | error cause =>
      refine iff_of_false (fun hok => ?_) fun ⟨p, heq, _⟩ => by cases heq
      simp only [delete, edit, hp] at hok
      cases hok
    | ok p =>
      have hresult :
          (t.delete uri recursive).1 = (Edit.delete recursive p uri t.entries).result := by
        rw [delete_of_path hp]
        rfl
      rw [hresult, Edit.result_delete_eq_ok_iff]
      constructor
      · exact fun hok => ⟨p, rfl, hok⟩
      · rintro ⟨p', heq, hok⟩
        obtain rfl := Except.ok.inj heq
        exact hok
  · intro p hp hok
    rw [delete_of_path hp] at hok ⊢
    have hresult : (Edit.delete recursive p uri t.entries).result = .ok () := hok
    obtain ⟨hroot, hcontains, -⟩ := Edit.result_delete_eq_ok_iff.mp hresult
    have htree : (t.count.commit (Edit.delete recursive p uri t.entries)).2 =
        { t with
          entries := t.entries.eraseAll (t.entries.removed p)
          watchers := t.watchers.map
            (Watcher.told ((t.entries.removed p).map fun k => (.deleted, k)))
          calls := t.calls + 1 } := by
      rw [Edit.delete_eq_done hresult, commit, foldl_report]
      rfl
    have hwatchers := List.map_congr_left fun (w : Watcher) (_ : w ∈ t.watchers) =>
      w.told_map .deleted (t.entries.removed p)
    rw [htree]
    refine ⟨Entries.toList_eraseAll_removed hroot hcontains,
      (t.entries.descendants p).reverse, fun k => Entries.mem_removed_iff hroot hcontains,
      Entries.nodup_removed hwf hroot hcontains, Entries.pairwise_removed hwf hroot hcontains,
      fun w => Watcher.nodup_told (Entries.nodup_removed hwf hroot hcontains) w .deleted, ?_⟩
    rw [hwatchers]
    rfl

/-- Two directories with a file, a neighbour whose name sorts between them, and a watcher inside. -/
theorem delete_takes_subtree_nested :
    let t := run [.perform (.createDirectory "mem:/d"), .perform (.createDirectory "mem:/d/e"),
      .perform (.write "mem:/d/e/f" [1] true false), .perform (.write "mem:/d!" [] true false),
      .perform (.watch "mem:/"), .perform (.watch "mem:/d/e")] (empty 0)
    let r := t.delete "mem:/d" true
    t.Reachable ∧ r.1 = .ok () ∧ r.2.entries.toList = [("/d!", ⟨.file [], 0, 0⟩)] ∧
      r.2.watchers.map Watcher.pending =
        [[⟨.deleted, "mem:/d/e/f"⟩, ⟨.deleted, "mem:/d/e"⟩, ⟨.deleted, "mem:/d"⟩],
          [⟨.deleted, "mem:/d/e/f"⟩, ⟨.deleted, "mem:/d/e"⟩]] := by
  intro t r
  have h : t.Reachable := ⟨0, _, rfl⟩
  obtain ⟨hiff, hdone⟩ := delete_takes_subtree h "mem:/d" true
  have hok : r.1 = .ok () := hiff.mpr ⟨"/d", rfl, by decide, rfl, .inl rfl⟩
  obtain ⟨hentries, -⟩ := hdone "/d" rfl hok
  exact ⟨h, hok, hentries, rfl⟩

end Tree

end FileBridge
