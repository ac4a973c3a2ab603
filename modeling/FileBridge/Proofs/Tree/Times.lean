import FileBridge.Number.Width
import FileBridge.Proofs.Tree.Frame

/-!
The times of entries. Every time that an entry of a tree shows was once shown by the clock, so as
long as the clock keeps to times of 64 bits, the entries do too.
-/
namespace FileBridge

/-- An integer that fits in 64 bits with its sign. -/
def IsInt64 (n : Int) : Prop :=
  minInt64 ≤ n ∧ n ≤ maxInt64

instance : DecidablePred IsInt64 := fun _ =>
  inferInstanceAs (Decidable (_ ∧ _))

theorem isInt64_zero : IsInt64 0 := by decide

namespace Entries

/-- The times of all entries are among some. -/
def Dated (times : Int → Prop) (e : Entries) : Prop :=
  ∀ path entry, e.get? path = some entry → times entry.created ∧ times entry.modified

variable {times : Int → Prop} {e : Entries}

theorem Dated.insert (h : e.Dated times) {entry : Entry}
    (hentry : times entry.created ∧ times entry.modified) (path : String) :
    Entries.Dated times (e.insert path entry) := by
  intro k entry' hget
  rw [OrderedMap.get?_insert] at hget
  split at hget
  · obtain rfl := Option.some.inj hget
    exact hentry
  · exact h k entry' hget

theorem Dated.erase (h : e.Dated times) (path : String) : Entries.Dated times (e.erase path) := by
  intro k entry hget
  rw [OrderedMap.get?_erase] at hget
  split at hget
  · cases hget
  · exact h k entry hget

theorem Dated.eraseAll (h : e.Dated times) (paths : List String) :
    (e.eraseAll paths).Dated times := by
  intro k entry hget
  rw [get?_eraseAll] at hget
  split at hget
  · cases hget
  · exact h k entry hget

end Entries

namespace Edit

variable {times : Int → Prop} {e : Entries} {now : Int} {path uri : String}

theorem dated_create (h : e.Dated times) {entry : Entry}
    (hentry : times entry.created ∧ times entry.modified) :
    (create e path uri entry).entries.Dated times := by
  unfold create
  split
  · exact h
  · exact h.insert hentry path

theorem dated_write (h : e.Dated times) (hnow : times now) (content : List UInt8)
    (mayCreate mayOverwrite : Bool) :
    (write now content mayCreate mayOverwrite path uri e).entries.Dated times := by
  unfold write
  split
  · exact h
  · cases hget : e.get? path with
    | some entry =>
      dsimp only
      split
      · exact h
      · split
        · exact h
        · refine h.insert ?_ path
          exact ⟨(h path entry hget).1, hnow⟩
    | none =>
      dsimp only
      split
      · exact h
      · exact dated_create h ⟨hnow, hnow⟩

theorem dated_createDirectory (h : e.Dated times) (hnow : times now) :
    (createDirectory now path uri e).entries.Dated times := by
  unfold createDirectory
  split
  · exact h
  · exact dated_create h ⟨hnow, hnow⟩

theorem dated_delete (h : e.Dated times) (recursive : Bool) :
    (delete recursive path uri e).entries.Dated times := by
  unfold delete
  split
  · exact h
  · split
    · exact h
    · dsimp only
      split
      · exact h
      · exact h.eraseAll _

theorem dated_moveOne {source target : String} (h : e.Dated times) (path : String) :
    (moveOne source target e path).Dated times := by
  unfold moveOne
  cases hget : e.get? path with
  | some entry => exact (h.erase path).insert (h path entry hget) _
  | none => exact h

theorem dated_moveAll {source target : String} (h : e.Dated times) :
    (moveAll source target e).Dated times := by
  unfold moveAll
  induction source :: e.descendants source generalizing e with
  | nil => exact h
  | cons path rest ih => exact ih (dated_moveOne h path)

theorem dated_rename {source target sourceUri targetUri : String} (h : e.Dated times)
    (mayOverwrite : Bool) :
    (rename mayOverwrite source target sourceUri targetUri e).entries.Dated times := by
  have hcleared : Entries.Dated times
      (if e.contains target then e.eraseAll (e.descendants target ++ [target]) else e) := by
    split
    · exact h.eraseAll _
    · exact h
  unfold rename
  iterate 5
    split
    · exact h
  dsimp only
  split
  · exact hcleared
  · exact dated_moveAll hcleared

end Edit

namespace Tree

/-- The clock and the times of all entries are among some. -/
structure Dated (times : Int → Prop) (t : Tree) : Prop where
  now : times t.now
  entries : t.entries.Dated times

/-- What the clock is set to. -/
def Action.clock? : Action → Option Int
  | .setClock now => some now
  | _ => none

variable {times : Int → Prop} {t : Tree}

theorem Dated.of_same {t' : Tree} (h : t.Dated times) (hnow : t'.now = t.now)
    (hentries : t'.entries = t.entries) : t'.Dated times :=
  ⟨hnow ▸ h.now, hentries ▸ h.entries⟩

theorem Dated.look {α : Type} (h : t.Dated times) (uri : String)
    (f : String → Entries → Except HostError α) : (t.look uri f).2.Dated times := by
  unfold Tree.look
  split <;> exact h.of_same rfl rfl

theorem Dated.commit (h : t.Dated times) {edit : Edit} (hedit : edit.entries.Dated times) :
    (t.commit edit).2.Dated times := by
  constructor
  · simpa [Tree.commit, foldl_report] using h.now
  · rwa [entries_commit]

theorem Dated.edit (h : t.Dated times) (uri : String) {f : String → Entries → Edit}
    (hf : ∀ path, (f path t.entries).entries.Dated times) : (t.edit uri f).2.Dated times := by
  have hcount : t.count.Dated times := h.of_same rfl rfl
  unfold Tree.edit
  split
  · exact hcount
  · exact hcount.commit (hf _)

theorem Dated.perform (h : t.Dated times) (o : Operation) : (t.perform o).2.Dated times := by
  have hcount : t.count.Dated times := h.of_same rfl rfl
  cases o with
  | stat uri => exact h.look uri (metadataAt uri)
  | read uri => exact h.look uri (contentAt uri)
  | list uri => exact h.look uri (listingAt uri)
  | write uri content mayCreate mayOverwrite =>
    exact h.edit uri fun _ => Edit.dated_write h.entries h.now content mayCreate mayOverwrite
  | createDirectory uri => exact h.edit uri fun _ => Edit.dated_createDirectory h.entries h.now
  | delete uri recursive => exact h.edit uri fun _ => Edit.dated_delete h.entries recursive
  | rename source target mayOverwrite =>
    simp only [Tree.perform, answer, Tree.rename]
    split
    · exact hcount
    · exact hcount
    · exact hcount.commit (Edit.dated_rename h.entries mayOverwrite)
  | watch uri =>
    simp only [Tree.perform, answer, Tree.watch]
    split <;> exact h.of_same rfl rfl

theorem Dated.after (h : t.Dated times) {a : Action} (ha : ∀ now ∈ a.clock?, times now) :
    (t.after a).Dated times := by
  cases a with
  | perform o => exact h.perform o
  | unwatch watcher => exact h.of_same rfl rfl
  | takeChanges watcher => exact h.of_same rfl rfl
  | mute watcher => exact h.of_same rfl rfl
  | emit kind uri =>
    simp only [Tree.after, emit]
    split <;> exact h.of_same rfl rfl
  | setClock now => exact ⟨ha now rfl, h.entries⟩

/-- Whatever happens to a tree, its entries have times that the clock showed. -/
theorem Dated.run (h : t.Dated times) {actions : List Action}
    (hactions : ∀ now ∈ actions.filterMap Action.clock?, times now) :
    (Tree.run actions t).Dated times := by
  induction actions generalizing t with
  | nil => exact h
  | cons a rest ih =>
    have ha : ∀ now ∈ a.clock?, times now := fun now hnow =>
      hactions now (List.mem_filterMap.mpr ⟨a, List.mem_cons_self, hnow⟩)
    refine ih (h.after ha) fun now hnow => hactions now ?_
    obtain ⟨b, hb, hclock⟩ := List.mem_filterMap.mp hnow
    exact List.mem_filterMap.mpr ⟨b, List.mem_cons_of_mem a hb, hclock⟩

theorem dated_empty {now : Int} (hnow : times now) : (empty now).Dated times where
  now := hnow
  entries path entry hget := by cases hget

end Tree

end FileBridge
