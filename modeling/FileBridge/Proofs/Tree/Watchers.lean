import FileBridge.Proofs.Tree.Run

/-!
The numbers of the watchers of a tree. Opening a watcher adds the next number, ending one removes
its number, and nothing else concerns them.
-/
namespace FileBridge.Tree

/-- The numbers of the watchers. -/
def numbers (t : Tree) : List Nat :=
  t.watchers.map Watcher.id

/-- The watchers have the numbers that they had, and the next one gets the number that it would
have got. -/
structure SameNumbers (t t' : Tree) : Prop where
  numbers : t'.numbers = t.numbers
  next : t'.nextWatcher = t.nextWatcher

variable {t : Tree}

theorem SameNumbers.refl (t : Tree) : SameNumbers t t :=
  ⟨rfl, rfl⟩

theorem SameNumbers.trans {t' t'' : Tree} (h : SameNumbers t t') (h' : SameNumbers t' t'') :
    SameNumbers t t'' :=
  ⟨h'.numbers.trans h.numbers, h'.next.trans h.next⟩

theorem sameNumbers_map {f : Watcher → Watcher} (hf : ∀ w, (f w).id = w.id) :
    SameNumbers t { t with watchers := t.watchers.map f } := by
  refine ⟨?_, rfl⟩
  simp [numbers, hf]

theorem sameNumbers_commit (edit : Edit) : SameNumbers t (t.count.commit edit).2 := by
  rw [commit, foldl_report]
  exact ⟨by simp [numbers, foldl_tell_id, count], rfl⟩

theorem sameNumbers_look {α : Type} (uri : String) (f : String → Entries → Except HostError α) :
    SameNumbers t (t.look uri f).2 := by
  unfold look
  cases Path.ofUri uri with
  | error cause => exact ⟨rfl, rfl⟩
  | ok path => exact ⟨rfl, rfl⟩

theorem sameNumbers_edit (uri : String) (f : String → Entries → Edit) :
    SameNumbers t (t.edit uri f).2 := by
  unfold edit
  cases Path.ofUri uri with
  | error cause => exact ⟨rfl, rfl⟩
  | ok path => exact sameNumbers_commit _

theorem sameNumbers_write (uri : String) (content : List UInt8) (mayCreate mayOverwrite : Bool) :
    SameNumbers t (t.write uri content mayCreate mayOverwrite).2 :=
  sameNumbers_edit uri _

theorem sameNumbers_createDirectory (uri : String) : SameNumbers t (t.createDirectory uri).2 :=
  sameNumbers_edit uri _

theorem sameNumbers_delete (uri : String) (recursive : Bool) :
    SameNumbers t (t.delete uri recursive).2 :=
  sameNumbers_edit uri _

theorem sameNumbers_rename (source target : String) (mayOverwrite : Bool) :
    SameNumbers t (t.rename source target mayOverwrite).2 := by
  unfold rename
  cases Path.ofUri source with
  | error cause => exact ⟨rfl, rfl⟩
  | ok old =>
    cases Path.ofUri target with
    | error cause => exact ⟨rfl, rfl⟩
    | ok new => exact sameNumbers_commit _

theorem sameNumbers_takeChanges (watcher : Nat) : SameNumbers t (t.takeChanges watcher).2 := by
  apply sameNumbers_map
  intro w
  split <;> rfl

theorem sameNumbers_mute (watcher : Nat) : SameNumbers t (t.mute watcher) := by
  apply sameNumbers_map
  intro w
  split <;> rfl

/-- A watch that fails opens no watcher; one that succeeds opens the next. -/
theorem watch_cases (uri : String) (t : Tree) :
    (∃ cause, (t.watch uri).1 = .error cause ∧ SameNumbers t (t.watch uri).2) ∨
      (t.watch uri).1 = .ok t.nextWatcher ∧
        (t.watch uri).2.numbers = t.numbers ++ [t.nextWatcher] ∧
        (t.watch uri).2.nextWatcher = t.nextWatcher + 1 := by
  unfold watch
  cases Path.ofUri uri with
  | error cause => exact .inl ⟨cause, rfl, rfl, rfl⟩
  | ok path => exact .inr ⟨rfl, by simp [numbers, count], rfl⟩

theorem numbers_unwatch (watcher : Nat) :
    (t.unwatch watcher).numbers = t.numbers.filter fun n => n ≠ watcher := by
  simp [numbers, unwatch, List.filter_map, Function.comp_def]

/-- Watchers may end, and new ones get new numbers. -/
structure Onward (t t' : Tree) : Prop where
  next : t.nextWatcher ≤ t'.nextWatcher
  numbers : ∀ n ∈ t'.numbers, n ∈ t.numbers ∨ t.nextWatcher ≤ n

theorem SameNumbers.onward {t' : Tree} (h : SameNumbers t t') : Onward t t' :=
  ⟨Nat.le_of_eq h.next.symm, fun _ hn => .inl (h.numbers ▸ hn)⟩

theorem Onward.trans {t' t'' : Tree} (h : Onward t t') (h' : Onward t' t'') : Onward t t'' where
  next := Nat.le_trans h.next h'.next
  numbers n hn := (h'.numbers n hn).elim (h.numbers n) fun hnew => .inr (Nat.le_trans h.next hnew)

/-- A watcher that has ended does not come back. -/
theorem Onward.not_mem {t' : Tree} {n : Nat} (h : Onward t t') (hn : n < t.nextWatcher)
    (hgone : n ∉ t.numbers) : n ∉ t'.numbers :=
  fun hmem => (h.numbers n hmem).elim hgone (Nat.not_le_of_lt hn)

theorem onward_watch (uri : String) : Onward t (t.watch uri).2 := by
  rcases t.watch_cases uri with ⟨cause, -, hsame⟩ | ⟨-, hnumbers, hnext⟩
  · exact hsame.onward
  · refine ⟨hnext ▸ Nat.le_succ _, fun n hn => ?_⟩
    rw [hnumbers, List.mem_append, List.mem_singleton] at hn
    exact hn.imp_right fun heq => Nat.le_of_eq heq.symm

theorem onward_unwatch (watcher : Nat) : Onward t (t.unwatch watcher) := by
  refine ⟨Nat.le_refl _, fun n hn => ?_⟩
  rw [numbers_unwatch] at hn
  exact .inl (List.mem_filter.mp hn).1

/-- An action that neither opens nor ends a watcher. -/
def Action.sparesWatchers : Action → Bool
  | .perform (.watch _) => false
  | .unwatch _ => false
  | _ => true

theorem sameNumbers_after {a : Action} (h : a.sparesWatchers = true) :
    SameNumbers t (t.after a) := by
  cases a with
  | perform o =>
    cases o with
    | stat uri => exact sameNumbers_look uri (metadataAt uri)
    | read uri => exact sameNumbers_look uri (contentAt uri)
    | list uri => exact sameNumbers_look uri (listingAt uri)
    | write uri content mayCreate mayOverwrite =>
      exact sameNumbers_write uri content mayCreate mayOverwrite
    | createDirectory uri => exact sameNumbers_createDirectory uri
    | delete uri recursive => exact sameNumbers_delete uri recursive
    | rename source target mayOverwrite => exact sameNumbers_rename source target mayOverwrite
    | watch uri => cases h
  | unwatch watcher => cases h
  | takeChanges watcher => exact sameNumbers_takeChanges watcher
  | mute watcher => exact sameNumbers_mute watcher
  | emit kind uri =>
    simp only [after, emit]
    cases Path.ofUri uri with
    | error cause => exact .refl t
    | ok path => exact sameNumbers_map (Watcher.tell_id kind path)
  | setClock now => exact ⟨rfl, rfl⟩

end FileBridge.Tree
