import FileBridge.Proofs.Tree.Watchers

/-!
What a tree tells its watchers. Each operation reports a sequence of changes, which hangs on the
entries and not on who watches; a watcher that listens notes those of them that it covers, in order.
-/
namespace FileBridge

namespace Watcher

/-- The watcher after some changes. -/
def told (changes : List (ChangeKind × String)) (w : Watcher) : Watcher :=
  changes.foldl (fun w c => w.tell c.1 c.2) w

/-- What a watcher that listens notes of some changes. -/
def noted (changes : List (ChangeKind × String)) (w : Watcher) : List Change :=
  (changes.filter fun c => w.covers c.2).map fun c => ⟨c.1, w.uriFor c.2⟩

/-- The watcher has noted nothing that was not taken, and watches the path of its URI. -/
structure Quiet (w : Watcher) : Prop where
  pending : w.pending = []
  path : Path.ofUri w.uri = .ok w.path

variable {w : Watcher}

@[simp] theorem told_nil (w : Watcher) : w.told [] = w :=
  rfl

theorem told_eq (h : w.listening = true) (changes : List (ChangeKind × String)) :
    w.told changes = { w with pending := w.pending ++ w.noted changes } := by
  induction changes generalizing w with
  | nil => simp [noted]
  | cons c rest ih =>
    have htold : w.told (c :: rest) = (w.tell c.1 c.2).told rest := rfl
    rw [htold]
    by_cases hcovers : w.covers c.2 = true
    · -- The change is noted, which decides neither the path nor the URI.
      have htell : w.tell c.1 c.2 = { w with pending := w.pending ++ [⟨c.1, w.uriFor c.2⟩] } := by
        simp [tell, h, hcovers]
      have hrest : (w.tell c.1 c.2).noted rest = w.noted rest := by
        rw [htell]
        rfl
      have hnoted : w.noted (c :: rest) = ⟨c.1, w.uriFor c.2⟩ :: w.noted rest := by
        simp [noted, hcovers]
      rw [ih (by rw [htell]; exact h), hrest, htell, hnoted]
      simp
    · have htell : w.tell c.1 c.2 = w := by simp [tell, hcovers]
      have hnoted : w.noted (c :: rest) = w.noted rest := by simp [noted, hcovers]
      rw [htell, ih h, hnoted]

/-- What is told to a watcher only adds to what it has noted. -/
theorem exists_told (changes : List (ChangeKind × String)) (w : Watcher) :
    ∃ pending, w.told changes = { w with pending := pending } := by
  induction changes generalizing w with
  | nil => exact ⟨w.pending, rfl⟩
  | cons c rest ih =>
    obtain ⟨pending, heq⟩ := ih (w.tell c.1 c.2)
    refine ⟨pending, heq.trans ?_⟩
    unfold tell
    split <;> rfl

theorem told_id (changes : List (ChangeKind × String)) (w : Watcher) :
    (w.told changes).id = w.id := by
  obtain ⟨pending, heq⟩ := w.exists_told changes
  rw [heq]

theorem told_uri (changes : List (ChangeKind × String)) (w : Watcher) :
    (w.told changes).uri = w.uri := by
  obtain ⟨pending, heq⟩ := w.exists_told changes
  rw [heq]

theorem told_path (changes : List (ChangeKind × String)) (w : Watcher) :
    (w.told changes).path = w.path := by
  obtain ⟨pending, heq⟩ := w.exists_told changes
  rw [heq]

theorem told_listening (changes : List (ChangeKind × String)) (w : Watcher) :
    (w.told changes).listening = w.listening := by
  obtain ⟨pending, heq⟩ := w.exists_told changes
  rw [heq]

theorem Quiet.pending_told (h : w.Quiet) (hlistening : w.listening = true)
    (changes : List (ChangeKind × String)) : (w.told changes).pending = w.noted changes := by
  rw [told_eq hlistening, h.pending, List.nil_append]

end Watcher

namespace Tree

/-- The changes that an edit of the entry at a URI makes. -/
def changesAt (uri : String) (f : String → Entries → Edit) (t : Tree) :
    List (ChangeKind × String) :=
  match Path.ofUri uri with
  | .error _ => []
  | .ok path => (f path t.entries).changes

/-- The changes that an operation reports, in order. -/
def Operation.reports (t : Tree) : Operation → List (ChangeKind × String)
  | .write uri content mayCreate mayOverwrite =>
    t.changesAt uri fun path e => Edit.write t.now content mayCreate mayOverwrite path uri e
  | .createDirectory uri => t.changesAt uri fun path e => Edit.createDirectory t.now path uri e
  | .delete uri recursive => t.changesAt uri fun path e => Edit.delete recursive path uri e
  | .rename source target mayOverwrite =>
    t.changesAt source fun old e =>
      match Path.ofUri target with
      | .error cause => .refused e cause
      | .ok new => Edit.rename mayOverwrite old new source target e
  | .stat _ | .read _ | .list _ | .watch _ => []

/-- An action that neither opens, ends, asks nor silences a watcher. -/
def Action.sparesQueues : Action → Bool
  | .perform (.watch _) | .unwatch _ | .takeChanges _ | .mute _ => false
  | _ => true

/-- The changes that an action reports, in order. -/
def Action.reports (t : Tree) : Action → List (ChangeKind × String)
  | .perform o => o.reports t
  | .emit kind uri =>
    match Path.ofUri uri with
    | .error _ => []
    | .ok path => [(kind, path)]
  | _ => []

/-- All watchers have been told of some changes, and there are no others. -/
structure Told (changes : List (ChangeKind × String)) (t t' : Tree) : Prop where
  watchers : t'.watchers = t.watchers.map (Watcher.told changes)
  next : t'.nextWatcher = t.nextWatcher

variable {t t' : Tree} {changes : List (ChangeKind × String)}

theorem Told.sameNumbers (h : Told changes t t') : t.SameNumbers t' := by
  refine ⟨?_, h.next⟩
  rw [numbers, h.watchers, List.map_map]
  exact List.map_congr_left fun w _ => Watcher.told_id changes w

theorem Told.of_same (hwatchers : t'.watchers = t.watchers)
    (hnext : t'.nextWatcher = t.nextWatcher) : Told [] t t' := by
  refine ⟨?_, hnext⟩
  rw [hwatchers]
  exact (List.map_id _).symm

theorem Told.answer {α : Type} {r : Reply Tree α} (h : Told changes t r.2) (f : α → Answer) :
    Told changes t (answer f r).2 :=
  h

theorem told_commit (edit : Edit) : Told edit.changes t (t.count.commit edit).2 := by
  rw [commit, foldl_report]
  exact ⟨rfl, rfl⟩

theorem told_edit (uri : String) (f : String → Entries → Edit) :
    Told (t.changesAt uri f) t (t.edit uri f).2 := by
  unfold edit changesAt
  cases Path.ofUri uri with
  | error cause => exact .of_same rfl rfl
  | ok path => exact told_commit _

theorem told_look {α : Type} (uri : String) (f : String → Entries → Except HostError α) :
    Told [] t (t.look uri f).2 := by
  unfold look
  cases Path.ofUri uri with
  | error cause => exact .of_same rfl rfl
  | ok path => exact .of_same rfl rfl

theorem told_rename (source target : String) (mayOverwrite : Bool) :
    Told ((Operation.rename source target mayOverwrite).reports t) t
      (t.rename source target mayOverwrite).2 := by
  simp only [rename, Operation.reports, changesAt]
  cases Path.ofUri source with
  | error cause => exact .of_same rfl rfl
  | ok old =>
    cases Path.ofUri target with
    | error cause => exact .of_same rfl rfl
    | ok new => exact told_commit _

theorem told_perform {o : Operation} (h : (Action.perform o).sparesQueues = true) :
    Told (o.reports t) t (t.perform o).2 := by
  cases o with
  | stat uri => exact (told_look uri (metadataAt uri)).answer _
  | read uri => exact (told_look uri (contentAt uri)).answer _
  | list uri => exact (told_look uri (listingAt uri)).answer _
  | write uri content mayCreate mayOverwrite => exact (told_edit uri _).answer _
  | createDirectory uri => exact (told_edit uri _).answer _
  | delete uri recursive => exact (told_edit uri _).answer _
  | rename source target mayOverwrite =>
    exact (told_rename source target mayOverwrite).answer _
  | watch uri => cases h

/-- What happens to a tree tells each watcher of the changes it reports, and of nothing else. -/
theorem told_after {a : Action} (h : a.sparesQueues = true) : Told (a.reports t) t (t.after a) := by
  cases a with
  | perform o => exact told_perform h
  | emit kind uri =>
    simp only [after, emit, Action.reports]
    cases Path.ofUri uri with
    | error cause => exact .of_same rfl rfl
    | ok path => exact ⟨rfl, rfl⟩
  | setClock now => exact .of_same rfl rfl
  | unwatch watcher | takeChanges watcher | mute watcher => cases h

end Tree

end FileBridge
