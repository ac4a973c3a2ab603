import FileBridge.Tree.Basic
import FileBridge.Proofs.Tree.Move

/-!
Runs of a tree: any operations in any order, watchers that end, are asked or fall silent between
them, changes made by others, and a clock that may show anything. After every run the entries form
a tree, and an operation that fails on it has only been counted.
-/
namespace FileBridge

theorem Watcher.tell_id (kind : ChangeKind) (path : String) (w : Watcher) :
    (w.tell kind path).id = w.id := by
  unfold tell
  split <;> rfl

namespace Tree

/-- What an operation gives if it succeeds. -/
inductive Answer where
  | done
  | metadata (m : Metadata)
  | content (bytes : List UInt8)
  | listing (children : List (String × FileKind))
  | watcher (id : Nat)
deriving DecidableEq, Repr

/-- An operation that a tree can be asked for. -/
inductive Operation where
  | stat (uri : String)
  | read (uri : String)
  | write (uri : String) (content : List UInt8) (mayCreate mayOverwrite : Bool)
  | createDirectory (uri : String)
  | delete (uri : String) (recursive : Bool)
  | rename (source target : String) (mayOverwrite : Bool)
  | list (uri : String)
  | watch (uri : String)

/-- A reply with its value wrapped up as an answer. -/
def answer {α : Type} (f : α → Answer) (r : Reply Tree α) : Reply Tree Answer :=
  (r.1.map f, r.2)

/-- The outcome of an operation and the tree after it. -/
def perform (o : Operation) (t : Tree) : Reply Tree Answer :=
  match o with
  | .stat uri => answer .metadata (t.stat uri)
  | .read uri => answer .content (t.read uri)
  | .write uri content mayCreate mayOverwrite =>
    answer (fun _ => .done) (t.write uri content mayCreate mayOverwrite)
  | .createDirectory uri => answer (fun _ => .done) (t.createDirectory uri)
  | .delete uri recursive => answer (fun _ => .done) (t.delete uri recursive)
  | .rename source target mayOverwrite =>
    answer (fun _ => .done) (t.rename source target mayOverwrite)
  | .list uri => answer .listing (t.list uri)
  | .watch uri => answer .watcher (t.watch uri)

/-- What can happen to a tree. -/
inductive Action where
  | perform (o : Operation)
  | unwatch (watcher : Nat)
  | takeChanges (watcher : Nat)
  | mute (watcher : Nat)
  /-- Somebody else reports a change. -/
  | emit (kind : ChangeKind) (uri : String)
  /-- The clock shows another time. -/
  | setClock (now : Int)

/-- The tree after an action. -/
def after (t : Tree) (a : Action) : Tree :=
  match a with
  | .perform o => (t.perform o).2
  | .unwatch watcher => t.unwatch watcher
  | .takeChanges watcher => (t.takeChanges watcher).2
  | .mute watcher => t.mute watcher
  | .emit kind uri => (t.emit kind uri).2
  | .setClock now => { t with now := now }

/-- The tree after some actions. -/
def run (actions : List Action) (t : Tree) : Tree :=
  actions.foldl after t

/-- A tree that some run from the empty one ends in. -/
def Reachable (t : Tree) : Prop :=
  ∃ now actions, t = run actions (empty now)

/-- The entries form a tree, and no number of a watcher will be given again. -/
structure WellFormed (t : Tree) : Prop where
  entries : t.entries.WellFormed
  watchers : ∀ w ∈ t.watchers, w.id < t.nextWatcher

/-- Reporting changes tells each watcher of them in turn, and touches nothing else. -/
theorem foldl_report (changes : List (ChangeKind × String)) (t : Tree) :
    changes.foldl report t =
      { t with
        watchers := t.watchers.map fun w => changes.foldl (fun w c => w.tell c.1 c.2) w } := by
  induction changes generalizing t with
  | nil => simp
  | cons c rest ih =>
    rw [List.foldl_cons, ih]
    simp [report, Function.comp_def]

theorem foldl_tell_id (changes : List (ChangeKind × String)) (w : Watcher) :
    (changes.foldl (fun w c => w.tell c.1 c.2) w).id = w.id := by
  induction changes generalizing w with
  | nil => rfl
  | cons c rest ih => rw [List.foldl_cons, ih, Watcher.tell_id]

/-- Watchers may change as long as each keeps the number of one that was there. -/
theorem WellFormed.of_watchers {t t' : Tree} (h : t.WellFormed)
    (hentries : t'.entries.WellFormed) (hnext : t.nextWatcher ≤ t'.nextWatcher)
    (hwatchers : ∀ w' ∈ t'.watchers, ∃ w ∈ t.watchers, w'.id = w.id) : t'.WellFormed where
  entries := hentries
  watchers w' hw' := by
    obtain ⟨w, hw, hid⟩ := hwatchers w' hw'
    have := h.watchers w hw
    omega

theorem WellFormed.count {t : Tree} (h : t.WellFormed) : t.count.WellFormed :=
  ⟨h.entries, h.watchers⟩

/-- What an operation on a well-formed tree keeps to: the tree stays well formed, and a failure
leaves it as it was, but for the count. -/
structure Lawful {α : Type} (t : Tree) (r : Reply Tree α) : Prop where
  wellFormed : r.2.WellFormed
  eq_count : ∀ {cause : HostError}, r.1 = .error cause → r.2 = t.count

variable {t : Tree}

theorem Lawful.answer {α : Type} {r : Reply Tree α} (h : t.Lawful r) (f : α → Answer) :
    t.Lawful (answer f r) where
  wellFormed := h.wellFormed
  eq_count {cause} herror := by
    obtain ⟨result, t'⟩ := r
    cases result with
    | error _ => exact h.eq_count rfl
    | ok a => cases herror

theorem lawful_count {α : Type} (h : t.WellFormed) (result : Except HostError α) :
    t.Lawful (result, t.count) :=
  ⟨h.count, fun _ => rfl⟩

theorem lawful_look {α : Type} (h : t.WellFormed) (uri : String)
    (f : String → Entries → Except HostError α) : t.Lawful (t.look uri f) := by
  unfold look
  cases Path.ofUri uri with
  | error cause => exact lawful_count h _
  | ok path => exact lawful_count h _

theorem lawful_commit (h : t.WellFormed) {edit : Edit} (hedit : edit.Lawful t.entries) :
    t.Lawful (t.count.commit edit) where
  wellFormed := by
    refine h.of_watchers ?_ ?_ ?_
    · simpa [commit, foldl_report] using hedit.wellFormed
    · simp [commit, foldl_report, Tree.count]
    · intro w' hw'
      simp only [commit, foldl_report, Tree.count, List.mem_map] at hw'
      obtain ⟨w, hw, rfl⟩ := hw'
      exact ⟨w, hw, foldl_tell_id edit.changes w⟩
  eq_count herror := by
    rw [hedit.eq_refused herror]
    rfl

theorem lawful_edit (h : t.WellFormed) (uri : String) {f : String → Entries → Edit}
    (hf : ∀ path, path = Path.root ∨ Path.IsProper path → (f path t.entries).Lawful t.entries) :
    t.Lawful (t.edit uri f) := by
  unfold edit
  cases hpath : Path.ofUri uri with
  | error cause => exact lawful_count h _
  | ok path => exact lawful_commit h (hf path (Path.ofUri_proper hpath))

theorem lawful_rename (h : t.WellFormed) (source target : String) (mayOverwrite : Bool) :
    t.Lawful (t.rename source target mayOverwrite) := by
  unfold rename
  cases hold : Path.ofUri source with
  | error cause => exact lawful_count h _
  | ok old =>
    cases hnew : Path.ofUri target with
    | error cause => exact lawful_count h _
    | ok new =>
      exact lawful_commit h (Edit.lawful_rename h.entries mayOverwrite source target
        (Path.ofUri_proper hold) (Path.ofUri_proper hnew))

theorem lawful_watch (h : t.WellFormed) (uri : String) : t.Lawful (t.watch uri) := by
  unfold watch
  cases Path.ofUri uri with
  | error cause => exact lawful_count h _
  | ok path =>
    refine ⟨⟨h.entries, ?_⟩, fun herror => by cases herror⟩
    intro w hw
    simp only [Tree.count, List.mem_append, List.mem_singleton] at hw ⊢
    rcases hw with hw | rfl
    · exact Nat.lt_succ_of_lt (h.watchers w hw)
    · exact Nat.lt_succ_self _

theorem lawful_perform (h : t.WellFormed) (o : Operation) : t.Lawful (t.perform o) := by
  cases o with
  | stat uri => exact (lawful_look h uri _).answer _
  | read uri => exact (lawful_look h uri _).answer _
  | list uri => exact (lawful_look h uri _).answer _
  | write uri content mayCreate mayOverwrite =>
    exact (lawful_edit h uri fun _ hpath =>
      Edit.lawful_write h.entries t.now content mayCreate mayOverwrite uri hpath).answer _
  | createDirectory uri =>
    exact (lawful_edit h uri fun _ hpath =>
      Edit.lawful_createDirectory h.entries t.now uri hpath).answer _
  | delete uri recursive =>
    exact (lawful_edit h uri fun _ hpath =>
      Edit.lawful_delete h.entries recursive uri hpath).answer _
  | rename source target mayOverwrite => exact (lawful_rename h source target mayOverwrite).answer _
  | watch uri => exact (lawful_watch h uri).answer _

theorem WellFormed.report (h : t.WellFormed) (change : ChangeKind × String) :
    (t.report change).WellFormed := by
  refine h.of_watchers h.entries (Nat.le_refl _) ?_
  intro w' hw'
  obtain ⟨w, hw, rfl⟩ := List.mem_map.mp hw'
  exact ⟨w, hw, Watcher.tell_id _ _ w⟩

theorem WellFormed.after (h : t.WellFormed) (a : Action) : (t.after a).WellFormed := by
  cases a with
  | perform o => exact (lawful_perform h o).wellFormed
  | unwatch watcher =>
    exact h.of_watchers h.entries (Nat.le_refl _) fun w hw => ⟨w, (List.mem_filter.mp hw).1, rfl⟩
  | takeChanges watcher =>
    refine h.of_watchers h.entries (Nat.le_refl _) ?_
    intro w' hw'
    obtain ⟨w, hw, rfl⟩ := List.mem_map.mp hw'
    refine ⟨w, hw, ?_⟩
    split <;> rfl
  | mute watcher =>
    refine h.of_watchers h.entries (Nat.le_refl _) ?_
    intro w' hw'
    obtain ⟨w, hw, rfl⟩ := List.mem_map.mp hw'
    refine ⟨w, hw, ?_⟩
    split <;> rfl
  | emit kind uri =>
    simp only [Tree.after, emit]
    cases Path.ofUri uri with
    | error cause => exact h
    | ok path => exact h.report (kind, path)
  | setClock now => exact ⟨h.entries, h.watchers⟩

theorem wellFormed_run (actions : List Action) (h : t.WellFormed) : (run actions t).WellFormed := by
  induction actions generalizing t with
  | nil => exact h
  | cons a rest ih => exact ih (h.after a)

theorem wellFormed_empty (now : Int) : (empty now).WellFormed where
  entries := Entries.wellFormed_empty
  watchers w hw := by cases hw

theorem Reachable.wellFormed (h : t.Reachable) : t.WellFormed := by
  obtain ⟨now, actions, rfl⟩ := h
  exact wellFormed_run actions (wellFormed_empty now)

/-- After any run the entries form a tree. The root is none of them; their paths start with a slash
and do not end in one; each lies in the root or in a directory, so nothing lies below a file; and
the number that the next watcher gets is greater than all that are in use. -/
theorem run_forms_tree (now : Int) (actions : List Action) :
    let t := run actions (empty now)
    Path.root ∉ t.entries.keys ∧
    (∀ k ∈ t.entries.keys, k.toList.head? = some '/' ∧ k.toList.getLast? ≠ some '/') ∧
    (∀ k ∈ t.entries.keys, Path.parent k = Path.root ∨
      ∃ entry, t.entries.get? (Path.parent k) = some entry ∧ entry.isDirectory = true) ∧
    (∀ path content created modified,
      t.entries.get? path = some ⟨.file content, created, modified⟩ →
        ∀ k ∈ t.entries.keys, Path.isWithin k path = true → k = path) ∧
    ∀ w ∈ t.watchers, w.id < t.nextWatcher := by
  intro t
  have h : t.WellFormed := wellFormed_run actions (wellFormed_empty now)
  simp only [OrderedMap.mem_keys_iff]
  refine ⟨?_, fun k hk => h.entries.proper hk, fun k hk => ?_, ?_, h.watchers⟩
  · exact fun hroot => (h.entries.proper hroot).ne_root rfl
  · exact Entries.hasDirectory_iff.mp (h.entries.parent hk)
  · intro path content created modified hfile k hk hwithin
    by_cases hne : k = path
    · exact hne
    · have hpath := h.entries.proper (OrderedMap.contains_iff.mpr ⟨_, hfile⟩)
      have hdirectory := h.entries.hasDirectory_of_below hpath hk hwithin hne
      rcases Entries.hasDirectory_iff.mp hdirectory with hroot | ⟨entry, hget, hentry⟩
      · exact absurd hroot hpath.ne_root
      · rw [hfile] at hget
        obtain rfl := Option.some.inj hget
        cases hentry

/-- An operation that fails on a tree that a run ends in has only been counted: the entries, the
watchers with what they have been told, and the next number are as before. -/
theorem perform_error_eq_counted (h : t.Reachable) (o : Operation) {cause : HostError}
    (herror : (t.perform o).1 = .error cause) : (t.perform o).2 = { t with calls := t.calls + 1 } :=
  (lawful_perform h.wellFormed o).eq_count herror

/-- Moving `/a/f` over the file `/b` without leave fails, with a watcher on the whole tree. -/
theorem perform_error_eq_counted_rename :
    let t := run [.perform (.createDirectory "mem:/a"), .perform (.write "mem:/a/f" [1] true false),
      .perform (.write "mem:/b" [] true true), .perform (.watch "mem:/")] (empty 0)
    let r := t.perform (.rename "mem:/a/f" "mem:/b" false)
    t.Reachable ∧ r.1 = .error (.alreadyExists "mem:/b") ∧
      r.2 = { t with calls := t.calls + 1 } := by
  intro t r
  have h : t.Reachable := ⟨0, _, rfl⟩
  have herror : r.1 = .error (.alreadyExists "mem:/b") := rfl
  exact ⟨h, herror, perform_error_eq_counted h _ herror⟩

end Tree

end FileBridge
