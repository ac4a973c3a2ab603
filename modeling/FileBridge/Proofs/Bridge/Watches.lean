import Mathlib.Data.List.Nodup
import Mathlib.Data.List.Pairwise
import FileBridge.Bridge.Basic
import FileBridge.Proofs.Bridge.Session

/-!
The watches of all sessions on a tree. Sessions open and end, requests and operations come in any
order, and the tree changes by itself. Main statement: at any time the watches of all sessions and
the watchers of the tree correspond to one another; the end of a session ends its watchers, and a
session that has been disposed of neither has a watch nor gets one.
-/
namespace FileBridge.Bridge

open Rpc

/-- The numbers of the watchers behind the watches of some sessions. -/
def numbersOf (sessions : List Session) : List Nat :=
  sessions.flatMap fun s => s.registry.numbers

/-- The watchers of a tree are the ones behind the watches of some sessions and some others, each
once, and a session that is disposed of has no watches. -/
structure Shared (others : List Nat) (sessions : List Session) (t : Tree) : Prop where
  perm : (numbersOf sessions ++ others).Perm t.numbers
  nodup : t.numbers.Nodup
  fresh : ∀ n ∈ t.numbers, n < t.nextWatcher
  closed : ∀ s ∈ sessions, s.disposed = true → s.registry = .empty

variable {others : List Nat} {sessions : List Session} {t : Tree}

theorem shared_cons_iff {s : Session} :
    Shared others (s :: sessions) t ↔
      Tied (numbersOf sessions ++ others) s.disposed s.registry t ∧
        ∀ s ∈ sessions, s.disposed = true → s.registry = .empty := by
  have hnumbers : numbersOf (s :: sessions) ++ others =
      s.registry.numbers ++ (numbersOf sessions ++ others) := by
    rw [numbersOf, List.flatMap_cons, List.append_assoc, numbersOf]
  constructor
  · intro h
    obtain ⟨hs, hrest⟩ := List.forall_mem_cons.mp h.closed
    exact ⟨⟨hnumbers ▸ h.perm, h.nodup, h.fresh, hs⟩, hrest⟩
  · rintro ⟨h, hrest⟩
    exact ⟨hnumbers ▸ h.perm, h.nodup, h.fresh,
      List.forall_mem_cons.mpr ⟨h.empty_of_closed, hrest⟩⟩

/-- What is left of the sessions counts the first one among the others. -/
theorem Shared.tail {s : Session} (h : Shared others (s :: sessions) t) :
    Shared (s.registry.numbers ++ others) sessions t where
  perm := by
    obtain ⟨htied, -⟩ := shared_cons_iff.mp h
    exact (List.perm_append_comm_assoc _ _ _).trans htied.perm
  nodup := h.nodup
  fresh := h.fresh
  closed := (List.forall_mem_cons.mp h.closed).2

theorem Shared.cons {s : Session} (h : Shared (s.registry.numbers ++ others) sessions t)
    (hs : s.disposed = true → s.registry = .empty) : Shared others (s :: sessions) t := by
  refine shared_cons_iff.mpr ⟨⟨?_, h.nodup, h.fresh, hs⟩, h.closed⟩
  exact (List.perm_append_comm_assoc _ _ _).trans h.perm

theorem Shared.of_sameNumbers {t' : Tree} (h : Shared others sessions t)
    (hsame : t.SameNumbers t') : Shared others sessions t' where
  perm := hsame.numbers ▸ h.perm
  nodup := hsame.numbers ▸ h.nodup
  fresh := by
    rw [hsame.numbers, hsame.next]
    exact h.fresh
  closed := h.closed

variable {f : Session → Tree → Session × Tree}

theorem Shared.eachOf (hf : Session.Sound f) (h : Shared others sessions t) :
    Shared others (eachOf f sessions t).1 (eachOf f sessions t).2 := by
  induction sessions generalizing others t with
  | nil => exact h
  | cons s rest ih =>
    obtain ⟨htied, hrest⟩ := shared_cons_iff.mp h
    have hfirst := hf.tied htied
    exact (ih (shared_cons_iff.mpr ⟨hfirst, hrest⟩).tail).cons hfirst.empty_of_closed

/-- Each session keeps its number, and its disposal is not undone. -/
def Follows (s s' : Session) : Prop :=
  s'.id = s.id ∧ (s.disposed = true → s'.disposed = true)

theorem Follows.refl (s : Session) : Follows s s :=
  ⟨rfl, id⟩

theorem Follows.trans {s s' s'' : Session} (h : Follows s s') (h' : Follows s' s'') :
    Follows s s'' :=
  ⟨h'.1.trans h.1, h'.2 ∘ h.2⟩

theorem exists_follows_eachOf (hf : Session.Sound f) {s : Session} (hs : s ∈ sessions) (t : Tree) :
    ∃ s' ∈ (eachOf f sessions t).1, Follows s s' := by
  induction sessions generalizing t with
  | nil => cases hs
  | cons first rest ih =>
    rcases List.mem_cons.mp hs with rfl | hs
    · exact ⟨_, List.mem_cons_self, hf.id s t, hf.disposed s t⟩
    · obtain ⟨s', hs', hfollows⟩ := ih hs (f first t).2
      exact ⟨s', List.mem_cons_of_mem _ hs', hfollows⟩

theorem onward_eachOf (hf : Session.Sound f) (sessions : List Session) (t : Tree) :
    t.Onward (eachOf f sessions t).2 := by
  induction sessions generalizing t with
  | nil => exact (Tree.SameNumbers.refl t).onward
  | cons s rest ih => exact (hf.onward s t).trans (ih _)

/-- If something ends one of the sessions, the watchers of that session end. -/
theorem exists_ended_eachOf (hf : Session.Sound f) {s : Session} (hs : s ∈ sessions)
    (hends : ∀ t, (f s t).1.disposed = true) (h : Shared others sessions t) :
    (∃ s' ∈ (eachOf f sessions t).1, s'.id = s.id ∧ s'.disposed = true) ∧
      ∀ n ∈ s.registry.numbers, n ∉ (eachOf f sessions t).2.numbers := by
  induction sessions generalizing others t with
  | nil => cases hs
  | cons first rest ih =>
    obtain ⟨htied, hrest⟩ := shared_cons_iff.mp h
    rcases List.mem_cons.mp hs with rfl | hs
    · refine ⟨⟨_, List.mem_cons_self, hf.id s t, hends t⟩, fun n hn => ?_⟩
      have hlt : n < t.nextWatcher :=
        htied.fresh n (htied.perm.mem_iff.mp (List.mem_append_left _ hn))
      exact (onward_eachOf hf rest (f s t).2).not_mem
        (Nat.lt_of_lt_of_le hlt (hf.onward s t).next) (hf.released htied (hends t) hn)
    · obtain ⟨⟨s', hs', hended⟩, hgone⟩ :=
        ih hs (shared_cons_iff.mpr ⟨hf.tied htied, hrest⟩).tail
      exact ⟨⟨s', List.mem_cons_of_mem _ hs', hended⟩, hgone⟩

theorem map_id_eachOf (hf : Session.Sound f) (sessions : List Session) (t : Tree) :
    (eachOf f sessions t).1.map Session.id = sessions.map Session.id := by
  induction sessions generalizing t with
  | nil => rfl
  | cons s rest ih =>
    show (f s t).1.id :: _ = _
    rw [hf.id, ih, List.map_cons]

theorem length_eachOf (f : Session → Tree → Session × Tree) (sessions : List Session) (t : Tree) :
    (eachOf f sessions t).1.length = sessions.length := by
  induction sessions generalizing t with
  | nil => rfl
  | cons s rest ih => exact congrArg (· + 1) (ih _)

/-- The sessions of a bridge are numbered from one on, and their watches correspond to the watchers
of its tree. -/
structure Balanced (b : Bridge Tree) : Prop where
  methods : b.methods = .bridge
  ids : b.sessions.map Session.id = List.range' 1 b.sessions.length
  shared : Shared [] b.sessions b.host

/-- The bridge is balanced afterwards, every session goes on, and no watcher comes back. -/
structure Step (b b' : Bridge Tree) : Prop where
  balanced : b'.Balanced
  follows : ∀ s ∈ b.sessions, ∃ s' ∈ b'.sessions, Follows s s'
  onward : b.host.Onward b'.host

theorem Step.trans {b b' b'' : Bridge Tree} (h : Step b b') (h' : Step b' b'') : Step b b'' where
  balanced := h'.balanced
  follows s hs := by
    obtain ⟨s', hs', hfollows⟩ := h.follows s hs
    obtain ⟨s'', hs'', hfollows'⟩ := h'.follows s' hs'
    exact ⟨s'', hs'', hfollows.trans hfollows'⟩
  onward := h.onward.trans h'.onward

/-- A session has been disposed of, and its watchers have ended. -/
structure Ended (s : Session) (b : Bridge Tree) : Prop where
  disposed : ∃ s' ∈ b.sessions, s'.id = s.id ∧ s'.disposed = true
  released : ∀ n ∈ s.registry.numbers, n < b.host.nextWatcher ∧ n ∉ b.host.numbers

theorem Ended.step {s : Session} {b b' : Bridge Tree} (h : Ended s b) (hstep : Step b b') :
    Ended s b' where
  disposed := by
    obtain ⟨s', hs', hid, hdisposed⟩ := h.disposed
    obtain ⟨s'', hs'', hid', hkeeps⟩ := hstep.follows s' hs'
    exact ⟨s'', hs'', hid'.trans hid, hkeeps hdisposed⟩
  released n hn := by
    obtain ⟨hlt, hgone⟩ := h.released n hn
    exact ⟨Nat.lt_of_lt_of_le hlt hstep.onward.next, hstep.onward.not_mem hlt hgone⟩

namespace Balanced

variable {b : Bridge Tree}

theorem refl (h : b.Balanced) : Step b b :=
  ⟨h, fun s hs => ⟨s, hs, .refl s⟩, (Tree.SameNumbers.refl b.host).onward⟩

theorem each (h : b.Balanced) (hf : Session.Sound f) : Step b (b.each f) where
  balanced := by
    refine ⟨h.methods, ?_, h.shared.eachOf hf⟩
    show (Bridge.eachOf f b.sessions b.host).1.map Session.id =
      List.range' 1 (Bridge.eachOf f b.sessions b.host).1.length
    rw [map_id_eachOf hf, length_eachOf, h.ids]
  follows s hs := exists_follows_eachOf hf hs b.host
  onward := onward_eachOf hf b.sessions b.host

/-- What ends a session also ends its watchers. -/
theorem ended_each (h : b.Balanced) (hf : Session.Sound f) {s : Session} (hs : s ∈ b.sessions)
    (hends : ∀ t, (f s t).1.disposed = true) : Ended s (b.each f) := by
  obtain ⟨hdisposed, hgone⟩ := exists_ended_eachOf hf hs hends h.shared
  refine ⟨hdisposed, fun n hn => ⟨?_, hgone n hn⟩⟩
  have hmem : n ∈ b.host.numbers :=
    h.shared.perm.mem_iff.mp (List.mem_append_left _ (List.mem_flatMap.mpr ⟨s, hs, hn⟩))
  exact Nat.lt_of_lt_of_le (h.shared.fresh n hmem) (onward_eachOf hf b.sessions b.host).next

theorem ended_onSession (h : b.Balanced) (hf : Session.Sound f) {s : Session} (hs : s ∈ b.sessions)
    (hends : ∀ t, (f s t).1.disposed = true) : Ended s (b.onSession s.id f) :=
  h.ended_each (hf.ite .refl fun s' => s'.id = s.id) hs fun t => by rw [if_pos rfl]; exact hends t

theorem onSession (h : b.Balanced) (hf : Session.Sound f) (id : Nat) : Step b (b.onSession id f) :=
  h.each (hf.ite .refl fun s => s.id = id)

theorem settle (h : b.Balanced) : Step b b.settle := by
  have hwork : Session.Sound (Session.work b.methods b.policy) := by
    rw [h.methods]
    exact Session.sound_work b.policy
  have hread := h.each (Session.sound_read b.limit)
  have hworked := hread.balanced.each hwork
  exact (hread.trans hworked).trans (hworked.balanced.each Session.sound_relay)

theorem openSession (h : b.Balanced) : Step b b.openSession.2 where
  balanced := by
    refine ⟨h.methods, ?_, ?_⟩
    · show (b.sessions ++ [_]).map Session.id = List.range' 1 (b.sessions ++ [_]).length
      rw [List.map_append, h.ids, List.length_append, List.length_singleton,
        List.range'_concat]
      simp [Session.start, Nat.add_comm]
    · have hnew : numbersOf (b.sessions ++ [.start (b.sessions.length + 1)]) =
          numbersOf b.sessions := by
        simp [numbersOf, Session.start]
      refine ⟨?_, h.shared.nodup, h.shared.fresh, ?_⟩
      · show (numbersOf (b.sessions ++ [_]) ++ []).Perm _
        rw [hnew]
        exact h.shared.perm
      · intro s hs
        rcases List.mem_append.mp hs with hs | hs
        · exact h.shared.closed s hs
        · rw [List.mem_singleton.mp hs]
          exact fun _ => rfl
  follows s hs := ⟨s, List.mem_append_left _ hs, .refl s⟩
  onward := h.refl.onward

theorem onHost (h : b.Balanced) {t : Tree} (hsame : b.host.SameNumbers t) :
    Step b { b with host := t }.settle := by
  have hafter : Balanced { b with host := t } :=
    ⟨h.methods, h.ids, h.shared.of_sameNumbers hsame⟩
  exact Step.trans ⟨hafter, h.refl.follows, hsame.onward⟩ hafter.settle

/-- The session with a number stands between others with other numbers. -/
theorem exists_split (h : b.Balanced) {s : Session} (hs : s ∈ b.sessions) :
    ∃ before after, b.sessions = before ++ s :: after ∧ (∀ s' ∈ before, s'.id ≠ s.id) ∧
      ∀ s' ∈ after, s'.id ≠ s.id := by
  have hnodup : (b.sessions.map Session.id).Nodup := by
    rw [h.ids]
    exact List.nodup_range'
  obtain ⟨before, after, heq⟩ := List.append_of_mem hs
  rw [heq, List.map_append, List.map_cons, List.nodup_append] at hnodup
  obtain ⟨-, hafter, hbefore⟩ := hnodup
  refine ⟨before, after, heq, fun s' hs' => ?_, fun s' hs' hid => ?_⟩
  · exact hbefore _ (List.mem_map_of_mem hs') _ List.mem_cons_self
  · exact (List.nodup_cons.mp hafter).1 (hid ▸ List.mem_map_of_mem hs')

theorem session?_of_mem (h : b.Balanced) {s : Session} (hs : s ∈ b.sessions) :
    b.session? s.id = some s := by
  obtain ⟨before, after, heq, hbefore, -⟩ := h.exists_split hs
  rw [session?, heq, List.find?_append, List.find?_eq_none.mpr, Option.none_or]
  · simp
  · simpa using hbefore

end Balanced

section Operate

variable {id : Nat}

theorem eachOf_append (f : Session → Tree → Session × Tree) (l l' : List Session) (t : Tree) :
    eachOf f (l ++ l') t =
      ((eachOf f l t).1 ++ (eachOf f l' (eachOf f l t).2).1,
        (eachOf f l' (eachOf f l t).2).2) := by
  induction l generalizing t with
  | nil => rfl
  | cons s rest ih => simp only [List.cons_append, eachOf, ih]

theorem eachOf_of_ne (f : Session → Tree → Session × Tree) (h : ∀ s ∈ sessions, s.id ≠ id)
    (t : Tree) :
    eachOf (fun s t => if s.id = id then f s t else (s, t)) sessions t = (sessions, t) := by
  induction sessions with
  | nil => rfl
  | cons s rest ih =>
    obtain ⟨hs, hrest⟩ := List.forall_mem_cons.mp h
    simp only [eachOf, if_neg hs, ih hrest]

theorem onSession_of_split {b : Bridge Tree} {s : Session} {before after : List Session}
    (heq : b.sessions = before ++ s :: after) (hbefore : ∀ s' ∈ before, s'.id ≠ s.id)
    (hafter : ∀ s' ∈ after, s'.id ≠ s.id) (f : Session → Tree → Session × Tree) :
    b.onSession s.id f =
      { b with sessions := before ++ (f s b.host).1 :: after, host := (f s b.host).2 } := by
  rw [onSession, each, heq, eachOf_append, eachOf_of_ne f hbefore]
  simp only [eachOf, if_true, eachOf_of_ne f hafter]

/-- An operation on behalf of a session is done to that session and the tree. -/
theorem operate_eq {b : Bridge Tree} (h : b.Balanced) {s : Session} (hs : s ∈ b.sessions)
    (call : Call) :
    (b.operate s.id call.run).2 = (b.onSession s.id fun s t =>
      ({ s with registry := (call.run (s.context b.policy t)).2.registry },
        (call.run (s.context b.policy t)).2.host)).settle := by
  obtain ⟨before, after, heq, hbefore, hafter⟩ := h.exists_split hs
  simp only [operate, h.session?_of_mem hs, onSession_of_split heq hbefore hafter]

theorem Balanced.operate {b : Bridge Tree} (h : b.Balanced) (id : Nat) (call : Call) :
    Step b (b.operate id call.run).2 := by
  cases hsession : b.session? id with
  | none =>
    rw [Bridge.operate, hsession]
    exact h.refl
  | some s =>
    obtain ⟨hid, hs⟩ : s.id = id ∧ s ∈ b.sessions :=
      ⟨by simpa using List.find?_some hsession, List.mem_of_find?_eq_some hsession⟩
    rw [← hid, operate_eq h hs]
    have hstep := h.onSession (Session.sound_call b.policy call) s.id
    exact hstep.trans hstep.balanced.settle

end Operate

/-- What can happen to a bridge over a tree. Watchers are opened and ended by sessions only. -/
inductive Action where
  | openSession
  | receive (id : Nat) (bytes : List UInt8) (ended : Bool)
  | dispose (id : Nat)
  | disposeAll
  | send (id : Nat) (m : Message)
  | operate (id : Nat) (call : Call)
  /-- Something else happens to the tree. -/
  | onHost (a : Tree.Action) (h : a.sparesWatchers = true)
  | takeWritten (id : Nat)
  | setGuard (g : Guard)
  /-- One session goes on while all else waits. -/
  | move (id : Nat) (m : Session.Move)

/-- The bridge after an action. -/
def after (b : Bridge Tree) : Action → Bridge Tree
  | .openSession => b.openSession.2
  | .receive id bytes ended => b.receive id bytes ended
  | .dispose id => b.dispose id
  | .disposeAll => b.disposeAll
  | .send id m => (b.send id m).2
  | .operate id call => (b.operate id call.run).2
  | .onHost a _ => (b.onHost fun t => ((), t.after a)).2
  | .takeWritten id => (b.takeWritten id).2
  | .setGuard g => b.setGuard g
  | .move id m => b.onSession id (Session.move b.methods b.policy b.limit m)

/-- The bridge after some actions. -/
def run (actions : List Action) (b : Bridge Tree) : Bridge Tree :=
  actions.foldl after b

/-- An action ends a session: it is ended from this side, or its peer has finished or breaks the
framing. -/
def Action.Ends (limit : Nat) (s : Session) : Action → Prop
  | .dispose id => s.id = id
  | .disposeAll => True
  | .receive id bytes ended => s.id = id ∧ (s.feed bytes ended).ReadsEnd limit
  | .move id m => s.id = id ∧ m.Ends limit s
  | _ => False

theorem sound_end : Session.Sound fun s (t : Tree) => if s.disposed then (s, t) else s.stop t :=
  Session.Sound.ite .refl Session.sound_stop fun s => s.disposed = true

theorem Balanced.after {b : Bridge Tree} (h : b.Balanced) (a : Action) : Step b (b.after a) := by
  have hsettle {b' : Bridge Tree} (hstep : Step b b') : Step b b'.settle :=
    hstep.trans hstep.balanced.settle
  cases a with
  | openSession => exact h.openSession
  | receive id bytes ended => exact hsettle (h.onSession (Session.sound_feed bytes ended) id)
  | dispose id => exact hsettle (h.onSession sound_end id)
  | disposeAll => exact hsettle (h.each sound_end)
  | send id m =>
    exact hsettle (h.onSession (.of_session fun s => (s.sameState_send m).sameWatches) id)
  | operate id call => exact h.operate id call
  | onHost a hspares => exact h.onHost (Tree.sameNumbers_after hspares)
  | takeWritten id =>
    have hwritten : Session.Sound fun s t => ({ s with written := [] }, t) :=
      .of_session fun _ => ⟨rfl, rfl, rfl⟩
    exact h.onSession hwritten id
  | setGuard g => exact ⟨⟨h.methods, h.ids, h.shared⟩, h.refl.follows, h.refl.onward⟩
  | move id m =>
    refine h.onSession ?_ id
    rw [h.methods]
    exact Session.sound_move b.policy b.limit m

theorem Balanced.run {b : Bridge Tree} (h : b.Balanced) (actions : List Action) :
    Step b (Bridge.run actions b) := by
  induction actions generalizing b with
  | nil => exact h.refl
  | cons a rest ih =>
    have hstep := h.after a
    exact hstep.trans (ih hstep.balanced)

/-- The session of before, fed with what has arrived, reads its end when the bridge settles. -/
theorem Balanced.ended_receive {b : Bridge Tree} (h : b.Balanced) {s : Session}
    (hs : s ∈ b.sessions) {bytes : List UInt8} {ended : Bool}
    (hends : (s.feed bytes ended).ReadsEnd b.limit) : Ended s (b.receive s.id bytes ended) := by
  have hfed := (h.onSession (Session.sound_feed bytes ended) s.id).balanced
  have hmem : s.feed bytes ended ∈
      (b.onSession s.id fun s t => (s.feed bytes ended, t)).sessions := by
    obtain ⟨before, after, heq, hbefore, hafter⟩ := h.exists_split hs
    rw [onSession_of_split heq hbefore hafter]
    exact List.mem_append_right _ List.mem_cons_self
  have hread := hfed.ended_each (Session.sound_read b.limit) hmem hends.disposed
  have hread : Ended s ((b.onSession s.id fun s t => (s.feed bytes ended, t)).each
      (Session.read b.limit)) := ⟨hread.disposed, hread.released⟩
  have hstep := hfed.each (Session.sound_read b.limit)
  have hwork : Session.Sound (Session.work b.methods b.policy) := by
    rw [h.methods]
    exact Session.sound_work b.policy
  have hworked := hstep.balanced.each hwork
  exact (hread.step hworked).step (hworked.balanced.each Session.sound_relay)

/-- An action that ends a session disposes of it and ends its watchers. -/
theorem Balanced.ended_after {b : Bridge Tree} (h : b.Balanced) {s : Session} (hs : s ∈ b.sessions)
    {a : Action} (ha : a.Ends b.limit s) : Ended s (b.after a) := by
  have hstop (t : Tree) : (if s.disposed then (s, t) else s.stop t).1.disposed = true := by
    split
    next hdisposed => exact hdisposed
    · exact (s.stop_ended t).2
  cases a with
  | dispose id =>
    obtain rfl : s.id = id := ha
    exact (h.ended_onSession sound_end hs hstop).step (h.onSession sound_end s.id).balanced.settle
  | disposeAll => exact (h.ended_each sound_end hs hstop).step (h.each sound_end).balanced.settle
  | receive id bytes ended =>
    obtain ⟨rfl, hends⟩ := ha
    exact h.ended_receive hs hends
  | move id m =>
    obtain ⟨rfl, hends⟩ := ha
    simp only [Bridge.after, h.methods]
    exact h.ended_onSession (Session.sound_move b.policy b.limit m) hs fun t => hends.disposed t
  | _ => cases ha

theorem balanced_start (policy : Policy) (limit : Nat) (now : Int) :
    (start policy limit (Tree.empty now)).Balanced where
  methods := rfl
  ids := rfl
  shared := ⟨.refl _, .nil, fun _ hn => (by cases hn), fun _ hs => (by cases hs)⟩

theorem length_numbersOf (b : Bridge Tree) : (numbersOf b.sessions).length = b.watchCount := by
  simp [numbersOf, watchCount, List.length_flatMap, Registry.length_numbers, List.sum]

namespace Balanced

variable {b : Bridge Tree}

theorem watchers_length (h : b.Balanced) : b.host.watchers.length = b.watchCount := by
  have hlength := h.shared.perm.length_eq
  rw [List.append_nil, length_numbersOf] at hlength
  rw [hlength, Tree.numbers, List.length_map]

theorem nodup_numbersOf (h : b.Balanced) : (numbersOf b.sessions).Nodup := by
  have hperm := h.shared.perm
  rw [List.append_nil] at hperm
  exact hperm.nodup_iff.mpr h.shared.nodup

variable {s s' : Session} {uri uri' : String} {subscription subscription' : Subscription}

theorem mem_numbers (hget : s.registry.table.get? uri = some subscription) :
    subscription.watcher ∈ s.registry.numbers :=
  List.mem_map_of_mem (List.mem_map_of_mem (OrderedMap.get?_eq_some_iff.mp hget))

/-- There is one watcher behind a watch. -/
theorem one_watcher (h : b.Balanced) (hs : s ∈ b.sessions)
    (hget : s.registry.table.get? uri = some subscription) :
    (b.host.watchers.filter fun w => w.id = subscription.watcher).length = 1 := by
  have hmem : subscription.watcher ∈ b.host.numbers := by
    refine h.shared.perm.mem_iff.mp (List.mem_append_left _ ?_)
    exact List.mem_flatMap.mpr ⟨s, hs, mem_numbers hget⟩
  have hcount := List.count_eq_one_of_mem h.shared.nodup hmem
  rw [Tree.numbers, List.count, List.countP_map, List.countP_eq_length_filter] at hcount
  exact hcount

/-- No two sessions have the same watcher. -/
theorem session_injective (h : b.Balanced) (hs : s ∈ b.sessions) (hs' : s' ∈ b.sessions) {n : Nat}
    (hn : n ∈ s.registry.numbers) (hn' : n ∈ s'.registry.numbers) : s' = s := by
  by_contra hne
  have hdisjoint := (List.nodup_flatMap.mp h.nodup_numbersOf).2
  have hsymm : Std.Symm (fun a b : Session =>
      List.Disjoint a.registry.numbers b.registry.numbers) :=
    ⟨fun _ _ h _ hb ha => h ha hb⟩
  exact List.Pairwise.forall hdisjoint hs' hs hne hn' hn

/-- No two watches have the same watcher behind them. -/
theorem watcher_injective (h : b.Balanced) (hs : s ∈ b.sessions) (hs' : s' ∈ b.sessions)
    (hget : s.registry.table.get? uri = some subscription)
    (hget' : s'.registry.table.get? uri' = some subscription')
    (heq : subscription'.watcher = subscription.watcher) : s' = s ∧ uri' = uri := by
  have hnodup := (List.nodup_flatMap.mp h.nodup_numbersOf).1
  obtain rfl : s' = s :=
    h.session_injective hs hs' (heq ▸ mem_numbers hget) (mem_numbers hget')
  refine ⟨rfl, ?_⟩
  have hpair := List.inj_on_of_nodup_map (f := fun a : String × Subscription => a.2.watcher)
    (by simpa [Registry.numbers, Registry.subscriptions, Function.comp_def] using hnodup s' hs')
    (OrderedMap.get?_eq_some_iff.mp hget') (OrderedMap.get?_eq_some_iff.mp hget) heq
  exact congrArg Prod.fst hpair

end Balanced

/-- A session that has been disposed of has no watches from then on. -/
theorem Ended.run {s : Session} {b : Bridge Tree} (h : Ended s b) (hb : b.Balanced)
    (later : List Action) :
    ∃ s', (Bridge.run later b).session? s.id = some s' ∧ s'.disposed = true ∧
      s'.registry.size = 0 := by
  have hlater := hb.run later
  obtain ⟨s', hs', hid, hdisposed⟩ := (h.step hlater).disposed
  refine ⟨s', hid ▸ hlater.balanced.session?_of_mem hs', hdisposed, ?_⟩
  rw [hlater.balanced.shared.closed s' hs' hdisposed]
  rfl

/-- At any time the tree has as many watchers as the sessions have watches; behind each watch there
is one watcher, which is behind no other; and no session watches a URI twice. When a session is
ended, or its peer finishes or breaks the framing, it is disposed of and its watchers have ended
from then on. A session that has been disposed of has no watches from then on, and is refused each
watch without effect. -/
theorem run_ties_watches (policy : Policy) (limit : Nat) (now : Int) (actions : List Action) :
    let b := run actions (start policy limit (Tree.empty now))
    b.host.watchers.length = b.watchCount ∧
    (∀ s ∈ b.sessions, ∀ uri subscription, s.registry.table.get? uri = some subscription →
      (b.host.watchers.filter fun w => w.id = subscription.watcher).length = 1 ∧
      ∀ s' ∈ b.sessions, ∀ uri' subscription', s'.registry.table.get? uri' = some subscription' →
        subscription'.watcher = subscription.watcher → s' = s ∧ uri' = uri) ∧
    (∀ s ∈ b.sessions, s.registry.table.keys.Nodup) ∧
    (∀ s ∈ b.sessions, ∀ a : Action, a.Ends b.limit s → ∀ later,
      let b' := run later (b.after a)
      (∃ s', b'.session? s.id = some s' ∧ s'.disposed = true ∧ s'.registry.size = 0) ∧
        ∀ uri subscription, s.registry.table.get? uri = some subscription →
          ∀ w ∈ b'.host.watchers, w.id ≠ subscription.watcher) ∧
    ∀ s ∈ b.sessions, s.disposed = true → ∀ later,
      let b' := run later b
      ∃ s', b'.session? s.id = some s' ∧ s'.disposed = true ∧ s'.registry.size = 0 ∧
        ∀ p, Context.watch p (s'.context b'.policy b'.host) =
          (⟨.failed, some "session is closing"⟩, s'.context b'.policy b'.host) := by
  intro b
  have h : b.Balanced := ((balanced_start policy limit now).run actions).balanced
  refine ⟨h.watchers_length, ?_, fun s _ => s.registry.table.nodup_keys, ?_, ?_⟩
  · intro s hs uri subscription hget
    exact ⟨h.one_watcher hs hget, fun s' hs' uri' subscription' hget' heq =>
      h.watcher_injective hs hs' hget hget' heq⟩
  · intro s hs a ha later b'
    have hended := h.ended_after hs ha
    refine ⟨hended.run (h.after a).balanced later, fun uri subscription hget w hw hid => ?_⟩
    have hgone :=
      (hended.step ((h.after a).balanced.run later)).released _ (Balanced.mem_numbers hget)
    exact hgone.2 (hid ▸ List.mem_map_of_mem hw)
  · intro s hs hdisposed later b'
    have hended : Ended s b := by
      refine ⟨⟨s, hs, rfl, hdisposed⟩, fun n hn => ?_⟩
      rw [h.shared.closed s hs hdisposed] at hn
      cases hn
    obtain ⟨s', hsession, hdisposed', hsize⟩ := hended.run h later
    refine ⟨s', hsession, hdisposed', hsize, fun p => ?_⟩
    rw [Context.watch, if_pos (show (s'.context b'.policy b'.host).closing = true from hdisposed')]
    rfl

/-- Two sessions watch the same directory. -/
def watchTwice : List Action :=
  [.openSession, .openSession, .operate 1 (.watch ⟨"mem:/a", "w"⟩),
    .operate 2 (.watch ⟨"mem:/a", "v"⟩)]

def watchedTwice : Bridge Tree :=
  run watchTwice (start ⟨.empty, .compact⟩ 1048576 (Tree.empty 0))

/-- When the peer of the first session hangs up, its watch is closed and the other one stays. It
does not get another watch. -/
theorem run_ties_watches_hangUp :
    let hangUp : Action := .receive 1 [] true
    let b := watchedTwice.after hangUp
    watchedTwice.host.numbers = [0, 1] ∧ b.host.numbers = [1] ∧
      ∃ s s', watchedTwice.session? 1 = some s ∧ hangUp.Ends watchedTwice.limit s ∧
        s.registry.table.get? "mem:/a" = some ⟨"w", 0⟩ ∧ (∀ w ∈ b.host.watchers, w.id ≠ 0) ∧
        b.session? 1 = some s' ∧ s'.disposed = true ∧ s'.registry.size = 0 ∧
        ∀ p, Context.watch p (s'.context b.policy b.host) =
          (⟨.failed, some "session is closing"⟩, s'.context b.policy b.host) := by
  intro hangUp b
  have hsome : (watchedTwice.session? 1).any (fun s => s.reading ∧
      s.registry.table.get? "mem:/a" = some ⟨"w", 0⟩) = true := by decide +kernel
  obtain ⟨s, hsession, hreading, hget⟩ : ∃ s, watchedTwice.session? 1 = some s ∧
      s.reading = true ∧ s.registry.table.get? "mem:/a" = some ⟨"w", 0⟩ := by
    simpa [Option.any_eq_true] using hsome
  have hid : s.id = 1 := by simpa using List.find?_some hsession
  have hends : hangUp.Ends watchedTwice.limit s := ⟨hid, hreading, .inl (Bool.or_true _)⟩
  obtain ⟨-, -, -, hended, -⟩ := run_ties_watches ⟨.empty, .compact⟩ 1048576 0 watchTwice
  obtain ⟨⟨s', hsession', hdisposed, hsize⟩, hgone⟩ :=
    hended s (List.mem_of_find?_eq_some hsession) hangUp hends []
  obtain ⟨-, -, -, -, hrefused⟩ :=
    run_ties_watches ⟨.empty, .compact⟩ 1048576 0 (watchTwice ++ [hangUp])
  have hafter :
      run (watchTwice ++ [hangUp]) (start ⟨.empty, .compact⟩ 1048576 (Tree.empty 0)) = b :=
    List.foldl_append ..
  rw [hafter] at hrefused
  rw [hid] at hsession'
  obtain ⟨s'', hsession'', -, -, hwatch⟩ :=
    hrefused s' (List.mem_of_find?_eq_some hsession') hdisposed []
  have hid' : s'.id = 1 := by simpa using List.find?_some hsession'
  obtain rfl : s' = s'' := Option.some.inj (hsession'.symm.trans (hid' ▸ hsession''))
  exact ⟨by decide +kernel, by decide +kernel, s, s', hsession, hends, hget, hgone _ _ hget,
    hsession', hdisposed, hsize, hwatch⟩

end FileBridge.Bridge
