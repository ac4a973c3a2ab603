import FileBridge.Bridge.Session

/-!
What can happen to a session, one thing at a time and in any order. The requests that wait need not
be worked off in the order in which they came.
-/
namespace FileBridge.Session

open Rpc

variable {σ : Type} [Host σ]

/-- What can happen to a session. -/
inductive Move where
  /-- Bytes of the peer arrive. -/
  | arrive (bytes : List UInt8)
  /-- The peer finishes. -/
  | hangUp
  | read
  /-- One of the tasks is done, wherever it stands. -/
  | perform (place : Nat)
  | write
  /-- A write fails. -/
  | breakOff (sent : Nat)
  | relay
  /-- The session is ended from this side. -/
  | dispose

/-- Performs the task at a place. -/
def performAt (methods : Methods σ) (policy : Policy) (place : Nat) (s : Session) (h : σ) :
    Session × σ :=
  match s.tasks[place]? with
  | some task => { s with tasks := s.tasks.eraseIdx place }.perform methods policy h task
  | none => (s, h)

/-- The session after a move. Nothing arrives from a peer that has finished. -/
def move (methods : Methods σ) (policy : Policy) (limit : Nat) (m : Move) (s : Session) (h : σ) :
    Session × σ :=
  match m with
  | .arrive bytes => (if s.peerDone then s else s.feed bytes false, h)
  | .hangUp => (s.feed [] true, h)
  | .read => s.read limit h
  | .perform place => s.performAt methods policy place h
  | .write => (s.write, h)
  | .breakOff sent => (s.breakOff sent, h)
  | .relay => s.relay h
  | .dispose => if s.disposed then (s, h) else s.stop h

/-- The sessions differ in their queues only. -/
structure SameState (s s' : Session) : Prop where
  id : s'.id = s.id
  unread : s'.unread = s.unread
  peerDone : s'.peerDone = s.peerDone
  reading : s'.reading = s.reading
  registry : s'.registry = s.registry
  disposed : s'.disposed = s.disposed
  writing : s'.writing = s.writing

theorem SameState.refl (s : Session) : SameState s s :=
  ⟨rfl, rfl, rfl, rfl, rfl, rfl, rfl⟩

theorem SameState.trans {s s' s'' : Session} (h : SameState s s') (h' : SameState s' s'') :
    SameState s s'' :=
  ⟨h'.id.trans h.id, h'.unread.trans h.unread, h'.peerDone.trans h.peerDone,
    h'.reading.trans h.reading, h'.registry.trans h.registry, h'.disposed.trans h.disposed,
    h'.writing.trans h.writing⟩

theorem SameState.foldl {α : Type} {f : Session → α → Session} (hf : ∀ s a, SameState s (f s a))
    (l : List α) (s : Session) : SameState s (l.foldl f s) := by
  induction l generalizing s with
  | nil => exact .refl s
  | cons a rest ih => exact (hf s a).trans (ih _)

theorem sameState_schedule (s : Session) (task : Task) : SameState s (s.schedule task) := by
  unfold schedule
  split <;> exact ⟨rfl, rfl, rfl, rfl, rfl, rfl, rfl⟩

theorem sameState_send (s : Session) (m : Message) : SameState s (s.send m) := by
  unfold send
  split <;> exact ⟨rfl, rfl, rfl, rfl, rfl, rfl, rfl⟩

theorem sameState_accept (s : Session) (a : Arrival) : SameState s (s.accept a) := by
  unfold accept
  split
  · exact s.sameState_schedule _
  · exact .refl s
  · exact (s.sameState_send _).trans (sameState_schedule _ _)

variable {methods : Methods σ} {policy : Policy}

omit [Host σ] in
theorem perform_with_tasks (s : Session) (h : σ) (task : Task) (tasks : List Task) :
    { s with tasks := tasks }.perform methods policy h task =
      ({ (s.perform methods policy h task).1 with tasks := tasks },
        (s.perform methods policy h task).2) := by
  cases task with
  | write => rfl
  | handle r =>
    simp only [perform, handle, send, context]
    cases s.writing <;> rfl

theorem foldl_perform (limit : Nat) (tasks : List Task) (s : Session) (h : σ) :
    tasks.foldl (fun r task => r.1.perform methods policy r.2 task) ({ s with tasks := [] }, h) =
      (tasks.map fun _ => Move.perform 0).foldl (fun r m => r.1.move methods policy limit m r.2)
        ({ s with tasks := tasks }, h) := by
  induction tasks generalizing s h with
  | nil => rfl
  | cons task rest ih =>
    show rest.foldl _ ({ s with tasks := [] }.perform methods policy h task) =
      (rest.map _).foldl _ ({ s with tasks := rest }.perform methods policy h task)
    rw [perform_with_tasks s h task [], perform_with_tasks s h task rest]
    exact ih _ _

/-- A session that works off all its tasks in order makes moves. -/
theorem work_eq_moves (limit : Nat) (s : Session) (h : σ) :
    s.work methods policy h =
      ((s.tasks.map fun _ => Move.perform 0) ++ [Move.write]).foldl
        (fun r m => r.1.move methods policy limit m r.2) (s, h) := by
  rw [List.foldl_append, ← foldl_perform]
  rfl

end FileBridge.Session
