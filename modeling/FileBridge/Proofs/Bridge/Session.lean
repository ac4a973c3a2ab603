import FileBridge.Proofs.Bridge.Move
import FileBridge.Proofs.Rpc.Bodies
import FileBridge.Proofs.Service.Call
import FileBridge.Proofs.Watch

/-!
Sessions keep their watches in step with the watchers of a tree. Most of what a session does
concerns neither; a call may open or close one watch, and the end of a session closes them all.
-/
namespace FileBridge

open Rpc

theorem Context.ask_same {α : Type} {f : Tree → Reply Tree α}
    (hf : ∀ t : Tree, t.SameNumbers (f t).2) (c : Context Tree) (operation uri : String) :
    (c.ask operation uri f).2.registry = c.registry ∧
      c.host.SameNumbers (c.ask operation uri f).2.host := by
  rcases c.ask_cases operation uri f with ⟨text, heq⟩ | heq
  · rw [heq]
    exact ⟨rfl, .refl c.host⟩
  · rw [heq]
    exact ⟨rfl, hf c.host⟩

/-- A call leaves the watches as they are, opens one, or closes one. -/
theorem Call.run_cases (call : Call) (c : Context Tree) :
    (call.run c).2.registry = c.registry ∧ c.host.SameNumbers (call.run c).2.host ∨
    (c.closing = false ∧ ∃ p, call = .watch p ∧
      ((call.run c).2.registry, (call.run c).2.host) =
        (c.registry.watch p.uri p.watcher c.host).2) ∨
    ∃ p, call = .unwatch p ∧
      ((call.run c).2.registry, (call.run c).2.host) = (c.registry.unwatch p.uri c.host).2 := by
  have hsame : c.registry = c.registry ∧ c.host.SameNumbers c.host := ⟨rfl, .refl c.host⟩
  cases call with
  | readFile p | exists? p | lastModified p | created p | isDirectory p | isFile p | list p =>
    refine .inl (Context.ask_same (fun t => ?_) c _ _)
    exact Tree.sameNumbers_look p.uri _
  | writeFile p =>
    refine .inl (Context.ask_same (fun t => ?_) c _ _)
    split
    · exact .refl t
    · exact Tree.sameNumbers_write p.uri _ p.create p.overwrite
  | createDirectory p =>
    exact .inl (Context.ask_same (fun _ => Tree.sameNumbers_createDirectory p.uri) c _ _)
  | remove p =>
    exact .inl (Context.ask_same (fun _ => Tree.sameNumbers_delete p.uri p.recursive) c _ _)
  | rename p =>
    simp only [run, Context.rename]
    split
    · exact .inl hsame
    · exact .inl (Context.ask_same
        (fun _ => Tree.sameNumbers_rename p.source p.target p.overwrite) c _ _)
  | watch p =>
    simp only [run, Context.watch]
    split
    · exact .inl hsame
    next hopen =>
      split
      · exact .inl hsame
      · exact .inr (.inl ⟨by simpa using hopen, p, rfl, rfl⟩)
  | unwatch p =>
    simp only [run, Context.unwatch]
    split
    · exact .inl hsame
    · exact .inr (.inr ⟨p, rfl, rfl⟩)

/-- Whatever call a session makes, its watches stay tied to the tree. -/
theorem Call.tied_run {others : List Nat} {c : Context Tree}
    (h : Tied others c.closing c.registry c.host) (call : Call) :
    Tied others c.closing (call.run c).2.registry (call.run c).2.host := by
  rcases call.run_cases c with ⟨hregistry, hsame⟩ | ⟨hopen, p, -, heq⟩ | ⟨p, -, heq⟩
  · rw [hregistry]
    exact h.of_sameNumbers hsame
  · obtain ⟨hregistry, hhost⟩ := Prod.mk.inj heq
    rw [hopen] at h ⊢
    rw [hregistry, hhost]
    exact h.watch p.uri p.watcher
  · obtain ⟨hregistry, hhost⟩ := Prod.mk.inj heq
    rw [hregistry, hhost]
    exact h.unwatch p.uri

theorem Call.onward_run (call : Call) (c : Context Tree) : c.host.Onward (call.run c).2.host := by
  rcases call.run_cases c with ⟨-, hsame⟩ | ⟨-, p, -, heq⟩ | ⟨p, -, heq⟩
  · exact hsame.onward
  · rw [(Prod.mk.inj heq).2]
    exact c.registry.onward_watch p.uri p.watcher c.host
  · rw [(Prod.mk.inj heq).2]
    exact c.registry.onward_unwatch p.uri c.host

namespace Subscription

theorem sameNumbers_event (s : Subscription) (change : Change) (t : Tree) :
    t.SameNumbers (s.event change t).2 := by
  have hstat : t.SameNumbers (t.stat change.uri).2 := Tree.sameNumbers_look change.uri _
  unfold event Change.classify
  cases change.kind with
  | created =>
    cases hreply : t.stat change.uri with
    | mk outcome t' =>
      rw [hreply] at hstat
      simp only [show Host.stat change.uri t = _ from hreply]
      cases outcome with
      | ok m => exact hstat
      | error cause => exact hstat
  | changed => exact .refl t
  | deleted => exact .refl t

theorem sameNumbers_events (s : Subscription) (changes : List Change) (t : Tree) :
    t.SameNumbers (s.events changes t).2 := by
  induction changes generalizing t with
  | nil => exact .refl t
  | cons change rest ih => exact (s.sameNumbers_event change t).trans (ih _)

theorem sameNumbers_relay (reachable : Bool) (s : Subscription) (t : Tree) :
    t.SameNumbers (s.relay reachable t).2 := by
  have htake : t.SameNumbers (t.takeChanges s.watcher).2 := Tree.sameNumbers_takeChanges s.watcher
  cases reachable with
  | true => exact htake.trans (s.sameNumbers_events _ _)
  | false =>
    simp only [relay, Bool.false_eq_true, if_false]
    split
    · exact htake
    · exact (htake.trans (s.sameNumbers_event _ _)).trans (Tree.sameNumbers_mute s.watcher)

end Subscription

theorem Registry.sameNumbers_relay (reachable : Bool) (r : Registry) (t : Tree) :
    t.SameNumbers (r.relay reachable t).2 := by
  have hfold (l : List Subscription) (events : List ChangeEvent) (t : Tree) :
      t.SameNumbers (l.foldl (fun (events, h) s =>
        let (more, h) := s.relay reachable h
        (events ++ more, h)) (events, t)).2 := by
    induction l generalizing events t with
    | nil => exact .refl t
    | cons s rest ih => exact (s.sameNumbers_relay reachable t).trans (ih _ _)
  exact hfold r.subscriptions [] t

namespace Session

/-- The sessions have the same number and the same watches. -/
structure SameWatches (s s' : Session) : Prop where
  id : s'.id = s.id
  registry : s'.registry = s.registry
  disposed : s'.disposed = s.disposed

theorem SameWatches.refl (s : Session) : SameWatches s s :=
  ⟨rfl, rfl, rfl⟩

theorem SameWatches.trans {s s' s'' : Session} (h : SameWatches s s') (h' : SameWatches s' s'') :
    SameWatches s s'' :=
  ⟨h'.id.trans h.id, h'.registry.trans h.registry, h'.disposed.trans h.disposed⟩

theorem SameState.sameWatches {s s' : Session} (h : SameState s s') : SameWatches s s' :=
  ⟨h.id, h.registry, h.disposed⟩

theorem SameWatches.tied {s s' : Session} (h : SameWatches s s') {others : List Nat} {t : Tree}
    (htied : Tied others s.disposed s.registry t) : Tied others s'.disposed s'.registry t := by
  rw [h.disposed, h.registry]
  exact htied

/-- What is done to a session and a tree keeps the session's number, does not undo its disposal,
leaves its watches tied to the tree if they were, and brings back no watcher. -/
structure Sound (f : Session → Tree → Session × Tree) : Prop where
  id : ∀ s t, (f s t).1.id = s.id
  disposed : ∀ s t, s.disposed = true → (f s t).1.disposed = true
  tied : ∀ {others s t}, Tied others s.disposed s.registry t →
    Tied others (f s t).1.disposed (f s t).1.registry (f s t).2
  onward : ∀ s (t : Tree), t.Onward (f s t).2

theorem Sound.of_same {f : Session → Tree → Session × Tree}
    (hsession : ∀ s t, SameWatches s (f s t).1) (htree : ∀ s (t : Tree), t.SameNumbers (f s t).2) :
    Sound f where
  id s t := (hsession s t).id
  disposed s t h := (hsession s t).disposed.trans h
  tied h := ((hsession _ _).tied h).of_sameNumbers (htree _ _)
  onward s t := (htree s t).onward

theorem Sound.of_session {f : Session → Session} (h : ∀ s, SameWatches s (f s)) :
    Sound fun s t => (f s, t) :=
  .of_same (fun s _ => h s) fun _ t => .refl t

theorem Sound.refl : Sound fun s t => (s, t) :=
  .of_session .refl

theorem Sound.comp {f g : Session → Tree → Session × Tree} (hg : Sound g) (hf : Sound f) :
    Sound fun s t => g (f s t).1 (f s t).2 where
  id s t := (hg.id _ _).trans (hf.id s t)
  disposed s t h := hg.disposed _ _ (hf.disposed s t h)
  tied h := hg.tied (hf.tied h)
  onward s t := (hf.onward s t).trans (hg.onward _ _)

theorem Sound.ite {f g : Session → Tree → Session × Tree} (hf : Sound f) (hg : Sound g)
    (p : Session → Prop) [DecidablePred p] : Sound fun s t => if p s then f s t else g s t where
  id s t := by
    split
    · exact hf.id s t
    · exact hg.id s t
  disposed s t h := by
    split
    · exact hf.disposed s t h
    · exact hg.disposed s t h
  tied h := by
    split
    · exact hf.tied h
    · exact hg.tied h
  onward s t := by
    split
    · exact hf.onward s t
    · exact hg.onward s t

theorem Sound.foldl {α : Type} {f : α → Session → Tree → Session × Tree} (hf : ∀ a, Sound (f a))
    (l : List α) : Sound fun s t => l.foldl (fun (s, t) a => f a s t) (s, t) := by
  induction l with
  | nil => exact .refl
  | cons a rest ih => exact ih.comp (hf a)

/-- What is done may depend on the session and the tree, as long as it is sound in each case. -/
theorem Sound.of_pointwise {g : Session → Tree → Session × Tree}
    (h : ∀ s t, ∃ f, Sound f ∧ g s t = f s t) : Sound g := by
  constructor
  · intro s t
    obtain ⟨f, hf, heq⟩ := h s t
    exact heq ▸ hf.id s t
  · intro s t
    obtain ⟨f, hf, heq⟩ := h s t
    exact heq ▸ hf.disposed s t
  · intro others s t
    obtain ⟨f, hf, heq⟩ := h s t
    exact heq ▸ hf.tied
  · intro s t
    obtain ⟨f, hf, heq⟩ := h s t
    exact heq ▸ hf.onward s t

/-- If the session has been disposed of afterwards, its watchers have ended. -/
theorem Sound.released {f : Session → Tree → Session × Tree} (hf : Sound f) {others : List Nat}
    {s : Session} {t : Tree} (h : Tied others s.disposed s.registry t)
    (hdisposed : (f s t).1.disposed = true) {n : Nat} (hn : n ∈ s.registry.numbers) :
    n ∉ (f s t).2.numbers := by
  have hafter := hf.tied h
  have hperm := hafter.perm
  rw [hafter.empty_of_closed hdisposed, Registry.numbers_empty, List.nil_append] at hperm
  have hnodup := h.perm.nodup_iff.mpr h.nodup
  exact fun hmem =>
    (List.nodup_append.mp hnodup).2.2 n hn n (hperm.mem_iff.mpr hmem) rfl

theorem sound_feed (bytes : List UInt8) (ended : Bool) :
    Sound fun s t => (s.feed bytes ended, t) :=
  .of_session fun _ => ⟨rfl, rfl, rfl⟩

theorem sound_tasks (tasks : List Task) : Sound fun s t => ({ s with tasks := tasks }, t) :=
  .of_session fun _ => ⟨rfl, rfl, rfl⟩

theorem sound_dispose : Sound dispose := by
  have hdispose : Sound fun s t =>
      ({ s with registry := .empty, disposed := true }, s.registry.release t) :=
    ⟨fun _ _ => rfl, fun _ _ _ => rfl, fun h => h.release, fun s t => s.registry.onward_release t⟩
  exact Sound.ite .refl hdispose fun s => s.disposed = true

theorem sound_stop : Sound stop := by
  have hend (s : Session) :
      SameWatches s ({ s with reading := false, unread := [] }.schedule .write) := by
    have hstopped : SameWatches s { s with reading := false, unread := [] } := ⟨rfl, rfl, rfl⟩
    exact hstopped.trans (sameState_schedule _ _).sameWatches
  exact (Sound.of_session hend).comp sound_dispose

theorem sound_read (limit : Nat) : Sound (read limit) := by
  have haccept (arrivals : List Arrival) : Sound fun s t => (arrivals.foldl accept s, t) :=
    .of_session fun s => (SameState.foldl sameState_accept arrivals s).sameWatches
  have hkeep (rest : List UInt8) : Sound fun s t => ({ s with unread := rest }, t) :=
    .of_session fun _ => ⟨rfl, rfl, rfl⟩
  refine .of_pointwise fun s t => ?_
  unfold read
  split
  · cases readFrames limit s.peerDone s.unread with
    | mk arrivals stop =>
      cases stop with
      | starved rest => exact ⟨_, (hkeep rest).comp (haccept arrivals), rfl⟩
      | finished => exact ⟨_, sound_stop.comp (haccept arrivals), rfl⟩
      | failed cause => exact ⟨_, sound_stop.comp (haccept arrivals), rfl⟩
  · exact ⟨_, .refl, rfl⟩

theorem sound_call (policy : Policy) (call : Call) : Sound fun s t =>
    ({ s with registry := (call.run (s.context policy t)).2.registry },
      (call.run (s.context policy t)).2.host) where
  id _ _ := rfl
  disposed _ _ h := h
  tied {_ s t} h := Call.tied_run (c := s.context policy t) h call
  onward s t := call.onward_run (s.context policy t)

/-- A request is refused without effect, or its call is run; in both cases there is an answer. -/
theorem handle_cases (policy : Policy) (r : Request) (s : Session) (t : Tree) :
    (∃ m, s.handle .bridge policy r t = (s.send m, t)) ∨
      ∃ (call : Call) (m : Message), s.handle .bridge policy r t =
        ({ s with registry := (call.run (s.context policy t)).2.registry }.send m,
          (call.run (s.context policy t)).2.host) := by
  rcases Methods.dispatch_cases r.method r.params (s.context policy t) with
    ⟨fault, heq⟩ | ⟨call, -, -, heq⟩
  · exact .inl ⟨_, by rw [handle, heq]; rfl⟩
  · exact .inr ⟨call, _, by rw [handle, heq]⟩

theorem sound_handle (policy : Policy) (r : Request) :
    Sound fun s t => handle .bridge policy r s t := by
  have hsend (m : Message) : Sound fun s t => (s.send m, t) :=
    .of_session fun s => (sameState_send s m).sameWatches
  refine .of_pointwise fun s t => ?_
  rcases s.handle_cases policy r t with ⟨m, heq⟩ | ⟨call, m, heq⟩
  · exact ⟨_, hsend m, heq⟩
  · exact ⟨_, (hsend m).comp (sound_call policy call), heq⟩

theorem sound_write : Sound fun s t => (s.write, t) :=
  .of_session fun _ => ⟨rfl, rfl, rfl⟩

theorem sound_perform (policy : Policy) (task : Task) :
    Sound fun s t => perform .bridge policy s t task := by
  cases task with
  | handle r => exact sound_handle policy r
  | write => exact sound_write

theorem sound_relay : Sound relay := by
  refine .of_same (fun s t => ?_) fun s t => ?_
  · exact (SameState.foldl sameState_send _ s).sameWatches.trans ⟨rfl, rfl, rfl⟩
  · exact s.registry.sameNumbers_relay s.writing t

theorem sound_work (policy : Policy) : Sound (work .bridge policy) :=
  .of_pointwise fun s _ =>
    ⟨_, sound_write.comp ((Sound.foldl (sound_perform policy) s.tasks).comp (sound_tasks [])), rfl⟩

theorem sound_performAt (policy : Policy) (place : Nat) :
    Sound (performAt .bridge policy place) := by
  refine .of_pointwise fun s t => ?_
  unfold performAt
  cases s.tasks[place]? with
  | some task =>
    exact ⟨_, (sound_perform policy task).comp (sound_tasks (s.tasks.eraseIdx place)), rfl⟩
  | none => exact ⟨_, .refl, rfl⟩

theorem sound_move (policy : Policy) (limit : Nat) (m : Move) :
    Sound (move .bridge policy limit m) := by
  cases m with
  | arrive bytes =>
    refine .of_session fun s => ?_
    split <;> exact ⟨rfl, rfl, rfl⟩
  | hangUp => exact sound_feed [] true
  | read => exact sound_read limit
  | perform place => exact sound_performAt policy place
  | write => exact sound_write
  | breakOff sent => exact .of_session fun _ => ⟨rfl, rfl, rfl⟩
  | relay => exact sound_relay
  | dispose => exact Sound.ite .refl sound_stop fun s => s.disposed = true

/-- Reading ends a session: its peer has finished, or what it sent breaks the framing. -/
def ReadsEnd (limit : Nat) (s : Session) : Prop :=
  s.reading = true ∧ (s.peerDone = true ∨
    ∃ cause, (readFrames limit s.peerDone s.unread).2 = .failed cause)

/-- A move ends a session. -/
def Move.Ends (limit : Nat) (s : Session) : Move → Prop
  | .read => s.ReadsEnd limit
  | .dispose => True
  | _ => False

theorem disposed_dispose (s : Session) (t : Tree) : (s.dispose t).1.disposed = true := by
  unfold dispose
  split
  next h => exact h
  · rfl

theorem stop_ended (s : Session) (t : Tree) :
    (s.stop t).1.reading = false ∧ (s.stop t).1.disposed = true := by
  have hsame := sameState_schedule { (s.dispose t).1 with reading := false, unread := [] } .write
  exact ⟨hsame.reading, hsame.disposed.trans (s.disposed_dispose t)⟩

theorem ReadsEnd.disposed {limit : Nat} {s : Session} (h : s.ReadsEnd limit) (t : Tree) :
    (s.read limit t).1.disposed = true := by
  obtain ⟨hreading, hends⟩ := h
  have hstop : ∀ rest, (readFrames limit s.peerDone s.unread).2 ≠ .starved rest := by
    rcases readFrames_snd limit s.peerDone s.unread with ⟨rest, hstarved, hdone, -⟩ | ⟨hstop, -⟩
    · rcases hends with hpeer | ⟨cause, hfailed⟩
      · rw [hdone] at hpeer
        cases hpeer
      · rw [hstarved] at hfailed
        cases hfailed
    · exact hstop
  rw [read, if_pos hreading]
  cases hframes : readFrames limit s.peerDone s.unread with
  | mk arrivals stop =>
    rw [hframes] at hstop
    cases stop with
    | starved rest => exact absurd rfl (hstop rest)
    | finished => exact (stop_ended _ t).2
    | failed cause => exact (stop_ended _ t).2

theorem Move.Ends.disposed {policy : Policy} {limit : Nat} {s : Session} {m : Move}
    (h : m.Ends limit s) (t : Tree) : (s.move .bridge policy limit m t).1.disposed = true := by
  cases m with
  | read => exact ReadsEnd.disposed h t
  | dispose =>
    simp only [move]
    split
    next hdisposed => exact hdisposed
    · exact (s.stop_ended t).2
  | _ => cases h

end Session

end FileBridge
