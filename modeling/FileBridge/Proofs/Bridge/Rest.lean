import FileBridge.Proofs.Bridge.Relay
import FileBridge.Proofs.Rpc.Whole

/-!
A bridge at rest: no session has anything to read, to do or to write, and no watch has anything to
tell. Main statement: whatever happened, a bridge that has settled is at rest, and settling again
changes nothing.
-/
namespace FileBridge

open Rpc

namespace Session

/-- A session goes on: its reader stands where it stood, and its writer stops only for disposal. -/
structure Continues (s s' : Session) : Prop where
  id : s'.id = s.id
  unread : s'.unread = s.unread
  peerDone : s'.peerDone = s.peerDone
  reading : s'.reading = s.reading
  disposed : s'.disposed = s.disposed
  writing : s'.writing = false → s.writing = false ∨ s.disposed = true

theorem Continues.trans {s s' s'' : Session} (h : Continues s s') (h' : Continues s' s'') :
    Continues s s'' where
  id := h'.id.trans h.id
  unread := h'.unread.trans h.unread
  peerDone := h'.peerDone.trans h.peerDone
  reading := h'.reading.trans h.reading
  disposed := h'.disposed.trans h.disposed
  writing hstopped := (h'.writing hstopped).elim h.writing fun hdisposed =>
    .inr (h.disposed.symm.trans hdisposed)

theorem SameState.continues {s s' : Session} (h : SameState s s') : Continues s s' :=
  ⟨h.id, h.unread, h.peerDone, h.reading, h.disposed, fun hw => .inl (h.writing.symm.trans hw)⟩

theorem continues_write (s : Session) : Continues s s.write := by
  refine ⟨rfl, rfl, rfl, rfl, rfl, fun hstopped => ?_⟩
  simpa [write, Decidable.or_iff_not_imp_left] using hstopped

section Work

variable {σ : Type} (methods : Methods σ) (policy : Policy)

theorem continues_perform (s : Session) (h : σ) (task : Task) :
    Continues s (s.perform methods policy h task).1 := by
  cases task with
  | write => exact s.continues_write
  | handle r =>
    have hregistry (registry : Registry) : Continues s { s with registry := registry } :=
      ⟨rfl, rfl, rfl, rfl, rfl, .inl⟩
    exact (hregistry _).trans (sameState_send _ _).continues

theorem continues_foldl_perform (tasks : List Task) (r : Session × σ) :
    Continues r.1 (tasks.foldl (fun r task => r.1.perform methods policy r.2 task) r).1 := by
  induction tasks generalizing r with
  | nil => exact (SameState.refl r.1).continues
  | cons task rest ih => exact (continues_perform methods policy r.1 r.2 task).trans (ih _)

theorem tasks_perform (s : Session) (h : σ) (task : Task) :
    (s.perform methods policy h task).1.tasks = s.tasks := by
  cases task with
  | write => rfl
  | handle r =>
    simp only [perform, handle, send]
    split <;> rfl

theorem tasks_foldl_perform (tasks : List Task) (r : Session × σ) :
    (tasks.foldl (fun r task => r.1.perform methods policy r.2 task) r).1.tasks = r.1.tasks := by
  induction tasks generalizing r with
  | nil => rfl
  | cons task rest ih => exact (ih _).trans (tasks_perform methods policy r.1 r.2 task)

theorem continues_work (s : Session) (h : σ) : Continues s (s.work methods policy h).1 := by
  have hstart : Continues s { s with tasks := [] } := ⟨rfl, rfl, rfl, rfl, rfl, .inl⟩
  have hfold := continues_foldl_perform methods policy s.tasks ({ s with tasks := [] }, h)
  exact (hstart.trans hfold).trans (continues_write _)

end Work

/-- What the relays of a session tell its peer. -/
def told (t : Tree) (s : Session) : List Message :=
  if s.writing then (s.registry.relay s.writing t).1.map ChangeEvent.notification else []

theorem foldl_send (messages : List Message) (s : Session) :
    messages.foldl send s =
      { s with outbound := s.outbound ++ if s.writing then messages else [] } := by
  induction messages generalizing s with
  | nil => simp
  | cons m rest ih => cases hwriting : s.writing <;> simp [ih, send, hwriting]

theorem relay_told (s : Session) (t : Tree) :
    s.relay t =
      ({ s with
          written := s.written ++ (s.outbound ++ s.told t)
          outbound := []
          writing := s.writing && !s.disposed },
        (s.registry.relay s.writing t).2) := by
  simp only [relay, foldl_send, write, told]

theorem continues_relay (s : Session) (t : Tree) : Continues s (s.relay t).1 := by
  rw [relay_told]
  exact s.continues_write.trans ⟨rfl, rfl, rfl, rfl, rfl, .inl⟩

/-- The reader is there as long as the session is. -/
def Steady (s : Session) : Prop :=
  s.reading = !s.disposed

/-- The writer is there as long as the session is. -/
def KeepsWriting (s : Session) : Prop :=
  s.writing = false → s.disposed = true

/-- A property that a session keeps, whatever it does on its own, as long as no write fails. -/
structure Lasting (P : Session → Prop) : Prop where
  start : ∀ id, P (.start id)
  continues : ∀ {s s'}, P s → Continues s s' → P s'
  stop : ∀ (s : Session) (t : Tree), P (s.stop t).1
  starved : ∀ limit (s : Session) rest, P s → s.reading = true →
    (readFrames limit s.peerDone s.unread).2 = .starved rest → P { s with unread := rest }

theorem lasting_steady : Lasting Steady where
  start _ := rfl
  continues h hc := by
    rw [Steady, hc.reading, hc.disposed]
    exact h
  stop s t := by
    obtain ⟨hreading, hdisposed⟩ := s.stop_ended t
    rw [Steady, hreading, hdisposed, Bool.not_true]
  starved _ _ _ h _ _ := h

theorem lasting_keepsWriting : Lasting KeepsWriting where
  start _ := nofun
  continues h hc hstopped := by
    rw [hc.disposed]
    exact (hc.writing hstopped).elim h fun hdisposed => hdisposed
  stop s t _ := (s.stop_ended t).2
  starved _ _ _ h _ _ := h

/-- The bytes that a move brings to a session, and whether they are its last. -/
def Move.feed? : Move → Option (List UInt8 × Bool)
  | .arrive bytes => some (bytes, false)
  | .hangUp => some ([], true)
  | _ => none

namespace Lasting

variable {P : Session → Prop}

theorem read (hP : Lasting P) {s : Session} (h : P s) (limit : Nat) (t : Tree) :
    P (s.read limit t).1 := by
  unfold Session.read
  split
  next hreading =>
    cases hframes : readFrames limit s.peerDone s.unread with
    | mk arrivals stop =>
      have hsame := SameState.foldl sameState_accept arrivals s
      have haccepted := hP.continues h hsame.continues
      cases stop with
      | starved rest =>
        refine hP.starved limit _ rest haccepted (hsame.reading.trans hreading) ?_
        rw [hsame.peerDone, hsame.unread, hframes]
      | finished => exact hP.stop _ t
      | failed cause => exact hP.stop _ t
  · exact h

theorem move (hP : Lasting P) {s : Session} (h : P s) (methods : Methods Tree) (policy : Policy)
    (limit : Nat) {m : Move} (t : Tree) (hfeed : ∀ fed ∈ m.feed?, P (s.feed fed.1 fed.2))
    (hbreak : ∀ sent, m = .breakOff sent → P (s.breakOff sent)) :
    P (s.move methods policy limit m t).1 := by
  cases m with
  | arrive bytes =>
    show P (if s.peerDone then s else s.feed bytes false)
    split
    · exact h
    · exact hfeed _ rfl
  | hangUp => exact hfeed _ rfl
  | read => exact hP.read h limit t
  | perform place =>
    show P (s.performAt methods policy place t).1
    unfold performAt
    split
    next task _ =>
      have htasks (tasks : List Task) : Continues s { s with tasks := tasks } :=
        ⟨rfl, rfl, rfl, rfl, rfl, .inl⟩
      exact hP.continues (hP.continues h (htasks _)) (continues_perform methods policy _ t task)
    · exact h
  | write => exact hP.continues h s.continues_write
  | breakOff sent => exact hbreak sent rfl
  | relay => exact hP.continues h (s.continues_relay t)
  | dispose =>
    show P (if s.disposed then (s, t) else s.stop t).1
    split
    · exact h
    · exact hP.stop s t

end Lasting

/-- The reader waits for more bytes. -/
def IsStarved (limit : Nat) (s : Session) : Prop :=
  s.reading = true → readFrames limit s.peerDone s.unread = ([], .starved s.unread)

theorem IsStarved.of_continues {limit : Nat} {s s' : Session} (h : s.IsStarved limit)
    (hc : Continues s s') : s'.IsStarved limit := by
  rw [IsStarved, hc.reading, hc.peerDone, hc.unread]
  exact h

theorem isStarved_of_stop (limit : Nat) (s : Session) (t : Tree) :
    (s.stop t).1.IsStarved limit := by
  intro hreading
  rw [(s.stop_ended t).1] at hreading
  cases hreading

/-- Reading takes in all that makes a frame. -/
theorem isStarved_read (limit : Nat) (s : Session) (t : Tree) :
    (s.read limit t).1.IsStarved limit := by
  unfold read
  split
  · cases hframes : readFrames limit s.peerDone s.unread with
    | mk arrivals stop =>
      have hsame := SameState.foldl sameState_accept arrivals s
      cases stop with
      | starved rest =>
        intro _
        show readFrames limit (arrivals.foldl accept s).peerDone rest = _
        rw [hsame.peerDone]
        exact readFrames_rest (congrArg Prod.snd hframes)
      | finished => exact isStarved_of_stop limit _ t
      | failed cause => exact isStarved_of_stop limit _ t
  next hreading => exact fun h => absurd h hreading

/-- A session with nothing to read, to do or to write. -/
structure Resting (limit : Nat) (s : Session) : Prop where
  starved : s.IsStarved limit
  tasks : s.tasks = []
  outbound : s.outbound = []
  writes : s.writing = true → s.disposed = false

theorem resting_work {limit : Nat} {s : Session} (h : s.IsStarved limit) (methods : Methods Tree)
    (policy : Policy) (t : Tree) : (s.work methods policy t).1.Resting limit where
  starved := h.of_continues (s.continues_work methods policy t)
  tasks := tasks_foldl_perform methods policy s.tasks ({ s with tasks := [] }, t)
  outbound := rfl
  writes hwriting := Bool.not_inj (y := false) (Bool.and_eq_true_iff.mp hwriting).2

namespace Resting

variable {limit : Nat} {s : Session}

theorem writing_eq (h : s.Resting limit) : (s.writing && !s.disposed) = s.writing := by
  cases hwriting : s.writing with
  | false => rfl
  | true => rw [h.writes hwriting, Bool.not_false, Bool.and_self]

theorem write_eq (h : s.Resting limit) : s.write = s := by
  simp only [write, h.outbound, List.append_nil, h.writing_eq]
  rw [← h.outbound]

theorem relay (h : s.Resting limit) (t : Tree) : (s.relay t).1.Resting limit := by
  have hcontinues := s.continues_relay t
  rw [relay_told] at hcontinues ⊢
  exact ⟨h.starved.of_continues hcontinues, h.tasks, rfl, fun hwriting =>
    h.writes (h.writing_eq ▸ hwriting)⟩

theorem read_eq (h : s.Resting limit) (t : Tree) : s.read limit t = (s, t) := by
  unfold Session.read
  split
  next hreading => rw [h.starved hreading]; rfl
  · rfl

theorem work_eq (h : s.Resting limit) (methods : Methods Tree) (policy : Policy) (t : Tree) :
    s.work methods policy t = (s, t) := by
  have hstart : { s with tasks := [] } = s := by rw [← h.tasks]
  simp only [work, h.tasks, List.foldl_nil, hstart, h.write_eq]

end Resting

end Session

theorem Session.Resting.relay_eq {limit : Nat} {s : Session} (h : s.Resting limit) {t : Tree}
    (hquiet : t.IsQuiet) : s.relay t = (s, t) := by
  have htold : s.told t = [] := by
    rw [told, hquiet.registry_relay_eq]
    cases s.writing <;> rfl
  rw [relay_told, htold, hquiet.registry_relay_eq, h.outbound, h.writing_eq]
  simp only [List.append_nil]
  rw [← h.outbound]

namespace Bridge

variable {b : Bridge Tree} {f : Session → Tree → Session × Tree}

theorem forall_eachOf {P Q : Session → Prop} (hf : ∀ s t, P s → Q (f s t).1)
    {sessions : List Session} (h : ∀ s ∈ sessions, P s) (t : Tree) :
    ∀ s ∈ (eachOf f sessions t).1, Q s := by
  induction sessions generalizing t with
  | nil => exact nofun
  | cons s rest ih =>
    obtain ⟨hs, hrest⟩ := List.forall_mem_cons.mp h
    exact List.forall_mem_cons.mpr ⟨hf s t hs, ih hrest _⟩

theorem forall_each {P Q : Session → Prop} (hf : ∀ s t, P s → Q (f s t).1)
    (h : ∀ s ∈ b.sessions, P s) : ∀ s ∈ (b.each f).sessions, Q s :=
  forall_eachOf hf h b.host

theorem forall_onSession {P : Session → Prop} {id : Nat}
    (hf : ∀ s t, s.id = id → P s → P (f s t).1) (h : ∀ s ∈ b.sessions, P s) :
    ∀ s ∈ (b.onSession id f).sessions, P s := by
  refine forall_each (fun s t hs => ?_) h
  split
  next hid => exact hf s t hid hs
  · exact hs

theorem eachOf_eq_self {sessions : List Session} {t : Tree} (h : ∀ s ∈ sessions, f s t = (s, t)) :
    eachOf f sessions t = (sessions, t) := by
  induction sessions with
  | nil => rfl
  | cons s rest ih =>
    obtain ⟨hs, hrest⟩ := List.forall_mem_cons.mp h
    simp only [eachOf, hs, ih hrest]

theorem each_eq_self (h : ∀ s ∈ b.sessions, f s b.host = (s, b.host)) : b.each f = b := by
  rw [each, eachOf_eq_self h]

/-- Nothing is left to be read, done, written or told. -/
structure AtRest (b : Bridge Tree) : Prop where
  balanced : b.Balanced
  steady : ∀ s ∈ b.sessions, s.Steady
  resting : ∀ s ∈ b.sessions, s.Resting b.limit
  quiet : b.host.IsQuiet

/-- A bridge at rest has nothing to settle. -/
theorem AtRest.settle_eq (h : b.AtRest) : b.settle = b := by
  have hread : b.each (Session.read b.limit) = b :=
    each_eq_self fun s hs => (h.resting s hs).read_eq b.host
  have hwork : b.each (Session.work b.methods b.policy) = b :=
    each_eq_self fun s hs => (h.resting s hs).work_eq b.methods b.policy b.host
  have hrelay : b.each Session.relay = b :=
    each_eq_self fun s hs => (h.resting s hs).relay_eq h.quiet
  rw [settle, hread, hwork, hrelay]

/-- A bridge that has settled is at rest. -/
theorem atRest_settle (h : b.Balanced) (hsteady : ∀ s ∈ b.sessions, s.Steady) :
    b.settle.AtRest := by
  have hwork : Session.Sound (Session.work b.methods b.policy) := by
    rw [h.methods]
    exact Session.sound_work b.policy
  have hread : ∀ s ∈ (b.each (Session.read b.limit)).sessions,
      s.Steady ∧ s.IsStarved b.limit :=
    forall_each (fun s t hs => ⟨Session.lasting_steady.read hs b.limit t,
      s.isStarved_read b.limit t⟩) hsteady
  have hworked : ∀ s ∈ ((b.each (Session.read b.limit)).each
      (Session.work b.methods b.policy)).sessions, s.Steady ∧ s.Resting b.limit :=
    forall_each (fun s t hs => ⟨Session.lasting_steady.continues hs.1 (s.continues_work _ _ t),
      Session.resting_work hs.2 _ _ t⟩) hread
  have hrelayed : ∀ s ∈ b.settle.sessions, s.Steady ∧ s.Resting b.limit :=
    forall_each (fun s t hs => ⟨Session.lasting_steady.continues hs.1 (s.continues_relay t),
      hs.2.relay t⟩) hworked
  have hbalanced := ((h.each (Session.sound_read b.limit)).balanced.each hwork).balanced
  refine ⟨h.settle.balanced, fun s hs => (hrelayed s hs).1, fun s hs => (hrelayed s hs).2, ?_⟩
  -- The relays have taken what the watchers of all watches noted, and there are no other watchers.
  obtain ⟨-, hcleared⟩ := eachOf_relay hbalanced.nodup_numbersOf _
  intro w' hw'
  obtain ⟨w, hw, hemptied⟩ := hcleared.exists_watcher hw'
  have hmem := hbalanced.shared.perm.mem_iff.mpr (List.mem_map_of_mem (f := Watcher.id) hw)
  rw [List.append_nil] at hmem
  exact hemptied.pending hmem

/-- The session that an action brings bytes to, the bytes, and whether they are its last. -/
def Action.feed? : Action → Option (Nat × List UInt8 × Bool)
  | .receive id bytes ended => some (id, bytes, ended)
  | .move id m => m.feed?.map fun fed => (id, fed)
  | _ => none

section Lasting

variable {P : Session → Prop}

theorem forall_settle (hP : Session.Lasting P) (h : ∀ s ∈ b.sessions, P s) :
    ∀ s ∈ b.settle.sessions, P s := by
  have hread := forall_each (f := Session.read b.limit) (fun s t hs => hP.read hs b.limit t) h
  have hwork := forall_each (f := Session.work b.methods b.policy)
    (fun s t hs => hP.continues hs (s.continues_work _ _ t)) hread
  exact forall_each (fun s t hs => hP.continues hs (s.continues_relay t)) hwork

/-- A property that lasts, and that neither the bytes of an action nor a failed write take from a
session, is left by the action to all sessions. -/
theorem forall_after (hP : Session.Lasting P) {a : Action}
    (hfeed : ∀ fed ∈ a.feed?, ∀ s : Session, s.id = fed.1 → P s → P (s.feed fed.2.1 fed.2.2))
    (hbreak : ∀ (s : Session) sent, P s → P (s.breakOff sent)) (h : ∀ s ∈ b.sessions, P s) :
    ∀ s ∈ (b.after a).sessions, P s := by
  have hstop (s : Session) (t : Tree) (hs : P s) :
      P (if s.disposed then (s, t) else s.stop t).1 := by
    split
    · exact hs
    · exact hP.stop s t
  cases a with
  | openSession =>
    intro s hs
    rcases List.mem_append.mp hs with hs | hs
    · exact h s hs
    · rw [List.mem_singleton.mp hs]
      exact hP.start _
  | receive id bytes ended =>
    exact forall_settle hP (forall_onSession (fun s _ hid hs => hfeed _ rfl s hid hs) h)
  | dispose id => exact forall_settle hP (forall_onSession (fun s t _ hs => hstop s t hs) h)
  | disposeAll => exact forall_settle hP (forall_each hstop h)
  | send id m =>
    exact forall_settle hP
      (forall_onSession (fun s _ _ hs => hP.continues hs (s.sameState_send m).continues) h)
  | operate id call =>
    simp only [after, operate]
    split
    · exact h
    · refine forall_settle hP (b := { b.onSession id _ with host := _ }) (forall_onSession ?_ h)
      exact fun s t _ hs => hP.continues hs ⟨rfl, rfl, rfl, rfl, rfl, .inl⟩
  | onHost a hspares => exact forall_settle (b := { b with host := b.host.after a }) hP h
  | takeWritten id =>
    exact forall_onSession (fun s _ _ hs => hP.continues hs ⟨rfl, rfl, rfl, rfl, rfl, .inl⟩) h
  | setGuard g => exact h
  | move id m =>
    refine forall_onSession (fun s t hid hs => hP.move hs _ _ _ t (fun fed hfed => ?_)
      fun sent _ => hbreak s sent hs) h
    exact hfeed (id, fed) (Option.mem_map_of_mem _ hfed) s hid hs

end Lasting

theorem steady_run (policy : Policy) (limit : Nat) (now : Int) (actions : List Action) :
    ∀ s ∈ (run actions (start policy limit (Tree.empty now))).sessions, s.Steady := by
  have hrun {b : Bridge Tree} (h : ∀ s ∈ b.sessions, s.Steady) :
      ∀ s ∈ (run actions b).sessions, s.Steady := by
    induction actions generalizing b with
    | nil => exact h
    | cons a rest ih =>
      exact ih (forall_after Session.lasting_steady (fun _ _ _ _ hs => hs) (fun _ _ hs => hs) h)
  exact hrun nofun

end Bridge

end FileBridge
