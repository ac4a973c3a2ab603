import FileBridge.Proofs.Bridge.Occurrence
import FileBridge.Proofs.Bridge.Rest

/-!
The notifications of a watch. Main statement: the peer of a session is told of one of its watches,
in order and one for one, the changes that are reported at or below the watched path while the watch
is open, whatever else is watched and whatever other sessions do. If a write to the peer fails, it
is told the first of them. A watch is open from the call that opens it to the call that closes it or
the end of its session.
-/
namespace FileBridge

open Rpc

namespace Registry

variable {r : Registry}

/-- Of all that is relayed, the part of one watch is what its watcher noted. -/
theorem filter_relays (hnodup : r.numbers.Nodup) (number : Nat) (t : Tree) :
    ((r.relays true t).filter fun a => a.1 = number).map Prod.snd =
      match r.watch? number with
      | some (_, s) => (t.noted number).map (Change.notification s.watchId t.entries)
      | none => [] := by
  have hlist (l : List (String × Subscription)) (hnodup : (l.map fun a => a.2.watcher).Nodup) :
      (((l.map Prod.snd).flatMap (Subscription.relays true t)).filter fun a => a.1 = number).map
          Prod.snd =
        match l.find? fun a => a.2.watcher = number with
        | some (_, s) => (t.noted number).map (Change.notification s.watchId t.entries)
        | none => [] := by
    induction l with
    | nil => rfl
    | cons first rest ih =>
      obtain ⟨hfirst, hrest⟩ := List.nodup_cons.mp hnodup
      rw [List.map_cons, List.flatMap_cons, List.filter_append, List.map_append, ih hrest,
        Subscription.relays_true, List.filter_map]
      by_cases heq : first.2.watcher = number
      · -- All of the first watch is kept, and the others have other numbers.
        have hnone : (rest.find? fun a => a.2.watcher = number) = none := by
          refine List.find?_eq_none.mpr fun a ha => ?_
          have hne : a.2.watcher ≠ number := fun h =>
            hfirst (List.mem_map.mpr ⟨a, ha, h.trans heq.symm⟩)
          simpa using hne
        rw [hnone, List.find?_cons_of_pos (by simpa using heq)]
        simp [Function.comp_def, heq]
      · rw [List.find?_cons_of_neg (by simpa using heq)]
        simp [Function.comp_def, heq]
  exact hlist r.table.toList (r.map_number ▸ hnodup)

end Registry

/-- What the peer is to be told of some changes under the name of a watch: those at or below the
path of the URI, spelled in the way of the URI. -/
def noticesOf (uri watchId : String) (e : Entries) (changes : List (ChangeKind × String)) :
    List Message :=
  match Path.ofUri uri with
  | .error _ => []
  | .ok path =>
    (changes.filter fun c => Path.isWithin c.2 path).map fun c =>
      Change.notification watchId e ⟨c.1, Watcher.uriFor ⟨0, path, uri, [], true⟩ c.2⟩

namespace Bridge

/-- What all turns of the relays tell a session. -/
def relaysOver (id : Nat) : List Occurrence → Bridge Tree → List (Nat × Message)
  | [], _ => []
  | o :: rest, b => (b.occur o).relays id ++ relaysOver id rest (b.next o)

/-- What a session is to be told of the watch with a number: of all changes that are reported while
the watch is open, the ones at or below its path. -/
def dueOver (id number : Nat) : List Occurrence → Bridge Tree → List Message
  | [], _ => []
  | o :: rest, b =>
    (match b.watch? id number with
      | some (uri, s) => noticesOf uri s.watchId (b.occur o).host.entries (b.reports o)
      | none => []) ++ dueOver id number rest (b.next o)

/-- Whether something happens to the session with a number. -/
def Occurrence.concerns (id : Nat) : Occurrence → Bool
  | .call i _ | .move i _ => i = id
  | _ => false

/-- A write to the peer of a session fails. -/
def Occurrence.breaksOff (id : Nat) : Occurrence → Bool
  | .move i (.breakOff _) => i = id
  | _ => false

/-- Something runs a call for the peer of a session: at once, or as a request that it has read. -/
def Occurrence.Runs (id : Nat) (s : Session) (call : Call) : Occurrence → Prop
  | .call i c => i = id ∧ c = call
  | .move i m => i = id ∧ m.Runs s call
  | _ => False

/-- Something ends the session with a number. -/
def Occurrence.Ends (id : Nat) (b : Bridge Tree) : Occurrence → Prop
  | .move i m => i = id ∧ ∃ s, b.session? id = some s ∧ m.Ends b.limit s
  | _ => False

/-- How the watches of a session open and close. -/
structure TendsWatches (id : Nat) (b : Bridge Tree) : Prop where
  /-- The numbers of new watchers have not been used before. -/
  unused : ∀ number, b.host.nextWatcher ≤ number → b.watch? id number = none
  increasing : ∀ o, b.host.nextWatcher ≤ (b.next o).host.nextWatcher
  /-- A watch that succeeds is open afterwards. -/
  opened : ∀ s o p, b.session? id = some s → o.Runs id s (.watch p) →
    (Context.watch p (s.context b.policy b.host)).1 = ⟨.success, none⟩ →
    (b.next o).watch? id b.host.nextWatcher = some (p.uri, ⟨p.watcher, b.host.nextWatcher⟩)
  /-- An unwatch that succeeds closes the watch of its URI, and no other. -/
  closed : ∀ s o p, b.session? id = some s → o.Runs id s (.unwatch p) →
    (Context.unwatch p (s.context b.policy b.host)).1 = ⟨.success, none⟩ →
    ∀ number, (b.next o).watch? id number = (b.watch? id number).filter fun a => a.1 ≠ p.uri
  /-- When the session ends, all of its watches are closed for good. -/
  ended : ∀ o, o.Ends id b → ∀ later number, ((b.next o).goOn later).watch? id number = none
  /-- Nothing else opens or closes a watch. -/
  kept : ∀ s o, b.session? id = some s → ¬ o.Ends id b →
    (∀ p, o.Runs id s (.watch p) →
      (Context.watch p (s.context b.policy b.host)).1 ≠ ⟨.success, none⟩) →
    (∀ p, o.Runs id s (.unwatch p) →
      (Context.unwatch p (s.context b.policy b.host)).1 ≠ ⟨.success, none⟩) →
    ∀ number, (b.next o).watch? id number = b.watch? id number

namespace Stirred

variable {changes : List (ChangeKind × String)} {b b' : Bridge Tree}

/-- What a watch has noted of some changes is what its peer is to be told of them. -/
theorem noted_eq (h : Stirred changes b b') {s : Session} (hs : s ∈ b'.sessions)
    (hwriting : s.writing = true) {uri : String} {sub : Subscription}
    (hget : s.registry.table.get? uri = some sub) :
    (b'.host.noted sub.watcher).map (Change.notification sub.watchId b'.host.entries) =
      noticesOf uri sub.watchId b'.host.entries changes := by
  obtain ⟨w', hw'⟩ := List.length_eq_one_iff.mp (h.balanced.one_watcher hs hget)
  have hmem : w' ∈ b'.host.watchers ∧ w'.id = sub.watcher := by
    have hfilter := List.mem_filter.mp (hw' ▸ List.mem_singleton_self w')
    exact ⟨hfilter.1, of_decide_eq_true hfilter.2⟩
  obtain ⟨huri, hlistening⟩ := h.aligned s hs uri sub hget w' hmem.1 hmem.2
  obtain ⟨w, hquiet, rfl⟩ := h.told w' hmem.1
  rw [Watcher.told_uri] at huri
  rw [Watcher.told_listening] at hlistening
  subst huri
  have hnoted : b'.host.noted sub.watcher = w.noted changes := by
    rw [Tree.noted, Tree.takeChanges, hw']
    exact (List.append_nil _).trans (hquiet.pending_told (hlistening hwriting) changes)
  rw [hnoted, noticesOf, hquiet.path, Watcher.noted, List.map_map]
  rfl

theorem filter_relays (h : Stirred changes b b') {id : Nat}
    (hwriting : ∀ s, b'.session? id = some s → s.writing = true ∨ s.registry = .empty)
    (number : Nat) :
    ((b'.relays id).filter fun a => a.1 = number).map Prod.snd =
      match b'.watch? id number with
      | some (uri, s) => noticesOf uri s.watchId b'.host.entries changes
      | none => [] := by
  rw [relays, watch?]
  cases hsession : b'.session? id with
  | none => rfl
  | some s =>
    have hs := List.mem_of_find?_eq_some hsession
    rw [Option.map_some, Option.getD_some, Option.bind_some]
    rcases hwriting s hsession with hwriting | hempty
    · rw [Session.relays, hwriting, Registry.filter_relays (h.nodup_numbers hs)]
      cases hwatch : s.registry.watch? number with
      | none => rfl
      | some a =>
        obtain ⟨hget, rfl⟩ := Registry.get?_of_watch? hwatch
        exact h.noted_eq hs hwriting hget
    · rw [Session.relays, hempty]
      rfl

/-- What the relays tell of a watch is what is due for the changes that were reported. -/
theorem filter_relays_eq_due (h : Stirred changes b b') {id : Nat}
    (hwriting : ∀ s, b'.session? id = some s → s.writing = true ∨ s.registry = .empty)
    (number : Nat) :
    ((b'.relays id).filter fun a => a.1 = number).map Prod.snd =
      match b.watch? id number with
      | some (uri, s) => noticesOf uri s.watchId b'.host.entries changes
      | none => [] := by
  rw [h.filter_relays hwriting]
  -- A watch is opened or closed only where no changes are reported.
  rcases h.same with hnil | hsame
  · have hnone (uri watchId : String) (e : Entries) : noticesOf uri watchId e [] = [] := by
      unfold noticesOf
      split <;> rfl
    rw [hnil]
    simp only [hnone]
    split <;> split <;> rfl
  · rw [hsame]

end Stirred

section Run

variable {b : Bridge Tree}

theorem notices_goOn (h : b.Calm) (id : Nat) (occurrences : List Occurrence) :
    (b.goOn occurrences).notices id =
      b.notices id ++ (relaysOver id occurrences b).map Prod.snd := by
  induction occurrences generalizing b with
  | nil => exact (List.append_nil _).symm
  | cons o rest ih =>
    have hstirred := h.occur o
    rw [relaysOver, List.map_append, ← List.append_assoc, ← hstirred.notices,
      ← hstirred.notices_drain]
    exact ih (h.next o)

theorem relays_of_stopped {id : Nat} {s : Session} (hsession : b.session? id = some s)
    (hstopped : s.writing = false) : b.relays id = [] := by
  rw [relays, hsession, Option.map_some, Option.getD_some, Session.relays_of_not_writing hstopped]

/-- A session without a writer is told nothing any more. -/
theorem relaysOver_eq_nil (h : b.Calm) {o : Occurrence} {id : Nat} {s : Session}
    (hsession : (b.occur o).session? id = some s) (hstopped : s.writing = false)
    (rest : List Occurrence) : relaysOver id (o :: rest) b = [] := by
  induction rest generalizing b o s with
  | nil => rw [relaysOver, relays_of_stopped hsession hstopped, relaysOver, List.append_nil]
  | cons o' rest ih =>
    have hrelayed : (s.relayed (b.occur o).host).writing = false := by
      rw [Session.writing_relayed, hstopped, Bool.false_and]
    have hnext : (b.next o).session? id = some (s.relayed (b.occur o).host) := by
      rw [Bridge.next, (h.occur o).session?_drain, hsession, Option.map_some]
    obtain ⟨s', hsession', hstopped'⟩ := ((h.next o).occur o').stopped id _ hnext hrelayed
    rw [relaysOver, relays_of_stopped hsession hstopped, List.nil_append]
    exact ih (h.next o) hsession' hstopped'

/-- If a write to its peer fails, a session is told the first part of what it is to be told. -/
theorem isPrefix_relaysOver (h : b.Calm) (id number : Nat) (occurrences : List Occurrence) :
    ((relaysOver id occurrences b).filter fun a => a.1 = number).map Prod.snd <+:
      dueOver id number occurrences b := by
  induction occurrences generalizing b with
  | nil => exact List.prefix_refl _
  | cons o rest ih =>
    have hstirred := h.occur o
    by_cases hwriting : ∀ s, (b.occur o).session? id = some s → s.writing = true
    · have hnow := hstirred.filter_relays_eq_due (fun s hs => .inl (hwriting s hs)) number
      rw [relaysOver, List.filter_append, List.map_append, hnow, dueOver]
      exact (List.prefix_append_right_inj _).mpr (ih (h.next o))
    · -- From here on the session has no writer, and nothing more is told.
      obtain ⟨s, hsession, hstopped⟩ :
          ∃ s, (b.occur o).session? id = some s ∧ s.writing = false := by
        simpa using hwriting
      rw [relaysOver_eq_nil h hsession hstopped]
      exact List.nil_prefix

/-- As long as no write to its peer fails, the writer of a session stops only for disposal. -/
theorem keepsWriting_occur (h : b.Balanced) {id : Nat}
    (hkeeps : ∀ s, b.session? id = some s → s.KeepsWriting) {o : Occurrence}
    (hintact : o.breaksOff id = false) :
    ∀ s, (b.occur o).session? id = some s → s.KeepsWriting := by
  intro s hs
  cases o with
  | setGuard g => exact hkeeps s hs
  | onHost a hspares => exact hkeeps s hs
  | openSession =>
    rcases b.session?_openSession id with heq | ⟨-, heq⟩
    · exact hkeeps s (heq ▸ hs)
    · obtain rfl := Option.some.inj (heq.symm.trans hs)
      exact Session.lasting_keepsWriting.start _
  | call id' call =>
    rw [occur, session?_onSession h (Session.sound_call b.policy call).id] at hs
    split at hs
    next heq =>
      obtain ⟨s₀, hs₀, rfl⟩ := Option.map_eq_some_iff.mp hs
      exact hkeeps s₀ (heq ▸ hs₀)
    · exact hkeeps s hs
  | move id' m =>
    rw [occur, h.methods, session?_onSession h (Session.sound_move b.policy b.limit m).id] at hs
    split at hs
    next heq =>
      obtain ⟨s₀, hs₀, rfl⟩ := Option.map_eq_some_iff.mp hs
      have hs₀ := hkeeps s₀ (heq ▸ hs₀)
      refine Session.lasting_keepsWriting.move hs₀ _ _ _ _ (fun _ _ => hs₀) fun sent hm => ?_
      rw [hm] at hintact
      exact absurd heq.symm (of_decide_eq_false hintact)
    · exact hkeeps s hs

/-- As long as no write to its peer fails, a session is told all that it is to be told. -/
theorem filter_relaysOver (h : b.Calm) {id : Nat}
    (hkeeps : ∀ s, b.session? id = some s → s.KeepsWriting) (number : Nat)
    {occurrences : List Occurrence} (hintact : ∀ o ∈ occurrences, o.breaksOff id = false) :
    ((relaysOver id occurrences b).filter fun a => a.1 = number).map Prod.snd =
      dueOver id number occurrences b := by
  induction occurrences generalizing b with
  | nil => rfl
  | cons o rest ih =>
    obtain ⟨ho, hrest⟩ := List.forall_mem_cons.mp hintact
    have hstirred := h.occur o
    have hoccur := keepsWriting_occur h.balanced hkeeps ho
    have hwriting (s : Session) (hs : (b.occur o).session? id = some s) :
        s.writing = true ∨ s.registry = .empty := by
      refine (Bool.eq_false_or_eq_true s.writing).imp_right fun hstopped => ?_
      exact hstirred.balanced.shared.closed s (List.mem_of_find?_eq_some hs) (hoccur s hs hstopped)
    have hnext : ∀ s, (b.next o).session? id = some s → s.KeepsWriting := by
      intro s hs
      rw [Bridge.next, hstirred.session?_drain] at hs
      obtain ⟨s₀, hs₀, rfl⟩ := Option.map_eq_some_iff.mp hs
      refine Session.lasting_keepsWriting.continues (hoccur s₀ hs₀) ?_
      exact (Session.sameState_sends s₀ _).continues.trans (Session.continues_write _)
    rw [relaysOver, List.filter_append, List.map_append, hstirred.filter_relays_eq_due hwriting,
      ih (h.next o) hnext hrest, dueOver]

theorem watch?_next_of_not_concerns (h : b.Calm) {o : Occurrence} {id : Nat}
    (ho : o.concerns id = false) (number : Nat) :
    (b.next o).watch? id number = b.watch? id number := by
  rw [Bridge.next, (h.occur o).watch?_drain]
  have hother {f : Session → Tree → Session × Tree} (hf : Session.Sound f) {id' : Nat}
      (hne : id ≠ id') : (b.onSession id' f).watch? id number = b.watch? id number := by
    rw [watch?, session?_onSession h.balanced hf.id, if_neg hne, watch?]
  cases o with
  | openSession => exact b.watch?_openSession id number
  | setGuard g => rfl
  | onHost a hspares => rfl
  | call id' call =>
    exact hother (Session.sound_call b.policy call)
      (Ne.symm (by simpa [Occurrence.concerns] using ho))
  | move id' m =>
    simp only [Bridge.occur, h.balanced.methods]
    exact hother (Session.sound_move b.policy b.limit m)
      (Ne.symm (by simpa [Occurrence.concerns] using ho))

theorem nextWatcher_next (h : b.Calm) (o : Occurrence) :
    b.host.nextWatcher ≤ (b.next o).host.nextWatcher := by
  obtain ⟨t, heq, hcleared⟩ := (h.occur o).drain_eq
  rw [Bridge.next, heq, hcleared.next]
  exact (h.occur o).next

/-- A watch that has been closed is not opened again under its number. -/
theorem watch?_goOn (h : b.Calm) {number : Nat} (hnumber : number < b.host.nextWatcher) (id : Nat)
    (occurrences : List Occurrence) :
    (b.goOn occurrences).watch? id number = b.watch? id number ∨
      (b.goOn occurrences).watch? id number = none := by
  induction occurrences generalizing b with
  | nil => exact .inl rfl
  | cons o rest ih =>
    have hstirred := h.occur o
    have hstep : (b.next o).watch? id number = b.watch? id number ∨
        (b.next o).watch? id number = none := by
      rw [Bridge.next, hstirred.watch?_drain]
      exact hstirred.older id number hnumber
    show ((b.next o).goOn rest).watch? id number = _ ∨
      ((b.next o).goOn rest).watch? id number = none
    rcases ih (h.next o) (Nat.lt_of_lt_of_le hnumber (nextWatcher_next h o)) with hsame | hnone
    · rw [hsame]
      exact hstep
    · exact .inr hnone

end Run

/-- Whatever happens, every session goes on, and no watcher comes back. -/
theorem Balanced.next {b : Bridge Tree} (h : b.Balanced) (o : Occurrence) : Step b (b.next o) := by
  have hoccur : Step b (b.occur o) := by
    cases o with
    | openSession => exact h.openSession
    | setGuard g => exact ⟨⟨h.methods, h.ids, h.shared⟩, h.refl.follows, h.refl.onward⟩
    | onHost a hspares =>
      have hsame : b.host.SameNumbers (b.host.after a) := (Tree.told_after hspares).sameNumbers
      exact ⟨⟨h.methods, h.ids, h.shared.of_sameNumbers hsame⟩, h.refl.follows, hsame.onward⟩
    | call id call => exact h.onSession (Session.sound_call b.policy call) id
    | move id m =>
      rw [occur, h.methods]
      exact h.onSession (Session.sound_move b.policy b.limit m) id
  exact hoccur.trans (hoccur.balanced.each Session.sound_relay)

theorem Balanced.goOn {b : Bridge Tree} (h : b.Balanced) (occurrences : List Occurrence) :
    Step b (b.goOn occurrences) := by
  induction occurrences generalizing b with
  | nil => exact h.refl
  | cons o rest ih => exact (h.next o).trans (ih (h.next o).balanced)

section Tending

variable {b : Bridge Tree} {id : Nat} {s : Session} {o : Occurrence}

theorem watch?_of_session? (hsession : b.session? id = some s) (number : Nat) :
    b.watch? id number = s.registry.watch? number := by
  rw [watch?, hsession, Option.bind_some]

theorem watch?_eq_none_of_le (h : b.Calm) {number : Nat} (hle : b.host.nextWatcher ≤ number) :
    b.watch? id number = none := by
  cases hsession : b.session? id with
  | none => rw [watch?, hsession, Option.bind_none]
  | some s =>
    rw [watch?_of_session? hsession]
    cases hwatch : s.registry.watch? number with
    | none => rfl
    | some a =>
      obtain ⟨hget, rfl⟩ := Registry.get?_of_watch? hwatch
      have hlt := h.watcher_lt (List.mem_of_find?_eq_some hsession) hget
      omega

theorem watch?_eq_none_of_ended (h : b.Balanced) (hended : Ended s b) (number : Nat) :
    b.watch? s.id number = none := by
  obtain ⟨s', hs', hid, hdisposed⟩ := hended.disposed
  rw [← hid, watch?_of_session? (h.session?_of_mem hs'), h.shared.closed s' hs' hdisposed]
  rfl

/-- When a session ends, its watches are closed for good. -/
theorem watch?_of_ends (h : b.Calm) (hends : o.Ends id b) (later : List Occurrence) (number : Nat) :
    ((b.next o).goOn later).watch? id number = none := by
  cases o with
  | move id' m =>
    obtain ⟨rfl, s, hsession, hends⟩ := hends
    obtain ⟨rfl, hs⟩ : s.id = id' ∧ s ∈ b.sessions :=
      ⟨by simpa using List.find?_some hsession, List.mem_of_find?_eq_some hsession⟩
    have hended : Ended s (b.occur (.move s.id m)) := by
      rw [occur, h.balanced.methods]
      exact h.balanced.ended_onSession (Session.sound_move b.policy b.limit m) hs fun t =>
        hends.disposed t
    have hdrain := (h.occur (.move s.id m)).balanced.each Session.sound_relay
    have hlater := hdrain.balanced.goOn later
    exact watch?_eq_none_of_ended hlater.balanced ((hended.step hdrain).step hlater) number
  | _ => cases hends

/-- A call that is run for a session leaves the session the watches that the call leaves. -/
theorem exists_registry_of_runs (h : b.Calm) (hsession : b.session? id = some s) {call : Call}
    (hruns : o.Runs id s call) :
    ∃ r : Registry, r = (call.run (s.context b.policy b.host)).2.registry ∧ r.numbers.Nodup ∧
      ∀ number, (b.next o).watch? id number = r.watch? number := by
  have hoccur : ∃ s', (b.occur o).session? id = some s' ∧
      s'.registry = (call.run (s.context b.policy b.host)).2.registry := by
    cases o with
    | call id' call' =>
      obtain ⟨rfl, rfl⟩ := hruns
      rw [occur, session?_onSession h.balanced (Session.sound_call b.policy call').id, if_pos rfl,
        hsession]
      exact ⟨_, rfl, rfl⟩
    | move id' m =>
      obtain ⟨rfl, hruns⟩ := hruns
      rw [occur, h.balanced.methods,
        session?_onSession h.balanced (Session.sound_move b.policy b.limit m).id, if_pos rfl,
        hsession]
      exact ⟨_, rfl, hruns.registry⟩
    | _ => cases hruns
  obtain ⟨s', hsession', hregistry⟩ := hoccur
  refine ⟨s'.registry, hregistry, ?_, fun number => ?_⟩
  · exact (h.occur o).nodup_numbers (List.mem_of_find?_eq_some hsession')
  · rw [Bridge.next, (h.occur o).watch?_drain, watch?_of_session? hsession']

/-- What neither ends a session nor runs a call for it leaves it its watches. -/
theorem watch?_of_not_runs (h : b.Calm) (hsession : b.session? id = some s)
    (hends : ¬ o.Ends id b) (hruns : ∀ call, ¬ o.Runs id s call) (number : Nat) :
    (b.next o).watch? id number = b.watch? id number := by
  by_cases hconcerns : o.concerns id = false
  · exact watch?_next_of_not_concerns h hconcerns number
  cases o with
  | call id' call =>
    exact absurd ⟨by simpa [Occurrence.concerns] using hconcerns, rfl⟩ (hruns call)
  | move id' m =>
    obtain rfl : id' = id := by simpa [Occurrence.concerns] using hconcerns
    have hkept : (s.move .bridge b.policy b.limit m b.host).1.registry = s.registry :=
      Session.registry_move (fun hm => hends ⟨rfl, s, hsession, hm⟩)
        fun call hm => hruns call ⟨rfl, hm⟩
    rw [Bridge.next, (h.occur _).watch?_drain, occur, h.balanced.methods, watch?,
      session?_onSession h.balanced (Session.sound_move b.policy b.limit m).id, if_pos rfl,
      hsession, Option.map_some, Option.bind_some, hkept, watch?_of_session? hsession]
  | _ => exact absurd rfl hconcerns

theorem Calm.tendsWatches (h : b.Calm) (id : Nat) : b.TendsWatches id where
  unused number hle := watch?_eq_none_of_le h hle
  increasing o := nextWatcher_next h o
  opened s o p hsession hruns hsuccess := by
    obtain ⟨r, hregistry, hnodup, hwatch⟩ := exists_registry_of_runs h hsession hruns
    rcases Context.watch_cases p (s.context b.policy b.host) with ⟨hfailed, -⟩ | ⟨-, htable⟩
    · exact absurd hsuccess hfailed
    · have htable := (congrArg Registry.table hregistry).trans htable
      rw [hwatch]
      refine (Registry.watch?_eq_some_iff hnodup).mpr ⟨?_, rfl⟩
      rw [htable, OrderedMap.get?_insert, if_pos rfl]
      rfl
  closed s o p hsession hruns hsuccess number := by
    obtain ⟨r, hregistry, hnodup, hwatch⟩ := exists_registry_of_runs h hsession hruns
    rcases Context.unwatch_cases p (s.context b.policy b.host) with ⟨hfailed, -⟩ | ⟨-, htable⟩
    · exact absurd hsuccess hfailed
    · rw [hwatch, watch?_of_session? hsession]
      exact Registry.watch?_erase ((congrArg Registry.table hregistry).trans htable)
        (h.nodup_numbers (List.mem_of_find?_eq_some hsession)) hnodup number
  ended o hends later number := watch?_of_ends h hends later number
  kept s o hsession hends hwatch hunwatch number := by
    by_cases hruns : ∃ call, o.Runs id s call
    · obtain ⟨call, hruns⟩ := hruns
      obtain ⟨r, hregistry, -, hnext⟩ := exists_registry_of_runs h hsession hruns
      have hkept : (call.run (s.context b.policy b.host)).2.registry = s.registry := by
        rcases call.run_cases (s.context b.policy b.host) with
          ⟨hsame, -⟩ | ⟨-, p, rfl, -⟩ | ⟨p, rfl, -⟩
        · exact hsame
        · rcases Context.watch_cases p (s.context b.policy b.host) with ⟨-, hsame⟩ | ⟨hsuccess, -⟩
          · exact hsame
          · exact absurd hsuccess (hwatch p hruns)
        · rcases Context.unwatch_cases p (s.context b.policy b.host) with ⟨-, hsame⟩ | ⟨hsuccess, -⟩
          · exact hsame
          · exact absurd hsuccess (hunwatch p hruns)
      rw [hnext, hregistry, hkept, watch?_of_session? hsession]
    · exact watch?_of_not_runs h hsession hends (fun call hcall => hruns ⟨call, hcall⟩) number

end Tending

/-- In every run in which the relays take a turn after each thing that happens: the notifications
queued for a session are what its relays told, and what they told of the watch with a number is, in
order and one for one, what was to be told of the changes reported while that watch was open. If a
write to its peer has failed, it is the first part of that. A watch is open from the call that opens
it to the call that closes it or to the end of its session. What happens to other sessions neither
opens nor closes it, and once it is closed it is not opened again under its number. -/
theorem goOn_relays_reports (policy : Policy) (limit : Nat) (now : Int)
    (occurrences : List Occurrence) (id number : Nat) :
    let b := start policy limit (Tree.empty now)
    let b' := b.goOn occurrences
    let told := ((relaysOver id occurrences b).filter fun a => a.1 = number).map Prod.snd
    b'.notices id = (relaysOver id occurrences b).map Prod.snd ∧
    told <+: dueOver id number occurrences b ∧
    ((∀ o ∈ occurrences, o.breaksOff id = false) → told = dueOver id number occurrences b) ∧
    b'.TendsWatches id ∧
    (∀ o : Occurrence, o.concerns id = false →
      (b'.next o).watch? id number = b'.watch? id number) ∧
    (number < b'.host.nextWatcher → ∀ later,
      (b'.goOn later).watch? id number = b'.watch? id number ∨
        (b'.goOn later).watch? id number = none) := by
  intro b b' told
  have hstart : b.Calm := calm_start policy limit now
  have h : b'.Calm := hstart.goOn occurrences
  refine ⟨?_, ?_, ?_, ?_, ?_, ?_⟩
  · exact notices_goOn hstart id occurrences
  · exact isPrefix_relaysOver hstart id number occurrences
  · exact filter_relaysOver hstart (fun s hs => by cases hs) number
  · exact h.tendsWatches id
  · exact fun o ho => watch?_next_of_not_concerns h ho number
  · exact fun hnumber later => watch?_goOn h hnumber id later

/-- One session watches a directory that is yet to be made. Another watches the root and ends. -/
def watchBesideOthers : List Occurrence :=
  [.openSession, .openSession, .call 1 (.watch ⟨"mem:/a", "w"⟩), .call 2 (.watch ⟨"mem:/", "v"⟩),
    .onHost (.perform (.createDirectory "mem:/ab")) rfl,
    .onHost (.perform (.createDirectory "mem:/a")) rfl, .move 2 .dispose,
    .onHost (.perform (.write "mem:/a/x.y" [] true false)) rfl]

def besideOthers : Bridge Tree :=
  (start ⟨.empty, .compact⟩ 1048576 (Tree.empty 0)).goOn watchBesideOthers

theorem watch?_besideOthers : besideOthers.watch? 1 0 = some ("mem:/a", ⟨"w", 0⟩) := by
  decide

/-- The session is told of its directory and of the file in it, and not of the neighbour. The watch
is still open when the other session's peer hangs up. It is closed by an unwatch, and for good when
its own session ends. -/
theorem goOn_relays_reports_besideOthers :
    let created (location : String) (entryType : Nat) : Message :=
      .notification "vfs/watcher/emitWatch" (.ofMembers [("watchId", .str "w"),
        ("location", .str location), ("changeType", .nat 1), ("type", .nat entryType)])
    besideOthers.notices 1 = [created "mem:/a" 2, created "mem:/a/x.y" 1] ∧
      dueOver 1 0 watchBesideOthers (start ⟨.empty, .compact⟩ 1048576 (Tree.empty 0)) =
        [created "mem:/a" 2, created "mem:/a/x.y" 1] ∧
      (besideOthers.next (.move 2 .hangUp)).watch? 1 0 = some ("mem:/a", ⟨"w", 0⟩) ∧
      (besideOthers.next (.call 1 (.watch ⟨"mem:/b", "u"⟩))).watch? 1 2 =
        some ("mem:/b", ⟨"u", 2⟩) ∧
      (besideOthers.next (.call 1 (.unwatch ⟨"mem:/a", "w"⟩))).watch? 1 0 = none ∧
      ∀ later, ((besideOthers.next (.move 1 .dispose)).goOn later).watch? 1 0 = none := by
  intro created
  obtain ⟨hnotices, -, htold, htends, hothers, -⟩ :=
    goOn_relays_reports ⟨.empty, .compact⟩ 1048576 0 watchBesideOthers 1 0
  have hintact : ∀ o ∈ watchBesideOthers, o.breaksOff 1 = false := by decide
  have hsome : (besideOthers.session? 1).any (fun s =>
      (Context.watch ⟨"mem:/b", "u"⟩ (s.context besideOthers.policy besideOthers.host)).1 =
          ⟨.success, none⟩ ∧
        (Context.unwatch ⟨"mem:/a", "w"⟩ (s.context besideOthers.policy besideOthers.host)).1 =
          ⟨.success, none⟩) = true := by decide +kernel
  obtain ⟨s, hsession, hwatch, hunwatch⟩ : ∃ s, besideOthers.session? 1 = some s ∧ _ := by
    simpa only [Option.any_eq_true, decide_eq_true_eq] using hsome
  refine ⟨hnotices.trans (by rfl), (htold hintact).symm.trans (by rfl),
    (hothers (.move 2 .hangUp) rfl).trans watch?_besideOthers, ?_, ?_, fun later => ?_⟩
  · exact htends.opened s _ ⟨"mem:/b", "u"⟩ hsession ⟨rfl, rfl⟩ hwatch
  · have hclosed := htends.closed s (.call 1 (.unwatch ⟨"mem:/a", "w"⟩)) ⟨"mem:/a", "w"⟩ hsession
      ⟨rfl, rfl⟩ hunwatch 0
    exact hclosed.trans (congrArg (Option.filter _) watch?_besideOthers)
  · exact htends.ended (.move 1 .dispose) ⟨rfl, s, hsession, trivial⟩ later 0

end Bridge

end FileBridge
