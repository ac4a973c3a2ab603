import FileBridge.Proofs.Bridge.Stir

/-!
Things happen to a bridge over a tree one at a time, and after each of them all relays take a turn.
Main statements: whatever happens, the watchers are told of the changes that the tree reports, and
after the turn of the relays no watch has anything left to tell.
-/
namespace FileBridge

open Rpc

/-- The watch behind which the watcher with a number stands, and its URI. -/
def Registry.watch? (number : Nat) (r : Registry) : Option (String × Subscription) :=
  r.table.toList.find? fun a => a.2.watcher = number

namespace Registry

variable {r : Registry} {number : Nat}

theorem get?_of_watch? {uri : String} {s : Subscription} (h : r.watch? number = some (uri, s)) :
    r.table.get? uri = some s ∧ s.watcher = number :=
  ⟨OrderedMap.get?_eq_some_iff.mpr (List.mem_of_find?_eq_some h), by simpa using List.find?_some h⟩

/-- Among pairs with different numbers, the one with a number is found. -/
theorem find?_number {l : List (String × Subscription)}
    (hnodup : (l.map fun a => a.2.watcher).Nodup) {a : String × Subscription} (ha : a ∈ l) :
    l.find? (fun a' => a'.2.watcher = a.2.watcher) = some a := by
  induction l with
  | nil => cases ha
  | cons first rest ih =>
    obtain ⟨hfirst, hrest⟩ := List.nodup_cons.mp hnodup
    rcases List.mem_cons.mp ha with rfl | ha
    · exact List.find?_cons_of_pos (by simp)
    · have hne : first.2.watcher ≠ a.2.watcher := fun heq =>
        hfirst (List.mem_map.mpr ⟨a, ha, heq.symm⟩)
      rw [List.find?_cons_of_neg (by simpa using hne), ih hrest ha]

theorem map_number (r : Registry) : (r.table.toList.map fun a => a.2.watcher) = r.numbers := by
  simp [numbers, subscriptions, Function.comp_def]

theorem watch?_of_get? (hnodup : r.numbers.Nodup) {uri : String} {s : Subscription}
    (h : r.table.get? uri = some s) : r.watch? s.watcher = some (uri, s) :=
  find?_number (r.map_number ▸ hnodup) (OrderedMap.get?_eq_some_iff.mp h)

theorem watch?_eq_some_iff (hnodup : r.numbers.Nodup) {uri : String} {s : Subscription} :
    r.watch? number = some (uri, s) ↔ r.table.get? uri = some s ∧ s.watcher = number := by
  refine ⟨get?_of_watch?, ?_⟩
  rintro ⟨hget, rfl⟩
  exact watch?_of_get? hnodup hget

/-- When the watch of a URI is closed, the others stay. -/
theorem watch?_erase {r' : Registry} {uri : String} (h : r'.table = r.table.erase uri)
    (hnodup : r.numbers.Nodup) (hnodup' : r'.numbers.Nodup) (number : Nat) :
    r'.watch? number = (r.watch? number).filter fun a => a.1 ≠ uri := by
  ext ⟨uri', s⟩
  rw [watch?_eq_some_iff hnodup', h, OrderedMap.get?_erase, Option.filter_eq_some_iff,
    watch?_eq_some_iff hnodup]
  by_cases huri : uri' = uri <;> simp [huri]

end Registry

namespace Bridge

/-- What can happen to a bridge over a tree between two turns of its relays. -/
inductive Occurrence where
  | openSession
  /-- A session runs one call of its peer. -/
  | call (id : Nat) (call : Call)
  /-- A session does something else, or works off a request that it has read. -/
  | move (id : Nat) (m : Session.Move)
  | setGuard (g : Guard)
  /-- The tree is changed by others, or reports a change of theirs. -/
  | onHost (a : Tree.Action) (h : a.sparesQueues = true)

/-- The bridge after something happened, before any relay. -/
def occur (b : Bridge Tree) : Occurrence → Bridge Tree
  | .openSession => b.openSession.2
  | .call id call =>
    b.onSession id fun s t => ({ s with registry := (call.run (s.context b.policy t)).2.registry },
      (call.run (s.context b.policy t)).2.host)
  | .move id m => b.onSession id (Session.move b.methods b.policy b.limit m)
  | .setGuard g => b.setGuard g
  | .onHost a _ => { b with host := b.host.after a }

/-- All relays take a turn. -/
def drain (b : Bridge Tree) : Bridge Tree :=
  b.each Session.relay

/-- The bridge after something happened and was relayed. -/
def next (b : Bridge Tree) (o : Occurrence) : Bridge Tree :=
  (b.occur o).drain

/-- The bridge after several things. -/
def goOn (occurrences : List Occurrence) (b : Bridge Tree) : Bridge Tree :=
  occurrences.foldl next b

/-- The changes that the tree reports when something happens, in order. -/
def reports (b : Bridge Tree) : Occurrence → List (ChangeKind × String)
  | .call id call =>
    match b.session? id with
    | some _ => call.reports b.policy.guard b.host
    | none => []
  | .move id m =>
    match b.session? id with
    | some s => m.reports b.policy.guard s b.host
    | none => []
  | .onHost a _ => a.reports b.host
  | .openSession | .setGuard _ => []

/-- The watch of a session behind which the watcher with a number stands, and its URI. -/
def watch? (id number : Nat) (b : Bridge Tree) : Option (String × Subscription) :=
  (b.session? id).bind fun s => s.registry.watch? number

/-- The notifications that have been queued for a session. -/
def notices (id : Nat) (b : Bridge Tree) : List Message :=
  ((b.session? id).map Session.notices).getD []

/-- What the next turn of the relays tells a session, each notification with the number of the
watcher that it comes from. -/
def relays (id : Nat) (b : Bridge Tree) : List (Nat × Message) :=
  ((b.session? id).map (Session.relays b.host)).getD []

/-- What holds between a bridge's sessions and its watchers at any time. -/
structure Attentive (b : Bridge Tree) : Prop where
  balanced : b.Balanced
  aligned : ∀ s ∈ b.sessions, ∀ uri sub, s.registry.table.get? uri = some sub →
    ∀ w ∈ b.host.watchers, w.id = sub.watcher →
      w.uri = uri ∧ (s.writing = true → w.listening = true)

/-- No watch has anything left to tell, and all has been written. -/
structure Calm (b : Bridge Tree) : Prop extends Attentive b where
  quiet : ∀ w ∈ b.host.watchers, w.Quiet
  outbound : ∀ s ∈ b.sessions, s.outbound = []

/-- The bridge before and after something that reports changes, before they are relayed. -/
structure Stirred (changes : List (ChangeKind × String)) (b b' : Bridge Tree) : Prop
    extends Attentive b' where
  told : ∀ w' ∈ b'.host.watchers, ∃ w : Watcher, w.Quiet ∧ w' = w.told changes
  notices : ∀ id, b'.notices id = b.notices id
  next : b.host.nextWatcher ≤ b'.host.nextWatcher
  same : changes = [] ∨ ∀ id number, b'.watch? id number = b.watch? id number
  older : ∀ id number, number < b.host.nextWatcher →
    b'.watch? id number = b.watch? id number ∨ b'.watch? id number = none
  stopped : ∀ id s, b.session? id = some s → s.writing = false →
    ∃ s', b'.session? id = some s' ∧ s'.writing = false

namespace Attentive

variable {b : Bridge Tree}

theorem nodup_numbers (h : b.Attentive) {s : Session} (hs : s ∈ b.sessions) :
    s.registry.numbers.Nodup :=
  (List.nodup_flatMap.mp h.balanced.nodup_numbersOf).1 s hs

/-- All sessions are told what their watches noted, and no watch has anything left to tell. -/
theorem drain_eq (h : b.Attentive) :
    ∃ t, b.drain = { b with sessions := b.sessions.map (Session.relayed b.host), host := t } ∧
      Tree.Cleared (numbersOf b.sessions) (deafOf b.sessions) b.host t := by
  obtain ⟨hsessions, hcleared⟩ := eachOf_relay h.balanced.nodup_numbersOf b.host
  refine ⟨_, ?_, hcleared⟩
  rw [drain, each, ← hsessions]

theorem session?_drain (h : b.Attentive) (id : Nat) :
    b.drain.session? id = (b.session? id).map (Session.relayed b.host) := by
  obtain ⟨t, heq, -⟩ := h.drain_eq
  rw [heq, session?, session?, List.find?_map]
  simp only [Function.comp_def, Session.id_relayed]

theorem watch?_drain (h : b.Attentive) (id number : Nat) :
    b.drain.watch? id number = b.watch? id number := by
  rw [watch?, h.session?_drain, Option.bind_map, watch?]
  simp only [Function.comp_def, Session.registry_relayed]

theorem notices_drain (h : b.Attentive) (id : Nat) :
    b.drain.notices id = b.notices id ++ (b.relays id).map Prod.snd := by
  rw [notices, h.session?_drain, notices, relays]
  cases b.session? id with
  | none => rfl
  | some s => exact Session.notices_relayed

/-- A session that can be written to makes no watcher deaf. -/
theorem not_mem_deafOf (h : b.Attentive) {s : Session} (hs : s ∈ b.sessions)
    (hwriting : s.writing = true) {n : Nat} (hn : n ∈ s.registry.numbers) :
    n ∉ deafOf b.sessions := by
  intro hmem
  obtain ⟨s', hs', hn'⟩ := List.mem_flatMap.mp hmem
  unfold Tree.deafened at hn'
  split at hn'
  · cases hn'
  next hstopped =>
    obtain rfl := h.balanced.session_injective hs hs' hn hn'
    exact hstopped hwriting

end Attentive

section Sessions

variable {b : Bridge Tree}

theorem onSession_of_none {id : Nat} (h : b.session? id = none)
    (f : Session → Tree → Session × Tree) : b.onSession id f = b := by
  have hne : ∀ s ∈ b.sessions, s.id ≠ id := by simpa [session?] using h
  rw [onSession, each, eachOf_of_ne f hne]

/-- What is done to the session with a number is done to no other. -/
theorem session?_onSession (h : b.Balanced) {f : Session → Tree → Session × Tree}
    (hid : ∀ s t, (f s t).1.id = s.id) (id id' : Nat) :
    (b.onSession id f).session? id' =
      if id' = id then (b.session? id).map fun s => (f s b.host).1 else b.session? id' := by
  cases hsession : b.session? id with
  | none =>
    rw [onSession_of_none hsession]
    split
    next heq => rw [heq, hsession, Option.map_none]
    next => rfl
  | some s =>
    obtain ⟨rfl, hs⟩ : s.id = id ∧ s ∈ b.sessions :=
      ⟨by simpa using List.find?_some hsession, List.mem_of_find?_eq_some hsession⟩
    obtain ⟨before, after, heq, hbefore, hafter⟩ := h.exists_split hs
    rw [onSession_of_split heq hbefore hafter f, session?, session?, heq, List.find?_append,
      List.find?_append]
    split
    next hsame =>
      subst hsame
      have hnone : (before.find? fun s' => decide (s'.id = s.id)) = none :=
        List.find?_eq_none.mpr (by simpa using hbefore)
      simp [hnone, hid]
    next hother =>
      have hne : s.id ≠ id' := fun h => hother h.symm
      simp [hid, hne]

theorem session?_openSession (b : Bridge Tree) (id : Nat) :
    b.openSession.2.session? id = b.session? id ∨
      b.session? id = none ∧
        b.openSession.2.session? id = some (.start (b.sessions.length + 1)) := by
  have hsessions : b.openSession.2.sessions = b.sessions ++ [.start (b.sessions.length + 1)] := rfl
  rw [session?, hsessions, List.find?_append]
  cases hfind : b.session? id with
  | some s =>
    rw [session?] at hfind
    simp [hfind]
  | none =>
    rw [session?] at hfind
    by_cases hid : b.sessions.length + 1 = id <;> simp [hfind, Session.start, hid]

theorem watch?_openSession (b : Bridge Tree) (id number : Nat) :
    b.openSession.2.watch? id number = b.watch? id number := by
  rw [watch?, watch?]
  rcases b.session?_openSession id with heq | ⟨hnone, heq⟩
  · rw [heq]
  · rw [heq, hnone]
    rfl

end Sessions

namespace Calm

variable {b : Bridge Tree}

theorem fresh (h : b.Calm) : ∀ w ∈ b.host.watchers, w.id < b.host.nextWatcher := fun _ hw =>
  h.balanced.shared.fresh _ (List.mem_map_of_mem hw)

theorem watcher_lt (h : b.Calm) {s : Session} (hs : s ∈ b.sessions) {uri : String}
    {sub : Subscription} (hget : s.registry.table.get? uri = some sub) :
    sub.watcher < b.host.nextWatcher := by
  refine h.balanced.shared.fresh _ (h.balanced.shared.perm.mem_iff.mp ?_)
  refine List.mem_append_left _ (List.mem_flatMap.mpr ⟨s, hs, ?_⟩)
  exact Balanced.mem_numbers hget

theorem isQuiet (h : b.Calm) : b.host.IsQuiet :=
  fun w hw => (h.quiet w hw).pending

/-- The tree changes, and its watchers are told. -/
theorem onHost (h : b.Calm) {changes : List (ChangeKind × String)} {t : Tree}
    (htold : Tree.Told changes b.host t) : Stirred changes b { b with host := t } := by
  have hwatcher {w' : Watcher} (hw' : w' ∈ t.watchers) :
      ∃ w ∈ b.host.watchers, w' = w.told changes := by
    rw [htold.watchers] at hw'
    obtain ⟨w, hw, rfl⟩ := List.mem_map.mp hw'
    exact ⟨w, hw, rfl⟩
  constructor
  · have hshared := h.balanced.shared.of_sameNumbers htold.sameNumbers
    refine ⟨⟨h.balanced.methods, h.balanced.ids, hshared⟩,
      fun s hs uri sub hget w' hw' hid => ?_⟩
    obtain ⟨w, hw, rfl⟩ := hwatcher hw'
    rw [Watcher.told_id] at hid
    rw [Watcher.told_uri, Watcher.told_listening]
    exact h.aligned s hs uri sub hget w hw hid
  · intro w' hw'
    obtain ⟨w, hw, rfl⟩ := hwatcher hw'
    exact ⟨w, h.quiet w hw, rfl⟩
  · exact fun _ => rfl
  · exact Nat.le_of_eq htold.next.symm
  · exact .inr fun _ _ => rfl
  · exact fun _ _ _ => .inl rfl
  · exact fun _ s hsession hstopped => ⟨s, hsession, hstopped⟩

theorem refl (h : b.Calm) : Stirred [] b b :=
  h.onHost (.of_same rfl rfl)

theorem setGuard (h : b.Calm) (g : Guard) : Stirred [] b (b.setGuard g) := by
  have hsame := h.refl
  exact ⟨⟨⟨h.balanced.methods, h.balanced.ids, h.balanced.shared⟩, h.aligned⟩,
    hsame.told, hsame.notices, hsame.next, hsame.same, hsame.older, hsame.stopped⟩

theorem openSession (h : b.Calm) : Stirred [] b b.openSession.2 := by
  constructor
  · refine ⟨h.balanced.openSession.balanced, fun s hs uri sub hget => ?_⟩
    rcases List.mem_append.mp hs with hs | hs
    · exact h.aligned s hs uri sub hget
    · rw [List.mem_singleton.mp hs] at hget
      cases hget
  · exact h.refl.told
  · intro id
    rw [notices, notices]
    rcases b.session?_openSession id with heq | ⟨hnone, heq⟩
    · rw [heq]
    · rw [heq, hnone]
      rfl
  · exact Nat.le_refl _
  · exact .inr b.watch?_openSession
  · exact fun id number _ => .inl (b.watch?_openSession id number)
  · intro id s hsession hstopped
    rcases b.session?_openSession id with heq | ⟨hnone, -⟩
    · exact ⟨s, heq.trans hsession, hstopped⟩
    · cases hnone.symm.trans hsession

/-- Watches of before keep their watchers, since a new watcher has a number of its own. -/
theorem aligned_of_stirred (h : b.Calm) {changes : List (ChangeKind × String)} {r r' : Registry}
    {t : Tree} (hstirred : FileBridge.Stirred changes r b.host r' t) {s : Session}
    (hs : s ∈ b.sessions) {uri : String} {sub : Subscription}
    (hget : s.registry.table.get? uri = some sub) {w : Watcher} (hw : w ∈ t.watchers)
    (hid : w.id = sub.watcher) : w.uri = uri ∧ (s.writing = true → w.listening = true) := by
  rcases hstirred.watchers w hw with ⟨old, hold, rfl⟩ | ⟨-, -, hnext⟩
  · rw [Watcher.told_id] at hid
    rw [Watcher.told_uri, Watcher.told_listening]
    exact h.aligned s hs uri sub hget old hold hid
  · have hlt := h.watcher_lt hs hget
    omega

theorem watch?_of_stirred (h : b.Calm) {changes : List (ChangeKind × String)} {s : Session}
    {r : Registry} {t : Tree} (hstirred : FileBridge.Stirred changes s.registry b.host r t)
    (hs : s ∈ b.sessions) {number : Nat} (hlt : number < b.host.nextWatcher) :
    r.watch? number = s.registry.watch? number ∨ r.watch? number = none := by
  cases hwatch : r.watch? number with
  | none => exact .inr rfl
  | some a =>
    obtain ⟨hget, rfl⟩ := Registry.get?_of_watch? hwatch
    rcases hstirred.watches a.1 a.2 hget with hold | ⟨hnext, -⟩
    · exact .inl (Registry.watch?_of_get? (h.nodup_numbers hs) hold).symm
    · omega

/-- Something happens to one session, and the watchers are told of the changes. -/
theorem onSession (h : b.Calm) (id : Nat) {f : Session → Tree → Session × Tree}
    (hf : Session.Sound f) {changes : Session → List (ChangeKind × String)}
    (hstirs : ∀ s ∈ b.sessions, Session.Stirs (changes s) s b.host (f s b.host)) :
    Stirred ((b.session? id).map changes |>.getD []) b (b.onSession id f) := by
  cases hsession : b.session? id with
  | none =>
    rw [onSession_of_none hsession]
    exact h.refl
  | some s =>
    obtain ⟨hid, hs⟩ : s.id = id ∧ s ∈ b.sessions :=
      ⟨by simpa using List.find?_some hsession, List.mem_of_find?_eq_some hsession⟩
    subst hid
    obtain ⟨before, after, heq, hbefore, hafter⟩ := h.balanced.exists_split hs
    have hbalanced := (h.balanced.onSession hf s.id).balanced
    have hnew := hstirs s hs
    have hsession' := session?_onSession h.balanced hf.id s.id
    rw [onSession_of_split heq hbefore hafter f] at hbalanced hsession' ⊢
    show Stirred (changes s) b _
    have hother {s₀ : Session} (hs₀ : s₀ ∈ before ++ (f s b.host).1 :: after) :
        s₀ = (f s b.host).1 ∨ s₀ ∈ b.sessions := by
      rw [heq]
      simp only [List.mem_append, List.mem_cons] at hs₀ ⊢
      tauto
    constructor
    · refine ⟨hbalanced, fun s₀ hs₀ uri sub hget w' hw' hw'id => ?_⟩
      rcases hother hs₀ with rfl | hs₀
      · rcases hnew.stirred.watches uri sub hget with hold | ⟨hnext, halign⟩
        · exact (h.aligned_of_stirred hnew.stirred hs hold hw' hw'id).imp_right
            fun hlistening hwrites => hlistening (hnew.writing hwrites)
        · exact (halign w' hw' (hw'id.trans hnext)).imp_right fun hlistening _ => hlistening
      · exact h.aligned_of_stirred hnew.stirred hs₀ hget hw' hw'id
    · intro w' hw'
      rcases hnew.stirred.watchers w' hw' with ⟨w, hw, rfl⟩ | ⟨hnil, hquiet, -⟩
      · exact ⟨w, h.quiet w hw, rfl⟩
      · exact ⟨w', hquiet, by rw [hnil, Watcher.told_nil]⟩
    · intro id
      rw [notices, notices, hsession']
      split
      next heq =>
        subst heq
        rw [hsession, Option.map_some, Option.map_some, Option.map_some, hnew.notices]
      next => rfl
    · exact hnew.stirred.next
    · refine hnew.stirred.same.imp_right fun hregistry id number => ?_
      rw [watch?, watch?, hsession']
      split
      next heq =>
        subst heq
        rw [hsession, Option.map_some, Option.bind_some, Option.bind_some, hregistry]
      next => rfl
    · intro id number hlt
      rw [watch?, watch?, hsession']
      split
      next heq =>
        subst heq
        rw [hsession, Option.map_some, Option.bind_some, Option.bind_some]
        exact h.watch?_of_stirred hnew.stirred hs hlt
      next => exact .inl rfl
    · intro id s₀ hs₀ hstopped
      rw [hsession']
      split
      next heq =>
        subst heq
        obtain rfl := Option.some.inj (hsession.symm.trans hs₀)
        refine ⟨_, congrArg (Option.map _) hsession, ?_⟩
        refine Bool.eq_false_iff.mpr fun hwrites => ?_
        cases hstopped.symm.trans (hnew.writing hwrites)
      next => exact ⟨s₀, hs₀, hstopped⟩

theorem occur (h : b.Calm) (o : Occurrence) : Stirred (b.reports o) b (b.occur o) := by
  cases o with
  | openSession => exact h.openSession
  | setGuard g => exact h.setGuard g
  | onHost a hspares => exact h.onHost (Tree.told_after hspares)
  | call id call =>
    have hcall := h.onSession id (Session.sound_call b.policy call) fun s _ =>
      ⟨Call.stirred_run (c := s.context b.policy b.host) h.fresh call, rfl, fun hwrites => hwrites⟩
    simp only [reports]
    cases hsession : b.session? id with
    | none =>
      rw [hsession] at hcall
      exact hcall
    | some s =>
      rw [hsession] at hcall
      exact hcall
  | move id m =>
    have hmove := h.onSession id (Session.sound_move b.policy b.limit m) fun s hs =>
      Session.stirs_move h.fresh h.isQuiet (h.outbound s hs) b.limit m
    simp only [reports, Bridge.occur, h.balanced.methods]
    cases hsession : b.session? id with
    | none =>
      rw [hsession] at hmove
      exact hmove
    | some s =>
      rw [hsession] at hmove
      exact hmove

end Calm

namespace Stirred

variable {changes : List (ChangeKind × String)} {b b' : Bridge Tree}

/-- After their turn the relays have nothing left to tell. -/
theorem drain (h : Stirred changes b b') : b'.drain.Calm := by
  obtain ⟨t, heq, hcleared⟩ := h.drain_eq
  have hbalanced : b'.drain.Balanced := (h.balanced.each Session.sound_relay).balanced
  rw [heq] at hbalanced ⊢
  refine ⟨⟨hbalanced, fun s hs uri sub hget w' hw' hid => ?_⟩, fun w' hw' => ?_, fun s hs => ?_⟩
  · obtain ⟨s₀, hs₀, rfl⟩ := List.mem_map.mp hs
    obtain ⟨w, hw, hemptied⟩ := hcleared.exists_watcher hw'
    rw [Session.registry_relayed] at hget
    rw [hemptied.id] at hid
    obtain ⟨huri, hlistening⟩ := h.aligned s₀ hs₀ uri sub hget w hw hid
    refine ⟨hemptied.uri.trans huri, fun hwrites => ?_⟩
    have hwriting : s₀.writing = true := by
      rw [Session.writing_relayed] at hwrites
      exact (Bool.and_eq_true_iff.mp hwrites).1
    have hnot := h.not_mem_deafOf hs₀ hwriting (Balanced.mem_numbers hget)
    rw [hemptied.listening (hid ▸ hnot), hlistening hwriting]
  · obtain ⟨w, hw, hemptied⟩ := hcleared.exists_watcher hw'
    have hmem : w.id ∈ numbersOf b'.sessions := by
      have hid := h.balanced.shared.perm.mem_iff.mpr (List.mem_map_of_mem (f := Watcher.id) hw)
      rwa [List.append_nil] at hid
    obtain ⟨w, hquiet, rfl⟩ := h.told w hw
    refine ⟨hemptied.pending hmem, ?_⟩
    rw [hemptied.uri, hemptied.path, Watcher.told_uri, Watcher.told_path, hquiet.path]
  · obtain ⟨s₀, -, rfl⟩ := List.mem_map.mp hs
    rfl

end Stirred

theorem calm_start (policy : Policy) (limit : Nat) (now : Int) :
    (start policy limit (Tree.empty now)).Calm where
  balanced := balanced_start policy limit now
  aligned _ hs := by cases hs
  quiet _ hw := by cases hw
  outbound _ hs := by cases hs

theorem Calm.next {b : Bridge Tree} (h : b.Calm) (o : Occurrence) : (b.next o).Calm :=
  (h.occur o).drain

theorem Calm.goOn {b : Bridge Tree} (h : b.Calm) (occurrences : List Occurrence) :
    (b.goOn occurrences).Calm := by
  induction occurrences generalizing b with
  | nil => exact h
  | cons o rest ih => exact ih (h.next o)

end Bridge

end FileBridge
