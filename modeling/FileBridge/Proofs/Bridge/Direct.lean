import FileBridge.Proofs.Bridge.Rest
import FileBridge.Proofs.Rpc.RoundTrip

/-!
A request that arrives at a bridge at rest. Main statement: it leaves the bridge as if its method
had been run on the session directly, apart from the response that is written before the
notifications.
-/
namespace FileBridge

open Rpc

namespace Session.Resting

variable {limit : Nat} {s : Session}

theorem peerDone_eq (h : s.Resting limit) (hreading : s.reading = true) : s.peerDone = false := by
  rcases readFrames_snd limit s.peerDone s.unread with ⟨_, -, hdone, -⟩ | ⟨hstop, -⟩
  · exact hdone
  · exact absurd (congrArg Prod.snd (h.starved hreading)) (hstop s.unread)

theorem unread_eq (h : s.Resting limit) (hreading : s.reading = true) {messages : List Message}
    (hunread : s.unread = messages.flatMap Message.encode) : s.unread = [] := by
  have hstarved := congrArg Prod.snd (h.starved hreading)
  rw [h.peerDone_eq hreading, hunread] at hstarved
  rcases readFrames_whole limit messages with hnil | ⟨cause, hfailed⟩
  · rw [hunread]
    exact Stop.starved.inj (hstarved.symm.trans hnil)
  · rw [hfailed] at hstarved
    cases hstarved

/-- The request becomes the only task. -/
theorem read_request (h : s.Resting limit) (hreading : s.reading = true) (hunread : s.unread = [])
    (hlimit : limit < natBound64) {r : Request}
    (hsendable : (Message.request r.id r.method r.params).Sendable limit) (t : Tree) :
    (s.feed (Message.request r.id r.method r.params).encode false).read limit t =
      ({ s with tasks := [.handle r] }, t) := by
  have hframes : readFrames limit false (Message.request r.id r.method r.params).encode =
      ([.message (.request r.id r.method r.params)], .starved []) := by
    have hread : Rpc.read limit false (Message.request r.id r.method r.params).encode =
        (Arrival.message (.request r.id r.method r.params)).reading [] := by
      rw [← List.append_nil (Message.encode _)]
      exact read_encode hlimit hsendable false []
    rw [readFrames_arrival hread, readFrames_starved_nil]
  simp only [read, feed, hreading, if_true, hunread, List.nil_append, h.peerDone_eq hreading,
    Bool.or_false, hframes, List.foldl_cons, List.foldl_nil]
  simp only [accept, schedule, Task.isWrite, Bool.false_and, Bool.false_eq_true, if_false, h.tasks,
    List.nil_append]

/-- The request is answered, and the answer is written at once. -/
theorem work_request (h : s.Resting limit) (hwriting : s.writing = true) (methods : Methods Tree)
    (policy : Policy) (r : Request) (t : Tree) :
    { s with tasks := [.handle r] }.work methods policy t =
      ({ s with
          registry := (methods.dispatch r.method r.params (s.context policy t)).2.registry
          written := s.written ++ [.response (some r.id)
            (methods.dispatch r.method r.params (s.context policy t)).1] },
        (methods.dispatch r.method r.params (s.context policy t)).2.host) := by
  have hdisposed := h.writes hwriting
  simp only [work, List.foldl_cons, List.foldl_nil, perform, handle, send, hwriting, if_true, write,
    h.outbound, List.nil_append, hdisposed, Bool.not_false, Bool.and_true, context, h.tasks]

end Session.Resting

namespace Bridge

variable {b : Bridge Tree} {s : Session} {before after : List Session}

theorem session?_of_split (heq : b.sessions = before ++ s :: after)
    (hbefore : ∀ s' ∈ before, s'.id ≠ s.id) : b.session? s.id = some s := by
  have hnone : (before.find? fun s' => decide (s'.id = s.id)) = none :=
    List.find?_eq_none.mpr (by simpa using hbefore)
  rw [session?, heq, List.find?_append, hnone]
  simp

/-- The bridge with one session and the tree replaced. -/
def replace (before after : List Session) (s : Session) (t : Tree) (b : Bridge Tree) :
    Bridge Tree :=
  { b with sessions := before ++ s :: after, host := t }

/-- What the other sessions leave alone is done to one session only. -/
theorem each_replace {f : Session → Tree → Session × Tree}
    (hbefore : ∀ s' ∈ before, ∀ t, f s' t = (s', t))
    (hafter : ∀ s' ∈ after, ∀ t, f s' t = (s', t)) (s : Session) (t : Tree) :
    (b.replace before after s t).each f = b.replace before after (f s t).1 (f s t).2 := by
  rw [each, replace, eachOf_append, eachOf_eq_self fun s' hs' => hbefore s' hs' t]
  simp only [eachOf, eachOf_eq_self fun s' hs' => hafter s' hs' (f s t).2]
  rfl

theorem ne_id_eachOf_relay {sessions : List Session} {id : Nat} (h : ∀ s ∈ sessions, s.id ≠ id)
    (t : Tree) : ∀ s ∈ (eachOf Session.relay sessions t).1, s.id ≠ id :=
  forall_eachOf (fun s t hs => by rwa [(s.continues_relay t).id]) h t

/-- What the relays tell a session does not depend on what has been written to it before. -/
theorem takeWritten_relay (hbefore : ∀ s' ∈ before, s'.id ≠ s.id)
    (hafter : ∀ s' ∈ after, s'.id ≠ s.id) (houtbound : s.outbound = []) (t : Tree) :
    ∃ notices rest, ∀ written : List Message,
      let b' := (b.replace before after { s with written := written } t).each Session.relay
      b'.takeWritten s.id = (written ++ notices, rest) ∧
        (b'.session? s.id).any Session.writing = (s.writing && !s.disposed) := by
  let first := eachOf Session.relay before t
  let second := eachOf Session.relay after (s.registry.relay s.writing first.2).2
  let relayed (written : List Message) : Session :=
    { s with written := written, writing := s.writing && !s.disposed }
  refine ⟨s.told first.2,
    { b with sessions := first.1 ++ relayed [] :: second.1, host := second.2 }, fun written => ?_⟩
  have hrelay : (b.replace before after { s with written := written } t).each Session.relay =
      { b with
        sessions := first.1 ++ relayed (written ++ s.told first.2) :: second.1
        host := second.2 } := by
    have hsession : { s with written := written }.relay first.2 =
        (relayed (written ++ s.told first.2), (s.registry.relay s.writing first.2).2) := by
      simp only [Session.relay_told, houtbound, List.nil_append, relayed]
      rfl
    rw [each, replace, eachOf_append]
    simp only [eachOf, show (eachOf Session.relay before t).2 = first.2 from rfl, hsession]
    rfl
  have hfirst : ∀ s' ∈ first.1, s'.id ≠ s.id := ne_id_eachOf_relay hbefore t
  have hsecond : ∀ s' ∈ second.1, s'.id ≠ s.id := ne_id_eachOf_relay hafter _
  intro b'
  have hsessions : b'.sessions = first.1 ++ relayed (written ++ s.told first.2) :: second.1 := by
    rw [show b' = _ from hrelay]
  have hfound : b'.session? s.id = some (relayed (written ++ s.told first.2)) :=
    session?_of_split hsessions hfirst
  refine ⟨?_, by rw [hfound]; rfl⟩
  rw [takeWritten, hfound, show s.id = (relayed (written ++ s.told first.2)).id from rfl,
    onSession_of_split hsessions hfirst hsecond, show b' = _ from hrelay]
  rfl

namespace AtRest

/-- Only the session that was replaced reads and works before all relays take their turn. -/
theorem settle_replace (h : b.AtRest) (heq : b.sessions = before ++ s :: after) {s₁ s₂ : Session}
    {t₁ t₂ : Tree} {s' : Session} {t : Tree} (hread : s'.read b.limit t = (s₁, t₁))
    (hwork : s₁.work b.methods b.policy t₁ = (s₂, t₂)) :
    (b.replace before after s' t).settle =
      (b.replace before after s₂ t₂).each Session.relay := by
  have hbefore : ∀ s' ∈ before, s'.Resting b.limit := fun s' hs' =>
    h.resting s' (heq ▸ List.mem_append_left _ hs')
  have hafter : ∀ s' ∈ after, s'.Resting b.limit := fun s' hs' =>
    h.resting s' (heq ▸ List.mem_append_right _ (List.mem_cons_of_mem _ hs'))
  rw [settle, show (b.replace before after s' t).limit = b.limit from rfl,
    each_replace (fun s' hs' => (hbefore s' hs').read_eq) (fun s' hs' => (hafter s' hs').read_eq),
    hread]
  show (((b.replace before after s₁ t₁).each (Session.work b.methods b.policy)).each _) = _
  rw [each_replace (fun s' hs' => (hbefore s' hs').work_eq _ _)
    (fun s' hs' => (hafter s' hs').work_eq _ _), hwork]

variable {r : Request}

theorem receive_eq (h : b.AtRest) (heq : b.sessions = before ++ s :: after)
    (hbefore : ∀ s' ∈ before, s'.id ≠ s.id) (hafter : ∀ s' ∈ after, s'.id ≠ s.id)
    (hreading : s.reading = true) (hwriting : s.writing = true) (hunread : s.unread = [])
    (hlimit : b.limit < natBound64)
    (hsendable : (Message.request r.id r.method r.params).Sendable b.limit) :
    let d := b.methods.dispatch r.method r.params (s.context b.policy b.host)
    b.receive s.id (Message.request r.id r.method r.params).encode false =
      (b.replace before after { s with
        registry := d.2.registry
        written := s.written ++ [.response (some r.id) d.1] } d.2.host).each Session.relay := by
  intro d
  have hs : s.Resting b.limit := h.resting s (heq ▸ List.mem_append_right _ List.mem_cons_self)
  rw [receive, onSession_of_split heq hbefore hafter]
  exact h.settle_replace heq (hs.read_request hreading hunread hlimit hsendable b.host)
    (hs.work_request hwriting _ _ r b.host)

theorem operate_replace (h : b.AtRest) (heq : b.sessions = before ++ s :: after)
    (hbefore : ∀ s' ∈ before, s'.id ≠ s.id) (hafter : ∀ s' ∈ after, s'.id ≠ s.id) {α : Type}
    (f : Context Tree → α × Context Tree) :
    let d := f (s.context b.policy b.host)
    b.operate s.id f =
      (some d.1, (b.replace before after { s with registry := d.2.registry } d.2.host).each
        Session.relay) := by
  intro d
  have hs : s.Resting b.limit := h.resting s (heq ▸ List.mem_append_right _ List.mem_cons_self)
  have hregistry : { s with registry := d.2.registry }.Resting b.limit :=
    ⟨hs.starved, hs.tasks, hs.outbound, hs.writes⟩
  simp only [operate, session?_of_split heq hbefore, onSession_of_split heq hbefore hafter]
  refine Prod.ext rfl ?_
  exact h.settle_replace heq (hregistry.read_eq _) (hregistry.work_eq _ _ _)

/-- A request that arrives is answered with what its method gives when it is run directly, and has
the same effect on the tree, on the watches and on all sessions. -/
theorem receive_request (h : b.AtRest) (hs : s ∈ b.sessions) (hreading : s.reading = true)
    (hwriting : s.writing = true) (hunread : s.unread = []) (hlimit : b.limit < natBound64)
    (hsendable : (Message.request r.id r.method r.params).Sendable b.limit) :
    let direct := b.operate s.id (b.methods.dispatch r.method r.params)
    let outcome := (b.methods.dispatch r.method r.params (s.context b.policy b.host)).1
    let b' := b.receive s.id (Message.request r.id r.method r.params).encode false
    direct.1 = some outcome ∧
      (∃ notices, (direct.2.takeWritten s.id).1 = s.written ++ notices ∧
        b'.takeWritten s.id = (s.written ++ .response (some r.id) outcome :: notices,
          (direct.2.takeWritten s.id).2)) ∧
      (b'.session? s.id).any Session.writing = true := by
  intro direct outcome b'
  obtain ⟨before, after, heq, hbefore, hafter⟩ := h.balanced.exists_split hs
  have hdisposed := (h.resting s hs).writes hwriting
  have hdirect : direct = _ := h.operate_replace heq hbefore hafter _
  have hreceive : b' = _ :=
    h.receive_eq heq hbefore hafter hreading hwriting hunread hlimit hsendable
  let d := b.methods.dispatch r.method r.params (s.context b.policy b.host)
  obtain ⟨notices, rest, hrelay⟩ := takeWritten_relay (b := b)
    (s := { s with registry := d.2.registry }) hbefore hafter (h.resting s hs).outbound d.2.host
  obtain ⟨htaken, -⟩ := hrelay s.written
  obtain ⟨htaken', hwrites⟩ := hrelay (s.written ++ [.response (some r.id) outcome])
  rw [hdirect, hreceive]
  refine ⟨rfl, ⟨notices, congrArg Prod.fst htaken, ?_⟩, ?_⟩
  · rw [show _ = (s.written ++ notices, rest) from htaken]
    rw [List.append_assoc] at htaken'
    exact htaken'
  · refine Eq.trans hwrites ?_
    rw [hwriting, hdisposed, Bool.not_false, Bool.and_self]

end AtRest

end Bridge

end FileBridge
