import Mathlib.Data.List.Forall2
import FileBridge.Proofs.Bridge.Watches
import FileBridge.Proofs.Service.Modes

/-!
Two bridges that differ in the mode of error codes only, and to which the same happens. Main
statement: their trees, their sessions and all that goes out stay the same, but for the codes of
failures.
-/
namespace FileBridge

open Rpc

/-- Messages in the two modes: the same, or answers that differ in the code of a failure only. -/
inductive Rpc.Message.Twins : Message → Message → Prop where
  | request (id : RequestId) (method : String) (params : Json) :
    Twins (.request id method params) (.request id method params)
  | notification (method : String) (params : Json) :
    Twins (.notification method params) (.notification method params)
  | response (id : Option RequestId) {outcome outcome' : Except Fault Json}
    (h : AnswersAlike outcome outcome') : Twins (.response id outcome) (.response id outcome')

namespace Session

/-- Sessions in the two modes are the same, but for the codes in what they have sent. -/
structure Twins (s s' : Session) : Prop where
  state : SameState s s'
  tasks : s'.tasks = s.tasks
  outbound : List.Forall₂ Message.Twins s.outbound s'.outbound
  written : List.Forall₂ Message.Twins s.written s'.written

/-- What two bridges do to sessions that are twins leaves twins and the same tree. -/
def Mirrors (f f' : Session → Tree → Session × Tree) : Prop :=
  ∀ s s' t, Twins s s' → Twins (f s t).1 (f' s' t).1 ∧ (f s t).2 = (f' s' t).2

theorem twins_iff {s s' : Session} :
    Twins s s' ↔ ∃ outbound written, s = { s' with outbound := outbound, written := written } ∧
      List.Forall₂ Message.Twins outbound s'.outbound ∧
        List.Forall₂ Message.Twins written s'.written := by
  constructor
  · rintro ⟨⟨hid, hunread, hdone, hreading, hregistry, hdisposed, hwriting⟩, htasks, houtbound,
      hwritten⟩
    refine ⟨s.outbound, s.written, ?_, houtbound, hwritten⟩
    rw [hid, hunread, hdone, hreading, hregistry, hdisposed, hwriting, htasks]
  · rintro ⟨outbound, written, rfl, houtbound, hwritten⟩
    exact ⟨⟨rfl, rfl, rfl, rfl, rfl, rfl, rfl⟩, rfl, houtbound, hwritten⟩

theorem Mirrors.of_session {f : Session → Session}
    (h : ∀ s outbound written, f { s with outbound := outbound, written := written } =
      { f s with outbound := outbound, written := written } ∧
        (f s).outbound = s.outbound ∧ (f s).written = s.written) :
    Mirrors (fun s t => (f s, t)) fun s t => (f s, t) := by
  intro s s' t htwins
  obtain ⟨outbound, written, rfl, houtbound, hwritten⟩ := twins_iff.mp htwins
  obtain ⟨hsession, hsame, hsame'⟩ := h s' outbound written
  refine ⟨twins_iff.mpr ⟨outbound, written, hsession, ?_, ?_⟩, rfl⟩
  · rwa [hsame]
  · rwa [hsame']

theorem Mirrors.comp {f f' g g' : Session → Tree → Session × Tree} (hg : Mirrors g g')
    (hf : Mirrors f f') :
    Mirrors (fun s t => g (f s t).1 (f s t).2) fun s t => g' (f' s t).1 (f' s t).2 := by
  intro s s' t htwins
  obtain ⟨hsession, htree⟩ := hf s s' t htwins
  dsimp only
  rw [htree]
  exact hg _ _ _ hsession

theorem Mirrors.refl : Mirrors (fun s t => (s, t)) fun s t => (s, t) :=
  fun _ _ _ htwins => ⟨htwins, rfl⟩

/-- What is done may be decided by anything that twins have in common. -/
theorem Mirrors.of_cases {f f' : Session → Tree → Session × Tree}
    (h : ∀ s s' t, Twins s s' → ∃ g g', Mirrors g g' ∧ f s t = g s t ∧ f' s' t = g' s' t) :
    Mirrors f f' := by
  intro s s' t htwins
  obtain ⟨g, g', hg, heq, heq'⟩ := h s s' t htwins
  rw [heq, heq']
  exact hg s s' t htwins

theorem Mirrors.foldl {α : Type} {f f' : α → Session → Tree → Session × Tree}
    (hf : ∀ a, Mirrors (f a) (f' a)) (l : List α) :
    Mirrors (fun s t => l.foldl (fun (s, t) a => f a s t) (s, t))
      fun s t => l.foldl (fun (s, t) a => f' a s t) (s, t) := by
  induction l with
  | nil => exact .refl
  | cons a rest ih => exact ih.comp (hf a)

theorem mirrors_send {m m' : Message} (h : m.Twins m') :
    Mirrors (fun s t => (s.send m, t)) fun s t => (s.send m', t) := by
  intro s s' t htwins
  obtain ⟨outbound, written, rfl, houtbound, hwritten⟩ := twins_iff.mp htwins
  refine ⟨?_, rfl⟩
  simp only [send]
  split
  · exact twins_iff.mpr ⟨_, _, rfl, List.rel_append houtbound (.cons h .nil), hwritten⟩
  · exact twins_iff.mpr ⟨_, _, rfl, houtbound, hwritten⟩

theorem mirrors_schedule (task : Task) :
    Mirrors (fun s t => (s.schedule task, t)) fun s t => (s.schedule task, t) := by
  refine .of_session fun s outbound written => ?_
  simp only [schedule]
  split <;> exact ⟨rfl, rfl, rfl⟩

theorem mirrors_feed (bytes : List UInt8) (ended : Bool) :
    Mirrors (fun s t => (s.feed bytes ended, t)) fun s t => (s.feed bytes ended, t) :=
  .of_session fun _ _ _ => ⟨rfl, rfl, rfl⟩

theorem mirrors_tasks (tasks : List Task) :
    Mirrors (fun s t => ({ s with tasks := tasks }, t)) fun s t => ({ s with tasks := tasks }, t) :=
  .of_session fun _ _ _ => ⟨rfl, rfl, rfl⟩

theorem twins_complaint (cause : ReadError) : (complaint cause).Twins (complaint cause) := by
  cases cause <;> exact .response _ (.fault _)

theorem mirrors_accept (a : Arrival) :
    Mirrors (fun s t => (s.accept a, t)) fun s t => (s.accept a, t) := by
  cases a with
  | message m =>
    cases m with
    | request id method params => exact mirrors_schedule _
    | notification method params => exact .refl
    | response id outcome => exact .refl
  | unusable cause => exact (mirrors_schedule _).comp (mirrors_send (twins_complaint cause))

theorem mirrors_foldl_accept (arrivals : List Arrival) :
    Mirrors (fun s t => (arrivals.foldl accept s, t)) fun s t => (arrivals.foldl accept s, t) := by
  induction arrivals with
  | nil => exact .refl
  | cons a rest ih => exact ih.comp (mirrors_accept a)

theorem mirrors_stop : Mirrors stop stop := by
  intro s s' t htwins
  obtain ⟨outbound, written, rfl, houtbound, hwritten⟩ := twins_iff.mp htwins
  have hend := mirrors_schedule .write
  simp only [stop, dispose]
  split
  · exact hend _ _ t (twins_iff.mpr ⟨_, _, rfl, houtbound, hwritten⟩)
  · exact hend _ _ _ (twins_iff.mpr ⟨_, _, rfl, houtbound, hwritten⟩)

theorem mirrors_end :
    Mirrors (fun s t => if s.disposed then (s, t) else s.stop t)
      fun s t => if s.disposed then (s, t) else s.stop t := by
  refine .of_cases fun s s' t htwins => ?_
  simp only [htwins.state.disposed]
  split
  · exact ⟨_, _, .refl, rfl, rfl⟩
  · exact ⟨_, _, mirrors_stop, rfl, rfl⟩

theorem mirrors_read (limit : Nat) : Mirrors (read limit) (read limit) := by
  refine .of_cases fun s s' t htwins => ?_
  obtain ⟨outbound, written, rfl, -, -⟩ := twins_iff.mp htwins
  simp only [read]
  split
  · have haccept := mirrors_foldl_accept (readFrames limit s'.peerDone s'.unread).1
    split
    next rest _ =>
      have hkeep : Mirrors (fun s t => ({ s with unread := rest }, t))
          fun s t => ({ s with unread := rest }, t) :=
        .of_session fun _ _ _ => ⟨rfl, rfl, rfl⟩
      exact ⟨_, _, hkeep.comp haccept, rfl, rfl⟩
    · exact ⟨_, _, mirrors_stop.comp haccept, rfl, rfl⟩
    · exact ⟨_, _, mirrors_stop.comp haccept, rfl, rfl⟩
  · exact ⟨_, _, .refl, rfl, rfl⟩

theorem mirrors_write : Mirrors (fun s t => (s.write, t)) fun s t => (s.write, t) := by
  intro s s' t htwins
  obtain ⟨outbound, written, rfl, houtbound, hwritten⟩ := twins_iff.mp htwins
  exact ⟨twins_iff.mpr ⟨_, _, rfl, .nil, List.rel_append hwritten houtbound⟩, rfl⟩

theorem mirrors_breakOff (sent : Nat) :
    Mirrors (fun s t => (s.breakOff sent, t)) fun s t => (s.breakOff sent, t) := by
  intro s s' t htwins
  obtain ⟨outbound, written, rfl, houtbound, hwritten⟩ := twins_iff.mp htwins
  have htaken := List.forall₂_take sent houtbound
  exact ⟨twins_iff.mpr ⟨_, _, rfl, .nil, List.rel_append hwritten htaken⟩, rfl⟩

theorem mirrors_relay : Mirrors relay relay := by
  have hsend (messages : List ChangeEvent) : Mirrors
      (fun s t => ((messages.map ChangeEvent.notification).foldl send s, t))
      fun s t => ((messages.map ChangeEvent.notification).foldl send s, t) := by
    induction messages with
    | nil => exact .refl
    | cons e rest ih => exact ih.comp (mirrors_send (.notification _ _))
  intro s s' t htwins
  obtain ⟨hsent, -⟩ := hsend (s.registry.relay s.writing t).1 s s' t htwins
  simp only [relay, htwins.state.registry, htwins.state.writing, and_true]
  exact (mirrors_write _ _ t hsent).1

variable (g : Guard)

/-- A request is worked on alike in both modes. -/
theorem mirrors_handle (r : Request) :
    Mirrors (handle .bridge ⟨g, .compact⟩ r) (handle .bridge ⟨g, .detailed⟩ r) := by
  intro s s' t htwins
  obtain ⟨outbound, written, rfl, houtbound, hwritten⟩ := twins_iff.mp htwins
  obtain ⟨hanswer, hcontext⟩ := Methods.dispatch_inMode r.method r.params
    (s'.context ⟨g, .detailed⟩ t)
  have hcompact : { s' with outbound := outbound, written := written }.context ⟨g, .compact⟩ t =
      (s'.context ⟨g, .detailed⟩ t).inMode .compact := rfl
  simp only [handle, hcompact, hcontext]
  refine ⟨(mirrors_send (.response (some r.id) hanswer) _ _ t ?_).1, rfl⟩
  exact twins_iff.mpr ⟨_, _, rfl, houtbound, hwritten⟩

theorem mirrors_perform (task : Task) :
    Mirrors (fun s t => s.perform .bridge ⟨g, .compact⟩ t task)
      fun s t => s.perform .bridge ⟨g, .detailed⟩ t task := by
  cases task with
  | handle r => exact mirrors_handle g r
  | write => exact mirrors_write

theorem mirrors_work : Mirrors (work .bridge ⟨g, .compact⟩) (work .bridge ⟨g, .detailed⟩) := by
  refine .of_cases fun s s' t htwins => ?_
  refine ⟨_, _, mirrors_write.comp ((Mirrors.foldl (mirrors_perform g) s.tasks).comp
    (mirrors_tasks [])), rfl, ?_⟩
  rw [← htwins.tasks]
  rfl

theorem mirrors_move (limit : Nat) (m : Move) :
    Mirrors (move .bridge ⟨g, .compact⟩ limit m) (move .bridge ⟨g, .detailed⟩ limit m) := by
  cases m with
  | arrive bytes =>
    refine .of_session fun s outbound written => ?_
    split <;> exact ⟨rfl, rfl, rfl⟩
  | hangUp => exact mirrors_feed [] true
  | read => exact mirrors_read limit
  | perform place =>
    refine .of_cases fun s s' t htwins => ?_
    simp only [move, performAt, htwins.tasks]
    cases s.tasks[place]? with
    | none => exact ⟨_, _, .refl, rfl, rfl⟩
    | some task =>
      exact ⟨_, _, (mirrors_perform g task).comp (mirrors_tasks (s.tasks.eraseIdx place)), rfl, rfl⟩
  | write => exact mirrors_write
  | breakOff sent => exact mirrors_breakOff sent
  | relay => exact mirrors_relay
  | dispose => exact mirrors_end

end Session

namespace Bridge

/-- Bridges in the two modes are the same, but for the mode and the codes in what sessions have
sent. -/
inductive Twins : Bridge Tree → Bridge Tree → Prop where
  | intro (g : Guard) (limit : Nat) (t : Tree) {sessions sessions' : List Session}
    (h : List.Forall₂ Session.Twins sessions sessions') :
    Twins ⟨.bridge, ⟨g, .compact⟩, limit, t, sessions⟩
      ⟨.bridge, ⟨g, .detailed⟩, limit, t, sessions'⟩

variable {b b' : Bridge Tree} {f f' : Session → Tree → Session × Tree}

theorem twins_eachOf (hf : Session.Mirrors f f') {sessions sessions' : List Session}
    (h : List.Forall₂ Session.Twins sessions sessions') (t : Tree) :
    List.Forall₂ Session.Twins (eachOf f sessions t).1 (eachOf f' sessions' t).1 ∧
      (eachOf f sessions t).2 = (eachOf f' sessions' t).2 := by
  induction h generalizing t with
  | nil => exact ⟨.nil, rfl⟩
  | cons hfirst _ ih =>
    obtain ⟨hsession, htree⟩ := hf _ _ t hfirst
    obtain ⟨hrest, htree'⟩ := ih (f _ t).2
    simp only [eachOf, ← htree]
    exact ⟨.cons hsession hrest, htree'⟩

theorem Twins.each (h : Twins b b') (hf : Session.Mirrors f f') :
    Twins (b.each f) (b'.each f') := by
  obtain ⟨g, limit, t, hsessions⟩ := h
  obtain ⟨hafter, htree⟩ := twins_eachOf hf hsessions t
  simp only [Bridge.each, ← htree]
  exact .intro g limit _ hafter

theorem Twins.onSession (h : Twins b b') (hf : Session.Mirrors f f') (id : Nat) :
    Twins (b.onSession id f) (b'.onSession id f') := by
  refine h.each (.of_cases fun s s' t htwins => ?_)
  simp only [htwins.state.id]
  split
  · exact ⟨_, _, hf, rfl, rfl⟩
  · exact ⟨_, _, .refl, rfl, rfl⟩

theorem Twins.settle (h : Twins b b') : Twins b.settle b'.settle := by
  have hread (limit : Nat) := h.each (Session.mirrors_read limit)
  obtain ⟨g, limit, t, hsessions⟩ := h
  exact ((hread limit).each (Session.mirrors_work g)).each Session.mirrors_relay

theorem Twins.host (h : Twins b b') : b.host = b'.host := by
  cases h
  rfl

theorem Twins.sessions (h : Twins b b') : List.Forall₂ Session.Twins b.sessions b'.sessions := by
  cases h
  assumption

theorem Twins.withHost (h : Twins b b') (t : Tree) :
    Twins { b with host := t } { b' with host := t } := by
  obtain ⟨g, limit, _, hsessions⟩ := h
  exact .intro g limit t hsessions

theorem Twins.session? (h : Twins b b') (id : Nat) :
    (b.session? id = none ∧ b'.session? id = none) ∨
      ∃ s s', b.session? id = some s ∧ b'.session? id = some s' ∧ Session.Twins s s' := by
  obtain ⟨g, limit, t, hsessions⟩ := h
  simp only [Bridge.session?]
  induction hsessions with
  | nil => exact .inl ⟨rfl, rfl⟩
  | @cons s s' rest rest' hfirst _ ih =>
    simp only [List.find?_cons, hfirst.state.id]
    split
    · exact .inr ⟨s, s', rfl, rfl, hfirst⟩
    · exact ih

/-- The contexts of a session differ in the mode only. -/
theorem Twins.context (h : Twins b b') {s s' : Session} (hs : Session.Twins s s') :
    s.context b.policy b.host = (s'.context b'.policy b'.host).inMode .compact ∧
      s'.context b'.policy b'.host = (s'.context b'.policy b'.host).inMode .detailed := by
  cases h
  simp only [Session.context, Context.inMode, hs.state.registry, hs.state.disposed, and_self]

theorem Twins.dispatch (h : Twins b b') {s s' : Session} (hs : Session.Twins s s') (method : String)
    (params : Json) :
    let r := Methods.bridge.dispatch method params (s.context b.policy b.host)
    let r' := Methods.bridge.dispatch method params (s'.context b'.policy b'.host)
    AnswersAlike r.1 r'.1 ∧ r.2.host = r'.2.host ∧ r.2.registry = r'.2.registry := by
  obtain ⟨hcompact, hdetailed⟩ := h.context hs
  obtain ⟨hanswer, hleft⟩ := Methods.dispatch_inMode method params (s'.context b'.policy b'.host)
  rw [← hcompact, ← hdetailed] at hanswer hleft
  refine ⟨hanswer, ?_, ?_⟩
  · rw [hleft]
    rfl
  · rw [hleft]
    rfl

theorem Twins.operate (h : Twins b b') (id : Nat) (call : Call) :
    Twins (b.operate id call.run).2 (b'.operate id call.run).2 := by
  rcases h.session? id with ⟨hnone, hnone'⟩ | ⟨s, s', hsome, hsome', htwins⟩
  · simp only [Bridge.operate, hnone, hnone']
    exact h
  · simp only [Bridge.operate, hsome, hsome']
    have hregistry (r : Registry) : Session.Mirrors (fun s t => ({ s with registry := r }, t))
        fun s t => ({ s with registry := r }, t) :=
      .of_session fun _ _ _ => ⟨rfl, rfl, rfl⟩
    obtain ⟨hcompact, hdetailed⟩ := h.context htwins
    have hleft := (call.parallel_run (s'.context b'.policy b'.host)).context
    rw [← hcompact, ← hdetailed] at hleft
    rw [hleft]
    exact ((h.onSession (hregistry _) id).withHost _).settle

/-- A message that is no answer is the same in both modes. -/
theorem twins_of_not_answer {m : Message} (h : ∀ id v, m ≠ .response id (.ok v)) : m.Twins m := by
  cases m with
  | request id method params => exact .request id method params
  | notification method params => exact .notification method params
  | response id outcome =>
    cases outcome with
    | ok v => exact absurd rfl (h id v)
    | error fault => exact .response id (.fault fault)

theorem Twins.after (h : Twins b b') {a : Action}
    (ha : ∀ id m, a = .send id m → ∀ i v, m ≠ .response i (.ok v)) :
    Twins (b.after a) (b'.after a) := by
  cases a with
  | openSession =>
    obtain ⟨g, limit, t, hsessions⟩ := h
    have hlength := hsessions.length_eq
    simp only [Bridge.after, Bridge.openSession, hlength]
    refine .intro g limit t (List.rel_append hsessions (.cons ?_ .nil))
    exact ⟨.refl _, rfl, .nil, .nil⟩
  | receive id bytes ended => exact (h.onSession (Session.mirrors_feed bytes ended) id).settle
  | dispose id => exact (h.onSession Session.mirrors_end id).settle
  | disposeAll => exact (h.each Session.mirrors_end).settle
  | send id m =>
    have hm : m.Twins m := twins_of_not_answer (ha id m rfl)
    exact (h.onSession (Session.mirrors_send hm) id).settle
  | operate id call => exact h.operate id call
  | onHost a hspares =>
    have hhost := h.withHost (b.host.after a)
    obtain ⟨g, limit, t, hsessions⟩ := h
    exact hhost.settle
  | takeWritten id =>
    have htake : Session.Mirrors (fun s t => ({ s with written := [] }, t))
        fun s t => ({ s with written := [] }, t) := by
      intro s s' t htwins
      exact ⟨⟨⟨htwins.state.id, htwins.state.unread, htwins.state.peerDone, htwins.state.reading,
        htwins.state.registry, htwins.state.disposed, htwins.state.writing⟩, htwins.tasks,
        htwins.outbound, .nil⟩, rfl⟩
    exact h.onSession htake id
  | setGuard g =>
    obtain ⟨_, limit, t, hsessions⟩ := h
    exact .intro g limit t hsessions
  | move id m =>
    have hmove (g : Guard) (limit : Nat) := h.onSession (Session.mirrors_move g limit m) id
    obtain ⟨g, limit, t, hsessions⟩ := h
    exact hmove g limit

theorem Twins.run (h : Twins b b') {actions : List Action}
    (hsent : ∀ id m, .send id m ∈ actions → ∀ i v, m ≠ .response i (.ok v)) :
    Twins (Bridge.run actions b) (Bridge.run actions b') := by
  induction actions generalizing b b' with
  | nil => exact h
  | cons a rest ih =>
    refine ih (h.after ?_) fun id m hmem => hsent id m (List.mem_cons_of_mem a hmem)
    rintro id m rfl
    exact hsent id m List.mem_cons_self

/-- The same happens to two bridges over empty trees with the same guard, one in compact and one in
detailed mode; what the bridge itself sends are not answers. Then the trees with their entries,
watchers and counts are the same, and so are the sessions, with their watches and what they have
sent, but for the codes of failures. A request to a session leads to the same fault or to envelopes
that differ in such a code only, and leaves the same behind. A call that the guard refuses, that
opens an open watch or closes none, or that writes what is not base64, has the general code in
detailed mode too. -/
theorem run_modes_differ_in_codes (g : Guard) (limit : Nat) (now : Int) {actions : List Action}
    (hsent : ∀ id m, .send id m ∈ actions → ∀ i v, m ≠ .response i (.ok v)) :
    let b := run actions (start ⟨g, .compact⟩ limit (Tree.empty now))
    let b' := run actions (start ⟨g, .detailed⟩ limit (Tree.empty now))
    b.host = b'.host ∧ List.Forall₂ Session.Twins b.sessions b'.sessions ∧
    ∀ id s s', b.session? id = some s → b'.session? id = some s' →
      (∀ method params,
        let r := Methods.bridge.dispatch method params (s.context b.policy b.host)
        let r' := Methods.bridge.dispatch method params (s'.context b'.policy b'.host)
        AnswersAlike r.1 r'.1 ∧ r.2.host = r'.2.host ∧ r.2.registry = r'.2.registry) ∧
      ∀ (call : Call) (params : Json), call.ReadFrom params →
        (∃ uri ∈ call.uris, ∃ scheme, b'.policy.guard.Guards uri scheme) ∨
          call.IsMistaken (s'.context b'.policy b'.host) →
        ∃ v, (Methods.bridge.dispatch call.method params (s'.context b'.policy b'.host)).1 = .ok v ∧
          v.member? "errorCode" = some (.nat 1) := by
  intro b b'
  have htwins : Twins b b' := Twins.run (.intro g limit (Tree.empty now) .nil) hsent
  refine ⟨htwins.host, htwins.sessions, fun id s s' hs hs' => ⟨fun method params => ?_, ?_⟩⟩
  · rcases htwins.session? id with ⟨hnone, -⟩ | ⟨u, u', hu, hu', hsession⟩
    · rw [hnone] at hs
      cases hs
    · obtain rfl := Option.some.inj (hs.symm.trans hu)
      obtain rfl := Option.some.inj (hs'.symm.trans hu')
      exact htwins.dispatch hsession method params
  · intro call params hread hrefused
    refine ⟨_, congrArg Prod.fst (Methods.dispatch_call hread _), ?_⟩
    rcases hrefused with hguarded | hmistaken
    · exact Call.errorCode_of_guarded hguarded
    · exact Call.errorCode_of_isMistaken hmistaken

/-- A session that watches the root is told of a directory and of a message to all, and reads a file
that is not there. -/
theorem run_modes_differ_in_codes_missing :
    let actions : List Action := [.openSession, .operate 1 (.watch ⟨"mem:/", "w"⟩),
      .operate 1 (.createDirectory ⟨"mem:/d"⟩), .send 1 (.notification "news" .null),
      .operate 1 (.readFile ⟨"mem:/d/f"⟩)]
    let b := run actions (start ⟨.ofList ["ide"], .compact⟩ 1024 (Tree.empty 7))
    let b' := run actions (start ⟨.ofList ["ide"], .detailed⟩ 1024 (Tree.empty 7))
    (∀ id m, .send id m ∈ actions → ∀ i v, m ≠ .response i (.ok v)) ∧
    b.host = b'.host ∧ List.Forall₂ Session.Twins b.sessions b'.sessions ∧
    (b.sessions.flatMap Session.written).length = 2 := by
  intro actions b b'
  have hsent : ∀ id m, .send id m ∈ actions → ∀ i v, m ≠ .response i (.ok v) := by
    intro id m hmem i v
    simp only [actions, List.mem_cons, List.not_mem_nil, or_false, reduceCtorEq, false_or,
      Action.send.injEq] at hmem
    rw [hmem.2]
    exact nofun
  obtain ⟨hhost, hsessions, -⟩ := run_modes_differ_in_codes (.ofList ["ide"]) 1024 7 hsent
  exact ⟨hsent, hhost, hsessions, by decide +kernel⟩

end Bridge

end FileBridge
