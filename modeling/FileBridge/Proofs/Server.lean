import FileBridge.Proofs.Bridge.Direct
import FileBridge.Proofs.Bridge.Notices
import FileBridge.Proofs.Client
import FileBridge.Proofs.Service.Sendable
import FileBridge.Server

/-!
A server over a tree and one of its clients. Anything may happen to the server, to its other peers
and to the client, in any order, until the server has settled and the client has read what was
written to it. Main statement: what the client then asks for gets the outcome that the method gives
on its session directly, and leaves everything else in the same state.
-/
namespace FileBridge

open Rpc

namespace Bridge

variable {b : Bridge Tree}

theorem limit_after (b : Bridge Tree) (a : Action) : (b.after a).limit = b.limit := by
  cases a with
  | operate id call =>
    simp only [after, operate]
    split <;> rfl
  | _ => rfl

theorem limit_run (actions : List Action) (b : Bridge Tree) : (run actions b).limit = b.limit := by
  induction actions generalizing b with
  | nil => rfl
  | cons a rest ih => exact (ih _).trans (b.limit_after a)

/-- There is no session with the number zero, so the bridge just settles if that is ended. -/
theorem Balanced.settle_eq_after (h : b.Balanced) : b.settle = b.after (.dispose 0) := by
  have hne : ∀ s ∈ b.sessions, s.id ≠ 0 := by
    intro s hs hid
    have hmem := List.mem_map_of_mem (f := Session.id) hs
    rw [h.ids, hid, List.mem_range'_1] at hmem
    omega
  rw [Bridge.after, dispose, Bridge.onSession, Bridge.each, eachOf_of_ne _ hne]

theorem AtRest.takeWritten (h : b.AtRest) (id : Nat) : (b.takeWritten id).2.AtRest where
  balanced := (h.balanced.after (.takeWritten id)).balanced
  steady := forall_onSession (fun _ _ _ hs => hs) h.steady
  resting := forall_onSession
    (fun _ _ _ hs => ⟨hs.starved, hs.tasks, hs.outbound, hs.writes⟩) h.resting
  quiet := by
    have hhost (sessions : List Session) (t : Tree) :
        (eachOf (fun s h => if s.id = id then ({ s with written := [] }, h) else (s, h))
          sessions t).2 = t := by
      induction sessions generalizing t with
      | nil => rfl
      | cons s rest ih =>
        have hs : (if s.id = id then ({ s with written := [] }, t) else (s, t)).2 = t := by
          split <;> rfl
        exact (ih _).trans hs
    show (eachOf _ b.sessions b.host).2.IsQuiet
    rw [hhost]
    exact h.quiet

end Bridge

namespace Session

/-- All that a session of a given number has not read is whole frames. -/
def Whole (number : Nat) (s : Session) : Prop :=
  s.id = number → s.reading = true →
    ∃ messages : List Message, s.unread = messages.flatMap Message.encode

theorem lasting_whole (number : Nat) : Lasting (Whole number) where
  start _ _ _ := ⟨[], rfl⟩
  continues h hc := by
    rw [Whole, hc.id, hc.reading, hc.unread]
    exact h
  stop s t _ hreading := by
    rw [(s.stop_ended t).1] at hreading
    cases hreading
  starved limit s rest h hreading hstop hid _ := by
    obtain ⟨messages, hunread⟩ := h hid hreading
    rcases readFrames_snd limit s.peerDone s.unread with ⟨_, -, hdone, -⟩ | ⟨hnot, -⟩
    · rw [hdone, hunread] at hstop
      rcases readFrames_whole limit messages with hnil | ⟨cause, hfailed⟩
      · exact ⟨[], Stop.starved.inj (hstop.symm.trans hnil)⟩
      · rw [hfailed] at hstop
        cases hstop
    · exact absurd hstop (hnot rest)

theorem Whole.feed {number : Nat} {s : Session} (h : s.Whole number) {messages : List Message}
    {bytes : List UInt8} (hbytes : bytes = messages.flatMap Message.encode) (ended : Bool) :
    (s.feed bytes ended).Whole number := by
  intro hid hreading
  obtain ⟨before, hbefore⟩ := h hid hreading
  refine ⟨before ++ messages, ?_⟩
  rw [Session.feed, hbefore, hbytes, List.flatMap_append]

end Session

/-- A new session has a number that no other has. -/
theorem Bridge.Balanced.whole_openSession {b : Bridge Tree} (h : b.Balanced) :
    ∀ s ∈ b.openSession.2.sessions, s.Whole b.openSession.1 := by
  intro s hs
  rcases List.mem_append.mp hs with hs | hs
  · intro hid
    have hmem := List.mem_map_of_mem (f := Session.id) hs
    rw [h.ids, hid, List.mem_range'_1] at hmem
    exact absurd hmem.2 (Nat.not_lt.mpr (Nat.le_of_eq (Nat.add_comm ..)))
  · rw [List.mem_singleton.mp hs]
    exact (Session.lasting_whole _).start _

namespace Client

variable {c : Client}

theorem isClosed_receive_end (bytes : List UInt8) (c : Client) :
    (c.receive bytes true).isClosed = true := by
  cases hclosed : c.isClosed with
  | true => rw [receive_of_closed hclosed, hclosed]
  | false =>
    rcases readFrames_snd defaultBodyLimit true (c.unread ++ bytes) with
      ⟨_, -, hended, -⟩ | ⟨hstop, -⟩
    · cases hended
    · exact (receive_of_open hclosed bytes true).2.2 hstop

/-- A client that goes on after messages were sent to it has nothing left over. -/
theorem unread_receive (hunread : c.isClosed = false → c.unread = []) (messages : List Message)
    (ended : Bool) (hopen : (c.receive (messages.flatMap Message.encode) ended).isClosed = false) :
    (c.receive (messages.flatMap Message.encode) ended).unread = [] := by
  cases ended with
  | true =>
    rw [isClosed_receive_end] at hopen
    cases hopen
  | false =>
    cases hclosed : c.isClosed with
    | true =>
      rw [receive_of_closed hclosed, hclosed] at hopen
      cases hopen
    | false =>
      obtain ⟨-, hgoesOn, hstops⟩ := receive_of_open hclosed (messages.flatMap Message.encode) false
      rw [hunread hclosed, List.nil_append] at hgoesOn hstops
      rcases readFrames_whole defaultBodyLimit messages with hnil | ⟨cause, hfailed⟩
      · exact (hgoesOn [] hnil).2
      · rw [hstops fun rest heq => by rw [hfailed] at heq; cases heq] at hopen
        cases hopen

/-- A request whose response is the first thing to arrive is completed by it, whatever follows. -/
theorem outcome?_of_response (h : c.Numbered) (hopen : c.isClosed = false) (hunread : c.unread = [])
    (method : String) (params : Json) {outcome : Except Fault Json}
    (hsendable : (Message.response (some (.number c.nextId)) outcome).Sendable defaultBodyLimit)
    (more : List Message) :
    ((c.request method params).2.2.receive
        ((Message.response (some (.number c.nextId)) outcome :: more).flatMap Message.encode)
        false).outcome? c.nextId = some (outcome.mapError .rpc) := by
  have hread : read defaultBodyLimit false
      ((Message.response (some (.number c.nextId)) outcome :: more).flatMap Message.encode) =
        (Arrival.message (.response (some (.number c.nextId)) outcome)).reading
          (more.flatMap Message.encode) := by
    rw [List.flatMap_cons]
    exact read_encode (by decide) hsendable false _
  obtain ⟨hreads, -⟩ := receive_of_open ((isClosed_request method params c).trans hopen)
    ((Message.response (some (.number c.nextId)) outcome :: more).flatMap Message.encode) false
  rw [(request_same method params c).2.2.1, hunread, List.nil_append, readFrames_arrival hread]
    at hreads
  have hresponse := (hreads.tracks (h.tracks_request method params)).response
  rw [outcome?, hresponse]
  simp [answer?]

end Client

/-- The server after some actions on its bridge. -/
def Server.run (actions : List Bridge.Action) (s : Server Tree) : Server Tree :=
  { s with bridge := s.bridge.run actions }

theorem Server.request_of_open {c : Client} (h : c.isClosed = false) (s : Server Tree) (id : Nat)
    (method : String) (params : Json) :
    let r := (s.receive id (Message.request (.number c.nextId) method params).encode false).deliver
      id (c.request method params).2.2
    s.request id method params c = (r.1.outcome? c.nextId, r.1, r.2) := by
  obtain ⟨waiting, hwaiting⟩ : ∃ waiting, c.waiting = some waiting := by
    simpa [Client.isClosed, Option.isSome_iff_exists] using h
  simp only [request, Client.request, hwaiting]

/-- A server over a tree, and one of its clients with the number of its session. -/
structure Connection where
  server : Server Tree
  number : Nat
  client : Client

namespace Connection

/-- What can happen to a server and a client. -/
inductive Step where
  /-- Something happens to the bridge, or one of its sessions goes on while all else waits. -/
  | serve (a : Bridge.Action)
  /-- The client asks for something and does not wait for the response. -/
  | request (method : String) (params : Json)
  | notify (method : String) (params : Json)
  /-- The client sends nothing more. -/
  | close
  /-- The client reads what has been written to it. -/
  | deliver
  /-- The client's first notification is taken. -/
  | take

/-- Somebody else sends bytes in place of the client. -/
def Step.speaksFor (number : Nat) : Step → Bool
  | .serve a => a.feed?.any fun fed => fed.1 = number && fed.2.1 ≠ []
  | _ => false

/-- What the clock of the tree is set to. -/
def Step.clock? : Step → Option Int
  | .serve a => a.clock?
  | _ => none

/-- The client reads what has been written to it. -/
def deliver (k : Connection) : Connection :=
  let (client, server) := k.server.deliver k.number k.client
  ⟨server, k.number, client⟩

/-- The server settles. -/
def settle (k : Connection) : Connection :=
  { k with server := { k.server with bridge := k.server.bridge.settle } }

/-- The client sends a message. -/
def send (m : Message) (k : Connection) : Connection :=
  { k with server := k.server.receive k.number m.encode false }

/-- The server and the client after a step. -/
def after (k : Connection) : Step → Connection
  | .serve a => { k with server := k.server.run [a] }
  | .request method params =>
    let (_, message, client) := k.client.request method params
    message.elim { k with client := client } fun m => { k with client := client }.send m
  | .notify method params => k.send (.notification method params)
  | .close => { k with server := k.server.receive k.number [] true }
  | .deliver => k.deliver
  | .take => { k with client := k.client.nextNotification.2 }

/-- The server and the client after some steps. -/
def run (steps : List Step) (k : Connection) : Connection :=
  steps.foldl after k

/-- The server has run from an empty tree while the clock showed times of 64 bits, and neither the
session nor the client is left with a part of a frame. -/
structure Kept (limit : Nat) (k : Connection) : Prop where
  ran : ∃ policy now actions,
    k.server.bridge = Bridge.run actions (.start policy limit (Tree.empty now)) ∧
      ∀ time ∈ now :: actions.filterMap Bridge.Action.clock?, IsInt64 time
  whole : ∀ s ∈ k.server.bridge.sessions, s.Whole k.number
  moved : ∃ moves, k.client = (Client.History.start.run moves).client
  unread : k.client.isClosed = false → k.client.unread = []

namespace Kept

variable {limit : Nat} {k k' : Connection}

/-- The client makes a move that is not to receive bytes. -/
theorem moveClient (h : k.Kept limit) (m : Client.Move) (hserver : k'.server = k.server)
    (hnumber : k'.number = k.number) (hclient : k'.client = k.client.after m)
    (hunread : k'.client.isClosed = false → k'.client.unread = []) : k'.Kept limit := by
  refine ⟨hserver ▸ h.ran, hserver ▸ hnumber ▸ h.whole, ?_, hunread⟩
  obtain ⟨moves, hmoves⟩ := h.moved
  refine ⟨moves ++ [m], ?_⟩
  rw [Client.History.run, List.foldl_append, hclient, hmoves]
  rfl

/-- The bridge acts, and what it brings to the session is whole frames. -/
theorem act (h : k.Kept limit) {a : Bridge.Action} (hclock : ∀ time ∈ a.clock?, IsInt64 time)
    (hfeed : ∀ fed ∈ a.feed?, fed.1 = k.number →
      ∃ messages : List Message, fed.2.1 = messages.flatMap Message.encode)
    (hbridge : k'.server.bridge = k.server.bridge.after a) (hnumber : k'.number = k.number)
    (hclient : k'.client = k.client) : k'.Kept limit where
  ran := by
    obtain ⟨policy, now, actions, heq, htimes⟩ := h.ran
    refine ⟨policy, now, actions ++ [a], ?_, ?_⟩
    · rw [hbridge, heq, Bridge.run, Bridge.run, List.foldl_append]
      rfl
    · rw [List.filterMap_append, ← List.cons_append]
      refine List.forall_mem_append.mpr ⟨htimes, ?_⟩
      simpa using hclock
  whole := by
    rw [hbridge, hnumber]
    refine Bridge.forall_after (Session.lasting_whole k.number) (fun fed hfed s hid hs => ?_)
      (fun _ _ hs => hs) h.whole
    by_cases hown : fed.1 = k.number
    · obtain ⟨messages, hbytes⟩ := hfeed fed hfed hown
      exact hs.feed hbytes _
    · exact fun hnumber _ => absurd (hid.symm.trans hnumber) hown
  moved := hclient ▸ h.moved
  unread := hclient ▸ h.unread

theorem send (h : k.Kept limit) (m : Message) : (k.send m).Kept limit := by
  refine h.act (a := .receive k.number m.encode false) nofun ?_ rfl rfl rfl
  rintro _ ⟨⟩ -
  exact ⟨[m], (List.flatMap_singleton ..).symm⟩

theorem settle (h : k.Kept limit) : k.settle.Kept limit := by
  obtain ⟨policy, now, actions, heq, -⟩ := h.ran
  have hbalanced := ((Bridge.balanced_start policy limit now).run actions).balanced
  rw [← heq] at hbalanced
  exact h.act (a := .dispose 0) nofun nofun hbalanced.settle_eq_after rfl rfl

theorem deliver (h : k.Kept limit) : k.deliver.Kept limit := by
  have htaken : Kept limit { k with server := { k.server with
      bridge := (k.server.bridge.takeWritten k.number).2 } } :=
    h.act (a := .takeWritten k.number) nofun nofun rfl rfl rfl
  exact htaken.moveClient (.receive _ _) rfl rfl rfl (Client.unread_receive h.unread _ _)

theorem after (h : k.Kept limit) {step : Step} (hstep : step.speaksFor k.number = false)
    (hclock : ∀ time ∈ step.clock?, IsInt64 time) : (k.after step).Kept limit := by
  cases step with
  | serve a =>
    refine h.act hclock (fun fed hfed hown => ⟨[], ?_⟩) rfl rfl rfl
    have hfed : a.feed? = some fed := hfed
    simpa [Step.speaksFor, hfed, hown] using hstep
  | request method params =>
    obtain ⟨-, -, hunread, -, -⟩ := Client.request_same method params k.client
    have hasked : Kept limit { k with client := (k.client.request method params).2.2 } := by
      refine h.moveClient (.request method params) rfl rfl rfl fun hopen => ?_
      rw [hunread]
      exact h.unread ((Client.isClosed_request method params k.client).symm.trans hopen)
    show Kept limit ((k.client.request method params).2.1.elim _ _)
    cases (k.client.request method params).2.1 with
    | none => exact hasked
    | some m => exact hasked.send m
  | notify method params => exact h.send _
  | close =>
    refine h.act (a := .receive k.number [] true) nofun ?_ rfl rfl rfl
    rintro _ ⟨⟩ -
    exact ⟨[], rfl⟩
  | deliver => exact h.deliver
  | take => exact h.moveClient .take rfl rfl rfl h.unread

theorem number_after (k : Connection) (step : Step) : (k.after step).number = k.number := by
  cases step with
  | request method params =>
    show ((k.client.request method params).2.1.elim _ _ : Connection).number = _
    cases (k.client.request method params).2.1 <;> rfl
  | _ => rfl

theorem run (h : k.Kept limit) {steps : List Step}
    (hsteps : ∀ step ∈ steps, step.speaksFor k.number = false)
    (hclock : ∀ time ∈ steps.filterMap Step.clock?, IsInt64 time) :
    (k.run steps).Kept limit ∧ (k.run steps).number = k.number := by
  induction steps generalizing k with
  | nil => exact ⟨h, rfl⟩
  | cons step rest ih =>
    obtain ⟨hstep, hrest⟩ := List.forall_mem_cons.mp hsteps
    have hnumber := number_after k step
    have hfirst : ∀ time ∈ step.clock?, IsInt64 time := fun time htime =>
      hclock time (List.mem_filterMap.mpr ⟨step, List.mem_cons_self, htime⟩)
    have hlater : ∀ time ∈ rest.filterMap Step.clock?, IsInt64 time := by
      intro time htime
      obtain ⟨a, ha, htime⟩ := List.mem_filterMap.mp htime
      exact hclock time (List.mem_filterMap.mpr ⟨a, List.mem_cons_of_mem _ ha, htime⟩)
    obtain ⟨hkept, heq⟩ := ih (h.after hstep hfirst) (hnumber ▸ hrest) hlater
    exact ⟨hkept, heq.trans hnumber⟩

/-- A client that connects starts with a new session. -/
theorem of_connect {config : Config} {freePort : Nat} {now : Int} {before : List Bridge.Action}
    {reachable : Bool} {id : Nat} {s : Server Tree}
    (hconnect : ((Server.start config freePort (Tree.empty now)).run before).connect reachable =
      .ok (id, s))
    (hclock : ∀ time ∈ now :: before.filterMap Bridge.Action.clock?, IsInt64 time) :
    Kept config.maxMessageSize ⟨s, id, .start⟩ := by
  unfold Server.connect at hconnect
  split at hconnect
  · obtain ⟨rfl, rfl⟩ := Prod.mk.inj (Except.ok.inj hconnect)
    let policy : Policy := ⟨.ofList config.guardedSchemes, config.errorCodes⟩
    have hbalanced : Bridge.Balanced (Bridge.run before _) :=
      ((Bridge.balanced_start policy config.maxMessageSize now).run before).balanced
    refine ⟨⟨policy, now, before ++ [.openSession], ?_, ?_⟩, hbalanced.whole_openSession, ⟨[], rfl⟩,
      fun _ => rfl⟩
    · rw [Bridge.run, List.foldl_append]
      rfl
    · rw [List.filterMap_append, show [Bridge.Action.openSession].filterMap _ = [] from rfl,
        List.append_nil]
      exact hclock
  · cases hconnect

theorem atRest (h : k.Kept limit) : k.settle.deliver.server.bridge.AtRest := by
  obtain ⟨policy, now, actions, heq, -⟩ := h.ran
  have hbalanced := ((Bridge.balanced_start policy limit now).run actions).balanced
  have hsteady := Bridge.steady_run policy limit now actions
  rw [← heq] at hbalanced hsteady
  exact (Bridge.atRest_settle hbalanced hsteady).takeWritten k.number

/-- The session of a client that is still connected reads, and nothing is under way. -/
theorem exists_session (h : k.Kept limit) (hopen : k.settle.deliver.client.isClosed = false) :
    ∃ s, k.settle.deliver.server.bridge.session? k.number = some s ∧ s.id = k.number ∧
      s ∈ k.settle.deliver.server.bridge.sessions ∧ s.reading = true ∧ s.writing = true ∧
      s.unread = [] ∧ s.written = [] := by
  -- If the writer of the session had stopped, the client would have read the end.
  have hwrites : (k.settle.server.bridge.session? k.number).any Session.writing = true := by
    cases hends : (k.settle.server.bridge.session? k.number).any Session.writing with
    | true => rfl
    | false =>
      have hclient : k.settle.deliver.client = k.client.receive _
          (!(k.settle.server.bridge.session? k.number).any Session.writing) := rfl
      rw [hclient, hends, Bool.not_false, Client.isClosed_receive_end] at hopen
      cases hopen
  obtain ⟨s, hsession, hwriting⟩ : ∃ s, k.settle.server.bridge.session? k.number = some s ∧
      s.writing = true := by
    simpa [Option.any_eq_true] using hwrites
  have hfound : k.settle.deliver.server.bridge.session? k.number =
      some { s with written := [] } := by
    obtain ⟨policy, now, actions, heq, -⟩ := h.settle.ran
    have hbalanced := ((Bridge.balanced_start policy limit now).run actions).balanced
    rw [← heq] at hbalanced
    have honSession := Bridge.session?_onSession hbalanced
      (f := fun s t => ({ s with written := [] }, t)) (fun _ _ => rfl) k.number k.number
    rw [if_pos rfl, hsession] at honSession
    exact honSession
  have hmem := List.mem_of_find?_eq_some hfound
  have hid : s.id = k.number := by simpa using List.find?_some hsession
  have hresting := h.atRest.resting _ hmem
  have hreading : s.reading = true := by
    have hsteady : s.reading = !s.disposed := h.atRest.steady { s with written := [] } hmem
    rw [hsteady, hresting.writes hwriting, Bool.not_false]
  obtain ⟨messages, hmessages⟩ := h.settle.deliver.whole _ hmem hid hreading
  exact ⟨_, hfound, hid, hmem, hreading, hwriting, hresting.unread_eq hreading hmessages, rfl⟩

/-- What is known of the server's tree and of the client's numbers. -/
theorem facts (h : k.Kept limit) :
    k.server.bridge.methods = .bridge ∧ k.server.bridge.limit = limit ∧
      k.server.bridge.host.WellFormed ∧ k.server.bridge.host.Dated IsInt64 ∧
      k.client.Numbered ∧ 0 < k.client.nextId := by
  obtain ⟨policy, now, actions, heq, htimes⟩ := h.ran
  obtain ⟨moves, hmoves⟩ := h.moved
  have hhistory := Client.History.kept_start.run moves
  rw [heq, hmoves]
  refine ⟨((Bridge.balanced_start policy limit now).run actions).balanced.methods,
    Bridge.limit_run _ _, (Bridge.reachable_host policy limit now actions).wellFormed,
    Bridge.dated_host policy limit htimes, hhistory.numbered, ?_⟩
  rw [hhistory.asked]
  omega

/-- The request is answered as the method answers it directly, and the client gets the answer. -/
theorem request_dispatches (h : k.Kept limit) (hlimit : limit < natBound64)
    (hopen : k.settle.deliver.client.isClosed = false)
    (hnumber : k.settle.deliver.client.nextId ≤ maxInt64) :
    let c := k.settle.deliver.client
    let b := k.settle.deliver.server.bridge
    let n : RequestId := .number c.nextId
    ∃ session, b.session? k.number = some session ∧
      ∀ (method : String) (params : Json), params.Sorted → params.Integral →
        (Message.request n method params).toJson.depth ≤ 127 →
        (Message.request n method params).body.length ≤ limit →
        let dispatch : Context Tree → _ := Methods.bridge.dispatch method params
        let outcome := (dispatch (session.context b.policy b.host)).1
        (Message.response (some n) outcome).body.length ≤ defaultBodyLimit →
        let direct := b.operate k.number dispatch
        let r := k.settle.deliver.server.request k.number method params c
        r.1.map (Client.decode .json) = some (outcome.mapError .rpc) ∧
          direct.1 = some outcome ∧ r.2.2.bridge = (direct.2.takeWritten k.number).2 := by
  intro c b n
  obtain ⟨hmethods, hlimit', hformed, hdated, hnumbered, hpositive⟩ := h.settle.deliver.facts
  obtain ⟨session, hsession, hid, hmem, hreading, hwriting, hunread, hwritten⟩ :=
    h.exists_session hopen
  refine ⟨session, hsession, ?_⟩
  intro method params hsorted hintegral hdepth hbody dispatch outcome hanswer direct r
  have hn : IsInt64 c.nextId := ⟨Int.le_of_lt (Int.lt_trans (by decide) hpositive), hnumber⟩
  have hrequest := Message.sendable_request hn method hsorted hintegral hdepth hbody
  have hresponse : (Message.response (some n) outcome).Sendable defaultBodyLimit :=
    Methods.sendable_answer hformed hdated hn hanswer
  obtain ⟨hdirect, ⟨notices, -, htaken⟩, hwrites⟩ := h.atRest.receive_request hmem hreading hwriting
    hunread (hlimit'.symm ▸ hlimit) (r := ⟨n, method, params⟩) (hlimit'.symm ▸ hrequest)
  simp only [hmethods, hid, hwritten, List.nil_append] at hdirect htaken hwrites
  have hr : r = _ := Server.request_of_open hopen _ k.number method params
  have hdelivered : (k.settle.deliver.server.receive k.number
      (Message.request n method params).encode false).deliver k.number
        (c.request method params).2.2 =
        ((c.request method params).2.2.receive
          ((Message.response (some n) outcome :: notices).flatMap Message.encode) false,
          { k.settle.deliver.server with bridge := (direct.2.takeWritten k.number).2 }) := by
    simp only [Server.deliver, Server.receive]
    rw [hwrites, htaken]
    rfl
  rw [hr, hdelivered]
  refine ⟨?_, hdirect, rfl⟩
  rw [Client.outcome?_of_response hnumbered hopen (h.settle.deliver.unread hopen) method params
    hresponse notices, Option.map_some, Client.decode_eq]
  cases outcome <;> rfl

end Kept

/-- A client that has connected to a server over a tree and is connected still, after whatever has
happened to both, once the server has settled and the client has read what was written to it. A
request of it that gets through, with a response that gets through, is completed with the outcome of
its method on the session, and the server is left as if the method had been run directly: with the
same tree, the same watches and the same sessions. -/
theorem run_request_dispatches (config : Config) (freePort : Nat) {now : Int}
    {before : List Bridge.Action} {reachable : Bool} {id : Nat} {s : Server Tree}
    (hconnect : ((Server.start config freePort (Tree.empty now)).run before).connect reachable =
      .ok (id, s))
    {steps : List Step} (hsteps : ∀ step ∈ steps, step.speaksFor id = false)
    (hclock : ∀ time ∈ now :: (before.filterMap Bridge.Action.clock? ++
      steps.filterMap Step.clock?), IsInt64 time)
    (hlimit : config.maxMessageSize < natBound64) :
    let k := ((Connection.mk s id .start).run steps).settle.deliver
    let b := k.server.bridge
    let n : RequestId := .number k.client.nextId
    k.client.isClosed = false → k.client.nextId ≤ maxInt64 →
    ∃ session, b.session? id = some session ∧
      ∀ (method : String) (params : Json), params.Sorted → params.Integral →
        (Message.request n method params).toJson.depth ≤ 127 →
        (Message.request n method params).body.length ≤ config.maxMessageSize →
        let dispatch : Context Tree → _ := Methods.bridge.dispatch method params
        let outcome := (dispatch (session.context b.policy b.host)).1
        (Message.response (some n) outcome).body.length ≤ defaultBodyLimit →
        let direct := b.operate id dispatch
        let r := k.server.request id method params k.client
        r.1.map (Client.decode .json) = some (outcome.mapError .rpc) ∧
          direct.1 = some outcome ∧ r.2.2.bridge = (direct.2.takeWritten id).2 := by
  intro k b n hopen hnumber
  obtain ⟨hnow, htimes⟩ := List.forall_mem_cons.mp hclock
  obtain ⟨hbefore, hduring⟩ := List.forall_mem_append.mp htimes
  have hstart := Kept.of_connect hconnect (List.forall_mem_cons.mpr ⟨hnow, hbefore⟩)
  obtain ⟨hkept, hid⟩ := hstart.run hsteps hduring
  have hrequest := hkept.request_dispatches hlimit hopen hnumber
  rw [hid] at hrequest
  exact hrequest

/-- A server with one session that watches the root and has made a directory. -/
def watchedServer : Server Tree :=
  (Server.start { Config.default with backend := .memory } 4000 (Tree.empty 0)).run
    [.openSession, .operate 1 (.watch ⟨"mem:/", "w"⟩), .operate 1 (.createDirectory ⟨"mem:/d"⟩)]

/-- The other session writes into the directory, and its peer sends half a header. -/
def othersSteps : List Step :=
  [.serve (.operate 1 (.writeFile ⟨"mem:/d/f", "AQ==", true, false⟩)),
    .serve (.receive 1 [67, 111] false), .deliver]

/-- A client that has connected while the other session is in use. -/
def besideWatcher : Connection :=
  ((Connection.mk { watchedServer with bridge := watchedServer.bridge.openSession.2 } 2 .start).run
    othersSteps).settle.deliver

/-- The parameters that remove the directory. -/
def removal : Json :=
  .ofMembers [("recursive", .bool true), ("uri", .str "mem:/d")]

/-- The client removes the directory of the other session. -/
theorem run_request_dispatches_removal :
    let r := besideWatcher.server.request 2 "vfs/output/remove" removal besideWatcher.client
    watchedServer.connect true =
      .ok (2, { watchedServer with bridge := watchedServer.bridge.openSession.2 }) ∧
    (∀ step ∈ othersSteps, step.speaksFor 2 = false) ∧
    besideWatcher.client.isClosed = false ∧ besideWatcher.client.nextId = 1 ∧
    removal.Sorted ∧ removal.Integral ∧
    (r.1.map (Client.decode .json)).any Except.toBool = true ∧
    r.2.2.bridge.host.entries.has "/d" = false := by
  intro r
  have hsession : watchedServer.bridge.openSession.1 = 2 := by decide +kernel
  have hconnect : watchedServer.connect true =
      .ok (2, { watchedServer with bridge := watchedServer.bridge.openSession.2 }) := by
    rw [← hsession]
    rfl
  have hsteps : ∀ step ∈ othersSteps, step.speaksFor 2 = false := by decide
  have hopen : besideWatcher.client.isClosed = false := by decide +kernel
  have hnumber : besideWatcher.client.nextId = 1 := by decide +kernel
  have hsorted : removal.Sorted := by decide +kernel
  have hintegral : removal.Integral := by decide +kernel
  obtain ⟨session, hfound, hrequests⟩ := run_request_dispatches
    { Config.default with backend := .memory } 4000 hconnect hsteps (by decide +kernel) (by decide)
    hopen (show besideWatcher.client.nextId ≤ maxInt64 by rw [hnumber]; decide)
  have hdirect : (besideWatcher.server.bridge.operate 2
      (Methods.bridge.dispatch "vfs/output/remove" removal)).1 =
      some (Methods.bridge.dispatch "vfs/output/remove" removal (session.context
        besideWatcher.server.bridge.policy besideWatcher.server.bridge.host)).1 := by
    simp only [Bridge.operate, show besideWatcher.server.bridge.session? 2 = _ from hfound]
  have hanswer : ((besideWatcher.server.bridge.operate 2
      (Methods.bridge.dispatch "vfs/output/remove" removal)).1.any fun outcome =>
        outcome.toBool && decide
          ((Message.response (some (.number 1)) outcome).body.length ≤ defaultBodyLimit)) =
            true := by
    decide +kernel
  rw [hdirect, Option.any_some, Bool.and_eq_true, decide_eq_true_iff, ← hnumber] at hanswer
  obtain ⟨hresult, -, hbridge⟩ := hrequests "vfs/output/remove" removal hsorted hintegral
    (show (Message.request (.number besideWatcher.client.nextId) "vfs/output/remove" removal
      ).toJson.depth ≤ 127 by rw [hnumber]; decide +kernel)
    (show (Message.request (.number besideWatcher.client.nextId) "vfs/output/remove" removal
      ).body.length ≤ 67108864 by rw [hnumber]; decide +kernel)
    hanswer.2
  refine ⟨hconnect, hsteps, hopen, hnumber, hsorted, hintegral, ?_, ?_⟩
  · have hkept (outcome : Except Fault Json) (h : outcome.toBool = true) :
        (outcome.mapError BridgeError.rpc).toBool = true := by
      cases outcome <;> exact h
    rw [show r.1.map (Client.decode .json) = _ from hresult]
    exact hkept _ hanswer.1
  · rw [show r.2.2.bridge = _ from hbridge]
    show ((((besideWatcher.server.bridge.operate 2 (Methods.bridge.dispatch "vfs/output/remove"
      removal)).2.takeWritten 2).2).host.entries.has "/d") = false
    decide +kernel

end Connection

end FileBridge
