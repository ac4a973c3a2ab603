import Mathlib.Algebra.Order.Group.Multiset
import FileBridge.Proofs.Bridge.Move
import FileBridge.Proofs.OrderedMap
import FileBridge.Proofs.Rpc.Bodies

/-!
What the peer of a session gets to hear. Requests and frames that hold no message want a reply,
other messages do not. Main statement: in whatever pieces a stream arrives, and in whatever order
requests are worked off, the frames that want a reply correspond one to one to the replies, the
requests that wait, the replies that a failed write lost, and what was worked off or read when the
writer had stopped.
-/
namespace FileBridge

open Rpc

namespace Rpc

/-- The identifier that a value has, if it can be read. -/
def requestId? : Json → Option RequestId
  | .obj members => (Fields.get? "id" members).bind fun v => (RequestId.codec.read v).toOption
  | _ => none

theorem readId_cases (members : List (String × Json)) :
    Message.readId members = .ok (requestId? (.obj members)) ∨
      requestId? (.obj members) = none ∧
        ∃ cause, Message.readId members = .error ⟨cause, none⟩ := by
  have hid : requestId? (.obj members) =
      (Fields.get? "id" members).bind fun v => (RequestId.codec.read v).toOption := rfl
  rw [Message.readId, hid]
  cases Fields.get? "id" members with
  | none => exact .inl rfl
  | some v =>
    rw [Option.bind_some]
    split
    next heq => cases heq
    next heq =>
      cases heq
      exact .inl rfl
    next v _ heq =>
      cases heq
      cases RequestId.codec.read v with
      | ok id => exact .inl rfl
      | error cause => exact .inr ⟨rfl, .badId, rfl⟩

theorem id_of_classify {id : Option RequestId} {members : List (String × Json)} {misfit : Misfit}
    (h : Message.classify id members = .error misfit) : misfit.id = id := by
  revert h
  fun_cases Message.classify id members with
  | case1 | case2 | case4 | case6 => exact fun h => by cases h
  | _ =>
    intro h
    cases h
    rfl

/-- What is wrong with a value is reported under the identifier that the value has. -/
theorem id_of_misfit {v : Json} {misfit : Misfit} (h : Message.ofJson v = .error misfit) :
    misfit.id = requestId? v := by
  cases v with
  | obj members =>
    rw [Message.ofJson] at h
    rcases readId_cases members with hread | ⟨hnone, cause, hread⟩
    · rw [hread] at h
      exact id_of_classify h
    · rw [hread] at h
      cases h
      exact hnone.symm
  | _ =>
    cases h
    rfl

/-- Whether a body wants a reply: it is a request, or no message at all. -/
def wantsReply (body : List UInt8) : Bool :=
  match decode body with
  | .ok (.request ..) => true
  | .ok _ => false
  | .error _ => true

/-- Why a body holds no message, if it holds none. -/
def failure? (body : List UInt8) : Option ReadError :=
  match decode body with
  | .ok _ => none
  | .error cause => some cause

/-- A message is a proper reply to a body. -/
def Answers (body : List UInt8) (m : Message) : Prop :=
  match Json.parseBytes? body with
  | none => ∃ text, m = .response none (.error ⟨-32700, text, none⟩)
  | some v =>
    match Message.ofJson v with
    | .error _ => ∃ text, m = .response (requestId? v) (.error ⟨-32600, text, none⟩)
    | .ok (.request id _ _) =>
      ∃ outcome, m = .response (some id) outcome ∧
        ∀ fault, outcome = .error fault → fault.code ∈ [-32601, -32602, -32603]
    | .ok _ => False

/-- A body is this request. -/
def Asks (body : List UInt8) (r : Request) : Prop :=
  decode body = .ok (.request r.id r.method r.params)

theorem answers_complaint {body : List UInt8} {cause : ReadError} (h : decode body = .error cause) :
    Answers body (Session.complaint cause) := by
  unfold decode at h
  unfold Answers
  cases hparse : Json.parseBytes? body with
  | none =>
    rw [hparse] at h
    cases h
    exact ⟨_, rfl⟩
  | some v =>
    cases hmessage : Message.ofJson v with
    | ok m =>
      simp only [hparse, hmessage] at h
      cases h
    | error misfit =>
      simp only [hparse, hmessage] at h
      cases h
      simp only [hmessage, ← id_of_misfit hmessage]
      exact ⟨_, rfl⟩

theorem Asks.answers {body : List UInt8} {r : Request} (h : Asks body r)
    {outcome : Except Fault Json}
    (hfault : ∀ fault, outcome = .error fault → fault.code ∈ [-32601, -32602, -32603]) :
    Answers body (.response (some r.id) outcome) := by
  unfold Asks decode at h
  unfold Answers
  cases hparse : Json.parseBytes? body with
  | none =>
    rw [hparse] at h
    cases h
  | some v =>
    cases hmessage : Message.ofJson v with
    | error misfit =>
      simp only [hparse, hmessage] at h
      cases h
    | ok m =>
      simp only [hparse, hmessage] at h
      cases h
      simp only [hmessage]
      exact ⟨outcome, rfl, hfault⟩

def Message.isResponse : Message → Bool
  | .response .. => true
  | _ => false

end Rpc

namespace Methods

variable {σ : Type}

/-- Every method reads its parameters, runs its operation and writes the result. -/
def Typed (m : Methods σ) : Prop :=
  ∀ method h, m.table.get? method = some h →
    ∃ (P R : Type) (params : Codec P) (write : R → Except String Json)
      (f : P → Context σ → R × Context σ), h = .ofPartial method params write f

theorem Typed.route {m : Methods σ} (hm : m.Typed) {P R : Type} (name : String) (params : Codec P)
    (result : Codec R) (f : P → Context σ → R × Context σ) :
    (m.route name params result f).Typed := by
  intro method h hget
  simp only [Methods.route, add, OrderedMap.get?_insert] at hget
  split at hget
  · next heq =>
    subst heq
    obtain rfl := Option.some.inj hget
    exact ⟨P, R, params, _, f, rfl⟩
  · exact hm method h hget

/-- A request fails because nobody handles its method, its parameters have the wrong shape, or its
result cannot be written. -/
theorem Typed.code_of_dispatch {m : Methods σ} (hm : m.Typed) (method : String) (params : Json)
    (c : Context σ) {fault : Fault} (h : (m.dispatch method params c).1 = .error fault) :
    fault.code ∈ [-32601, -32602, -32603] := by
  unfold dispatch at h
  cases hget : m.table.get? method with
  | none =>
    simp only [hget] at h
    cases h
    exact .head _
  | some handler =>
    obtain ⟨P, R, codec, write, f, rfl⟩ := hm method handler hget
    simp only [hget, Handler.ofPartial] at h
    split at h
    · cases h
      exact .tail _ (.head _)
    next p hread =>
      cases hwrite : write (f p c).1 with
      | ok v =>
        rw [hwrite] at h
        cases h
      | error text =>
        rw [hwrite] at h
        cases h
        exact .tail _ (.tail _ (.head _))

end Methods

/-- What has become of a body that wants a reply. -/
inductive Fate where
  | replied (m : Message)
  | waiting (r : Request)
  /-- Its reply was queued, and then lost by a failed write. -/
  | lost (m : Message)
  /-- It was worked off when nothing could be sent any more. -/
  | late (r : Request)
  /-- It holds no message, and was read when nothing could be sent any more. -/
  | unheard (cause : ReadError)

/-- A fate is the fate of a body. -/
def Fate.Befits (body : List UInt8) : Fate → Prop
  | .replied m | .lost m => Answers body m
  | .waiting r | .late r => Asks body r
  | .unheard cause => decode body = .error cause

/-- What the peer does not get to hear. -/
structure Unsaid where
  lost : List Message
  late : List Request
  unheard : List ReadError

namespace Unsaid

def nothing : Unsaid :=
  ⟨[], [], []⟩

/-- A failed write loses messages. -/
def lose (messages : List Message) (u : Unsaid) : Unsaid :=
  { u with lost := u.lost ++ messages.filter Message.isResponse }

/-- A request is worked off, if there is one. -/
def workOff (writing : Bool) (r : Option Request) (u : Unsaid) : Unsaid :=
  if writing then u else { u with late := u.late ++ r.toList }

/-- Bodies are taken in. -/
def takeIn (writing : Bool) (frames : List (List UInt8)) (u : Unsaid) : Unsaid :=
  if writing then u else { u with unheard := u.unheard ++ frames.filterMap failure? }

def fates (u : Unsaid) : Multiset Fate :=
  ↑(u.lost.map Fate.lost) + ↑(u.late.map Fate.late) + ↑(u.unheard.map Fate.unheard)

theorem fates_lose (messages : List Message) (u : Unsaid) :
    (u.lose messages).fates =
      ↑((messages.filter Message.isResponse).map Fate.lost) + u.fates := by
  simp only [fates, lose, List.map_append, ← Multiset.coe_add, add_assoc]
  rw [add_left_comm]

theorem workOff_none (writing : Bool) (u : Unsaid) : u.workOff writing none = u := by
  cases writing <;> simp [workOff]

theorem takeIn_nil (writing : Bool) (u : Unsaid) : u.takeIn writing [] = u := by
  cases writing <;> simp [takeIn]

theorem takeIn_cons (writing : Bool) (body : List UInt8) (frames : List (List UInt8)) (u : Unsaid) :
    u.takeIn writing (body :: frames) = (u.takeIn writing [body]).takeIn writing frames := by
  cases writing <;> simp [takeIn, List.filterMap_cons]
  cases failure? body <;> simp

end Unsaid

def Task.request? : Task → Option Request
  | .handle r => some r
  | .write => none

namespace Session

/-- The replies that have been queued, in order. -/
def replies (s : Session) : List Message :=
  (s.written ++ s.outbound).filter Message.isResponse

/-- The requests that wait. -/
def pending (s : Session) : List Request :=
  s.tasks.filterMap Task.request?

/-- The bodies that are there and have not been taken in. -/
def toRead (limit : Nat) (s : Session) : List (List UInt8) :=
  if s.reading then bodies limit s.unread else []

/-- All that can have become of what was taken in. -/
def fates (u : Unsaid) (s : Session) : Multiset Fate :=
  ↑(s.replies.map Fate.replied) + ↑(s.pending.map Fate.waiting) + u.fates

theorem coe_concat {α : Type} (l : List α) (a : α) :
    ((l ++ [a] : List α) : Multiset α) = a ::ₘ ↑l :=
  Multiset.coe_eq_coe.mpr (List.perm_append_singleton a l)

variable {s : Session} {u : Unsaid}

theorem fates_congr {s' : Session} (hreplies : s'.replies = s.replies)
    (hpending : s'.pending.Perm s.pending) : s'.fates u = s.fates u := by
  have hwaiting : ((s'.pending.map Fate.waiting : List Fate) : Multiset Fate) =
      ↑(s.pending.map Fate.waiting) :=
    Multiset.coe_eq_coe.mpr (hpending.map _)
  rw [fates, hreplies, hwaiting, fates]

theorem fates_reply {s' : Session} {m : Message} (hreplies : s'.replies = s.replies ++ [m])
    (hpending : s'.pending = s.pending) : s'.fates u = .replied m ::ₘ s.fates u := by
  rw [fates, hreplies, hpending, List.map_append, List.map_singleton, coe_concat,
    Multiset.cons_add, Multiset.cons_add, fates]

theorem fates_wait {s' : Session} {r : Request} (hreplies : s'.replies = s.replies)
    (hpending : s'.pending.Perm (r :: s.pending)) :
    s'.fates u = .waiting r ::ₘ s.fates u := by
  have hwaiting : ((s'.pending.map Fate.waiting : List Fate) : Multiset Fate) =
      .waiting r ::ₘ ↑(s.pending.map Fate.waiting) :=
    Multiset.coe_eq_coe.mpr (hpending.map _)
  rw [fates, hreplies, hwaiting, Multiset.add_cons, Multiset.cons_add, fates]

theorem fates_late (r : Request) :
    s.fates (u.workOff false (some r)) = .late r ::ₘ s.fates u := by
  have hlate : (u.workOff false (some r)).fates = .late r ::ₘ u.fates := by
    simp only [Unsaid.workOff, Unsaid.fates, Bool.false_eq_true, if_false, Option.toList_some,
      List.map_append, List.map_singleton, coe_concat, Multiset.add_cons, Multiset.cons_add]
  rw [fates, hlate, Multiset.add_cons, fates]

theorem fates_unheard {body : List UInt8} {cause : ReadError} (h : decode body = .error cause) :
    s.fates (u.takeIn false [body]) = .unheard cause ::ₘ s.fates u := by
  have hunheard : (u.takeIn false [body]).fates = .unheard cause ::ₘ u.fates := by
    have hfailure : [body].filterMap failure? = [cause] := by simp [failure?, h]
    simp only [Unsaid.takeIn, Unsaid.fates, Bool.false_eq_true, if_false, hfailure,
      List.map_append, List.map_singleton, coe_concat, Multiset.add_cons]
  rw [fates, hunheard, Multiset.add_cons, fates]

theorem replies_schedule (task : Task) : (s.schedule task).replies = s.replies := by
  unfold schedule
  split <;> rfl

theorem pending_schedule_write : (s.schedule .write).pending = s.pending := by
  unfold schedule
  split
  · rfl
  · simp [pending, Task.request?]

theorem pending_schedule_handle (r : Request) :
    (s.schedule (.handle r)).pending = s.pending ++ [r] := by
  simp [schedule, Task.isWrite, pending, Task.request?]

theorem send_of_not_writing (h : s.writing = false) (m : Message) : s.send m = s := by
  rw [send, if_neg (by simp [h])]

theorem pending_send (m : Message) : (s.send m).pending = s.pending := by
  unfold send
  split <;> rfl

theorem replies_send_response (h : s.writing = true) (id : Option RequestId)
    (outcome : Except Fault Json) :
    (s.send (.response id outcome)).replies = s.replies ++ [.response id outcome] := by
  rw [send, if_pos h, replies, ← List.append_assoc, List.filter_append]
  rfl

theorem replies_send_of_not_isResponse {m : Message} (h : m.isResponse = false) :
    (s.send m).replies = s.replies := by
  unfold send
  split
  · rw [replies, ← List.append_assoc, List.filter_append, List.filter_singleton, h]
    exact List.append_nil _
  · rfl

theorem replies_write : s.write.replies = s.replies := by
  rw [replies, write, List.append_nil, replies]

/-- The sessions differ in their queues and their watches only. -/
structure SameCourse (s s' : Session) : Prop where
  unread : s'.unread = s.unread
  peerDone : s'.peerDone = s.peerDone
  reading : s'.reading = s.reading
  disposed : s'.disposed = s.disposed
  writing : s'.writing = s.writing

theorem SameCourse.trans {s' s'' : Session} (h : SameCourse s s') (h' : SameCourse s' s'') :
    SameCourse s s'' :=
  ⟨h'.unread.trans h.unread, h'.peerDone.trans h.peerDone, h'.reading.trans h.reading,
    h'.disposed.trans h.disposed, h'.writing.trans h.writing⟩

theorem SameState.sameCourse {s s' : Session} (h : SameState s s') : SameCourse s s' :=
  ⟨h.unread, h.peerDone, h.reading, h.disposed, h.writing⟩

/-- A message that is no request changes nothing. -/
theorem accept_of_not_wantsReply {body : List UInt8} (h : wantsReply body = false) (s : Session) :
    s.accept (Arrival.ofBody body) = s := by
  unfold wantsReply at h
  unfold Arrival.ofBody
  split at h
  · cases h
  next m hnot hdecode =>
    rw [hdecode]
    cases m with
    | request id method params => exact absurd rfl (hnot id method params)
    | notification method params => rfl
    | response id outcome => rfl
  · cases h

/-- Takes in bodies one after the other. -/
def takeIn (frames : List (List UInt8)) (s : Session) : Session :=
  (frames.map Arrival.ofBody).foldl accept s

theorem takeIn_cons (body : List UInt8) (frames : List (List UInt8)) (s : Session) :
    s.takeIn (body :: frames) = (s.accept (Arrival.ofBody body)).takeIn frames :=
  rfl

theorem sameCourse_takeIn (frames : List (List UInt8)) (s : Session) :
    SameCourse s (s.takeIn frames) :=
  (SameState.foldl sameState_accept _ s).sameCourse

/-- A body that is taken in has its fate at once. -/
theorem exists_fate_of_accept {body : List UInt8} (hwants : wantsReply body = true) (u : Unsaid) :
    ∃ fate, Fate.Befits body fate ∧
      (s.accept (Arrival.ofBody body)).fates (u.takeIn s.writing [body]) = fate ::ₘ s.fates u := by
  unfold Arrival.ofBody
  cases hdecode : decode body with
  | error cause =>
    cases hwriting : s.writing with
    | true =>
      refine ⟨.replied (complaint cause), answers_complaint hdecode, fates_reply ?_ ?_⟩
      · rw [accept, replies_schedule]
        cases cause <;> exact replies_send_response hwriting _ _
      · rw [accept, pending_schedule_write, pending_send]
    | false =>
      refine ⟨.unheard cause, hdecode, ?_⟩
      rw [accept, send_of_not_writing hwriting, fates_unheard hdecode,
        fates_congr (replies_schedule _) (.of_eq pending_schedule_write)]
  | ok m =>
    have hheard : u.takeIn s.writing [body] = u := by
      simp [Unsaid.takeIn, failure?, hdecode]
    rw [hheard]
    cases m with
    | request id method params =>
      refine ⟨.waiting ⟨id, method, params⟩, hdecode, fates_wait (replies_schedule _) ?_⟩
      rw [accept, pending_schedule_handle]
      exact List.perm_append_comm
    | notification method params =>
      rw [wantsReply, hdecode] at hwants
      cases hwants
    | response id outcome =>
      rw [wantsReply, hdecode] at hwants
      cases hwants

theorem takeIn_of_not_wantsReply {body : List UInt8} (h : wantsReply body = false) (writing : Bool)
    (u : Unsaid) : u.takeIn writing [body] = u := by
  have hnone : failure? body = none := by
    unfold wantsReply at h
    unfold failure?
    cases hdecode : decode body with
    | ok m => rfl
    | error cause =>
      rw [hdecode] at h
      cases h
  simp [Unsaid.takeIn, hnone]

/-- What is taken in is accounted for. -/
theorem befits_takeIn {before : List (List UInt8)}
    (h : Multiset.Rel Fate.Befits ↑(before.filter wantsReply) (s.fates u))
    (frames : List (List UInt8)) :
    Multiset.Rel Fate.Befits ↑((before ++ frames).filter wantsReply)
      ((s.takeIn frames).fates (u.takeIn s.writing frames)) := by
  -- The frames before grow by the one that is taken in, as the session does.
  induction frames generalizing s before u with
  | nil =>
    rw [List.append_nil, Unsaid.takeIn_nil]
    exact h
  | cons body frames ih =>
    have hnext : Multiset.Rel Fate.Befits ↑((before ++ [body]).filter wantsReply)
        ((s.accept (Arrival.ofBody body)).fates (u.takeIn s.writing [body])) := by
      rw [List.filter_append]
      cases hwants : wantsReply body with
      | true =>
        obtain ⟨fate, hfate, hfates⟩ := exists_fate_of_accept hwants u
        rw [hfates, List.filter_singleton, hwants, cond_true, coe_concat]
        exact .cons hfate h
      | false =>
        rw [accept_of_not_wantsReply hwants, takeIn_of_not_wantsReply hwants, List.filter_singleton,
          hwants, cond_false, List.append_nil]
        exact h
    have hrest := ih hnext
    rw [List.append_assoc, (sameState_accept _ _).writing, ← Unsaid.takeIn_cons] at hrest
    exact hrest

/-- Something else has become of a body from now on. -/
theorem befits_exchange {frames : Multiset (List UInt8)} {others : Multiset Fate}
    {fate fate' : Fate} (h : Multiset.Rel Fate.Befits frames (fate ::ₘ others))
    (hfate : ∀ body, Fate.Befits body fate → Fate.Befits body fate') :
    Multiset.Rel Fate.Befits frames (fate' ::ₘ others) := by
  obtain ⟨body, rest, hbefits, hrest, rfl⟩ := Multiset.rel_cons_right.mp h
  exact .cons (hfate body hbefits) hrest

theorem befits_lost {frames : Multiset (List UInt8)} (replies : List Message)
    {others : Multiset Fate}
    (h : Multiset.Rel Fate.Befits frames (↑(replies.map Fate.replied) + others)) :
    Multiset.Rel Fate.Befits frames (↑(replies.map Fate.lost) + others) := by
  induction replies generalizing others with
  | nil => exact h
  | cons m rest ih =>
    rw [List.map_cons, ← Multiset.cons_coe, Multiset.cons_add] at h ⊢
    have hlost (body : List UInt8) (hreplied : Fate.Befits body (.replied m)) :
        Fate.Befits body (.lost m) := hreplied
    have h := befits_exchange h hlost
    rw [← Multiset.add_cons] at h ⊢
    exact ih h

/-- The replies that have not gone out when a write fails are lost. -/
theorem befits_breakOff {frames : Multiset (List UInt8)} (sent : Nat)
    (h : Multiset.Rel Fate.Befits frames (s.fates u)) :
    Multiset.Rel Fate.Befits frames
      ((s.breakOff sent).fates (u.lose (s.outbound.drop sent))) := by
  have hreplies : s.replies =
      (s.breakOff sent).replies ++ (s.outbound.drop sent).filter Message.isResponse := by
    simp only [replies, breakOff, List.append_nil]
    rw [← List.filter_append, List.append_assoc, List.take_append_drop]
  have hpending : (s.breakOff sent).pending = s.pending := rfl
  have hbefore : s.fates u =
      ↑(((s.outbound.drop sent).filter Message.isResponse).map Fate.replied) +
        (s.breakOff sent).fates u := by
    rw [fates, hreplies, List.map_append, ← Multiset.coe_add, fates, hpending, add_assoc, add_assoc,
      add_left_comm, add_assoc]
  have hafter : (s.breakOff sent).fates (u.lose (s.outbound.drop sent)) =
      ↑(((s.outbound.drop sent).filter Message.isResponse).map Fate.lost) +
        (s.breakOff sent).fates u := by
    rw [fates, Unsaid.fates_lose, fates, add_left_comm]
  rw [hafter]
  exact befits_lost _ (hbefore ▸ h)

section Handle

variable {σ : Type} (methods : Methods σ) (policy : Policy) (host : σ)

/-- Handling a request changes the watches and sends a response to it. -/
theorem exists_handle (s : Session) (r : Request) :
    ∃ s', SameCourse s s' ∧ s'.replies = s.replies ∧ s'.pending = s.pending ∧
      (s.handle methods policy r host).1 = s'.send
        (.response (some r.id) (methods.dispatch r.method r.params (s.context policy host)).1) :=
  ⟨{ s with registry := (methods.dispatch r.method r.params (s.context policy host)).2.registry },
    ⟨rfl, rfl, rfl, rfl, rfl⟩, rfl, rfl, rfl⟩

theorem sameCourse_handle (r : Request) : SameCourse s (s.handle methods policy r host).1 := by
  obtain ⟨s', hcourse, -, -, heq⟩ := exists_handle methods policy host s r
  rw [heq]
  exact hcourse.trans (sameState_send _ _).sameCourse

/-- A request that is worked off is answered. If nothing can be sent any more, it is late. -/
theorem befits_handle {methods : Methods σ} (hm : methods.Typed) {rest : Session} {r : Request}
    {frames : Multiset (List UInt8)} (hreplies : s.replies = rest.replies)
    (hpending : s.pending.Perm (r :: rest.pending))
    (h : Multiset.Rel Fate.Befits frames (s.fates u)) :
    Multiset.Rel Fate.Befits frames ((rest.handle methods policy r host).1.fates
      (u.workOff rest.writing (some r))) := by
  obtain ⟨s', hcourse, hreplies', hpending', heq⟩ := exists_handle methods policy host rest r
  -- Whichever frame the waiting request is matched with passes on to its new fate.
  rw [fates_wait (hreplies.trans hreplies'.symm) (hpending'.symm ▸ hpending)] at h
  rw [heq, ← hcourse.writing]
  cases hwriting : s'.writing with
  | true =>
    rw [show u.workOff true (some r) = u from rfl,
      fates_reply (replies_send_response hwriting _ _) (pending_send _)]
    exact befits_exchange h fun body hasks =>
      hasks.answers fun fault hfault => hm.code_of_dispatch _ _ _ hfault
  | false =>
    rw [fates_late, send_of_not_writing hwriting]
    exact befits_exchange h fun body hasks => hasks

end Handle

/-- The place holds no task, or its task is taken out and done. -/
theorem performAt_cases {σ : Type} (methods : Methods σ) (policy : Policy) (place : Nat)
    (s : Session) (host : σ) :
    (s.tasks[place]? = none ∧ (s.performAt methods policy place host).1 = s) ∨
    (∃ rest, s.tasks[place]? = some .write ∧ SameCourse s rest ∧ rest.replies = s.replies ∧
      rest.pending.Perm s.pending ∧ (s.performAt methods policy place host).1 = rest.write) ∨
    ∃ rest r, s.tasks[place]? = some (.handle r) ∧ SameCourse s rest ∧ s.replies = rest.replies ∧
      s.pending.Perm (r :: rest.pending) ∧
      (s.performAt methods policy place host).1 = (rest.handle methods policy r host).1 := by
  unfold performAt
  cases htask : s.tasks[place]? with
  | none => exact .inl ⟨rfl, rfl⟩
  | some task =>
    obtain ⟨hlt, hget⟩ := List.getElem?_eq_some_iff.mp htask
    have hperm : s.pending.Perm ((task :: s.tasks.eraseIdx place).filterMap Task.request?) := by
      rw [← hget]
      exact (List.getElem_cons_eraseIdx_perm hlt).symm.filterMap Task.request?
    refine .inr ?_
    cases task with
    | write =>
      exact .inl ⟨{ s with tasks := s.tasks.eraseIdx place }, rfl, ⟨rfl, rfl, rfl, rfl, rfl⟩, rfl,
        hperm.symm, rfl⟩
    | handle r =>
      exact .inr ⟨{ s with tasks := s.tasks.eraseIdx place }, r, rfl, ⟨rfl, rfl, rfl, rfl, rfl⟩,
        rfl, hperm, rfl⟩

theorem fates_send_events (events : List ChangeEvent) (s : Session) (u : Unsaid) :
    ((events.map ChangeEvent.notification).foldl send s).fates u = s.fates u := by
  induction events generalizing s with
  | nil => rfl
  | cons event events ih =>
    rw [List.map_cons, List.foldl_cons, ih,
      fates_congr (replies_send_of_not_isResponse rfl) (.of_eq (pending_send _))]

/-- A session that stops neither reads nor watches, and nobody's fate changes by that. -/
theorem stop_course {σ : Type} [Host σ] (h : s.disposed = false) (u : Unsaid) (host : σ) :
    SameCourse { s with reading := false, unread := [], disposed := true } (s.stop host).1 ∧
      (s.stop host).1.fates u = s.fates u := by
  have hstop : (s.stop host).1 = schedule .write
      { s with registry := .empty, disposed := true, reading := false, unread := [] } := by
    rw [stop, dispose, if_neg (by simp [h])]
  rw [hstop]
  have hsame := sameState_schedule
    { s with registry := .empty, disposed := true, reading := false, unread := [] } .write
  exact ⟨⟨hsame.unread, hsame.peerDone, hsame.reading, hsame.disposed, hsame.writing⟩,
    fates_congr (replies_schedule _) (.of_eq pending_schedule_write)⟩

/-- A session that reads takes in all bodies that are there. Then it waits for more, or it stops
because more would not help. -/
theorem read_cases {σ : Type} [Host σ] (h : s.reading = true) (limit : Nat) (host : σ) :
    (∃ rest, s.read limit host =
        ({ s.takeIn (bodies limit s.unread) with unread := rest }, host) ∧
      ∀ more, bodies limit (s.unread ++ more) =
        bodies limit s.unread ++ bodies limit (rest ++ more)) ∨
    (s.read limit host = (s.takeIn (bodies limit s.unread)).stop host ∧
      (s.peerDone = true ∨
        ∀ more, bodies limit (s.unread ++ more) = bodies limit s.unread)) := by
  have hread : s.read limit host =
      match (readFrames limit s.peerDone s.unread).2 with
      | .starved rest => ({ s.takeIn (bodies limit s.unread) with unread := rest }, host)
      | _ => (s.takeIn (bodies limit s.unread)).stop host := by
    have hframes : readFrames limit s.peerDone s.unread =
        ((bodies limit s.unread).map Arrival.ofBody,
          (readFrames limit s.peerDone s.unread).2) := by
      rw [← readFrames_fst limit s.peerDone s.unread]
    rw [read, if_pos h, hframes]
    cases (readFrames limit s.peerDone s.unread).2 <;> rfl
  rw [hread]
  rcases readFrames_snd limit s.peerDone s.unread with ⟨rest, hstop, -, hmore⟩ | ⟨hstop, hmore⟩
  · rw [hstop]
    exact .inl ⟨rest, rfl, hmore⟩
  · refine .inr ⟨?_, ?_⟩
    · split
      next rest heq => exact absurd heq (hstop rest)
      · rfl
    · cases hdone : s.peerDone with
      | true => exact .inl rfl
      | false => exact .inr (hmore hdone)

end Session

end FileBridge
