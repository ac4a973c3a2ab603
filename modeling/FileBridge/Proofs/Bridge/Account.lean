import FileBridge.Proofs.Bridge.Replies
import FileBridge.Tree.Basic

/-!
An account of all that happens to a session. What the peer sent is kept beside the session, and so
is what it does not get to hear. Main statement: at any time, what has been read is the front of
what the peer sent, and each frame in it that wants a reply has its one fate.
-/
namespace FileBridge

open Rpc

/-- A move of a session, with the policy and the host that it meets. -/
structure Moment (σ : Type) where
  policy : Policy
  host : σ
  move : Session.Move

/-- A session, and what has happened to it. -/
structure Account where
  session : Session
  /-- All bytes that the peer has sent. -/
  fed : List UInt8
  unsaid : Unsaid
  /-- The session was ended from this side while it was reading. -/
  cut : Bool
  /-- A write has failed. -/
  broken : Bool

namespace Account

variable {σ : Type} [Host σ]

def start (id : Nat) : Account :=
  ⟨.start id, [], .nothing, false, false⟩

/-- The account after a moment. -/
def after (methods : Methods σ) (limit : Nat) (a : Account) (m : Moment σ) : Account where
  session := (a.session.move methods m.policy limit m.move m.host).1
  fed :=
    match m.move with
    | .arrive bytes => if a.session.peerDone then a.fed else a.fed ++ bytes
    | _ => a.fed
  unsaid :=
    match m.move with
    | .read => a.unsaid.takeIn a.session.writing (a.session.toRead limit)
    | .perform place =>
      a.unsaid.workOff a.session.writing (a.session.tasks[place]?.bind Task.request?)
    | .breakOff sent => a.unsaid.lose (a.session.outbound.drop sent)
    | _ => a.unsaid
  cut :=
    match m.move with
    | .dispose => a.cut || a.session.reading
    | _ => a.cut
  broken :=
    match m.move with
    | .breakOff _ => true
    | _ => a.broken

/-- The account after some moments. -/
def run (methods : Methods σ) (limit : Nat) (moments : List (Moment σ)) (a : Account) : Account :=
  moments.foldl (after methods limit) a

/-- What has been read lies at the front of what the peer sent, and what is left decides what will
be read. Once reading has stopped by itself, nothing that could still arrive would be read. -/
structure InStream (limit : Nat) (taken : List (List UInt8)) (a : Account) : Prop where
  front : taken <+: bodies limit a.fed
  goesOn : a.session.reading = true → a.cut = false ∧
    ∀ more, bodies limit (a.fed ++ more) = taken ++ bodies limit (a.session.unread ++ more)
  ended : a.session.reading = false → a.cut = false → taken = bodies limit a.fed ∧
    (a.session.peerDone = true ∨ ∀ more, bodies limit (a.fed ++ more) = bodies limit a.fed)

/-- What has been read has its fates, and the writer outlives the reader unless a write fails. -/
structure Accounted (taken : List (List UInt8)) (a : Account) : Prop where
  befits : Multiset.Rel Fate.Befits ↑(taken.filter wantsReply) (a.session.fates a.unsaid)
  undisposed : a.session.reading = true → a.session.disposed = false
  stopped : a.session.writing = false → a.session.disposed = true ∨ a.broken = true
  punctual : a.session.writing = true → a.unsaid.late = [] ∧ a.unsaid.unheard = []
  intact : a.broken = false → a.unsaid.lost = [] ∧ a.unsaid.unheard = []

/-- All is in order with an account. -/
structure Kept (limit : Nat) (taken : List (List UInt8)) (a : Account) : Prop extends
    InStream limit taken a, Accounted taken a

variable {limit : Nat} {taken : List (List UInt8)} {a : Account} {s : Session}

theorem kept_start (limit id : Nat) : (start id).Kept limit [] where
  front := List.nil_prefix
  goesOn := fun _ => ⟨rfl, fun _ => rfl⟩
  ended := fun h => by cases h
  befits := .zero
  undisposed := fun _ => rfl
  stopped := fun h => by cases h
  punctual := fun _ => ⟨rfl, rfl⟩
  intact := fun _ => ⟨rfl, rfl⟩

theorem InStream.of_sameCourse (h : a.InStream limit taken) (hcourse : a.session.SameCourse s)
    (u : Unsaid) : InStream limit taken { a with session := s, unsaid := u } where
  front := h.front
  goesOn := by
    rw [hcourse.reading, hcourse.unread]
    exact h.goesOn
  ended := by
    rw [hcourse.reading, hcourse.peerDone]
    exact h.ended

namespace Accounted

theorem writing_of_reading (h : a.Accounted taken) (hreading : a.session.reading = true) :
    a.session.writing = true ∨ a.broken = true := by
  cases hwriting : a.session.writing with
  | true => exact .inl rfl
  | false =>
    rcases h.stopped hwriting with hdisposed | hbroken
    · rw [h.undisposed hreading] at hdisposed
      cases hdisposed
    · exact .inr hbroken

/-- Only the queues change, and how the frames have fared is told anew. -/
theorem of_sameCourse (h : a.Accounted taken) (hcourse : a.session.SameCourse s)
    {taken' : List (List UInt8)} {u : Unsaid}
    (hbefits : Multiset.Rel Fate.Befits ↑(taken'.filter wantsReply) (s.fates u))
    (hpunctual : a.session.writing = true → u.late = [] ∧ u.unheard = [])
    (hintact : a.broken = false → u.lost = [] ∧ u.unheard = []) :
    Accounted taken' { a with session := s, unsaid := u } where
  befits := hbefits
  undisposed := by
    rw [hcourse.reading, hcourse.disposed]
    exact h.undisposed
  stopped := by
    rw [hcourse.writing, hcourse.disposed]
    exact h.stopped
  punctual := by
    rw [hcourse.writing]
    exact hpunctual
  intact := hintact

theorem takeIn (h : a.Accounted taken) (hreading : a.session.reading = true)
    (frames : List (List UInt8)) :
    Accounted (taken ++ frames)
      { a with
        session := a.session.takeIn frames
        unsaid := a.unsaid.takeIn a.session.writing frames } := by
  have hheard (hwriting : a.session.writing = true) :
      a.unsaid.takeIn a.session.writing frames = a.unsaid := by
    rw [Unsaid.takeIn, if_pos hwriting]
  refine h.of_sameCourse (Session.sameCourse_takeIn frames a.session)
    (Session.befits_takeIn h.befits frames) (fun hwriting => ?_) fun hbroken => ?_
  · rw [hheard hwriting]
    exact h.punctual hwriting
  · rcases h.writing_of_reading hreading with hwriting | hfailed
    · rw [hheard hwriting]
      exact h.intact hbroken
    · rw [hbroken] at hfailed
      cases hfailed

end Accounted

namespace Kept

theorem of_sameCourse (h : a.Kept limit taken) (hcourse : a.session.SameCourse s) {u : Unsaid}
    (hbefits : Multiset.Rel Fate.Befits ↑(taken.filter wantsReply) (s.fates u))
    (hpunctual : a.session.writing = true → u.late = [] ∧ u.unheard = [])
    (hintact : a.broken = false → u.lost = [] ∧ u.unheard = []) :
    Kept limit taken { a with session := s, unsaid := u } :=
  ⟨h.toInStream.of_sameCourse hcourse u,
    h.toAccounted.of_sameCourse hcourse hbefits hpunctual hintact⟩

theorem arrive (h : a.Kept limit taken) (hdone : a.session.peerDone = false) (bytes : List UInt8) :
    Kept limit taken { a with session := a.session.feed bytes false, fed := a.fed ++ bytes } where
  front := h.front.trans (bodies_prefix_append limit a.fed bytes)
  goesOn hreading := by
    obtain ⟨hcut, hmore⟩ := h.goesOn hreading
    refine ⟨hcut, fun more => ?_⟩
    rw [List.append_assoc, hmore, Session.feed, List.append_assoc]
  ended hreading hcut := by
    obtain ⟨htaken, hpeer | hmore⟩ := h.ended hreading hcut
    · rw [hdone] at hpeer
      cases hpeer
    · refine ⟨htaken.trans (hmore bytes).symm, .inr fun more => ?_⟩
      rw [List.append_assoc, hmore, hmore]
  toAccounted := ⟨h.befits, h.undisposed, h.stopped, h.punctual, h.intact⟩

theorem hangUp (h : a.Kept limit taken) :
    Kept limit taken { a with session := a.session.feed [] true } where
  front := h.front
  goesOn hreading := by
    rw [Session.feed, List.append_nil]
    exact h.goesOn hreading
  ended hreading hcut := ⟨(h.ended hreading hcut).1, .inl (Bool.or_true _)⟩
  toAccounted := ⟨h.befits, h.undisposed, h.stopped, h.punctual, h.intact⟩

theorem write (h : a.Kept limit taken) :
    Kept limit taken { a with session := a.session.write } where
  toInStream := ⟨h.front, h.goesOn, h.ended⟩
  befits := by
    rw [Session.fates_congr Session.replies_write .rfl]
    exact h.befits
  undisposed := h.undisposed
  stopped := by
    intro hwriting
    rcases Bool.and_eq_false_iff.mp hwriting with hwriting | hdisposed
    · exact h.stopped hwriting
    · exact .inl (Bool.not_eq_eq_eq_not.mp hdisposed)
  punctual hwriting := h.punctual (Bool.and_eq_true_iff.mp hwriting).1
  intact := h.intact

/-- A write fails. -/
theorem breakOff (h : a.Kept limit taken) (sent : Nat) :
    Kept limit taken
      { a with
        session := a.session.breakOff sent
        unsaid := a.unsaid.lose (a.session.outbound.drop sent)
        broken := true } where
  toInStream := ⟨h.front, h.goesOn, h.ended⟩
  befits := Session.befits_breakOff sent h.befits
  undisposed := h.undisposed
  stopped _ := .inr rfl
  punctual hwriting := by cases hwriting
  intact hbroken := by cases hbroken

omit [Host σ] in
/-- A task is done. A request that is worked off when nothing can be sent any more is late. -/
theorem performAt (h : a.Kept limit taken) {methods : Methods σ} (hm : methods.Typed)
    (policy : Policy) (host : σ) (place : Nat) :
    Kept limit taken
      { a with
        session := (a.session.performAt methods policy place host).1
        unsaid := a.unsaid.workOff a.session.writing
          (a.session.tasks[place]?.bind Task.request?) } := by
  rcases a.session.performAt_cases methods policy place host with
    ⟨htask, hsession⟩ | ⟨rest, htask, hcourse, hreplies, hpending, hsession⟩ |
      ⟨rest, r, htask, hcourse, hreplies, hpending, hsession⟩
  · rw [hsession, htask, Option.bind_none, Unsaid.workOff_none]
    exact h
  · rw [hsession, htask, show (some Task.write).bind Task.request? = none from rfl,
      Unsaid.workOff_none]
    have hrest := h.of_sameCourse hcourse
      (Session.fates_congr hreplies hpending ▸ h.befits) h.punctual h.intact
    exact hrest.write
  · rw [hsession, htask, show (some (Task.handle r)).bind Task.request? = some r from rfl]
    refine h.of_sameCourse (hcourse.trans (Session.sameCourse_handle methods policy host r)) ?_
      (fun hwriting => ?_) fun hbroken => ?_
    · rw [← hcourse.writing]
      exact Session.befits_handle policy host hm hreplies hpending h.befits
    · rw [Unsaid.workOff, if_pos hwriting]
      exact h.punctual hwriting
    · unfold Unsaid.workOff
      split
      · exact h.intact hbroken
      · exact h.intact hbroken

theorem relay (h : a.Kept limit taken) (host : σ) :
    Kept limit taken { a with session := (a.session.relay host).1 } := by
  let events := (a.session.registry.relay a.session.writing host).1
  have hcourse := (Session.SameState.foldl Session.sameState_send
    (events.map ChangeEvent.notification) a.session).sameCourse
  have hfates := Session.fates_send_events events a.session a.unsaid
  have hsent := h.of_sameCourse hcourse (hfates.symm ▸ h.befits) h.punctual h.intact
  exact hsent.write

end Kept

/-- The reader stops: by itself when nothing more would be read, or because it is cut off. -/
theorem Accounted.stop (h : a.Accounted taken) (hdisposed : a.session.disposed = false) {cut : Bool}
    (hfront : taken <+: bodies limit a.fed)
    (hended : cut = false → taken = bodies limit a.fed ∧
      (a.session.peerDone = true ∨ ∀ more, bodies limit (a.fed ++ more) = bodies limit a.fed))
    (host : σ) : Kept limit taken { a with session := (a.session.stop host).1, cut := cut } := by
  obtain ⟨hcourse, hfates⟩ := Session.stop_course hdisposed a.unsaid host
  have hreading : (a.session.stop host).1.reading ≠ true := by simp [hcourse.reading]
  exact {
    front := hfront
    goesOn := fun h => absurd h hreading
    ended := fun _ hcut => hcourse.peerDone.symm ▸ hended hcut
    befits := hfates ▸ h.befits
    undisposed := fun h => absurd h hreading
    stopped := fun _ => .inl hcourse.disposed
    punctual := fun hwriting => h.punctual (hcourse.writing ▸ hwriting)
    intact := h.intact }

/-- The reader takes in what is there. It goes on if it has to wait for more. -/
theorem Kept.read (h : a.Kept limit taken) (host : σ) :
    ∃ taken, Kept limit taken
      { a with
        session := (a.session.read limit host).1
        unsaid := a.unsaid.takeIn a.session.writing (a.session.toRead limit) } := by
  cases hreading : a.session.reading with
  | false =>
    refine ⟨taken, ?_⟩
    rw [Session.read, Session.toRead, hreading, if_neg Bool.false_ne_true,
      if_neg Bool.false_ne_true, Unsaid.takeIn_nil]
    exact h
  | true =>
    obtain ⟨hcut, hmore⟩ := h.goesOn hreading
    have hfed : taken ++ bodies limit a.session.unread = bodies limit a.fed := by
      simpa using (hmore []).symm
    have htaken := h.takeIn hreading (bodies limit a.session.unread)
    -- Either way all bodies that are there are taken; the two cases differ in what is left over.
    refine ⟨taken ++ bodies limit a.session.unread, ?_⟩
    rw [Session.toRead, if_pos hreading]
    rcases Session.read_cases hreading limit host with ⟨rest, hread, hrest⟩ | ⟨hread, hstop⟩
    · rw [hread]
      obtain ⟨hbefits, hundisposed, hstopped, hpunctual, hintact⟩ := htaken
      refine ⟨⟨hfed ▸ List.prefix_rfl, fun _ => ⟨hcut, fun more => ?_⟩, fun hended => ?_⟩,
        hbefits, hundisposed, hstopped, hpunctual, hintact⟩
      · rw [hmore, hrest, List.append_assoc]
      · have hsame := Session.sameCourse_takeIn (bodies limit a.session.unread) a.session
        rw [← hsame.reading] at hreading
        exact absurd (hreading.symm.trans hended) (by simp)
    · rw [hread]
      have hsame := Session.sameCourse_takeIn (bodies limit a.session.unread) a.session
      have hdisposed := hsame.disposed.trans (h.undisposed hreading)
      refine htaken.stop hdisposed (hfed ▸ List.prefix_rfl) (fun _ => ⟨hfed, ?_⟩) host
      refine hstop.imp hsame.peerDone.trans fun hstable more => ?_
      rw [hmore, hstable, hfed]

/-- Whatever happens next, the account stays in order. -/
theorem Kept.after (h : a.Kept limit taken) {methods : Methods σ} (hm : methods.Typed)
    (m : Moment σ) : ∃ taken, (a.after methods limit m).Kept limit taken := by
  obtain ⟨policy, host, move⟩ := m
  cases move with
  | arrive bytes =>
    refine ⟨taken, ?_⟩
    cases hdone : a.session.peerDone with
    | true =>
      simp only [Account.after, Session.move, hdone, if_true]
      exact h
    | false =>
      simp only [Account.after, Session.move, hdone, Bool.false_eq_true, if_false]
      exact h.arrive hdone bytes
  | hangUp => exact ⟨taken, h.hangUp⟩
  | read => exact h.read host
  | perform place => exact ⟨taken, h.performAt hm policy host place⟩
  | write => exact ⟨taken, h.write⟩
  | breakOff sent => exact ⟨taken, h.breakOff sent⟩
  | relay => exact ⟨taken, h.relay host⟩
  | dispose =>
    refine ⟨taken, ?_⟩
    cases hdisposed : a.session.disposed with
    | true =>
      -- A session that is disposed of has stopped reading, so this is no cut.
      have hreading : a.session.reading = false := by
        by_contra hreading
        rw [h.undisposed (by simpa using hreading)] at hdisposed
        cases hdisposed
      simp only [Account.after, Session.move, hdisposed, hreading, Bool.or_false, if_true]
      exact h
    | false =>
      simp only [Account.after, Session.move, hdisposed, Bool.false_eq_true, if_false]
      refine h.stop hdisposed h.front (fun hcut => ?_) host
      obtain ⟨hcut, hreading⟩ := Bool.or_eq_false_iff.mp hcut
      exact h.ended hreading hcut

theorem Kept.run (h : a.Kept limit taken) {methods : Methods σ} (hm : methods.Typed)
    (moments : List (Moment σ)) : ∃ taken, (a.run methods limit moments).Kept limit taken := by
  induction moments generalizing a taken with
  | nil => exact ⟨taken, h⟩
  | cons m moments ih =>
    obtain ⟨next, hnext⟩ := h.after hm m
    exact ih hnext

end Account

end FileBridge
