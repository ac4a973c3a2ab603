import Mathlib.Data.List.Nodup
import FileBridge.Client
import FileBridge.Proofs.Rpc.Bodies

/-!
What becomes of the requests of a client. Requests are made and withdrawn, bytes of the bridge or
its end arrive, and notifications are taken, in any order. Main statement: a request is completed by
the first response with its number that comes after it, or else by the end of the connection, and
notifications are taken in the order in which they came.
-/
namespace FileBridge.Client

open Rpc

/-- What can happen to a client. -/
inductive Move where
  | request (method : String) (params : Json)
  /-- A request could not be written. -/
  | withdraw (id : Int)
  | receive (bytes : List UInt8) (ended : Bool)
  | take
  | takeAll

/-- The client after a move. -/
def after (c : Client) : Move → Client
  | .request method params => (c.request method params).2.2
  | .withdraw id => c.withdraw id
  | .receive bytes ended => c.receive bytes ended
  | .take => c.nextNotification.2
  | .takeAll => c.takeNotifications.2

/-- A client and what has happened to it. -/
structure History where
  client : Client
  /-- The number of requests. -/
  asked : Nat
  /-- What the bridge has sent up to its end. -/
  fed : List UInt8
  ended : Bool
  /-- The notifications that have been taken, in order. -/
  taken : List Message

namespace History

def start : History :=
  ⟨Client.start, 0, [], false, []⟩

/-- The history after a move. Nothing is sent after the end. -/
def after (h : History) (m : Move) : History where
  client := h.client.after m
  asked :=
    match m with
    | .request _ _ => h.asked + 1
    | _ => h.asked
  fed :=
    match m with
    | .receive bytes _ => if h.ended then h.fed else h.fed ++ bytes
    | _ => h.fed
  ended :=
    match m with
    | .receive _ ended => h.ended || ended
    | _ => h.ended
  taken :=
    match m with
    | .take => h.taken ++ h.client.nextNotification.1.toList
    | .takeAll => h.taken ++ h.client.takeNotifications.1
    | _ => h.taken

/-- The history after some moves. -/
def run (moves : List Move) (h : History) : History :=
  moves.foldl after h

/-- The frames that have arrived whole, and how reading stands after them. -/
def frames (h : History) : List Arrival × Stop :=
  readFrames defaultBodyLimit h.ended h.fed

end History

/-- The outcome that a frame tells for the request with a number. -/
def answer? (id : Int) : Arrival → Option (Except Fault Json)
  | .message (.response (some (.number n)) outcome) => if n = id then some outcome else none
  | _ => none

/-- The notification that a frame holds. -/
def notice? : Arrival → Option Message
  | .message (.notification method params) => some (.notification method params)
  | _ => none

/-- A result in the form that was asked for, the fault of a response, or what is wrong with the
result. -/
def completion {α : Type} (codec : Codec α) : Except Fault Json → Except BridgeError α
  | .ok v => (codec.read v).mapError .json
  | .error fault => .error (.rpc fault)

/-- Reading goes on when more bytes arrive. -/
def isWaiting : Stop → Bool
  | .starved _ => true
  | .finished => false
  | .failed _ => false

/-- Numbers are given once: those in use are below the next one, a request with a response waits no
more, and none has two. -/
structure Numbered (c : Client) : Prop where
  responses_lt : ∀ r ∈ c.responses, r.1 < c.nextId
  waiting_lt : ∀ waiting ∈ c.waiting, ∀ n ∈ waiting, n < c.nextId
  disjoint : ∀ waiting ∈ c.waiting, ∀ r ∈ c.responses, r.1 ∉ waiting
  nodup : (c.responses.map Prod.fst).Nodup

/-- A request that nothing has answered waits while there is a reader. Otherwise the first answer is
its response, and it waits no more. -/
structure Tracks (id : Int) (answers : List (Except Fault Json)) (c : Client) : Prop where
  response : c.responses.find? (fun r => r.1 = id) = answers.head?.map fun outcome => (id, outcome)
  waits : ∀ waiting ∈ c.waiting, id ∈ waiting ↔ answers = []

/-- What taking in a frame does: a request is completed, a notification is queued, or nothing. -/
theorem accept_cases (c : Client) (a : Arrival) :
    (∃ n outcome waiting, a = .message (.response (some (.number n)) outcome) ∧
      c.waiting = some waiting ∧ n ∈ waiting ∧
      c.accept a = { c with
        waiting := some (waiting.filter (· ≠ n))
        responses := c.responses ++ [(n, outcome)] }) ∨
    (∃ m, notice? a = some m ∧ (∀ id, answer? id a = none) ∧
      c.accept a = { c with notifications := c.notifications ++ [m] }) ∨
    (notice? a = none ∧
      (∀ id outcome waiting, answer? id a = some outcome → c.waiting = some waiting →
        id ∉ waiting) ∧
      c.accept a = c) := by
  cases a with
  | unusable cause => exact .inr (.inr ⟨rfl, nofun, rfl⟩)
  | message m =>
    cases m with
    | request id method params => exact .inr (.inr ⟨rfl, nofun, rfl⟩)
    | notification method params => exact .inr (.inl ⟨_, rfl, fun _ => rfl, rfl⟩)
    | response id outcome =>
      cases id with
      | none => exact .inr (.inr ⟨rfl, nofun, rfl⟩)
      | some id =>
        cases id with
        | text s => exact .inr (.inr ⟨rfl, nofun, rfl⟩)
        | number n =>
          cases hwaiting : c.waiting with
          | none => exact .inr (.inr ⟨rfl, nofun, by simp only [accept, hwaiting]⟩)
          | some waiting =>
            by_cases hmem : n ∈ waiting
            · refine .inl ⟨n, outcome, waiting, rfl, rfl, hmem, ?_⟩
              simp [accept, hwaiting, hmem]
            · refine .inr (.inr ⟨rfl, ?_, by simp [accept, hwaiting, hmem]⟩)
              intro id _ _ hanswer heq
              obtain rfl := Option.some.inj heq
              simp only [answer?] at hanswer
              split at hanswer
              next hid => exact hid ▸ hmem
              · cases hanswer

theorem isClosed_accept (c : Client) (a : Arrival) : (c.accept a).isClosed = c.isClosed := by
  rcases c.accept_cases a with
    ⟨n, outcome, waiting, -, hwaiting, -, heq⟩ | ⟨m, -, -, heq⟩ | ⟨-, -, heq⟩
  · simp [heq, isClosed, hwaiting]
  · rw [heq]
    rfl
  · rw [heq]

theorem Numbered.accept {c : Client} (h : c.Numbered) (a : Arrival) : (c.accept a).Numbered := by
  rcases c.accept_cases a with ⟨n, outcome, waiting, -, hwaiting, hmem, heq⟩ | ⟨m, -, -, heq⟩ |
    ⟨-, -, heq⟩
  · rw [heq]
    have hlt := h.waiting_lt waiting hwaiting
    have hdisjoint := h.disjoint waiting hwaiting
    refine ⟨?_, ?_, ?_, ?_⟩
    · intro r hr
      rcases List.mem_append.mp hr with hr | hr
      · exact h.responses_lt r hr
      · rw [List.mem_singleton.mp hr]
        exact hlt n hmem
    · rintro _ ⟨⟩ k hk
      exact hlt k (List.mem_filter.mp hk).1
    · rintro _ ⟨⟩ r hr
      rcases List.mem_append.mp hr with hr | hr
      · exact fun hin => hdisjoint r hr (List.mem_filter.mp hin).1
      · rw [List.mem_singleton.mp hr]
        simp
    · rw [List.map_append, List.nodup_append]
      refine ⟨h.nodup, List.nodup_singleton _, ?_⟩
      rintro k hk _ hn rfl
      obtain ⟨r, hr, rfl⟩ := List.mem_map.mp hk
      rw [List.map_singleton, List.mem_singleton] at hn
      exact hdisjoint r hr (hn ▸ hmem)
  · rw [heq]
    exact ⟨h.responses_lt, h.waiting_lt, h.disjoint, h.nodup⟩
  · rw [heq]
    exact h

/-- A request takes the next number, and waits as long as there is a reader. -/
theorem request_same (method : String) (params : Json) (c : Client) :
    (c.request method params).2.2.nextId = c.nextId + 1 ∧
      (c.request method params).2.2.waiting = c.waiting.map (· ++ [c.nextId]) ∧
      (c.request method params).2.2.unread = c.unread ∧
      (c.request method params).2.2.responses = c.responses ∧
      (c.request method params).2.2.notifications = c.notifications := by
  cases hwaiting : c.waiting <;> simp [request, hwaiting]

theorem isClosed_request (method : String) (params : Json) (c : Client) :
    (c.request method params).2.2.isClosed = c.isClosed := by
  rw [isClosed, (request_same method params c).2.1, Option.isNone_map]
  rfl

theorem Numbered.request {c : Client} (h : c.Numbered) (method : String) (params : Json) :
    (c.request method params).2.2.Numbered := by
  obtain ⟨hnext, hwaiting, -, hresponses, -⟩ := request_same method params c
  have hlt : ∀ r ∈ c.responses, r.1 < c.nextId + 1 := by
    intro r hr
    have := h.responses_lt r hr
    omega
  constructor
  · rwa [hresponses, hnext]
  · rw [hwaiting, hnext]
    intro waiting hmap n hn
    obtain ⟨before, hbefore, rfl⟩ := Option.map_eq_some_iff.mp hmap
    rcases List.mem_append.mp hn with hn | hn
    · have := h.waiting_lt before hbefore n hn
      omega
    · rw [List.mem_singleton.mp hn]
      omega
  · rw [hwaiting, hresponses]
    intro waiting hmap r hr hmem
    obtain ⟨before, hbefore, rfl⟩ := Option.map_eq_some_iff.mp hmap
    rcases List.mem_append.mp hmem with hmem | hmem
    · exact h.disjoint before hbefore r hr hmem
    · have := h.responses_lt r hr
      rw [List.mem_singleton.mp hmem] at this
      omega
  · rw [hresponses]
    exact h.nodup

theorem Numbered.tracks_request {c : Client} (h : c.Numbered) (method : String) (params : Json) :
    (c.request method params).2.2.Tracks c.nextId [] := by
  obtain ⟨-, hwaiting, -, hresponses, -⟩ := request_same method params c
  refine ⟨?_, ?_⟩
  · rw [hresponses, List.head?_nil, Option.map_none, List.find?_eq_none]
    intro r hr
    have := h.responses_lt r hr
    simp only [decide_eq_true_eq]
    omega
  · rw [hwaiting]
    intro waiting hmap
    obtain ⟨before, -, rfl⟩ := Option.map_eq_some_iff.mp hmap
    simp

theorem Numbered.withdraw {c : Client} (h : c.Numbered) (id : Int) : (c.withdraw id).Numbered := by
  have hsub : ∀ waiting ∈ (c.withdraw id).waiting, ∃ more ∈ c.waiting, waiting ⊆ more := by
    intro waiting hwaiting
    obtain ⟨more, hmore, rfl⟩ := Option.map_eq_some_iff.mp hwaiting
    exact ⟨more, hmore, List.filter_subset_self more⟩
  refine ⟨h.responses_lt, fun waiting hwaiting n hn => ?_, fun waiting hwaiting r hr hmem => ?_,
    h.nodup⟩
  · obtain ⟨more, hmore, hsubset⟩ := hsub waiting hwaiting
    exact h.waiting_lt more hmore n (hsubset hn)
  · obtain ⟨more, hmore, hsubset⟩ := hsub waiting hwaiting
    exact h.disjoint more hmore r hr (hsubset hmem)

/-- Taking in a frame adds the answer that it holds. -/
theorem Tracks.accept {c : Client} {id : Int} {answers : List (Except Fault Json)}
    (h : c.Tracks id answers) (hopen : c.isClosed = false) (a : Arrival) :
    (c.accept a).Tracks id (answers ++ (answer? id a).toList) := by
  obtain ⟨waiting, hwaiting⟩ : ∃ waiting, c.waiting = some waiting := by
    simpa [isClosed, Option.isSome_iff_exists] using hopen
  have hwaits := h.waits waiting hwaiting
  rcases c.accept_cases a with ⟨n, outcome, waiting', rfl, hwaiting', hmem, heq⟩ |
    ⟨m, -, hanswer, heq⟩ | ⟨-, hanswer, heq⟩
  · obtain rfl := Option.some.inj (hwaiting.symm.trans hwaiting')
    rw [heq]
    by_cases hid : n = id
    · subst hid
      have hnone : answers = [] := hwaits.mp hmem
      subst hnone
      refine ⟨?_, ?_⟩
      · simp [List.find?_append, h.response, answer?]
      · rintro _ ⟨⟩
        simp [answer?]
    · refine ⟨?_, ?_⟩
      · simp [List.find?_append, h.response, answer?, hid]
      · rintro _ ⟨⟩
        have hne : id ≠ n := fun heq => hid heq.symm
        simp [answer?, hid, hne, hwaits]
  · rw [heq, hanswer]
    simpa using ⟨h.response, h.waits⟩
  · rw [heq]
    cases hsome : answer? id a with
    | none => simpa using h
    | some outcome =>
      have hnot : answers ≠ [] := fun hnil =>
        hanswer id outcome waiting hsome hwaiting (hwaits.mpr hnil)
      refine ⟨?_, ?_⟩
      · rw [h.response]
        cases answers with
        | nil => exact absurd rfl hnot
        | cons first rest => rfl
      · intro _ hin
        obtain rfl := Option.some.inj (hwaiting.symm.trans hin)
        simp [hwaits, hnot]

theorem notifications_accept (c : Client) (a : Arrival) :
    (c.accept a).notifications = c.notifications ++ (notice? a).toList := by
  rcases c.accept_cases a with ⟨n, outcome, waiting, rfl, -, -, heq⟩ | ⟨m, hnotice, -, heq⟩ |
    ⟨hnotice, -, heq⟩
  · simp [heq, notice?]
  · simp [heq, hnotice]
  · simp [heq, hnotice]

theorem nextId_accept (c : Client) (a : Arrival) : (c.accept a).nextId = c.nextId := by
  rcases c.accept_cases a with
    ⟨n, outcome, waiting, -, -, -, heq⟩ | ⟨m, -, -, heq⟩ | ⟨-, -, heq⟩ <;>
    rw [heq]

theorem responses_accept (c : Client) (a : Arrival) :
    c.responses <+: (c.accept a).responses := by
  rcases c.accept_cases a with ⟨n, outcome, waiting, -, -, -, heq⟩ | ⟨m, -, -, heq⟩ | ⟨-, -, heq⟩
  · exact ⟨[(n, outcome)], by rw [heq]⟩
  · exact ⟨[], by rw [heq, List.append_nil]⟩
  · exact ⟨[], by rw [heq, List.append_nil]⟩

/-- One client has taken in frames and may have lost its reader after them. A client without a
reader takes in none. -/
structure Reads (arrivals : List Arrival) (c c' : Client) : Prop where
  nextId : c'.nextId = c.nextId
  responses : c'.responses = (arrivals.foldl accept c).responses
  notifications : c'.notifications = (arrivals.foldl accept c).notifications
  waiting : c'.waiting = (arrivals.foldl accept c).waiting ∨ c'.waiting = none
  closed : c.isClosed = true → arrivals = [] ∧ c'.isClosed = true

section Fold

variable {c : Client}

theorem isClosed_foldl_accept (arrivals : List Arrival) (c : Client) :
    (arrivals.foldl accept c).isClosed = c.isClosed := by
  induction arrivals generalizing c with
  | nil => rfl
  | cons a rest ih => rw [List.foldl_cons, ih, isClosed_accept]

theorem nextId_foldl_accept (arrivals : List Arrival) (c : Client) :
    (arrivals.foldl accept c).nextId = c.nextId := by
  induction arrivals generalizing c with
  | nil => rfl
  | cons a rest ih => rw [List.foldl_cons, ih, nextId_accept]

theorem notifications_foldl_accept (arrivals : List Arrival) (c : Client) :
    (arrivals.foldl accept c).notifications = c.notifications ++ arrivals.filterMap notice? := by
  induction arrivals generalizing c with
  | nil => simp
  | cons a rest ih =>
    rw [List.foldl_cons, ih, notifications_accept, List.filterMap_cons]
    cases notice? a <;> simp

theorem responses_foldl_accept (arrivals : List Arrival) (c : Client) :
    c.responses <+: (arrivals.foldl accept c).responses := by
  induction arrivals generalizing c with
  | nil => exact List.prefix_rfl
  | cons a rest ih => exact (c.responses_accept a).trans (ih _)

theorem Numbered.foldl_accept (h : c.Numbered) (arrivals : List Arrival) :
    (arrivals.foldl Client.accept c).Numbered := by
  induction arrivals generalizing c with
  | nil => exact h
  | cons a rest ih => exact ih (h.accept a)

theorem Tracks.foldl_accept {id : Int} {answers : List (Except Fault Json)}
    (h : c.Tracks id answers) (hopen : c.isClosed = false) (arrivals : List Arrival) :
    (arrivals.foldl Client.accept c).Tracks id (answers ++ arrivals.filterMap (answer? id)) := by
  induction arrivals generalizing c answers with
  | nil => simpa using h
  | cons a rest ih =>
    have hrest := ih (h.accept hopen a) (by rwa [isClosed_accept])
    rw [List.append_assoc] at hrest
    rw [List.filterMap_cons]
    cases hanswer : answer? id a with
    | none => simpa [hanswer] using hrest
    | some outcome => simpa [hanswer] using hrest

end Fold

namespace Reads

variable {arrivals : List Arrival} {c c' : Client}

theorem numbered (h : Reads arrivals c c') (hc : c.Numbered) : c'.Numbered := by
  have hfold := hc.foldl_accept arrivals
  have hnext : c'.nextId = (arrivals.foldl accept c).nextId := by
    rw [h.nextId, nextId_foldl_accept]
  refine ⟨?_, ?_, ?_, ?_⟩
  · rw [h.responses, hnext]
    exact hfold.responses_lt
  · intro waiting hwaiting
    rcases h.waiting with heq | heq
    · rw [hnext]
      exact hfold.waiting_lt waiting (heq ▸ hwaiting)
    · rw [heq] at hwaiting
      cases hwaiting
  · intro waiting hwaiting
    rcases h.waiting with heq | heq
    · rw [h.responses]
      exact hfold.disjoint waiting (heq ▸ hwaiting)
    · rw [heq] at hwaiting
      cases hwaiting
  · rw [h.responses]
    exact hfold.nodup

theorem tracks (h : Reads arrivals c c') {id : Int} {answers : List (Except Fault Json)}
    (hc : c.Tracks id answers) : c'.Tracks id (answers ++ arrivals.filterMap (answer? id)) := by
  have hfold :
      (arrivals.foldl accept c).Tracks id (answers ++ arrivals.filterMap (answer? id)) := by
    cases hclosed : c.isClosed with
    | false => exact hc.foldl_accept hclosed arrivals
    | true =>
      obtain ⟨rfl, -⟩ := h.closed hclosed
      simpa using hc
  refine ⟨by rw [h.responses, hfold.response], fun waiting hwaiting => ?_⟩
  rcases h.waiting with heq | heq
  · exact hfold.waits waiting (heq ▸ hwaiting)
  · rw [heq] at hwaiting
    cases hwaiting

end Reads

theorem receive_of_closed {c : Client} (h : c.isClosed = true) (bytes : List UInt8) (ended : Bool) :
    c.receive bytes ended = c := by
  rw [receive, if_pos h]

theorem reads_refl (c : Client) : Reads [] c c :=
  ⟨rfl, rfl, rfl, .inl rfl, fun h => ⟨rfl, h⟩⟩

/-- What arrives is read from where reading stands, and the reader stops with it. -/
theorem receive_of_open {c : Client} (h : c.isClosed = false) (bytes : List UInt8) (ended : Bool) :
    Reads (readFrames defaultBodyLimit ended (c.unread ++ bytes)).1 c (c.receive bytes ended) ∧
      (∀ rest, (readFrames defaultBodyLimit ended (c.unread ++ bytes)).2 = .starved rest →
        (c.receive bytes ended).isClosed = false ∧ (c.receive bytes ended).unread = rest) ∧
      ((∀ rest, (readFrames defaultBodyLimit ended (c.unread ++ bytes)).2 ≠ .starved rest) →
        (c.receive bytes ended).isClosed = true) := by
  cases hframes : readFrames defaultBodyLimit ended (c.unread ++ bytes) with
  | mk arrivals stop =>
    have hclosed := isClosed_foldl_accept arrivals c
    have hnext := nextId_foldl_accept arrivals c
    have hopen (hc : c.isClosed = true) : False := by simp [h] at hc
    simp only [receive, h, Bool.false_eq_true, if_false, hframes]
    cases stop with
    | starved rest =>
      refine ⟨⟨hnext, rfl, rfl, .inl rfl, fun hc => (hopen hc).elim⟩, ?_, ?_⟩
      · rintro _ ⟨⟩
        exact ⟨hclosed.trans h, rfl⟩
      · exact fun hstop => absurd rfl (hstop rest)
    | finished =>
      exact ⟨⟨hnext, rfl, rfl, .inr rfl, fun hc => (hopen hc).elim⟩, nofun, fun _ => rfl⟩
    | failed cause =>
      exact ⟨⟨hnext, rfl, rfl, .inr rfl, fun hc => (hopen hc).elim⟩, nofun, fun _ => rfl⟩

namespace History

/-- The client has read all that has arrived, its numbers are given in order, and no notification is
lost or doubled. -/
structure Kept (h : History) : Prop where
  numbered : h.client.Numbered
  asked : h.client.nextId = h.asked + 1
  goesOn : h.client.isClosed = false →
    h.ended = false ∧ h.frames.2 = .starved h.client.unread
  stopped : h.client.isClosed = true → ∀ rest, h.frames.2 ≠ .starved rest
  notices : h.taken ++ h.client.notifications = h.frames.1.filterMap notice?

theorem kept_start : start.Kept := by
  have hframes : start.frames = ([], .starved []) := readFrames_starved_nil _
  refine ⟨⟨nofun, ?_, nofun, .nil⟩, rfl, fun _ => ⟨rfl, ?_⟩, nofun, ?_⟩
  · rintro _ ⟨⟩
    exact nofun
  · rw [hframes]
    rfl
  · rw [hframes]
    rfl

theorem frames_of_same {h h' : History} (hfed : h'.fed = h.fed) (hended : h'.ended = h.ended) :
    h'.frames = h.frames := by
  rw [frames, frames, hfed, hended]

/-- What a move adds to the frames is what the client takes in. -/
theorem Kept.receive {h : History} (hk : h.Kept) (bytes : List UInt8) (ended : Bool) :
    ∃ arrivals, (h.after (.receive bytes ended)).frames.1 = h.frames.1 ++ arrivals ∧
      Reads arrivals h.client (h.after (.receive bytes ended)).client ∧
      (h.after (.receive bytes ended)).Kept := by
  have hclient : (h.after (.receive bytes ended)).client = h.client.receive bytes ended := rfl
  cases hclosed : h.client.isClosed with
  | true =>
    have hframes : (h.after (.receive bytes ended)).frames = h.frames := by
      cases hended : h.ended with
      | true => exact frames_of_same (by simp [after, hended]) (by simp [after, hended])
      | false =>
        have hstopped := hk.stopped hclosed
        simp only [frames, after, hended, Bool.false_eq_true, if_false, Bool.false_or] at hstopped ⊢
        exact readFrames_append_of_stopped hstopped ended bytes
    rw [receive_of_closed hclosed] at hclient
    refine ⟨[], by rw [hframes, List.append_nil], hclient ▸ reads_refl h.client, ?_⟩
    refine ⟨hclient ▸ hk.numbered, hclient ▸ hk.asked, fun hopen => ?_, fun _ => ?_, ?_⟩
    · rw [hclient, hclosed] at hopen
      cases hopen
    · rw [hframes]
      exact hk.stopped hclosed
    · rw [hclient, hframes]
      exact hk.notices
  | false =>
    obtain ⟨hended, hstarved⟩ := hk.goesOn hclosed
    obtain ⟨hreads, hgoesOn, hstops⟩ := receive_of_open hclosed bytes ended
    have hframes : (h.after (.receive bytes ended)).frames =
        (h.frames.1 ++ (readFrames defaultBodyLimit ended (h.client.unread ++ bytes)).1,
          (readFrames defaultBodyLimit ended (h.client.unread ++ bytes)).2) := by
      simp only [frames, after, hended, Bool.false_eq_true, if_false, Bool.false_or] at hstarved ⊢
      exact readFrames_append_of_starved hstarved ended bytes
    refine ⟨_, congrArg Prod.fst hframes, hreads, hreads.numbered hk.numbered,
      hreads.nextId.trans hk.asked, fun hopen => ?_, fun hstop rest hrest => ?_, ?_⟩
    · rcases readFrames_snd defaultBodyLimit ended (h.client.unread ++ bytes) with
        ⟨rest, hrest, rfl, -⟩ | ⟨hstop, -⟩
      · refine ⟨by simp [after, hended], ?_⟩
        rw [hframes, hclient, (hgoesOn rest hrest).2]
        exact hrest
      · rw [hclient, hstops hstop] at hopen
        cases hopen
    · rw [hframes] at hrest
      rw [hclient, (hgoesOn rest hrest).1] at hstop
      cases hstop
    · rw [hclient, hreads.notifications, notifications_foldl_accept, hframes,
        List.filterMap_append, ← hk.notices, ← List.append_assoc]
      rfl

theorem Kept.of_same {h h' : History} (hk : h.Kept) (hnumbered : h'.client.Numbered)
    (hasked : h'.client.nextId = h'.asked + 1) (hclosed : h'.client.isClosed = h.client.isClosed)
    (hunread : h'.client.unread = h.client.unread) (hended : h'.ended = h.ended)
    (hfed : h'.fed = h.fed)
    (hnotices : h'.taken ++ h'.client.notifications = h.taken ++ h.client.notifications) :
    h'.Kept := by
  have hframes : h'.frames = h.frames := frames_of_same hfed hended
  refine ⟨hnumbered, hasked, ?_, ?_, ?_⟩
  · rw [hclosed, hended, hframes, hunread]
    exact hk.goesOn
  · rw [hclosed, hframes]
    exact hk.stopped
  · rw [hnotices, hframes]
    exact hk.notices

theorem Kept.after {h : History} (hk : h.Kept) (m : Move) : (h.after m).Kept := by
  cases m with
  | request method params =>
    obtain ⟨hnext, -, hunread, -, hnotifications⟩ := request_same method params h.client
    refine hk.of_same (hk.numbered.request method params) ?_ (isClosed_request method params _)
      hunread rfl rfl ?_
    · show (h.client.request method params).2.2.nextId = ((h.asked + 1 : Nat) : Int) + 1
      rw [hnext, hk.asked]
      omega
    · show h.taken ++ (h.client.request method params).2.2.notifications = _
      rw [hnotifications]
  | withdraw id =>
    refine hk.of_same (hk.numbered.withdraw id) hk.asked ?_ rfl rfl rfl rfl
    exact Option.isNone_map
  | receive bytes ended =>
    obtain ⟨_, -, -, hkept⟩ := hk.receive bytes ended
    exact hkept
  | take =>
    refine hk.of_same ⟨hk.numbered.responses_lt, hk.numbered.waiting_lt, hk.numbered.disjoint,
      hk.numbered.nodup⟩ hk.asked rfl rfl rfl rfl ?_
    show (h.taken ++ h.client.notifications.head?.toList) ++ h.client.notifications.tail = _
    rw [List.append_assoc]
    cases h.client.notifications <;> rfl
  | takeAll =>
    refine hk.of_same ⟨hk.numbered.responses_lt, hk.numbered.waiting_lt, hk.numbered.disjoint,
      hk.numbered.nodup⟩ hk.asked rfl rfl rfl rfl ?_
    exact List.append_nil _

theorem Kept.run {h : History} (hk : h.Kept) (moves : List Move) : (h.run moves).Kept := by
  induction moves generalizing h with
  | nil => exact hk
  | cons m rest ih => exact ih (hk.after m)

theorem Kept.isWaiting_eq {h : History} (hk : h.Kept) :
    isWaiting h.frames.2 = !h.client.isClosed := by
  cases hclosed : h.client.isClosed with
  | false =>
    rw [(hk.goesOn hclosed).2]
    rfl
  | true =>
    have hstopped := hk.stopped hclosed
    cases hend : h.frames.2 with
    | starved rest => exact absurd hend (hstopped rest)
    | finished => rfl
    | failed cause => rfl

/-- The answers to a request that was made when so many frames had arrived. -/
def answers (id : Int) (seen : Nat) (h : History) : List (Except Fault Json) :=
  (h.frames.1.drop seen).filterMap (answer? id)

/-- A request of the past and its answers. -/
structure Follows (id : Int) (seen : Nat) (h : History) : Prop where
  tracks : h.client.Tracks id (h.answers id seen)
  seen_le : seen ≤ h.frames.1.length
  id_lt : id < h.client.nextId

/-- A request starts without an answer. -/
theorem Kept.follows_request {h : History} (hk : h.Kept) (method : String) (params : Json) :
    (h.after (.request method params)).Follows (h.asked + 1) h.frames.1.length := by
  have hframes : (h.after (.request method params)).frames = h.frames := rfl
  have hanswers :
      (h.after (.request method params)).answers (h.asked + 1) h.frames.1.length = [] := by
    simp [answers, hframes]
  have hid := hk.asked
  refine ⟨?_, Nat.le_refl _, ?_⟩
  · rw [hanswers, ← hid]
    exact hk.numbered.tracks_request method params
  · show _ < (h.client.request method params).2.2.nextId
    rw [(request_same method params h.client).1]
    omega

theorem Follows.after {h : History} {id : Int} {seen : Nat} (hf : h.Follows id seen) (hk : h.Kept)
    {m : Move} (hm : m ≠ .withdraw id) : (h.after m).Follows id seen := by
  obtain ⟨⟨hresponse, hwaits⟩, hseen, hid⟩ := hf
  cases m with
  | request method params =>
    obtain ⟨hnext, hwaiting, -, hresponses, -⟩ := request_same method params h.client
    refine ⟨⟨?_, ?_⟩, hseen, ?_⟩
    · show (h.client.request method params).2.2.responses.find? _ = _
      rw [hresponses]
      exact hresponse
    · show ∀ waiting ∈ (h.client.request method params).2.2.waiting, _
      rw [hwaiting]
      intro waiting hmap
      obtain ⟨before, hbefore, rfl⟩ := Option.map_eq_some_iff.mp hmap
      have hne : id ≠ h.client.nextId := by omega
      rw [List.mem_append, List.mem_singleton, or_iff_left hne]
      exact hwaits before hbefore
    · show id < (h.client.request method params).2.2.nextId
      omega
  | withdraw other =>
    have hne : id ≠ other := fun heq => hm (heq ▸ rfl)
    refine ⟨⟨hresponse, fun waiting hwaiting => ?_⟩, hseen, hid⟩
    obtain ⟨before, hbefore, rfl⟩ := Option.map_eq_some_iff.mp hwaiting
    have hmem : id ∈ before.filter (· ≠ other) ↔ id ∈ before := by simp [hne]
    exact hmem.trans (hwaits before hbefore)
  | receive bytes ended =>
    obtain ⟨arrivals, hframes, hreads, -⟩ := hk.receive bytes ended
    refine ⟨?_, ?_, ?_⟩
    · have htracks := hreads.tracks ⟨hresponse, hwaits⟩
      rw [answers, ← List.filterMap_append, ← List.drop_append_of_le_length hseen,
        ← hframes] at htracks
      exact htracks
    · rw [hframes, List.length_append]
      omega
    · rw [hreads.nextId]
      exact hid
  | take => exact ⟨⟨hresponse, hwaits⟩, hseen, hid⟩
  | takeAll => exact ⟨⟨hresponse, hwaits⟩, hseen, hid⟩

theorem Follows.run {h : History} {id : Int} {seen : Nat} (hf : h.Follows id seen) (hk : h.Kept)
    {moves : List Move} (hmoves : ∀ m ∈ moves, m ≠ .withdraw id) :
    (h.run moves).Follows id seen := by
  induction moves generalizing h with
  | nil => exact hf
  | cons m rest ih =>
    obtain ⟨hm, hrest⟩ := List.forall_mem_cons.mp hmoves
    exact ih (hf.after hk hm) (hk.after m) hrest

/-- A request is completed by its first answer, or by the end of the reader. -/
theorem Follows.outcome {h : History} {id : Int} {seen : Nat} (hf : h.Follows id seen)
    (hk : h.Kept) :
    h.client.outcome? id = ((h.answers id seen).head?.map fun outcome => outcome.mapError .rpc).or
      (if isWaiting h.frames.2 then none else some (.error .connectionClosed)) := by
  rw [outcome?, hf.tracks.response, hk.isWaiting_eq]
  cases (h.answers id seen).head? with
  | some outcome => rfl
  | none => cases h.client.isClosed <;> rfl

end History

/-- What a move adds to the responses. After the reader has stopped it adds none. -/
theorem responses_after (c : Client) (m : Move) :
    c.responses <+: (c.after m).responses ∧
      (c.isClosed = true → (c.after m).isClosed = true ∧ (c.after m).responses = c.responses) := by
  cases m with
  | request method params =>
    obtain ⟨-, -, -, hresponses, -⟩ := request_same method params c
    refine ⟨⟨[], ?_⟩, fun h => ⟨(isClosed_request method params c).trans h, hresponses⟩⟩
    exact (List.append_nil _).trans hresponses.symm
  | withdraw id =>
    exact ⟨List.prefix_rfl, fun h => ⟨by simpa [after, withdraw, isClosed] using h, rfl⟩⟩
  | receive bytes ended =>
    show _ <+: (c.receive bytes ended).responses ∧ (_ → (c.receive bytes ended).isClosed = true ∧
      (c.receive bytes ended).responses = c.responses)
    cases hclosed : c.isClosed with
    | true =>
      rw [receive_of_closed hclosed]
      exact ⟨List.prefix_rfl, fun _ => ⟨hclosed, rfl⟩⟩
    | false =>
      obtain ⟨hreads, -⟩ := receive_of_open hclosed bytes ended
      rw [hreads.responses]
      exact ⟨responses_foldl_accept _ c, nofun⟩
  | take => exact ⟨List.prefix_rfl, fun h => ⟨h, rfl⟩⟩
  | takeAll => exact ⟨List.prefix_rfl, fun h => ⟨h, rfl⟩⟩

/-- What a request was completed with stays. -/
theorem outcome?_after {c : Client} {id : Int} {r : Except BridgeError Json}
    (h : c.outcome? id = some r) (m : Move) : (c.after m).outcome? id = some r := by
  obtain ⟨⟨more, hmore⟩, hclosed⟩ := c.responses_after m
  unfold outcome? at h ⊢
  cases hfind : c.responses.find? fun r => r.1 = id with
  | some found =>
    rw [hfind] at h
    rw [← hmore, List.find?_append, hfind]
    exact h
  | none =>
    rw [hfind] at h
    cases hc : c.isClosed with
    | false => simp [hc] at h
    | true =>
      obtain ⟨hafter, hsame⟩ := hclosed hc
      simp only [hc, if_true] at h
      simp only [hsame, hfind, hafter, if_true]
      exact h

theorem outcome?_run {h : History} {id : Int} {r : Except BridgeError Json}
    (hr : h.client.outcome? id = some r) (moves : List Move) :
    (h.run moves).client.outcome? id = some r := by
  induction moves generalizing h with
  | nil => exact hr
  | cons m rest ih => exact ih (outcome?_after hr m)

theorem decode_eq {α : Type} (codec : Codec α) (outcome : Except Fault Json) :
    decode codec (outcome.mapError .rpc) = completion codec outcome := by
  cases outcome <;> rfl

/-- Whatever happens to a client, its notifications are taken in the order in which they arrived,
none is lost or taken twice, and the next one can be taken even after the reader has stopped. No
request has two responses. A request gets the next number. If it is not withdrawn, it is completed
with the first response of that number among the frames that arrived after it, in the form that was
asked for, or with the end of the connection if the reader stops before, and otherwise waits. What
it was completed with stays. -/
theorem run_completes_requests (moves : List Move) :
    let h := History.start.run moves
    let notices := h.frames.1.filterMap notice?
    h.taken ++ h.client.notifications = notices ∧
    h.client.nextNotification.1 = (notices.drop h.taken.length).head? ∧
    (h.client.responses.map Prod.fst).Nodup ∧
    ∀ before method params after, moves = before ++ .request method params :: after →
      let b := History.start.run before
      let id : Int := b.asked + 1
      (b.client.request method params).1 = id ∧
      (b.client.request method params).2.1 =
        (if isWaiting b.frames.2 then some (.request (.number id) method params) else none) ∧
      ((∀ m ∈ after, m ≠ .withdraw id) →
        (∀ (α : Type) (codec : Codec α), (h.client.outcome? id).map (decode codec) =
          ((h.answers id b.frames.1.length).head?.map (completion codec)).or
            (if isWaiting h.frames.2 then none else some (.error .connectionClosed))) ∧
        ∀ r later, h.client.outcome? id = some r → (h.run later).client.outcome? id = some r) := by
  intro h notices
  have hk : h.Kept := History.kept_start.run moves
  refine ⟨hk.notices, ?_, hk.numbered.nodup, ?_⟩
  · rw [show notices = _ from hk.notices.symm, List.drop_left]
    rfl
  · intro before method params after hmoves b id
    have hb : b.Kept := History.kept_start.run before
    refine ⟨?_, ?_, fun hafter => ⟨fun α codec => ?_, fun r later hr => outcome?_run hr later⟩⟩
    · simp only [id, ← hb.asked]
      cases hwaiting : b.client.waiting <;> simp [request, hwaiting]
    · simp only [id, hb.isWaiting_eq, ← hb.asked]
      cases hwaiting : b.client.waiting <;> simp [request, hwaiting, isClosed]
    · have hrun : h = (b.after (.request method params)).run after := by
        simp only [h, b, hmoves, History.run, List.foldl_append, List.foldl_cons]
      have hf : h.Follows id b.frames.1.length := by
        rw [hrun]
        exact (hb.follows_request method params).run (hb.after _) hafter
      rw [hf.outcome hk]
      cases (h.answers id b.frames.1.length).head? with
      | some outcome => exact congrArg some (decode_eq codec outcome)
      | none =>
        cases isWaiting h.frames.2 with
        | true => rfl
        | false => rfl

/-- Of three requests the first still waits when the bridge ends, the second is answered twice and
the third cannot be written. -/
theorem run_completes_requests_repeated :
    let bytes := [Message.response (some (.number 2)) (.ok (.bool true)),
      .response (some (.number 2)) (.ok (.bool false))].flatMap Message.encode
    let after : List Move :=
      [.request "c" .null, .withdraw 3, .receive bytes false, .receive [] true]
    let h := History.start.run ([.request "a" .null] ++ .request "b" .null :: after)
    (∀ m ∈ Move.request "b" .null :: after, m ≠ .withdraw 1) ∧ (∀ m ∈ after, m ≠ .withdraw 2) ∧
    (h.client.outcome? 1).map (decode .flag) = some (.error .connectionClosed) ∧
    ((h.client.outcome? 2).map (decode .flag)).bind Except.toOption = some true := by
  intro bytes after h
  have hfirst : ∀ m ∈ Move.request "b" .null :: after, m ≠ .withdraw 1 := by simp [after]
  have hsecond : ∀ m ∈ after, m ≠ .withdraw 2 := by simp [after]
  obtain ⟨-, -, -, hrequests⟩ :=
    run_completes_requests ([.request "a" .null] ++ .request "b" .null :: after)
  have hwaits : (h.answers 1 0).head?.isNone = true ∧ isWaiting h.frames.2 = false := by
    decide +kernel
  refine ⟨hfirst, hsecond, ?_, ?_⟩
  · have hclosed := ((hrequests [] "a" .null _ rfl).2.2 hfirst).1 Bool .flag
    rw [show (History.start.run []).frames = _ from readFrames_starved_nil _] at hclosed
    refine hclosed.trans ?_
    show (Option.map _ (h.answers 1 0).head?).or (if isWaiting h.frames.2 then _ else _) = _
    rw [Option.isNone_iff_eq_none.mp hwaits.1, hwaits.2]
    rfl
  · have hanswered := ((hrequests [.request "a" .null] "b" .null _ rfl).2.2 hsecond).1 Bool .flag
    refine (congrArg (·.bind Except.toOption) hanswered).trans ?_
    decide +kernel

end FileBridge.Client
