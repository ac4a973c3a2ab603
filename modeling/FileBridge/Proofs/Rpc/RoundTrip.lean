import FileBridge.Proofs.Codec.Stable
import FileBridge.Proofs.Json.RoundTrip
import FileBridge.Proofs.Rpc.Stream

/-!
Messages sent are the messages received. A message that was read from JSON is read back from the
JSON that it is written as, so its frame is read as that message, whatever follows, and messages
sent one after the other arrive in order.
-/
namespace FileBridge.Rpc

theorem RequestId.stable_codec : RequestId.codec.Stable := by
  intro v id hv hread
  cases v with
  | num n =>
    cases n with
    | int n =>
      simp only [codec] at hread
      split at hread
      · next hrange =>
        cases hread
        exact ⟨hv, if_pos hrange⟩
      · cases hread
    | real d => cases hread
  | str s =>
    cases hread
    exact ⟨hv, rfl⟩
  | _ => cases hread

theorem Fault.stable_codec : Fault.codec.Stable := by
  have hmembers : Fault.members.Stable :=
    ⟨Member.stable_required (Codec.stable_integer _ _ _) _,
      Member.stable_required Codec.stable_text _,
      Member.stable_optional Codec.stable_json (fun v a hv hread => by cases hread; exact hv) _,
      trivial⟩
  have hnames : Fault.members.names.Nodup := by decide
  exact Codec.stable_record hmembers hnames (fun _ => rfl) (fun _ => rfl) _ _

namespace Message

/-- The parts of a message can be written and read back. An answer without a fault has an
identifier. -/
def Fits : Message → Prop
  | .request id _ params => RequestId.codec.Fits id ∧ params.Sorted
  | .notification _ params => params.Sorted
  | .response id (.ok result) => (∃ i, id = some i ∧ RequestId.codec.Fits i) ∧ result.Sorted
  | .response id (.error fault) => (∀ i ∈ id, RequestId.codec.Fits i) ∧ Fault.codec.Fits fault

theorem readId_of_get? {members : List (String × Json)} {v : Json} (h : v ≠ .null)
    (hget : Fields.get? "id" members = some v) :
    readId members =
      match RequestId.codec.read v with
      | .ok id => .ok (some id)
      | .error _ => .error ⟨.badId, none⟩ := by
  rw [readId, hget]
  cases v with
  | null => exact absurd rfl h
  | _ => rfl

theorem fits_of_readId {members : List (String × Json)} (hsorted : (Json.obj members).Sorted)
    {id : Option RequestId} (h : readId members = .ok id) : ∀ i ∈ id, RequestId.codec.Fits i := by
  cases hget : Fields.get? "id" members with
  | none =>
    rw [readId, hget] at h
    cases h
    simp
  | some v =>
    by_cases hnull : v = .null
    · rw [readId, hget, hnull] at h
      cases h
      simp
    · rw [readId_of_get? hnull hget] at h
      cases hread : RequestId.codec.read v with
      | error e =>
        rw [hread] at h
        cases h
      | ok i =>
        rw [hread] at h
        cases h
        have hfits := RequestId.stable_codec v i (hsorted.member hget) hread
        simpa using hfits

theorem sorted_getD {members : List (String × Json)} (hsorted : (Json.obj members).Sorted)
    (name : String) : ((Fields.get? name members).getD .null).Sorted := by
  cases hget : Fields.get? name members with
  | none => exact .leaf trivial rfl
  | some v => exact hsorted.member hget

theorem fits_of_classify {members : List (String × Json)} (hsorted : (Json.obj members).Sorted)
    {id : Option RequestId} (hid : ∀ i ∈ id, RequestId.codec.Fits i) {m : Message}
    (h : classify id members = .ok m) : m.Fits := by
  unfold classify at h
  split at h
  · split at h
    · cases h
      exact ⟨hid _ rfl, sorted_getD hsorted "params"⟩
    · cases h
      exact sorted_getD hsorted "params"
  · cases h
  · split at h
    · next v hget =>
      split at h
      · next fault hread =>
        cases h
        exact ⟨hid, Fault.stable_codec v fault (hsorted.member hget) hread⟩
      · cases h
    · split at h
      · next i result hget =>
        cases h
        exact ⟨⟨i, rfl, hid i rfl⟩, hsorted.member hget⟩
      · cases h
      · cases h

/-- What is read from JSON can be written and read back. -/
theorem fits_of_ofJson {v : Json} (hsorted : v.Sorted) {m : Message} (h : ofJson v = .ok m) :
    m.Fits := by
  cases v with
  | obj members =>
    obtain ⟨id, hid, hclassify⟩ := exists_ok_of_bind h
    exact fits_of_classify hsorted (fits_of_readId hsorted hid) hclassify
  | _ => cases h

/-- All members of a message, with the version of the protocol. -/
def allMembers (m : Message) : List (String × Json) :=
  ("jsonrpc", .str "2.0") :: m.members

theorem nodup_allMembers (m : Message) : (m.allMembers.map Prod.fst).Nodup := by
  have hparams (params : Json) : (paramsMember params).map Prod.fst = [] ∨
      (paramsMember params).map Prod.fst = ["params"] := by
    rw [paramsMember]
    split
    · exact .inl rfl
    · exact .inr rfl
  cases m with
  | request id method params =>
    rcases hparams params with h | h <;> simp [allMembers, members, h]
  | notification method params =>
    rcases hparams params with h | h <;> simp [allMembers, members, h]
  | response id outcome => cases outcome <;> simp [allMembers, members]

theorem get?_toJson (m : Message) (name : String) :
    Fields.get? name (Fields.insertAll m.allMembers []) = Fields.get? name m.allMembers := by
  rw [Fields.get?_insertAll m.nodup_allMembers]
  exact Option.or_none

theorem toJson_eq (m : Message) : m.toJson = .obj (Fields.insertAll m.allMembers []) :=
  rfl

theorem getD_paramsMember (params : Json) :
    (Fields.get? "params" (paramsMember params)).getD .null = params := by
  cases params <;> rfl

theorem write_ne_null (id : RequestId) : RequestId.codec.write id ≠ .null := by
  cases id <;> exact Json.noConfusion

theorem readId_eq_some {members : List (String × Json)} {id : RequestId}
    (hid : RequestId.codec.Fits id)
    (hget : Fields.get? "id" members = some (RequestId.codec.write id)) :
    readId members = .ok (some id) := by
  rw [readId_of_get? (write_ne_null id) hget, hid.read_write]

theorem ofJson_obj {members : List (String × Json)} {id : Option RequestId}
    (h : readId members = .ok id) : ofJson (.obj members) = classify id members := by
  rw [ofJson, h]
  rfl

/-- A message whose parts can be read back can be read back. -/
theorem Fits.ofJson_toJson {m : Message} (h : m.Fits) : ofJson m.toJson = .ok m := by
  rw [toJson_eq]
  cases m with
  | request id method params =>
    rw [ofJson_obj (readId_eq_some h.1 (get?_toJson _ _))]
    simp only [classify, get?_toJson]
    exact congrArg (fun p => Except.ok (request id method p)) (getD_paramsMember params)
  | notification method params =>
    have hid : readId (Fields.insertAll (notification method params).allMembers []) = .ok none := by
      rw [readId, get?_toJson]
      cases params <;> rfl
    rw [ofJson_obj hid]
    simp only [classify, get?_toJson]
    exact congrArg (fun p => Except.ok (notification method p)) (getD_paramsMember params)
  | response id outcome =>
    cases outcome with
    | ok result =>
      obtain ⟨⟨i, rfl, hi⟩, -⟩ := h
      rw [ofJson_obj (readId_eq_some hi (get?_toJson _ _))]
      simp only [classify, get?_toJson]
      rfl
    | error fault =>
      obtain ⟨hid, hfault⟩ := h
      have hread : readId (Fields.insertAll (response id (.error fault)).allMembers []) =
          .ok id := by
        cases id with
        | none =>
          rw [readId, get?_toJson]
          rfl
        | some i => exact readId_eq_some (hid i rfl) (get?_toJson _ _)
      rw [ofJson_obj hread]
      have herror : Fields.get? "error" (response id (.error fault)).allMembers =
          some (Fault.codec.write fault) := rfl
      have hmethod : Fields.get? "method" (response id (.error fault)).allMembers = none := rfl
      simp only [classify, get?_toJson, herror, hmethod, hfault.read_write]

theorem sorted_paramsMember {params : Json} (h : params.Sorted) :
    ∀ m ∈ paramsMember params, m.2.Sorted := by
  rw [paramsMember]
  split
  · simp
  · simpa using h

theorem Fits.sorted_toJson {m : Message} (h : m.Fits) : m.toJson.Sorted := by
  have hleaf (v : Json) (hname : v.HasAscendingNames) (hparts : v.parts = []) : v.Sorted :=
    .leaf hname hparts
  apply Json.sorted_ofMembers
  refine List.forall_mem_cons.mpr ⟨hleaf _ trivial rfl, ?_⟩
  cases m with
  | request id method params =>
    exact List.forall_mem_cons.mpr ⟨h.1.sorted,
      List.forall_mem_cons.mpr ⟨hleaf _ trivial rfl, sorted_paramsMember h.2⟩⟩
  | notification method params =>
    exact List.forall_mem_cons.mpr ⟨hleaf _ trivial rfl, sorted_paramsMember h⟩
  | response id outcome =>
    cases outcome with
    | ok result =>
      obtain ⟨⟨i, rfl, hi⟩, hresult⟩ := h
      simpa [members] using ⟨hi.sorted, hresult⟩
    | error fault =>
      obtain ⟨hid, hfault⟩ := h
      cases id with
      | none => simpa [members] using ⟨hleaf .null trivial rfl, hfault.sorted⟩
      | some i => simpa [members] using ⟨(hid i rfl).sorted, hfault.sorted⟩

end Message

/-- What it takes for a message to get through to a reader with a given limit: it can be read from
JSON at all, its numbers are integers of 64 bits, its arrays and objects are nested at most 127
deep, and its body is not longer than the limit. -/
structure Message.Sendable (limit : Nat) (m : Message) : Prop where
  readable : ∃ v : Json, v.Sorted ∧ Message.ofJson v = .ok m
  integral : m.toJson.Integral
  depth_le : m.toJson.depth ≤ 127
  body_le : m.body.length ≤ limit

theorem ofBody_body {limit : Nat} {m : Message} (h : m.Sendable limit) :
    Arrival.ofBody m.body = .message m := by
  obtain ⟨v, hsorted, hread⟩ := h.readable
  have hfits := Message.fits_of_ofJson hsorted hread
  have hparse := Json.parseBytes?_text hfits.sorted_toJson h.integral h.depth_le
  have hdecode : decode m.body = .ok m := by
    simp only [decode, Message.body, hparse, hfits.ofJson_toJson]
  rw [Arrival.ofBody, hdecode]

theorem read_encode {limit : Nat} (hbound : limit < natBound64) {m : Message}
    (h : m.Sendable limit) (ended : Bool) (rest : List UInt8) :
    read limit ended (m.encode ++ rest) = .message m rest := by
  have hlength : m.body.length < natBound64 := Nat.lt_of_le_of_lt h.body_le hbound
  rw [Message.encode, read_frame hlength h.body_le, ofBody_body h]
  rfl

theorem readFrames_encode {limit : Nat} (hbound : limit < natBound64) {ms : List Message}
    (h : ∀ m ∈ ms, m.Sendable limit) :
    readFrames limit true (ms.flatMap Message.encode) = (ms.map Arrival.message, .finished) := by
  induction ms with
  | nil => exact readFrames_nil limit
  | cons m ms ih =>
    obtain ⟨hm, hms⟩ := List.forall_mem_cons.mp h
    have hread : read limit true (m.encode ++ ms.flatMap Message.encode) =
        (Arrival.message m).reading (ms.flatMap Message.encode) :=
      read_encode hbound hm true _
    rw [List.flatMap_cons, readFrames_arrival hread, ih hms]
    rfl

/-- A message that is sent is received, and what follows it is left to be read; messages sent one
after the other are received in order, and then the stream ends. -/
theorem sent_messages_arrive {limit : Nat} (hbound : limit < natBound64) :
    (∀ m : Message, m.Sendable limit → ∀ (ended : Bool) (rest : List UInt8),
      read limit ended (m.encode ++ rest) = .message m rest) ∧
    ∀ ms : List Message, (∀ m ∈ ms, m.Sendable limit) →
      readFrames limit true (ms.flatMap Message.encode) = (ms.map Arrival.message, .finished) :=
  ⟨fun _ h => read_encode hbound h, fun _ h => readFrames_encode hbound h⟩

/-- A fault without an identifier, with escapes, more than one byte a character, and the least and
the greatest integer. -/
def awkwardMessage : Message :=
  .response none (.error ⟨minInt64, "\x01\"\\é𝄞", some (.arr [.nat 18446744073709551615, .obj []])⟩)

theorem sendable_awkwardMessage : awkwardMessage.Sendable 256 where
  readable := ⟨awkwardMessage.toJson, by decide +kernel, rfl⟩
  integral := by decide +kernel
  depth_le := by decide +kernel
  body_le := by decide +kernel

theorem awkwardMessage_arrives :
    256 < natBound64 ∧ awkwardMessage.Sendable 256 ∧
      read 256 false (awkwardMessage.encode ++ [13, 10]) = .message awkwardMessage [13, 10] ∧
      readFrames 256 true ([awkwardMessage, awkwardMessage].flatMap Message.encode) =
        ([.message awkwardMessage, .message awkwardMessage], .finished) := by
  have hbound : 256 < natBound64 := by decide
  refine ⟨hbound, sendable_awkwardMessage, ?_, ?_⟩
  · exact (sent_messages_arrive hbound).1 _ sendable_awkwardMessage false [13, 10]
  · exact (sent_messages_arrive hbound).2 [awkwardMessage, awkwardMessage]
      (by simpa using sendable_awkwardMessage)

end FileBridge.Rpc
