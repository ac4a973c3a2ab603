import FileBridge.Proofs.Rpc.RoundTrip
import FileBridge.Proofs.Service.Answers

/-!
Requests and their answers get through to a reader. Main statement: whatever a request is answered
with, the response can be sent as long as its body is not too long for the reader.
-/
namespace FileBridge

open Rpc

namespace Json

/-- A value that can be written and read back: its names ascend, its numbers are integers of 64
bits, and at most so many arrays and objects lie one inside another. -/
structure Plain (depth : Nat) (v : Json) : Prop where
  sorted : v.Sorted
  integral : v.Integral
  depth_le : v.depth ≤ depth

theorem itemsDepth_le {d : Nat} {items : List Json} (h : ∀ v ∈ items, v.depth ≤ d) :
    itemsDepth items ≤ d := by
  induction items with
  | nil => exact Nat.zero_le d
  | cons v rest ih =>
    obtain ⟨hv, hrest⟩ := List.forall_mem_cons.mp h
    exact Nat.max_le.mpr ⟨hv, ih hrest⟩

theorem membersDepth_le {d : Nat} {members : List (String × Json)}
    (h : ∀ m ∈ members, m.2.depth ≤ d) : membersDepth members ≤ d := by
  induction members with
  | nil => exact Nat.zero_le d
  | cons m rest ih =>
    obtain ⟨hm, hrest⟩ := List.forall_mem_cons.mp h
    exact Nat.max_le.mpr ⟨hm, ih hrest⟩

theorem integral_ofMembers {members : List (String × Json)} (h : ∀ m ∈ members, m.2.Integral) :
    (ofMembers members).Integral := by
  rw [ofMembers_eq]
  refine .intro trivial fun w hw => ?_
  obtain ⟨m, hm, rfl⟩ := List.mem_map.mp hw
  rcases Fields.mem_insertAll hm with hm | hm
  · exact h m hm
  · cases hm

theorem depth_ofMembers_le {d : Nat} {members : List (String × Json)}
    (h : ∀ m ∈ members, m.2.depth ≤ d) : (ofMembers members).depth ≤ d + 1 := by
  rw [ofMembers_eq, depth]
  refine Nat.succ_le_succ (membersDepth_le fun m hm => ?_)
  rcases Fields.mem_insertAll hm with hm | hm
  · exact h m hm
  · cases hm

theorem Plain.mono {d d' : Nat} {v : Json} (h : v.Plain d) (hle : d ≤ d') : v.Plain d' :=
  ⟨h.sorted, h.integral, Nat.le_trans h.depth_le hle⟩

theorem plain_str (s : String) : (str s).Plain 0 :=
  ⟨.leaf trivial rfl, .leaf trivial rfl, Nat.le_refl 0⟩

theorem plain_bool (b : Bool) : (bool b).Plain 0 :=
  ⟨.leaf trivial rfl, .leaf trivial rfl, Nat.le_refl 0⟩

theorem plain_int {n : Int} (h : IsInt64 n) : (int n).Plain 0 := by
  have hbound : n < natBound64 := Int.lt_of_le_of_lt h.2 (by decide)
  exact ⟨.leaf trivial rfl, .leaf ⟨h.1, hbound⟩ rfl, Nat.le_refl 0⟩

theorem plain_arr {d : Nat} {items : List Json} (h : ∀ v ∈ items, v.Plain d) :
    (arr items).Plain (d + 1) where
  sorted := .intro trivial fun v hv => (h v hv).sorted
  integral := .intro trivial fun v hv => (h v hv).integral
  depth_le := Nat.succ_le_succ (itemsDepth_le fun v hv => (h v hv).depth_le)

theorem plain_ofMembers {d : Nat} {members : List (String × Json)}
    (h : ∀ m ∈ members, m.2.Plain d) :
    (ofMembers members).Plain (d + 1) where
  sorted := sorted_ofMembers fun m hm => (h m hm).sorted
  integral := integral_ofMembers fun m hm => (h m hm).integral
  depth_le := depth_ofMembers_le fun m hm => (h m hm).depth_le

end Json

/-- The members of a tuple are plain if each of them is. -/
theorem Members.plain_write_cons {α β : Type} {m : Member α} {rest : Members β} {a : α} {b : β}
    {d : Nat} (hm : ∀ v ∈ m.write a, v.Plain d) (hrest : ∀ x ∈ rest.write b, x.2.Plain d) :
    ∀ x ∈ (Members.cons m rest).write (a, b), x.2.Plain d := by
  rw [write]
  cases hwrite : m.write a with
  | none => exact hrest
  | some v => exact List.forall_mem_cons.mpr ⟨hm v hwrite, hrest⟩

theorem Member.plain_optional {α : Type} {c : Codec α} {d : Nat} {a : Option α}
    (h : ∀ x ∈ a, (c.write x).Plain d) (name : String) :
    ∀ v ∈ (optional name c).write a, v.Plain d := by
  intro v hv
  obtain ⟨x, hx, rfl⟩ := Option.map_eq_some_iff.mp hv
  exact h x hx

theorem Member.plain_required {α : Type} {c : Codec α} {d : Nat} {a : α} (h : (c.write a).Plain d)
    (name : String) : ∀ v ∈ (required name c).write a, v.Plain d := by
  rintro _ ⟨⟩
  exact h

theorem ErrorCode.plain_codec (code : ErrorCode) (d : Nat) : (codec.write code).Plain d := by
  have hcode : (Json.nat code.toNat).Plain 0 := by
    refine Json.plain_int ?_
    cases code <;> decide
  exact hcode.mono (Nat.zero_le d)

theorem plain_errorMessage (message : Option String) (d : Nat) :
    ∀ v ∈ (Member.optional "errorMessage" .text).write message, v.Plain d :=
  Member.plain_optional (fun s _ => (Json.plain_str s).mono (Nat.zero_le d)) _

theorem IoResult.plain_codec (r : IoResult) : (codec.write r).Plain 2 :=
  Json.plain_ofMembers <|
    Members.plain_write_cons (Member.plain_required (r.errorCode.plain_codec 1) _) <|
      Members.plain_write_cons (plain_errorMessage r.errorMessage 1) nofun

theorem ValueResult.plain_codec {α : Type} {c : Codec α} {r : ValueResult α}
    (h : ∀ a ∈ r.result, (c.write a).Plain 0) : ((codec c).write r).Plain 2 :=
  Json.plain_ofMembers <|
    Members.plain_write_cons (Member.plain_required (r.errorCode.plain_codec 1) _) <|
      Members.plain_write_cons (plain_errorMessage r.errorMessage 1) <|
        Members.plain_write_cons
          (Member.plain_optional (fun a ha => (h a ha).mono (Nat.zero_le 1)) _) nofun

theorem DirectoryListing.plain_codec (r : DirectoryListing) : (codec.write r).Plain 2 := by
  have hnames (names : List String) : ((Codec.list .text).write names).Plain 1 := by
    refine Json.plain_arr fun v hv => ?_
    obtain ⟨name, -, rfl⟩ := List.mem_map.mp hv
    exact Json.plain_str name
  have hflags (flags : List Bool) : ((Codec.list .flag).write flags).Plain 1 := by
    refine Json.plain_arr fun v hv => ?_
    obtain ⟨flag, -, rfl⟩ := List.mem_map.mp hv
    exact Json.plain_bool flag
  exact Json.plain_ofMembers <|
    Members.plain_write_cons (Member.plain_required (r.errorCode.plain_codec 1) _) <|
      Members.plain_write_cons (plain_errorMessage r.errorMessage 1) <|
        Members.plain_write_cons (Member.plain_optional (fun names _ => hnames names) _) <|
          Members.plain_write_cons (Member.plain_optional (fun flags _ => hflags flags) _) nofun

/-- The envelopes of all calls are plain. -/
theorem Call.plain_of_answers {call : Call} {c : Context Tree} {v : Json} (h : call.Answers c v) :
    v.Plain 2 := by
  cases call with
  | readFile p =>
    obtain ⟨r, ⟨rfl, -⟩, -⟩ := h
    exact ValueResult.plain_codec fun s _ => Json.plain_str s
  | isDirectory p | isFile p | exists? p =>
    obtain ⟨r, ⟨rfl, -⟩, -⟩ := h
    exact ValueResult.plain_codec fun b _ => Json.plain_bool b
  | lastModified p | created p =>
    obtain ⟨r, ⟨rfl, -⟩, -, htime⟩ := h
    exact ValueResult.plain_codec fun time hmem => Json.plain_int (htime time hmem)
  | list p =>
    obtain ⟨r, ⟨rfl, -⟩, -⟩ := h
    exact r.plain_codec
  | writeFile p | createDirectory p | remove p | rename p | watch p | unwatch p =>
    obtain ⟨⟨r, ⟨rfl, -⟩, -⟩, -⟩ := h
    exact r.plain_codec

namespace Rpc

theorem RequestId.fits_number {n : Int} (h : IsInt64 n) : RequestId.codec.Fits (.number n) :=
  ⟨.leaf trivial rfl, if_pos h⟩

theorem Fault.fits_codec {code : Int} (h : IsInt64 code) (message : String) :
    Fault.codec.Fits ⟨code, message, none⟩ := by
  have hnames : Fault.members.names.Nodup := by decide
  exact Codec.fits_record hnames (fun _ => rfl)
    ⟨Member.fits_required (Codec.fits_int64 h) _, Member.fits_required (Codec.fits_text message) _,
      Member.fits_optional nofun _, trivial⟩ _ _

theorem Fault.plain_codec {code : Int} (h : IsInt64 code) (message : String) :
    (Fault.codec.write ⟨code, message, none⟩).Plain 2 :=
  Json.plain_ofMembers <|
    Members.plain_write_cons (Member.plain_required ((Json.plain_int h).mono (Nat.zero_le 1)) _) <|
      Members.plain_write_cons
        (Member.plain_required ((Json.plain_str message).mono (Nat.zero_le 1)) _) <|
        Members.plain_write_cons nofun nofun

namespace Message

variable {limit : Nat} {n : Int}

theorem Fits.sendable {m : Message} (h : m.Fits) (hplain : m.toJson.Plain 127)
    (hbody : m.body.length ≤ limit) : m.Sendable limit :=
  ⟨⟨m.toJson, h.sorted_toJson, h.ofJson_toJson⟩, hplain.integral, hplain.depth_le, hbody⟩

/-- A request gets through if its parameters have only integers and it is neither too deep nor too
long. -/
theorem sendable_request (hn : IsInt64 n) (method : String) {params : Json}
    (hsorted : params.Sorted) (hintegral : params.Integral)
    (hdepth : (request (.number n) method params).toJson.depth ≤ 127)
    (hbody : (request (.number n) method params).body.length ≤ limit) :
    (request (.number n) method params).Sendable limit := by
  have hfits : (request (.number n) method params).Fits := ⟨RequestId.fits_number hn, hsorted⟩
  refine hfits.sendable ⟨hfits.sorted_toJson, Json.integral_ofMembers ?_, hdepth⟩ hbody
  have hparams : ∀ m ∈ paramsMember params, m.2.Integral := by
    rw [paramsMember]
    split
    · simp
    · simpa using hintegral
  exact List.forall_mem_cons.mpr ⟨(Json.plain_str _).integral,
    List.forall_mem_cons.mpr ⟨(Json.plain_int hn).integral,
      List.forall_mem_cons.mpr ⟨(Json.plain_str _).integral, hparams⟩⟩⟩

/-- What a response is made of, apart from its outcome. -/
theorem plain_response (hn : IsInt64 n) {name : String} {v : Json} (hplain : v.Plain 2) :
    (Json.ofMembers [("jsonrpc", .str "2.0"), ("id", RequestId.codec.write (.number n)),
      (name, v)]).Plain 127 := by
  have hmembers : ∀ m ∈ [("jsonrpc", Json.str "2.0"), ("id", RequestId.codec.write (.number n)),
      (name, v)], m.2.Plain 2 :=
    List.forall_mem_cons.mpr ⟨(Json.plain_str _).mono (by decide),
      List.forall_mem_cons.mpr ⟨(Json.plain_int hn).mono (by decide),
        List.forall_mem_singleton.mpr hplain⟩⟩
  exact (Json.plain_ofMembers hmembers).mono (by decide)

theorem sendable_result (hn : IsInt64 n) {v : Json} (hplain : v.Plain 2)
    (hbody : (response (some (.number n)) (.ok v)).body.length ≤ limit) :
    (response (some (.number n)) (.ok v)).Sendable limit := by
  have hfits : (response (some (.number n)) (.ok v)).Fits :=
    ⟨⟨_, rfl, RequestId.fits_number hn⟩, hplain.sorted⟩
  exact hfits.sendable (plain_response hn hplain) hbody

theorem sendable_fault (hn : IsInt64 n) {code : Int} (hcode : IsInt64 code) (message : String)
    (hbody : (response (some (.number n)) (.error ⟨code, message, none⟩)).body.length ≤ limit) :
    (response (some (.number n)) (.error ⟨code, message, none⟩)).Sendable limit := by
  have hfits : (response (some (.number n)) (.error ⟨code, message, none⟩)).Fits := by
    refine ⟨?_, Fault.fits_codec hcode message⟩
    rintro _ ⟨⟩
    exact RequestId.fits_number hn
  exact hfits.sendable (plain_response hn (Fault.plain_codec hcode message)) hbody

end Message

end Rpc

/-- Whatever a request is answered with gets through, unless it is too long. -/
theorem Methods.sendable_answer {c : Context Tree} (hformed : c.host.WellFormed)
    (hdated : c.host.Dated IsInt64) {n : Int} (hn : IsInt64 n) {limit : Nat} {method : String}
    {params : Json}
    (hbody : (Message.response (some (.number n))
      (bridge.dispatch method params c).1).body.length ≤ limit) :
    (Message.response (some (.number n)) (bridge.dispatch method params c).1).Sendable limit := by
  rcases dispatch_kinds method params with ⟨-, heq⟩ | ⟨-, text, heq⟩ | ⟨call, rfl, hread, -⟩
  · rw [heq] at hbody ⊢
    exact Message.sendable_fault hn (by decide) _ hbody
  · rw [heq] at hbody ⊢
    exact Message.sendable_fault hn (by decide) _ hbody
  · rw [dispatch_call hread] at hbody ⊢
    exact Message.sendable_result hn (Call.plain_of_answers (call.answers_run hformed hdated)) hbody

end FileBridge
