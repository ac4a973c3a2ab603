import FileBridge.Proofs.Codec.Stable
import FileBridge.Proofs.Tree.Times
import FileBridge.Wire.Envelope

/-!
Envelopes are read back as they were written, and those of outcomes are coherent: the code says
success exactly if there is no message, and exactly if the payload is there.
-/
namespace FileBridge

namespace Codec

theorem fits_text (s : String) : text.Fits s :=
  ⟨.leaf trivial rfl, rfl⟩

theorem fits_flag (b : Bool) : flag.Fits b :=
  ⟨.leaf trivial rfl, rfl⟩

theorem fits_int64 {n : Int} (h : IsInt64 n) : int64.Fits n :=
  ⟨.leaf trivial rfl, if_pos h⟩

theorem fits_list {α : Type} {c : Codec α} {l : List α} (h : ∀ a ∈ l, c.Fits a) :
    c.list.Fits l where
  sorted := by
    refine .intro trivial fun w hw => ?_
    obtain ⟨a, ha, rfl⟩ := List.mem_map.mp hw
    exact (h a ha).sorted
  read_write := by
    show readAll c (l.map c.write) = .ok l
    induction l with
    | nil => rfl
    | cons a rest ih =>
      obtain ⟨ha, hrest⟩ := List.forall_mem_cons.mp h
      simp only [List.map_cons, readAll, ha.read_write, ih hrest]
      rfl

end Codec

namespace Member

variable {α : Type} {c : Codec α}

theorem fits_required {a : α} (h : c.Fits a) (name : String) : (required name c).Fits a :=
  ⟨h.sorted, h.read_write⟩

theorem fits_optional {a : Option α} (h : ∀ x ∈ a, c.Fits x ∧ c.write x ≠ .null) (name : String) :
    (optional name c).Fits a := by
  cases a with
  | none => rfl
  | some x =>
    obtain ⟨hfits, hnull⟩ := h x rfl
    refine ⟨hfits.sorted, ?_⟩
    rw [optional_read hnull, hfits.read_write]
    rfl

end Member

theorem ErrorCode.fits_codec (code : ErrorCode) : codec.Fits code := by
  refine ⟨.leaf trivial rfl, ?_⟩
  cases code <;> rfl

theorem fits_errorMessage (message : Option String) :
    (Member.optional "errorMessage" .text).Fits message :=
  Member.fits_optional (fun s _ => ⟨Codec.fits_text s, nofun⟩) _

theorem IoResult.fits_codec (r : IoResult) : codec.Fits r := by
  have hnames : members.names.Nodup := by decide
  exact Codec.fits_record hnames (fun _ => rfl)
    ⟨Member.fits_required r.errorCode.fits_codec _, fits_errorMessage r.errorMessage, trivial⟩ _ _

theorem ValueResult.fits_codec {α : Type} {c : Codec α} {r : ValueResult α}
    (h : ∀ a ∈ r.result, c.Fits a ∧ c.write a ≠ .null) : (codec c).Fits r := by
  have hnames : (members c).names.Nodup := by
    simp [members, Members.names, Member.required, Member.optional]
  exact Codec.fits_record hnames (fun _ => rfl)
    ⟨Member.fits_required r.errorCode.fits_codec _, fits_errorMessage r.errorMessage,
      Member.fits_optional h _, trivial⟩ _ _

theorem DirectoryListing.fits_codec (r : DirectoryListing) : codec.Fits r := by
  have hentries : (Member.optional "entries" (.list .text)).Fits r.entries :=
    Member.fits_optional (fun _ _ => ⟨Codec.fits_list fun s _ => Codec.fits_text s, nofun⟩) _
  have hdirectories : (Member.optional "areDirectory" (.list .flag)).Fits r.areDirectory :=
    Member.fits_optional (fun _ _ => ⟨Codec.fits_list fun b _ => Codec.fits_flag b, nofun⟩) _
  have hnames : members.names.Nodup := by decide
  exact Codec.fits_record hnames (fun _ => rfl)
    ⟨Member.fits_required r.errorCode.fits_codec _, fits_errorMessage r.errorMessage, hentries,
      hdirectories, trivial⟩ _ _

/-- A failure has another code than success, and a success is one of the good ones. -/
def IsProper {α : Type} (good : α → Prop) : Except Failure α → Prop
  | .ok a => good a
  | .error f => f.code ≠ .success

/-- Success, no message and no payload beside the code. -/
def IoResult.Coherent (r : IoResult) : Prop :=
  r.errorCode = .success ↔ r.errorMessage = none

/-- Success, no message and a value go together. -/
def ValueResult.Coherent {α : Type} (r : ValueResult α) : Prop :=
  (r.errorCode = .success ↔ r.errorMessage = none) ∧ (r.errorCode = .success ↔ r.result.isSome)

/-- Success, no message, the names and the flags go together. -/
def DirectoryListing.Coherent (r : DirectoryListing) : Prop :=
  (r.errorCode = .success ↔ r.errorMessage = none) ∧ (r.errorCode = .success ↔ r.entries.isSome) ∧
    (r.errorCode = .success ↔ r.areDirectory.isSome)

theorem IoResult.coherent_ofOutcome {good : Unit → Prop} {outcome : Except Failure Unit}
    (h : IsProper good outcome) : (ofOutcome outcome).Coherent := by
  cases outcome with
  | ok a => simp [ofOutcome, Coherent]
  | error f =>
    have hcode : f.code ≠ .success := h
    simp [ofOutcome, Coherent, hcode]

theorem ValueResult.coherent_ofOutcome {α : Type} {good : α → Prop} {outcome : Except Failure α}
    (h : IsProper good outcome) : (ofOutcome outcome).Coherent := by
  cases outcome with
  | ok a => simp [ofOutcome, Coherent]
  | error f =>
    have hcode : f.code ≠ .success := h
    simp [ofOutcome, Coherent, hcode]

theorem DirectoryListing.coherent_ofOutcome {good : List (String × Bool) → Prop}
    {outcome : Except Failure (List (String × Bool))} (h : IsProper good outcome) :
    (ofOutcome outcome).Coherent := by
  cases outcome with
  | ok a => simp [ofOutcome, Coherent]
  | error f =>
    have hcode : f.code ≠ .success := h
    simp [ofOutcome, Coherent, hcode]

theorem ValueResult.good_of_mem {α : Type} {good : α → Prop} {outcome : Except Failure α}
    (h : IsProper good outcome) {a : α} (ha : a ∈ (ofOutcome outcome).result) : good a := by
  cases outcome with
  | ok b =>
    obtain rfl := Option.some.inj ha
    exact h
  | error f => cases ha

end FileBridge
