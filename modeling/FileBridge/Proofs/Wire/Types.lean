import FileBridge.Config.Basic
import FileBridge.Proofs.Codec.Forms
import FileBridge.Proofs.Net.Address
import FileBridge.Proofs.Rpc.RoundTrip
import FileBridge.Wire.Event
import FileBridge.Wire.Params

/-!
All types that values on the wire have. Main statement: whatever JSON a value is read from, the
JSON that it is written as is read as the same value and written the same again; and a record may be
given as an array of its members' values in order.
-/
namespace FileBridge

/-- The types of values on the wire, the settings among them. -/
inductive WireType where
  | errorCode
  | codeMode
  | changeType
  | entryType
  | requestId
  | uriParams
  | writeFileParams
  | removeParams
  | renameParams
  | watchParams
  | ioResult
  | flagResult
  | integerResult
  | textResult
  | directoryListing
  | changeEvent
  | fault
  | config
deriving DecidableEq, Repr

namespace WireType

/-- The values of a type. -/
def Value : WireType → Type
  | .errorCode => ErrorCode
  | .codeMode => CodeMode
  | .changeType => ChangeType
  | .entryType => EntryType
  | .requestId => Rpc.RequestId
  | .uriParams => UriParams
  | .writeFileParams => WriteFileParams
  | .removeParams => RemoveParams
  | .renameParams => RenameParams
  | .watchParams => WatchParams
  | .ioResult => IoResult
  | .flagResult => ValueResult Bool
  | .integerResult => ValueResult Int
  | .textResult => ValueResult String
  | .directoryListing => DirectoryListing
  | .changeEvent => ChangeEvent
  | .fault => Rpc.Fault
  | .config => Config

/-- How the values of a type are read and written. -/
def codec : (T : WireType) → Codec T.Value
  | .errorCode => ErrorCode.codec
  | .codeMode => CodeMode.codec
  | .changeType => ChangeType.codec
  | .entryType => EntryType.codec
  | .requestId => Rpc.RequestId.codec
  | .uriParams => UriParams.codec
  | .writeFileParams => WriteFileParams.codec
  | .removeParams => RemoveParams.codec
  | .renameParams => RenameParams.codec
  | .watchParams => WatchParams.codec
  | .ioResult => IoResult.codec
  | .flagResult => ValueResult.codec .flag
  | .integerResult => ValueResult.codec .int64
  | .textResult => ValueResult.codec .text
  | .directoryListing => DirectoryListing.codec
  | .changeEvent => ChangeEvent.codec
  | .fault => Rpc.Fault.codec
  | .config => Config.codec

/-- The names of a record's members in order. -/
def memberNames : WireType → Option (List String)
  | .errorCode | .codeMode | .changeType | .entryType | .requestId => none
  | .uriParams => some ["uri"]
  | .writeFileParams => some ["uri", "content", "create", "overwrite"]
  | .removeParams => some ["uri", "recursive"]
  | .renameParams => some ["from", "to", "overwrite"]
  | .watchParams => some ["uri", "watcher"]
  | .ioResult => some ["errorCode", "errorMessage"]
  | .flagResult | .integerResult | .textResult => some ["errorCode", "errorMessage", "result"]
  | .directoryListing => some ["errorCode", "errorMessage", "entries", "areDirectory"]
  | .changeEvent => some ["watchId", "location", "changeType", "type"]
  | .fault => some ["code", "message", "data"]
  | .config => some ["bind-address", "port", "guarded-schemes", "backend", "root", "error-codes",
      "max-message-size"]

end WireType

theorem stable_errorMessage : (Member.optional "errorMessage" .text).Stable :=
  Member.stable_optional Codec.stable_text (fun _ _ _ _ => by simp [Codec.text, Codec.textAs]) _

theorem ErrorCode.stable_codec : codec.Stable :=
  Codec.stable_coded _ _

theorem CodeMode.stable_codec : codec.Stable :=
  Codec.stable_named _ _

theorem UriParams.stable_codec : codec.Stable := by
  have hmembers : members.Stable := ⟨Member.stable_required Codec.stable_text _, trivial⟩
  exact Codec.stable_record hmembers (by decide) (fun _ => rfl) (fun _ => rfl) _ _

theorem WriteFileParams.stable_codec : codec.Stable := by
  have hmembers : members.Stable :=
    ⟨Member.stable_required Codec.stable_text _, Member.stable_required Codec.stable_text _,
      Member.stable_required Codec.stable_flag _, Member.stable_required Codec.stable_flag _,
      trivial⟩
  exact Codec.stable_record hmembers (by decide) (fun _ => rfl) (fun _ => rfl) _ _

theorem RemoveParams.stable_codec : codec.Stable := by
  have hmembers : members.Stable :=
    ⟨Member.stable_required Codec.stable_text _,
      Member.stable_defaulted Codec.stable_flag (Codec.fits_flag false) _, trivial⟩
  exact Codec.stable_record hmembers (by decide) (fun _ => rfl) (fun _ => rfl) _ _

theorem RenameParams.stable_codec : codec.Stable := by
  have hmembers : members.Stable :=
    ⟨Member.stable_required Codec.stable_text _, Member.stable_required Codec.stable_text _,
      Member.stable_defaulted Codec.stable_flag (Codec.fits_flag false) _, trivial⟩
  exact Codec.stable_record hmembers (by decide) (fun _ => rfl) (fun _ => rfl) _ _

theorem WatchParams.stable_codec : codec.Stable := by
  have hmembers : members.Stable :=
    ⟨Member.stable_required Codec.stable_text _, Member.stable_required Codec.stable_text _,
      trivial⟩
  exact Codec.stable_record hmembers (by decide) (fun _ => rfl) (fun _ => rfl) _ _

theorem IoResult.stable_codec : codec.Stable := by
  have hmembers : members.Stable :=
    ⟨Member.stable_required ErrorCode.stable_codec _, stable_errorMessage, trivial⟩
  exact Codec.stable_record hmembers (by decide) (fun _ => rfl) (fun _ => rfl) _ _

theorem ValueResult.nodup_names {α : Type} (c : Codec α) : (members c).names.Nodup := by
  have hnames : (members c).names = ["errorCode", "errorMessage", "result"] := rfl
  rw [hnames]
  decide

theorem ValueResult.stable_codec {α : Type} {c : Codec α} (h : c.Stable)
    (hnull : ∀ v a, v ≠ .null → c.read v = .ok a → c.write a ≠ .null) : (codec c).Stable := by
  have hmembers : (members c).Stable :=
    ⟨Member.stable_required ErrorCode.stable_codec _, stable_errorMessage,
      Member.stable_optional h hnull _, trivial⟩
  exact Codec.stable_record hmembers (nodup_names c) (fun _ => rfl) (fun _ => rfl) _ _

theorem DirectoryListing.stable_codec : codec.Stable := by
  have hmembers : members.Stable :=
    ⟨Member.stable_required ErrorCode.stable_codec _, stable_errorMessage,
      Member.stable_optional (Codec.stable_list Codec.stable_text)
        (fun _ _ _ _ => by simp [Codec.list]) _,
      Member.stable_optional (Codec.stable_list Codec.stable_flag)
        (fun _ _ _ _ => by simp [Codec.list]) _, trivial⟩
  exact Codec.stable_record hmembers (by decide) (fun _ => rfl) (fun _ => rfl) _ _

theorem ChangeEvent.stable_codec : codec.Stable := by
  have hmembers : members.Stable :=
    ⟨Member.stable_required Codec.stable_text _, Member.stable_required Codec.stable_text _,
      Member.stable_required (Codec.stable_coded _ _) _,
      Member.stable_required (Codec.stable_coded _ _) _, trivial⟩
  exact Codec.stable_record hmembers (by decide) (fun _ => rfl) (fun _ => rfl) _ _

namespace Config

/-- Every address is read back from its canonical text. -/
theorem fits_addressCodec (a : Net.Address) : addressCodec.Fits a := by
  refine ⟨.leaf trivial rfl, ?_⟩
  simp only [addressCodec, Codec.textAs, bind, Except.bind, Net.Address.read?_text]

theorem stable_codec : codec.Stable := by
  have hmembers : members.Stable :=
    ⟨Member.stable_defaulted (fun _ a _ _ => fits_addressCodec a) (fits_addressCodec _) _,
      Member.stable_defaulted (Codec.stable_natural _ _) (Codec.fits_natural (by decide) _) _,
      Member.stable_defaulted (Codec.stable_list Codec.stable_text)
        (Codec.fits_list fun s _ => Codec.fits_text s) _,
      Member.stable_defaulted (Codec.stable_named _ _) ⟨.leaf trivial rfl, rfl⟩ _,
      Member.stable_optional (Codec.stable_textAs _) (fun _ _ _ _ => by simp [Codec.textAs]) _,
      Member.stable_defaulted CodeMode.stable_codec ⟨.leaf trivial rfl, rfl⟩ _,
      Member.stable_defaulted (Codec.stable_natural _ _) (Codec.fits_natural (by decide) _) _,
      trivial⟩
  exact Codec.stable_record hmembers (by decide) (fun _ => rfl) (fun _ => rfl) _ _

end Config

/-- Reads a value and writes it again. -/
def Codec.echo {α : Type} (c : Codec α) (v : Json) : Except DecodeError Json :=
  (c.read v).map c.write

namespace WireType

theorem stable_codec (T : WireType) : T.codec.Stable := by
  cases T with
  | errorCode => exact ErrorCode.stable_codec
  | codeMode => exact CodeMode.stable_codec
  | changeType => exact Codec.stable_coded _ _
  | entryType => exact Codec.stable_coded _ _
  | requestId => exact Rpc.RequestId.stable_codec
  | uriParams => exact UriParams.stable_codec
  | writeFileParams => exact WriteFileParams.stable_codec
  | removeParams => exact RemoveParams.stable_codec
  | renameParams => exact RenameParams.stable_codec
  | watchParams => exact WatchParams.stable_codec
  | ioResult => exact IoResult.stable_codec
  | flagResult =>
    exact ValueResult.stable_codec Codec.stable_flag fun _ _ _ _ => by simp [Codec.flag]
  | integerResult =>
    exact ValueResult.stable_codec (Codec.stable_integer _ _ _) fun _ _ _ _ => by
      simp [Codec.int64, Codec.integer, Json.int]
  | textResult =>
    exact ValueResult.stable_codec Codec.stable_text fun _ _ _ _ => by
      simp [Codec.text, Codec.textAs]
  | directoryListing => exact DirectoryListing.stable_codec
  | changeEvent => exact ChangeEvent.stable_codec
  | fault => exact Rpc.Fault.stable_codec
  | config => exact Config.stable_codec

/-- A record is read alike from both of its forms. -/
theorem read_arr_iff {T : WireType} {names : List String} (h : T.memberNames = some names)
    {items : List Json} (hlength : items.length ≤ names.length) (t : T.Value) :
    T.codec.read (.arr items) = .ok t ↔ T.codec.read (.ofMembers (names.zip items)) = .ok t := by
  cases T with
  | errorCode | codeMode | changeType | entryType | requestId => cases h
  | _ =>
    obtain rfl := Option.some.inj h
    exact Codec.read_arr_iff (by decide) hlength _ _ _ _ t

/-- Whatever JSON a value is read from, the JSON that it is written as is read as the same value and
written the same again. A record may also be given as an array of its members' values in order, as
far as the last ones have a value when absent: it is read exactly if the object with these values
under the members' names is, and as the same record. -/
theorem rereads_and_forms_agree (T : WireType) :
    (∀ (v : Json) (t : T.Value), v.Sorted → T.codec.read v = .ok t →
      (T.codec.write t).Sorted ∧ T.codec.read (T.codec.write t) = .ok t ∧
        T.codec.echo (T.codec.write t) = .ok (T.codec.write t)) ∧
    ∀ names, T.memberNames = some names → ∀ items : List Json, items.length ≤ names.length →
      ∀ t : T.Value, T.codec.read (.arr items) = .ok t ↔
        T.codec.read (.ofMembers (names.zip items)) = .ok t := by
  refine ⟨fun v t hv hread => ?_, fun names hnames items hlength t => ?_⟩
  · have hfits := T.stable_codec v t hv hread
    refine ⟨hfits.sorted, hfits.read_write, ?_⟩
    rw [Codec.echo, hfits.read_write]
    rfl
  · exact read_arr_iff hnames hlength t

/-- Settings that name the mode by an object, leave the root out by null, and listen on a mapped
address; and settings of which an array gives the first two. -/
theorem rereads_and_forms_agree_settings :
    let v : Json := .obj [("bind-address", .str "0:0::ffff:102:304"),
      ("error-codes", .obj [("detailed", .null)]), ("root", .null)]
    let c : Config := { Config.default with
      bindAddress := .v6 [0, 0, 0, 0, 0, 0xffff, 0x102, 0x304] rfl, errorCodes := .detailed }
    let d : Config := { Config.default with
      bindAddress := .v6 [0, 0, 0, 0, 0, 0, 0, 1] rfl, port := 7 }
    v.Sorted ∧ Config.codec.read v = .ok c ∧ Config.codec.read (Config.codec.write c) = .ok c ∧
      Config.codec.read (.arr [.str "::1", .nat 7]) = .ok d ∧
      Config.codec.read (.ofMembers [("bind-address", .str "::1"), ("port", .nat 7)]) = .ok d := by
  intro v c d
  have hv : v.Sorted := by decide
  have hread : Config.codec.read v = .ok c := rfl
  have harr : Config.codec.read (.arr [.str "::1", .nat 7]) = .ok d := rfl
  obtain ⟨hstable, hforms⟩ := rereads_and_forms_agree .config
  exact ⟨hv, hread, (hstable v c hv hread).2.1, harr,
    (hforms _ rfl [.str "::1", .nat 7] (by decide) d).mp harr⟩

end WireType

end FileBridge
