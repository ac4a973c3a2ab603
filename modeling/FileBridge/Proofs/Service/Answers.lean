import FileBridge.Proofs.Bridge.Host
import FileBridge.Proofs.Service.Contents
import FileBridge.Proofs.Service.Guarded
import FileBridge.Proofs.Wire.Envelope

/-!
What a request is answered with. A method that the bridge does not have and parameters that it
cannot read have faults of their own; every other request gets a coherent envelope that is read back
as it was written. What a listing and a test for existence tell is compared with the tree.
-/
namespace FileBridge

/-- A name in a listing is marked as a directory exactly if one stands below the listed path. -/
theorem Entries.hasDirectory_of_mem_children {e : Entries} (h : e.WellFormed) {path name : String}
    {kind : FileKind} (hmem : (name, kind) ∈ e.children path) :
    e.hasDirectory (Path.stem path ++ name) = decide (kind = .directory) := by
  obtain ⟨⟨k, entry⟩, hscan, hchild⟩ := List.mem_filterMap.mp hmem
  rw [scan_eq_filter, List.mem_filter] at hscan
  obtain ⟨hentry, hstarts⟩ := hscan
  obtain ⟨tail, htail⟩ := List.isPrefixOf_iff_prefix.mp hstarts
  have hk : k = Path.stem path ++ String.ofList tail := by
    rw [← String.toList_inj, String.toList_append, String.toList_ofList]
    exact htail.symm
  subst hk
  simp only [child?, Path.below_append] at hchild
  split at hchild
  · cases hchild
  · obtain ⟨rfl, rfl⟩ := Prod.mk.inj (Option.some.inj hchild)
    have hget := OrderedMap.get?_eq_some_iff.mpr hentry
    have hroot : Path.stem path ++ String.ofList tail ≠ Path.root :=
      (h.proper (OrderedMap.contains_iff.mpr ⟨_, hget⟩)).ne_root
    simp only [hasDirectory, hroot, decide_false, Bool.false_or, hget, Option.any_some]
    cases hnode : entry.node <;> simp [Entry.isDirectory, Entry.kind, hnode]

theorem Tree.isInt64_of_stat {t : Tree} (h : t.Dated IsInt64) {uri : String} {m : Metadata}
    (hstat : (t.stat uri).1 = .ok m) : IsInt64 m.created ∧ IsInt64 m.modified := by
  unfold stat look at hstat
  cases hpath : Path.ofUri uri with
  | error cause =>
    rw [hpath] at hstat
    cases hstat
  | ok path =>
    simp only [hpath, metadataAt] at hstat
    split at hstat
    · obtain rfl := Except.ok.inj hstat
      exact ⟨isInt64_zero, isInt64_zero⟩
    · cases hget : t.count.entries.get? path with
      | none =>
        rw [hget] at hstat
        cases hstat
      | some entry =>
        rw [hget] at hstat
        obtain rfl := Except.ok.inj hstat
        exact h.entries path entry hget

theorem Tree.children_of_list {t : Tree} {uri : String} {listing : List (String × FileKind)}
    (hlist : (t.list uri).1 = .ok listing) :
    ∃ path, Path.ofUri uri = .ok path ∧ listing = t.entries.children path := by
  unfold list look at hlist
  cases hpath : Path.ofUri uri with
  | error cause =>
    rw [hpath] at hlist
    cases hlist
  | ok path =>
    simp only [hpath, listingAt] at hlist
    split at hlist
    · cases hlist
    · split at hlist
      · cases hlist
      · exact ⟨path, rfl, (Except.ok.inj hlist).symm⟩

theorem Policy.watchFailure_code_ne_success (p : Policy) (cause : WatchError) :
    (p.watchFailure cause).code ≠ .success := by
  cases cause with
  | host cause => exact p.hostFailure_code_ne_success cause
  | alreadyDefined uri => exact fun h => by cases h
  | notDefined uri => exact fun h => by cases h

section

variable {σ α : Type}

theorem isProper_ask {good : α → Prop} {c : Context σ} {f : σ → Reply σ α}
    (h : ∀ a, (f c.host).1 = .ok a → good a) (operation uri : String) :
    IsProper good (c.ask operation uri f).1 := by
  rcases c.ask_cases operation uri f with ⟨text, heq⟩ | heq
  · rw [heq]
    exact fun h => by cases h
  · rw [heq]
    cases hreply : (f c.host).1 with
    | ok a => exact h a hreply
    | error cause => exact c.policy.hostFailure_code_ne_success cause

theorem isProper_watchFailure (outcome : Except WatchError α) (p : Policy) :
    IsProper (fun _ => True) (outcome.mapError p.watchFailure) := by
  cases outcome with
  | ok a => trivial
  | error cause => exact p.watchFailure_code_ne_success cause

end

/-- A value is what a typed one is written as, and is read as it. -/
def Codec.Spells {α : Type} (c : Codec α) (v : Json) (a : α) : Prop :=
  c.write a = v ∧ c.read v = .ok a

theorem Codec.Fits.spells {α : Type} {c : Codec α} {a : α} (h : c.Fits a) :
    c.Spells (c.write a) a :=
  ⟨rfl, h.read_write⟩

namespace Call

/-- The names of all methods in order. -/
def methods : List String :=
  ["vfs/input/created", "vfs/input/exists", "vfs/input/isDirectory", "vfs/input/isFile",
    "vfs/input/lastModified", "vfs/input/list", "vfs/input/readFile", "vfs/output/mkDirectory",
    "vfs/output/remove", "vfs/output/rename", "vfs/output/writeFile", "vfs/watcher/unwatch",
    "vfs/watcher/watch"]

/-- An answer is an envelope of the type that the call has, and is coherent. The times of entries
have 64 bits. A listing marks the directories, and a test for existence that the guard lets pass
succeeds and tells whether the entry can be looked at. -/
def Answers (c : Context Tree) (v : Json) : Call → Prop
  | .readFile _ => ∃ r, (ValueResult.codec .text).Spells v r ∧ r.Coherent
  | .isDirectory _ | .isFile _ => ∃ r, (ValueResult.codec .flag).Spells v r ∧ r.Coherent
  | .lastModified _ | .created _ =>
    ∃ r, (ValueResult.codec .int64).Spells v r ∧ r.Coherent ∧ ∀ time ∈ r.result, IsInt64 time
  | .exists? p =>
    ∃ r, (ValueResult.codec .flag).Spells v r ∧ r.Coherent ∧
      ((∀ scheme, ¬c.policy.guard.Guards p.uri scheme) → r.errorCode = .success ∧
        (r.result = some true ↔ ∃ m, (c.host.stat p.uri).1 = .ok m))
  | .list p =>
    ∃ r, DirectoryListing.codec.Spells v r ∧ r.Coherent ∧
      ∀ names ∈ r.entries, ∃ path, Path.ofUri p.uri = .ok path ∧
        r.areDirectory = some (names.map fun name =>
          c.host.entries.hasDirectory (Path.stem path ++ name))
  | .writeFile _ | .createDirectory _ | .remove _ | .rename _ | .watch _ | .unwatch _ =>
    (∃ r, IoResult.codec.Spells v r ∧ r.Coherent) ∧
      ∀ name, v.member? name ≠ none → name = "errorCode" ∨ name = "errorMessage"

theorem member?_io {r : IoResult} {name : String}
    (h : (IoResult.codec.write r).member? name ≠ none) :
    name = "errorCode" ∨ name = "errorMessage" := by
  have hwrite : IoResult.codec.write r =
      .ofMembers (IoResult.members.write (r.errorCode, r.errorMessage, ())) := rfl
  have hsublist := IoResult.members.names_write_sublist (r.errorCode, r.errorMessage, ())
  have hnodup : IoResult.members.names.Nodup := by decide
  rw [hwrite, Json.member?_ofMembers (hsublist.nodup hnodup)] at h
  have hmem : name ∈ IoResult.members.names := by
    by_contra hnot
    exact h (Fields.get?_eq_none_of_not_mem fun hin => hnot (hsublist.subset hin))
  simpa [IoResult.members, Members.names, Member.required, Member.optional] using hmem

variable {c : Context Tree}

theorem answers_io {outcome : Except Failure Unit} (h : IsProper (fun _ => True) outcome) :
    (∃ r, IoResult.codec.Spells (IoResult.codec.write (.ofOutcome outcome)) r ∧ r.Coherent) ∧
      ∀ name, (IoResult.codec.write (.ofOutcome outcome)).member? name ≠ none →
        name = "errorCode" ∨ name = "errorMessage" :=
  ⟨⟨_, (IoResult.fits_codec _).spells, IoResult.coherent_ofOutcome h⟩, fun _ => member?_io⟩

theorem answers_flag {outcome : Except Failure Bool} (h : IsProper (fun _ => True) outcome) :
    (ValueResult.codec .flag).Spells ((ValueResult.codec .flag).write (.ofOutcome outcome))
      (.ofOutcome outcome) ∧ (ValueResult.ofOutcome outcome).Coherent :=
  ⟨(ValueResult.fits_codec fun b _ => ⟨Codec.fits_flag b, nofun⟩).spells,
    ValueResult.coherent_ofOutcome h⟩

theorem answers_time {outcome : Except Failure Int} (h : IsProper IsInt64 outcome) :
    ∃ r, (ValueResult.codec .int64).Spells
        ((ValueResult.codec .int64).write (.ofOutcome outcome)) r ∧
      r.Coherent ∧ ∀ time ∈ r.result, IsInt64 time := by
  have htime : ∀ time ∈ (ValueResult.ofOutcome outcome).result, IsInt64 time :=
    fun _ => ValueResult.good_of_mem h
  refine ⟨_, (ValueResult.fits_codec fun time hmem => ?_).spells, ValueResult.coherent_ofOutcome h,
    htime⟩
  exact ⟨Codec.fits_int64 (htime time hmem), nofun⟩

theorem isProper_inspect (hdated : c.host.Dated IsInt64) {f : Metadata → Int}
    (hf : ∀ m, IsInt64 m.created ∧ IsInt64 m.modified → IsInt64 (f m)) (operation uri : String) :
    IsProper IsInt64 (c.ask operation uri fun t =>
      ((Host.stat uri t).1.map f, (Host.stat uri t).2)).1 := by
  refine isProper_ask (fun time htime => ?_) operation uri
  cases hstat : (c.host.stat uri).1 with
  | error cause =>
    simp only [show (Host.stat uri c.host).1 = _ from hstat] at htime
    cases htime
  | ok m =>
    simp only [show (Host.stat uri c.host).1 = _ from hstat] at htime
    obtain rfl := Except.ok.inj htime
    exact hf m (Tree.isInt64_of_stat hdated hstat)

theorem answers_exists (p : UriParams) : (Call.exists? p).Answers c ((Call.exists? p).run c).1 := by
  have hproper : IsProper (fun _ => True) (c.ask "exists" p.uri fun t =>
      (.ok (Host.stat p.uri t).1.toBool, (Host.stat p.uri t).2)).1 :=
    isProper_ask (fun _ _ => trivial) _ _
  obtain ⟨hspells, hcoherent⟩ := answers_flag hproper
  refine ⟨_, hspells, hcoherent, fun hunguarded => ?_⟩
  have hrefusal := Policy.refusal?_of_not_guards hunguarded "exists"
  simp only [Context.ask, hrefusal]
  refine ⟨rfl, ?_⟩
  cases hstat : (c.host.stat p.uri).1 with
  | ok m => simp [Except.mapError, ValueResult.ofOutcome, Except.toBool]
  | error cause => simp [Except.mapError, ValueResult.ofOutcome, Except.toBool]

/-- A listing tells of each name below the path that a URI addresses whether a directory stands
there. -/
def Shows (t : Tree) (uri : String) (listing : List (String × Bool)) : Prop :=
  ∃ path, Path.ofUri uri = .ok path ∧
    ∀ shown ∈ listing, shown.2 = t.entries.hasDirectory (Path.stem path ++ shown.1)

theorem answers_listing {uri : String} {outcome : Except Failure (List (String × Bool))}
    (h : IsProper (Shows c.host uri) outcome) :
    ∃ r, DirectoryListing.codec.Spells (DirectoryListing.codec.write (.ofOutcome outcome)) r ∧
      r.Coherent ∧ ∀ names ∈ r.entries, ∃ path, Path.ofUri uri = .ok path ∧
        r.areDirectory = some (names.map fun name =>
          c.host.entries.hasDirectory (Path.stem path ++ name)) := by
  refine ⟨_, (DirectoryListing.fits_codec _).spells, DirectoryListing.coherent_ofOutcome h, ?_⟩
  intro names hnames
  cases outcome with
  | error f => cases hnames
  | ok listing =>
    obtain ⟨path, hpath, hlisting⟩ := h
    obtain rfl := Option.some.inj hnames
    refine ⟨path, hpath, congrArg some ?_⟩
    rw [List.map_map]
    exact List.map_congr_left hlisting

theorem answers_list (h : c.host.WellFormed) (p : UriParams) :
    (Call.list p).Answers c ((Call.list p).run c).1 := by
  refine answers_listing (isProper_ask (fun listing hlisting => ?_) _ _)
  cases hreply : c.host.list p.uri with
  | mk outcome t =>
    simp only [show Host.list p.uri c.host = _ from hreply] at hlisting
    cases outcome with
    | error cause => cases hlisting
    | ok children =>
      obtain rfl := Except.ok.inj hlisting
      obtain ⟨path, hpath, rfl⟩ := Tree.children_of_list (congrArg Prod.fst hreply)
      refine ⟨path, hpath, fun shown hshown => ?_⟩
      obtain ⟨⟨name, kind⟩, hchild, rfl⟩ := List.mem_map.mp hshown
      exact (Entries.hasDirectory_of_mem_children h.entries hchild).symm

/-- Every call is answered, whatever becomes of it. -/
theorem answers_run (h : c.host.WellFormed) (hdated : c.host.Dated IsInt64) (call : Call) :
    call.Answers c (call.run c).1 := by
  have hany {α : Type} (f : Tree → Reply Tree α) (operation uri : String) :
      IsProper (fun _ => True) (c.ask operation uri f).1 :=
    isProper_ask (fun _ _ => trivial) operation uri
  cases call with
  | readFile p =>
    exact ⟨_, (ValueResult.fits_codec fun s _ => ⟨Codec.fits_text s, nofun⟩).spells,
      ValueResult.coherent_ofOutcome (hany _ _ _)⟩
  | exists? p => exact answers_exists p
  | lastModified p => exact answers_time (isProper_inspect hdated (fun _ hm => hm.2) _ _)
  | created p => exact answers_time (isProper_inspect hdated (fun _ hm => hm.1) _ _)
  | isDirectory p | isFile p => exact ⟨_, answers_flag (hany _ _ _)⟩
  | list p => exact answers_list h p
  | writeFile p | createDirectory p | remove p => exact answers_io (hany _ _ _)
  | rename p =>
    simp only [run, Context.rename]
    split
    next refusal hrefusal =>
      obtain ⟨text, rfl⟩ := Policy.eq_general_of_refusal? hrefusal
      exact answers_io (fun h => by cases h)
    · exact answers_io (hany _ _ _)
  | watch p =>
    simp only [run, Context.watch]
    split
    · exact answers_io (fun h => by cases h)
    · split
      next refusal hrefusal =>
        obtain ⟨text, rfl⟩ := Policy.eq_general_of_refusal? hrefusal
        exact answers_io (fun h => by cases h)
      · exact answers_io (isProper_watchFailure _ _)
  | unwatch p =>
    simp only [run, Context.unwatch]
    split
    next refusal hrefusal =>
      obtain ⟨text, rfl⟩ := Policy.eq_general_of_refusal? hrefusal
      exact answers_io (fun h => by cases h)
    · cases (c.registry.unwatch p.uri c.host).1 with
      | ok watchId => exact answers_io trivial
      | error cause => exact answers_io (c.policy.watchFailure_code_ne_success cause)

end Call

namespace Methods

variable {σ : Type} [Host σ]

theorem names_bridge : (bridge : Methods σ).names = Call.methods :=
  rfl

theorem get?_bridge_eq_none_iff {method : String} :
    (bridge : Methods σ).table.get? method = none ↔ method ∉ Call.methods := by
  rw [← names_bridge (σ := σ), names, OrderedMap.mem_keys_iff, OrderedMap.contains]
  simp

/-- A request names no method, or it has parameters that its method cannot read, or it is a call. -/
theorem dispatch_kinds (method : String) (params : Json) :
    (method ∉ Call.methods ∧
      ∀ c : Context Tree, bridge.dispatch method params c = (.error (.methodNotFound method), c)) ∨
    ((method ∈ Call.methods ∧ ∀ call : Call, call.method = method → ¬call.ReadFrom params) ∧
      ∃ text, ∀ c : Context Tree,
        bridge.dispatch method params c = (.error (.invalidParams text), c)) ∨
    ∃ call : Call, call.method = method ∧ call.ReadFrom params ∧ method ∈ Call.methods := by
  cases hget : (bridge : Methods Tree).table.get? method with
  | none => exact .inl ⟨get?_bridge_eq_none_iff.mp hget, fun c => by rw [dispatch, hget]⟩
  | some h =>
    have hmem : method ∈ Call.methods := by
      by_contra hnot
      rw [get?_bridge_eq_none_iff.mpr hnot] at hget
      cases hget
    rcases runsCalls_bridge method h hget params with ⟨text, hfault⟩ | ⟨call, hmethod, hread, -⟩
    · have hdispatch (c : Context Tree) :
          bridge.dispatch method params c = (.error (.invalidParams text), c) := by
        rw [dispatch, hget]
        exact hfault c
      refine .inr (.inl ⟨⟨hmem, ?_⟩, text, hdispatch⟩)
      rintro call rfl hread
      have hcall := hdispatch ⟨⟨.empty, .compact⟩, .empty 0, .empty, false⟩
      rw [dispatch_call hread] at hcall
      cases congrArg Prod.fst hcall
    · exact .inr (.inr ⟨call, hmethod, hread, hmem⟩)

end Methods

namespace Bridge

/-- Any request in any session of a bridge that has run from an empty tree, while the clock showed
times of 64 bits. It is answered with the fault for an unknown method exactly if there is no such
method, and with the one for wrong parameters exactly if there is and it cannot read them; a fault
changes nothing and is never an internal one. Every other request gets the envelope of its call. -/
theorem run_answers_requests (policy : Policy) (limit : Nat) {now : Int} {actions : List Action}
    (hclock : ∀ time ∈ now :: actions.filterMap Action.clock?, IsInt64 time) :
    let b := run actions (start policy limit (Tree.empty now))
    ∀ s ∈ b.sessions, ∀ (method : String) (params : Json),
      let c := s.context b.policy b.host
      let r := Methods.bridge.dispatch method params c
      ((∃ fault, r.1 = .error fault ∧ fault.code = -32601) ↔ method ∉ Call.methods) ∧
      ((∃ fault, r.1 = .error fault ∧ fault.code = -32602) ↔
        method ∈ Call.methods ∧ ∀ call : Call, call.method = method → ¬call.ReadFrom params) ∧
      (∀ fault, r.1 = .error fault → fault.code ≠ -32603 ∧ r.2 = c) ∧
      ∀ call : Call, call.method = method → call.ReadFrom params →
        ∃ v, r.1 = .ok v ∧ call.Answers c v := by
  intro b s _ method params c r
  have hformed : c.host.WellFormed := (reachable_host policy limit now actions).wellFormed
  have hdated : c.host.Dated IsInt64 := dated_host policy limit hclock
  have hcalls : ∀ call : Call, call.method = method → call.ReadFrom params →
      ∃ v, r.1 = .ok v ∧ call.Answers c v := by
    rintro call rfl hread
    exact ⟨_, congrArg Prod.fst (Methods.dispatch_call hread c), call.answers_run hformed hdated⟩
  refine ⟨?_, ?_, ?_, hcalls⟩ <;>
    rcases Methods.dispatch_kinds method params with
      ⟨hmethod, heq⟩ | ⟨⟨hmethod, hparams⟩, text, heq⟩ | ⟨call, rfl, hread, hmethod⟩
  · simp [r, heq, hmethod, Rpc.Fault.methodNotFound, Rpc.Fault.methodNotFoundCode]
  · simp [r, heq, hmethod, Rpc.Fault.invalidParams, Rpc.Fault.invalidParamsCode]
  · simp [r, Methods.dispatch_call hread, hmethod]
  · simp [r, heq, hmethod, Rpc.Fault.methodNotFound, Rpc.Fault.methodNotFoundCode]
  · simpa [r, heq, hmethod, Rpc.Fault.invalidParams, Rpc.Fault.invalidParamsCode] using hparams
  · simpa [r, Methods.dispatch_call hread] using fun _ => ⟨call, rfl, hread⟩
  · simp [r, heq, Rpc.Fault.methodNotFound, Rpc.Fault.methodNotFoundCode]
  · simp [r, heq, Rpc.Fault.invalidParams, Rpc.Fault.invalidParamsCode]
  · simp [r, Methods.dispatch_call hread]

/-- A directory and a file in the root, made at the first and the last time that there is. -/
theorem run_answers_requests_list :
    let actions : List Action := [.openSession, .operate 1 (.createDirectory ⟨"mem:/d"⟩),
      .onHost (.setClock maxInt64) rfl,
      .operate 1 (.writeFile ⟨"mem:/f", "AQ==", true, false⟩)]
    let b := run actions (start ⟨.ofList ["ide"], .detailed⟩ 1024 (Tree.empty minInt64))
    (∀ time ∈ minInt64 :: actions.filterMap Action.clock?, IsInt64 time) ∧
    b.sessions.length = 1 ∧
    ∀ s ∈ b.sessions,
      ∃ v, (Methods.bridge.dispatch "vfs/input/list" (.ofMembers [("uri", .str "mem:")])
          (s.context b.policy b.host)).1 = .ok v ∧
        (Call.list ⟨"mem:"⟩).Answers (s.context b.policy b.host) v := by
  intro actions b
  have hclock : ∀ time ∈ minInt64 :: actions.filterMap Action.clock?, IsInt64 time := by decide
  refine ⟨hclock, by decide +kernel, fun s hs => ?_⟩
  exact (run_answers_requests _ _ hclock s hs _ _).2.2.2 (.list ⟨"mem:"⟩) rfl rfl

end Bridge

end FileBridge
