import FileBridge.Bridge.Session
import FileBridge.Proofs.Guard
import FileBridge.Proofs.Json.Parts
import FileBridge.Proofs.Service.Call
import FileBridge.Proofs.Tree.Cause

/-!
The guard before the host. Every call asks the guard for its URIs first. One that is guarded decides
the answer, and nothing changes; otherwise the call runs as if no scheme were guarded, and its
answer cannot be taken for a refusal.
-/
namespace FileBridge

theorem Json.member?_ofMembers {members : List (String × Json)}
    (h : (members.map Prod.fst).Nodup) (name : String) :
    (ofMembers members).member? name = Fields.get? name members := by
  rw [ofMembers_eq]
  exact (Fields.get?_insertAll h name []).trans Option.or_none

theorem Failure.message_json (f : Failure) :
    f.json.member? "errorMessage" = some (.str f.message) := by
  rw [Failure.json, Json.member?_ofMembers (by simp)]
  rfl

/-- How an operation is refused on account of a guarded scheme. -/
def refusalText (operation scheme : String) : String :=
  operation ++ " refused: scheme '" ++ scheme ++ "' is served by the remote peer"

theorem Policy.refusal?_eq (p : Policy) (operation uri : String) :
    p.refusal? operation uri =
      (p.guard.guardedScheme? uri).map fun scheme => .general (refusalText operation scheme) :=
  rfl

theorem Policy.refusal?_of_guards {p : Policy} {uri scheme : String}
    (h : p.guard.Guards uri scheme) (operation : String) :
    p.refusal? operation uri = some (.general (refusalText operation scheme)) := by
  rw [refusal?_eq, Guard.guardedScheme?_eq_some_iff.mpr h, Option.map_some]

theorem Policy.refusal?_of_not_guards {p : Policy} {uri : String}
    (h : ∀ scheme, ¬p.guard.Guards uri scheme) (operation : String) :
    p.refusal? operation uri = none := by
  rw [refusal?_eq, Guard.guardedScheme?_eq_none_iff.mpr h, Option.map_none]

theorem Policy.eq_general_of_refusal? {p : Policy} {operation uri : String} {refusal : Failure}
    (h : p.refusal? operation uri = some refusal) : ∃ text, refusal = .general text := by
  obtain ⟨scheme, -, rfl⟩ := Option.map_eq_some_iff.mp h
  exact ⟨_, rfl⟩

namespace Call

/-- What a refusal calls the operation. -/
def operation : Call → String
  | .readFile _ => "readFile"
  | .exists? _ => "exists"
  | .lastModified _ => "lastModified"
  | .created _ => "created"
  | .isDirectory _ => "isDirectory"
  | .isFile _ => "isFile"
  | .list _ => "list"
  | .writeFile _ => "writeFile"
  | .createDirectory _ => "mkDirectory"
  | .remove _ => "remove"
  | .rename _ => "rename"
  | .watch _ => "watch"
  | .unwatch _ => "unwatch"

/-- The URIs of a call, in the order in which the guard is asked for them. -/
def uris : Call → List String
  | .readFile p | .exists? p | .lastModified p | .created p | .isDirectory p | .isFile p | .list p
  | .createDirectory p => [p.uri]
  | .writeFile p => [p.uri]
  | .remove p => [p.uri]
  | .rename p => [p.target, p.source]
  | .watch p | .unwatch p => [p.uri]

/-- The scheme on whose account a call is refused. A move is refused for its target before its
source. -/
def RefusedFor (g : Guard) (scheme : String) : Call → Prop
  | .rename p =>
    g.Guards p.target scheme ∨ (∀ s, ¬g.Guards p.target s) ∧ g.Guards p.source scheme
  | call => ∃ uri ∈ call.uris, g.Guards uri scheme

end Call

namespace Context

variable {σ α ρ : Type}

/-- The same without a guard. -/
def unguarded (c : Context σ) : Context σ :=
  { c with policy := { c.policy with guard := .empty } }

/-- The guard is asked for some URIs, and what follows does without it. -/
def guarded (operation : String) (uris : List String) (f : Context σ → Json × Context σ)
    (c : Context σ) : Json × Context σ :=
  match uris.findSome? (c.policy.refusal? operation) with
  | some refusal => (refusal.json, c)
  | none => ((f c.unguarded).1, { (f c.unguarded).2 with policy := c.policy })

@[simp] theorem refusal?_unguarded (c : Context σ) (operation uri : String) :
    c.unguarded.policy.refusal? operation uri = none := by
  simp [Policy.refusal?_eq, unguarded]

end Context

/-- An envelope that writes every failure alike, and that has the code zero and no message for a
success. -/
structure IsEnvelope {α ρ : Type} (codec : Codec ρ) (envelope : Except Failure α → ρ) : Prop where
  failure : ∀ f, codec.write (envelope (.error f)) = f.json
  code : ∀ a, (codec.write (envelope (.ok a))).member? "errorCode" = some (.nat 0)
  success : ∀ a, (codec.write (envelope (.ok a))).member? "errorMessage" = none

theorem isEnvelope_of_payload {α ρ : Type} {codec : Codec ρ} {envelope : Except Failure α → ρ}
    (hfailure : ∀ f, codec.write (envelope (.error f)) = f.json)
    (payload : α → List (String × Json))
    (hwrite : ∀ a, codec.write (envelope (.ok a)) = .ofMembers (("errorCode", .nat 0) :: payload a))
    (hnames : ∀ a,
      ("errorMessage" :: (("errorCode", Json.nat 0) :: payload a).map Prod.fst).Nodup) :
    IsEnvelope codec envelope where
  failure := hfailure
  code a := by
    obtain ⟨-, hnodup⟩ := List.nodup_cons.mp (hnames a)
    rw [hwrite, Json.member?_ofMembers hnodup]
    exact if_pos rfl
  success a := by
    obtain ⟨hmessage, hnodup⟩ := List.nodup_cons.mp (hnames a)
    rw [hwrite, Json.member?_ofMembers hnodup]
    exact Fields.get?_eq_none_of_not_mem hmessage

theorem isEnvelope_io : IsEnvelope IoResult.codec .ofOutcome :=
  isEnvelope_of_payload (fun _ => rfl) (fun _ => []) (fun _ => rfl) (by simp)

theorem isEnvelope_value {α : Type} (c : Codec α) :
    IsEnvelope (ValueResult.codec c) .ofOutcome :=
  isEnvelope_of_payload (fun _ => rfl) (fun a => [("result", c.write a)]) (fun _ => rfl) (by simp)

theorem isEnvelope_listing : IsEnvelope DirectoryListing.codec .ofOutcome :=
  isEnvelope_of_payload (fun _ => rfl)
    (fun a => [("entries", (Codec.list .text).write (a.map Prod.fst)),
      ("areDirectory", (Codec.list .flag).write (a.map Prod.snd))]) (fun _ => rfl) (by simp)

namespace Call

variable {σ : Type}

theorem ask_eq_guarded {α ρ : Type} {codec : Codec ρ} {envelope : Except Failure α → ρ}
    (h : IsEnvelope codec envelope) (operation uri : String) (f : σ → Reply σ α) (c : Context σ) :
    (Context.answer envelope (c.ask operation uri f)).map codec.write id =
      c.guarded operation [uri] fun c =>
        (Context.answer envelope (c.ask operation uri f)).map codec.write id := by
  simp only [Context.guarded, Context.ask, List.findSome?_singleton, Context.refusal?_unguarded]
  cases c.policy.refusal? operation uri with
  | some refusal => simp [Context.answer, h.failure]
  | none => rfl

/-- Every call asks the guard for its URIs first. -/
theorem run_eq_guarded [Host σ] (call : Call) {c : Context σ} (hopen : c.closing = false) :
    call.run c = c.guarded call.operation call.uris call.run := by
  cases call with
  | readFile p | exists? p | lastModified p | created p | isDirectory p | isFile p =>
    exact ask_eq_guarded (isEnvelope_value _) _ _ _ c
  | list p => exact ask_eq_guarded isEnvelope_listing _ _ _ c
  | writeFile p | createDirectory p | remove p => exact ask_eq_guarded isEnvelope_io _ _ _ c
  | rename p =>
    simp only [run, Context.rename, Context.guarded, uris, operation, Context.refusal?_unguarded,
      List.findSome?_cons, List.findSome?_nil, Context.ask]
    cases c.policy.refusal? "rename" p.target with
    | some refusal => rfl
    | none =>
      cases c.policy.refusal? "rename" p.source with
      | some refusal => rfl
      | none => rfl
  | watch p =>
    have hopen' : c.unguarded.closing = false := hopen
    simp only [run, Context.watch, Context.guarded, uris, operation, Context.refusal?_unguarded,
      List.findSome?_singleton, hopen, hopen', Bool.false_eq_true, if_false]
    cases c.policy.refusal? "watch" p.uri with
    | some refusal => rfl
    | none => rfl
  | unwatch p =>
    simp only [run, Context.unwatch, Context.guarded, uris, operation, Context.refusal?_unguarded,
      List.findSome?_singleton]
    cases c.policy.refusal? "unwatch" p.uri with
    | some refusal => rfl
    | none => rfl

end Call

/-- How the second word of a message starts, with the blank before it. -/
def secondWord (message : String) : List Char :=
  (message.toList.dropWhile (· ≠ ' ')).take 4

theorem secondWord_refusalText {operation : String} (h : ' ' ∉ operation.toList)
    (scheme : String) : secondWord (refusalText operation scheme) = " ref".toList := by
  have hall : ∀ c ∈ operation.toList, decide (c ≠ ' ') = true := by
    intro c hc
    have : c ≠ ' ' := fun heq => h (heq ▸ hc)
    simpa using this
  simp only [secondWord, refusalText, String.toList_append, List.append_assoc]
  rw [List.dropWhile_append_of_pos hall]
  rfl

/-- A text that goes past the start of its second word decides it. -/
theorem secondWord_append {start : String} (h : (secondWord start).length = 4) (rest : String) :
    secondWord (start ++ rest) = secondWord start := by
  have hlength : 4 ≤ (start.toList.dropWhile fun c => decide (c ≠ ' ')).length := by
    simp only [secondWord, List.length_take] at h
    omega
  have hne : (start.toList.dropWhile fun c => decide (c ≠ ' ')).isEmpty = false := by
    rw [Bool.eq_false_iff, ne_eq, List.isEmpty_iff_length_eq_zero]
    omega
  simp only [secondWord, String.toList_append, List.dropWhile_append, hne, Bool.false_eq_true,
    if_false, List.take_append_of_le_length hlength]

/-- The second word is there, and it is not the one of a refusal. -/
def IsOtherNews (message : String) : Prop :=
  (secondWord message).length = 4 ∧ secondWord message ≠ " ref".toList

instance : DecidablePred IsOtherNews := fun _ =>
  inferInstanceAs (Decidable (_ ∧ _))

theorem IsOtherNews.append {start : String} (h : IsOtherNews start) (rest : String) :
    IsOtherNews (start ++ rest) := by
  unfold IsOtherNews
  rw [secondWord_append h.1]
  exact h

theorem HostError.isOtherNews_message {cause : HostError} (h : cause.isOfTree = true) :
    IsOtherNews cause.message := by
  cases cause with
  | notFound uri | alreadyExists uri | notADirectory uri | isADirectory uri | dotSegment uri
  | deletesRoot uri | notEmpty uri => exact .append (by decide) uri
  | renamesRoot => decide
  | movesIntoItself source target =>
    exact (((IsOtherNews.append (by decide) source).append _).append target).append _
  | badContent uri => exact (IsOtherNews.append (by decide) uri).append _
  | _ => cases h

/-- Whatever message an answer carries, it is not the one of a refusal. -/
def IsNoRefusal (v : Json) : Prop :=
  ∀ message, v.member? "errorMessage" = some (.str message) → IsOtherNews message

theorem Call.blank_not_mem_operation (call : Call) : ' ' ∉ call.operation.toList := by
  cases call <;> simp [operation]

theorem IsNoRefusal.ne {v : Json} (h : IsNoRefusal v) (call : Call) (scheme : String) :
    v ≠ (Failure.general (refusalText call.operation scheme)).json := by
  rintro rfl
  exact (h _ (Failure.message_json _)).2
    (secondWord_refusalText call.blank_not_mem_operation scheme)

section

variable {α ρ : Type} {codec : Codec ρ} {envelope : Except Failure α → ρ}

theorem isNoRefusal_ok (henvelope : IsEnvelope codec envelope) (a : α) :
    IsNoRefusal (codec.write (envelope (.ok a))) := by
  intro message hmessage
  rw [henvelope.success] at hmessage
  cases hmessage

theorem isNoRefusal_error (henvelope : IsEnvelope codec envelope) {f : Failure}
    (h : IsOtherNews f.message) :
    IsNoRefusal (codec.write (envelope (.error f))) := by
  intro message hmessage
  rw [henvelope.failure, Failure.message_json] at hmessage
  obtain rfl := Json.str.inj (Option.some.inj hmessage)
  exact h

theorem isNoRefusal_ask (henvelope : IsEnvelope codec envelope) {f : Tree → Reply Tree α}
    (hf : ∀ t, TreeOutcome (f t).1) (operation uri : String) (c : Context Tree) :
    IsNoRefusal
      ((Context.answer envelope (c.unguarded.ask operation uri f)).map codec.write id).1 := by
  simp only [Context.ask, Context.refusal?_unguarded, Context.answer, Prod.map]
  have houtcome := hf c.unguarded.host
  cases hreply : (f c.unguarded.host).1 with
  | ok a => exact isNoRefusal_ok henvelope a
  | error cause =>
    rw [hreply] at houtcome
    exact isNoRefusal_error henvelope (HostError.isOtherNews_message houtcome)

end

theorem Registry.isNoRefusal_watch (r : Registry) (p : WatchParams) (policy : Policy) (t : Tree) :
    IsNoRefusal (IoResult.codec.write
      (.ofOutcome ((r.watch p.uri p.watcher t).1.mapError policy.watchFailure))) := by
  unfold Registry.watch
  split
  · exact isNoRefusal_error isEnvelope_io (.append (by decide) p.uri)
  · have hwatch := t.treeOutcome_watch p.uri
    split
    next cause _ hreply =>
      have hcause : (t.watch p.uri).1 = .error cause := congrArg Prod.fst hreply
      rw [hcause] at hwatch
      exact isNoRefusal_error isEnvelope_io (HostError.isOtherNews_message hwatch)
    · exact isNoRefusal_ok isEnvelope_io ()

/-- An answer of a call that the guard has nothing against is no refusal. -/
theorem Call.isNoRefusal_run (call : Call) (c : Context Tree) :
    IsNoRefusal (call.run c.unguarded).1 := by
  cases call with
  | readFile p =>
    refine isNoRefusal_ask (isEnvelope_value _) (fun t => ?_) _ _ c
    apply TreeOutcome.map
    exact t.treeOutcome_read p.uri
  | exists? p =>
    have hok (t : Tree) : TreeOutcome (.ok (t.stat p.uri).1.toBool) := trivial
    exact isNoRefusal_ask (isEnvelope_value _) hok _ _ c
  | lastModified p | created p | isDirectory p | isFile p =>
    refine isNoRefusal_ask (isEnvelope_value _) (fun t => ?_) _ _ c
    apply TreeOutcome.map
    exact t.treeOutcome_stat p.uri
  | list p =>
    refine isNoRefusal_ask isEnvelope_listing (fun t => ?_) _ _ c
    apply TreeOutcome.map
    exact t.treeOutcome_list p.uri
  | writeFile p =>
    refine isNoRefusal_ask isEnvelope_io (fun t => ?_) _ _ c
    split
    · rfl
    · exact t.treeOutcome_write p.uri _ _ _
  | createDirectory p =>
    exact isNoRefusal_ask isEnvelope_io (fun t => t.treeOutcome_createDirectory p.uri) _ _ c
  | remove p =>
    exact isNoRefusal_ask isEnvelope_io (fun t => t.treeOutcome_delete p.uri p.recursive) _ _ c
  | rename p =>
    simp only [run, Context.rename, Context.refusal?_unguarded]
    exact isNoRefusal_ask isEnvelope_io
      (fun t => t.treeOutcome_rename p.source p.target p.overwrite) _ _ c
  | watch p =>
    simp only [run, Context.watch, Context.refusal?_unguarded]
    split
    · exact isNoRefusal_error isEnvelope_io (by decide)
    · exact Registry.isNoRefusal_watch c.registry p _ c.host
  | unwatch p =>
    simp only [run, Context.unwatch, Context.refusal?_unguarded, Registry.unwatch]
    split
    · exact isNoRefusal_error isEnvelope_io (.append (by decide) p.uri)
    · exact isNoRefusal_ok isEnvelope_io ()

theorem Call.exists_refusedFor {call : Call} {p : Policy}
    (h : ∃ uri ∈ call.uris, ∃ scheme, p.guard.Guards uri scheme) :
    ∃ scheme, call.RefusedFor p.guard scheme ∧
      call.uris.findSome? (p.refusal? call.operation) =
        some (.general (refusalText call.operation scheme)) := by
  cases call with
  | rename p' =>
    by_cases htarget : ∃ scheme, p.guard.Guards p'.target scheme
    · obtain ⟨scheme, hguards⟩ := htarget
      refine ⟨scheme, .inl hguards, ?_⟩
      simp [uris, Policy.refusal?_of_guards hguards]
    · have hnone := not_exists.mp htarget
      have hsource : ∃ scheme, p.guard.Guards p'.source scheme := by
        simpa [uris, hnone] using h
      obtain ⟨scheme, hguards⟩ := hsource
      refine ⟨scheme, .inr ⟨hnone, hguards⟩, ?_⟩
      simp [uris, Policy.refusal?_of_not_guards hnone, Policy.refusal?_of_guards hguards]
  | _ p' =>
    obtain ⟨uri, hmem, scheme, hguards⟩ := h
    refine ⟨scheme, ⟨uri, hmem, hguards⟩, ?_⟩
    obtain rfl := List.mem_singleton.mp hmem
    simp [uris, Policy.refusal?_of_guards hguards]

/-- A call of a session that is not disposed of, on a tree. If one of its URIs is guarded, it is
refused with the general code for the scheme as it is spelled there, and neither the tree nor the
session changes. Otherwise it is answered as without a guard, and never refused. -/
theorem Session.dispatch_respects_guard {call : Call} {params : Json}
    (hparams : call.ReadFrom params) {s : Session} (hopen : s.disposed = false) (policy : Policy)
    (host : Tree) :
    ((∃ uri ∈ call.uris, ∃ scheme, policy.guard.Guards uri scheme) →
      ∃ scheme, call.RefusedFor policy.guard scheme ∧
        Methods.bridge.dispatch call.method params (s.context policy host) =
          (.ok (.ofMembers [("errorCode", .nat 1),
            ("errorMessage", .str (refusalText call.operation scheme))]),
          s.context policy host)) ∧
    ((∀ uri ∈ call.uris, ∀ scheme, ¬policy.guard.Guards uri scheme) →
      ∃ answer after,
        Methods.bridge.dispatch call.method params (s.context ⟨.empty, policy.mode⟩ host) =
          (.ok answer, after) ∧
        Methods.bridge.dispatch call.method params (s.context policy host) =
          (.ok answer, { after with policy := policy }) ∧
        ∀ (other : Call) (scheme : String), answer ≠ .ofMembers [("errorCode", .nat 1),
          ("errorMessage", .str (refusalText other.operation scheme))]) := by
  have hrun := call.run_eq_guarded (c := s.context policy host) hopen
  constructor
  · intro hguarded
    obtain ⟨scheme, hscheme, hrefusal⟩ := Call.exists_refusedFor hguarded
    refine ⟨scheme, hscheme, ?_⟩
    rw [Methods.dispatch_call hparams, hrun, Context.guarded]
    simp only [Session.context, hrefusal]
    rfl
  · intro hunguarded
    have hnone : call.uris.findSome? (policy.refusal? call.operation) = none :=
      List.findSome?_eq_none_iff.mpr fun uri huri =>
        Policy.refusal?_of_not_guards (hunguarded uri huri) call.operation
    refine ⟨_, _, Methods.dispatch_call hparams _, ?_,
      call.isNoRefusal_run (s.context policy host) |>.ne⟩
    rw [Methods.dispatch_call hparams, hrun, Context.guarded]
    simp only [Session.context, hnone]
    rfl

/-- A move whose both sides are guarded, the target in another spelling than in the guard. -/
theorem Session.dispatch_respects_guard_rename :
    let policy : Policy := ⟨.ofList ["ide", "rmt"], .detailed⟩
    let params : Json := .ofMembers [("from", .str "ide:/a"), ("to", .str "RMT:/b")]
    let call : Call := .rename ⟨"ide:/a", "RMT:/b", false⟩
    let s : Session := .start 1
    let host : Tree := .empty 0
    call.ReadFrom params ∧ policy.guard.Guards "RMT:/b" "RMT" ∧
      ∃ scheme, call.RefusedFor policy.guard scheme ∧
        Methods.bridge.dispatch call.method params (s.context policy host) =
          (.ok (.ofMembers [("errorCode", .nat 1),
            ("errorMessage", .str (refusalText "rename" scheme))]), s.context policy host) := by
  intro policy params call s host
  have hparams : call.ReadFrom params := rfl
  have hguards : policy.guard.Guards "RMT:/b" "RMT" :=
    Guard.guardedScheme?_eq_some_iff.mp (by decide)
  refine ⟨hparams, hguards, ?_⟩
  exact (dispatch_respects_guard hparams rfl policy host).1
    ⟨"RMT:/b", List.mem_cons_self, "RMT", hguards⟩

end FileBridge
