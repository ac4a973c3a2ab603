import FileBridge.Proofs.Service.Answers

/-!
Calls in the two modes of error codes. What a call does to the host and to the watches does not
depend on the mode, and neither does its answer, but for the code of a failure: the general one in
compact mode, whichever it is in detailed mode. What the bridge itself refuses has the general code
in both.
-/
namespace FileBridge

/-- Two envelopes that differ in the code only: it is zero in both, or one in the first and not zero
in the second. -/
structure Json.Coarsens (v w : Json) : Prop where
  others : ∀ name, name ≠ "errorCode" → v.member? name = w.member? name
  code : ∃ code : ErrorCode, w.member? "errorCode" = some (.nat code.toNat) ∧
    v.member? "errorCode" = some (.nat (if code = .success then 0 else 1))

/-- Two outcomes that differ in the code of a failure only. -/
inductive Coarser {α : Type} : Except Failure α → Except Failure α → Prop where
  | ok (a : α) : Coarser (.ok a) (.ok a)
  | error {f : Failure} (h : f.code ≠ .success) : Coarser (.error (.general f.message)) (.error f)

theorem Coarser.general {α : Type} (text : String) :
    Coarser (.error (.general text) : Except Failure α) (.error (.general text)) :=
  .error (f := .general text) nofun

theorem Failure.member?_json (f : Failure) (name : String) :
    f.json.member? name =
      if name = "errorCode" then some (.nat f.code.toNat)
      else if name = "errorMessage" then some (.str f.message) else none := by
  rw [json, Json.member?_ofMembers (by simp)]
  rfl

theorem Coarser.coarsens {α ρ : Type} {codec : Codec ρ} {envelope : Except Failure α → ρ}
    (henvelope : IsEnvelope codec envelope) {outcome outcome' : Except Failure α}
    (h : Coarser outcome outcome') :
    (codec.write (envelope outcome)).Coarsens (codec.write (envelope outcome')) := by
  cases h with
  | ok a => exact ⟨fun _ _ => rfl, .success, henvelope.code a, henvelope.code a⟩
  | @error f hcode =>
    rw [henvelope.failure, henvelope.failure]
    refine ⟨fun name hname => ?_, f.code, ?_, ?_⟩
    · simp [Failure.member?_json, hname, Failure.general]
    · simp [Failure.member?_json]
    · simp [Failure.member?_json, Failure.general, hcode, ErrorCode.toNat]

namespace Policy

theorem coarser_refusal {α : Type} {p : Policy} {operation uri : String} {refusal : Failure}
    (h : p.refusal? operation uri = some refusal) :
    Coarser (.error refusal : Except Failure α) (.error refusal) := by
  obtain ⟨text, rfl⟩ := Policy.eq_general_of_refusal? h
  exact .general _

theorem coarser_hostFailure {α : Type} (g : Guard) (outcome : Except HostError α) :
    Coarser (outcome.mapError (hostFailure ⟨g, .compact⟩))
      (outcome.mapError (hostFailure ⟨g, .detailed⟩)) := by
  cases outcome with
  | ok a => exact .ok a
  | error cause => exact .error (hostFailure_code_ne_success ⟨g, .detailed⟩ cause)

theorem coarser_watchFailure {α : Type} (g : Guard) (outcome : Except WatchError α) :
    Coarser (outcome.mapError (watchFailure ⟨g, .compact⟩))
      (outcome.mapError (watchFailure ⟨g, .detailed⟩)) := by
  cases outcome with
  | ok a => exact .ok a
  | error cause =>
    cases cause with
    | host cause => exact .error (hostFailure_code_ne_success ⟨g, .detailed⟩ cause)
    | alreadyDefined uri => exact .general _
    | notDefined uri => exact .general _

end Policy

theorem Coarser.map {α β : Type} {outcome outcome' : Except Failure α}
    (h : Coarser outcome outcome') (f : α → β) : Coarser (outcome.map f) (outcome'.map f) := by
  cases h with
  | ok a => exact .ok (f a)
  | error hcode => exact .error hcode

namespace Context

variable {σ : Type}

/-- The same in a mode. -/
def inMode (mode : CodeMode) (c : Context σ) : Context σ :=
  { c with policy := { c.policy with mode := mode } }

/-- An answer in each mode and what is left behind, the same but for the mode. -/
structure Parallel (r r' : Json × Context σ) : Prop where
  answer : r.1.Coarsens r'.1
  context : r.2 = r'.2.inMode .compact

variable {α ρ : Type} {codec : Codec ρ} {envelope : Except Failure α → ρ}

theorem parallel_ask (henvelope : IsEnvelope codec envelope) (operation uri : String)
    (f : σ → Reply σ α) (c : Context σ) :
    Parallel ((answer envelope ((c.inMode .compact).ask operation uri f)).map codec.write id)
      ((answer envelope ((c.inMode .detailed).ask operation uri f)).map codec.write id) := by
  have hrefusal (mode : CodeMode) :
      (c.inMode mode).policy.refusal? operation uri = c.policy.refusal? operation uri := rfl
  simp only [ask, hrefusal]
  cases hguard : c.policy.refusal? operation uri with
  | some refusal => exact ⟨(Policy.coarser_refusal hguard).coarsens henvelope, rfl⟩
  | none => exact ⟨(Policy.coarser_hostFailure c.policy.guard _).coarsens henvelope, rfl⟩

end Context

namespace Call

variable {σ : Type} [Host σ]

/-- Whatever a call is, the mode changes nothing but the code of a failure. -/
theorem parallel_run (call : Call) (c : Context σ) :
    Context.Parallel (call.run (c.inMode .compact)) (call.run (c.inMode .detailed)) := by
  have hrefusal (mode : CodeMode) (operation uri : String) :
      (c.inMode mode).policy.refusal? operation uri = c.policy.refusal? operation uri := rfl
  cases call with
  | readFile p | exists? p | lastModified p | created p | isDirectory p | isFile p =>
    exact Context.parallel_ask (isEnvelope_value _) _ _ _ c
  | list p => exact Context.parallel_ask isEnvelope_listing _ _ _ c
  | writeFile p | createDirectory p | remove p => exact Context.parallel_ask isEnvelope_io _ _ _ c
  | rename p =>
    simp only [run, Context.rename, hrefusal]
    cases hguard : c.policy.refusal? "rename" p.target with
    | some refusal => exact ⟨(Policy.coarser_refusal hguard).coarsens isEnvelope_io, rfl⟩
    | none => exact Context.parallel_ask isEnvelope_io _ _ _ c
  | watch p =>
    have hclosing (mode : CodeMode) : (c.inMode mode).closing = c.closing := rfl
    simp only [run, Context.watch, hrefusal, hclosing]
    split
    · exact ⟨(Coarser.general _).coarsens isEnvelope_io, rfl⟩
    · cases hguard : c.policy.refusal? "watch" p.uri with
      | some refusal => exact ⟨(Policy.coarser_refusal hguard).coarsens isEnvelope_io, rfl⟩
      | none => exact ⟨(Policy.coarser_watchFailure c.policy.guard _).coarsens isEnvelope_io, rfl⟩
  | unwatch p =>
    simp only [run, Context.unwatch, hrefusal]
    cases hguard : c.policy.refusal? "unwatch" p.uri with
    | some refusal => exact ⟨(Policy.coarser_refusal hguard).coarsens isEnvelope_io, rfl⟩
    | none =>
      exact ⟨((Policy.coarser_watchFailure c.policy.guard _).map _).coarsens isEnvelope_io, rfl⟩

end Call

/-- What a request is answered with in the two modes: the same fault, or envelopes that differ in
the code of a failure only. -/
inductive AnswersAlike : Except Rpc.Fault Json → Except Rpc.Fault Json → Prop where
  | fault (fault : Rpc.Fault) : AnswersAlike (.error fault) (.error fault)
  | envelope {v w : Json} (h : v.Coarsens w) : AnswersAlike (.ok v) (.ok w)

theorem Methods.dispatch_inMode (method : String) (params : Json) (c : Context Tree) :
    AnswersAlike (bridge.dispatch method params (c.inMode .compact)).1
        (bridge.dispatch method params (c.inMode .detailed)).1 ∧
      (bridge.dispatch method params (c.inMode .compact)).2 =
        (bridge.dispatch method params (c.inMode .detailed)).2.inMode .compact := by
  rcases dispatch_kinds method params with ⟨-, heq⟩ | ⟨-, text, heq⟩ | ⟨call, rfl, hread, -⟩
  · rw [heq, heq]
    exact ⟨.fault _, rfl⟩
  · rw [heq, heq]
    exact ⟨.fault _, rfl⟩
  · rw [dispatch_call hread, dispatch_call hread]
    have hparallel := call.parallel_run c
    exact ⟨.envelope hparallel.answer, hparallel.context⟩

theorem Failure.errorCode_general (text : String) :
    (Failure.general text).json.member? "errorCode" = some (.nat 1) :=
  member?_json _ _

theorem Context.errorCode_of_refusal {σ α ρ : Type} {codec : Codec ρ}
    {envelope : Except Failure α → ρ} (henvelope : IsEnvelope codec envelope) {c : Context σ}
    {operation uri : String} {f : σ → Reply σ α} {text : String}
    (h : c.policy.refusal? operation uri = some (.general text)) :
    ((answer envelope (c.ask operation uri f)).map codec.write id).1.member? "errorCode" =
      some (.nat 1) := by
  simp only [ask, h, answer, Prod.map, henvelope.failure, Failure.errorCode_general]

namespace Call

variable {σ : Type}

/-- A watch is opened that is open, or closed that is not, or what is written is not base64. -/
def IsMistaken (c : Context σ) : Call → Prop
  | .watch p => c.registry.contains p.uri = true
  | .unwatch p => c.registry.contains p.uri = false
  | .writeFile p => Base64.decode? p.content.toList = none
  | _ => False

variable [Host σ]

/-- A call with a guarded URI has the general code. -/
theorem errorCode_of_guarded {c : Context σ} {call : Call}
    (h : ∃ uri ∈ call.uris, ∃ scheme, c.policy.guard.Guards uri scheme) :
    (call.run c).1.member? "errorCode" = some (.nat 1) := by
  obtain ⟨uri, huri, scheme, hguards⟩ := h
  have hrefusal (operation : String) := Policy.refusal?_of_guards hguards operation
  cases call with
  | readFile p | exists? p | lastModified p | created p | isDirectory p | isFile p =>
    obtain rfl := List.mem_singleton.mp huri
    exact Context.errorCode_of_refusal (isEnvelope_value _) (hrefusal _)
  | list p =>
    obtain rfl := List.mem_singleton.mp huri
    exact Context.errorCode_of_refusal isEnvelope_listing (hrefusal _)
  | writeFile p | createDirectory p | remove p =>
    obtain rfl := List.mem_singleton.mp huri
    exact Context.errorCode_of_refusal isEnvelope_io (hrefusal _)
  | rename p =>
    simp only [run, Context.rename]
    cases htarget : c.policy.refusal? "rename" p.target with
    | some refusal =>
      obtain ⟨text, rfl⟩ := Policy.eq_general_of_refusal? htarget
      exact Failure.errorCode_general _
    | none =>
      rcases List.mem_pair.mp huri with rfl | rfl
      · rw [hrefusal] at htarget
        cases htarget
      · exact Context.errorCode_of_refusal isEnvelope_io (hrefusal _)
  | watch p =>
    obtain rfl := List.mem_singleton.mp huri
    simp only [run, Context.watch, hrefusal]
    split <;> exact Failure.errorCode_general _
  | unwatch p =>
    obtain rfl := List.mem_singleton.mp huri
    simp only [run, Context.unwatch, hrefusal]
    exact Failure.errorCode_general _

theorem errorCode_of_isMistaken {c : Context σ} {call : Call} (h : call.IsMistaken c) :
    (call.run c).1.member? "errorCode" = some (.nat 1) := by
  cases call with
  | watch p =>
    have hcontains : c.registry.contains p.uri = true := h
    simp only [run, Context.watch, Registry.watch, hcontains, if_true]
    split
    · exact Failure.errorCode_general _
    · split
      next refusal hrefusal =>
        obtain ⟨text, rfl⟩ := Policy.eq_general_of_refusal? hrefusal
        exact Failure.errorCode_general _
      · exact Failure.errorCode_general _
  | unwatch p =>
    have hget : c.registry.table.get? p.uri = none := OrderedMap.contains_eq_false_iff.mp h
    simp only [run, Context.unwatch, Registry.unwatch, hget]
    split
    next refusal hrefusal =>
      obtain ⟨text, rfl⟩ := Policy.eq_general_of_refusal? hrefusal
      exact Failure.errorCode_general _
    · exact Failure.errorCode_general _
  | writeFile p =>
    have hcontent : Base64.decode? p.content.toList = none := h
    have hkind : (c.policy.hostFailure (.badContent p.uri)).code = .failed := by
      cases hmode : c.policy.mode <;> simp [Policy.hostFailure, CodeMode.codeFor, hmode,
        HostError.kind, ErrorCode.ofKind]
    simp only [run, Context.writeFile, Context.ask, hcontent]
    split
    next refusal hrefusal =>
      obtain ⟨text, rfl⟩ := Policy.eq_general_of_refusal? hrefusal
      exact Failure.errorCode_general _
    · show (Failure.json (c.policy.hostFailure (.badContent p.uri))).member? "errorCode" = _
      rw [Failure.member?_json, if_pos rfl, hkind]
      rfl
  | _ => cases h

end Call

end FileBridge
