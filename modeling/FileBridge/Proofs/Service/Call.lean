import FileBridge.Service.Methods
import FileBridge.Proofs.OrderedMap

/-!
Calls: the requests that the bridge has a method for, with their parameters read. Main statement:
the method of a call runs the operation of the call, and a request that is no call is answered with
a fault and changes nothing.
-/
namespace FileBridge

/-- A failure in its envelope. All envelopes write it alike. -/
def Failure.json (f : Failure) : Json :=
  .ofMembers [("errorCode", .nat f.code.toNat), ("errorMessage", .str f.message)]

/-- A request that the bridge has a method for. -/
inductive Call where
  | readFile (p : UriParams)
  | exists? (p : UriParams)
  | lastModified (p : UriParams)
  | created (p : UriParams)
  | isDirectory (p : UriParams)
  | isFile (p : UriParams)
  | list (p : UriParams)
  | writeFile (p : WriteFileParams)
  | createDirectory (p : UriParams)
  | remove (p : RemoveParams)
  | rename (p : RenameParams)
  | watch (p : WatchParams)
  | unwatch (p : WatchParams)

namespace Call

/-- The method that a call is made by. -/
def method : Call → String
  | .readFile _ => "vfs/input/readFile"
  | .exists? _ => "vfs/input/exists"
  | .lastModified _ => "vfs/input/lastModified"
  | .created _ => "vfs/input/created"
  | .isDirectory _ => "vfs/input/isDirectory"
  | .isFile _ => "vfs/input/isFile"
  | .list _ => "vfs/input/list"
  | .writeFile _ => "vfs/output/writeFile"
  | .createDirectory _ => "vfs/output/mkDirectory"
  | .remove _ => "vfs/output/remove"
  | .rename _ => "vfs/output/rename"
  | .watch _ => "vfs/watcher/watch"
  | .unwatch _ => "vfs/watcher/unwatch"

/-- The parameters of a call are what JSON parameters are read as. -/
def ReadFrom (params : Json) : Call → Prop
  | .readFile p | .exists? p | .lastModified p | .created p | .isDirectory p | .isFile p | .list p
  | .createDirectory p => UriParams.codec.read params = .ok p
  | .writeFile p => WriteFileParams.codec.read params = .ok p
  | .remove p => RemoveParams.codec.read params = .ok p
  | .rename p => RenameParams.codec.read params = .ok p
  | .watch p | .unwatch p => WatchParams.codec.read params = .ok p

variable {σ : Type} [Host σ]

/-- The answer to a call as it is written, and what is left behind. -/
def run (call : Call) (c : Context σ) : Json × Context σ :=
  match call with
  | .readFile p => (c.readFile p).map (ValueResult.codec .text).write id
  | .exists? p => (c.exists? p).map (ValueResult.codec .flag).write id
  | .lastModified p => (c.lastModified p).map (ValueResult.codec .int64).write id
  | .created p => (c.created p).map (ValueResult.codec .int64).write id
  | .isDirectory p => (c.isDirectory p).map (ValueResult.codec .flag).write id
  | .isFile p => (c.isFile p).map (ValueResult.codec .flag).write id
  | .list p => (c.list p).map DirectoryListing.codec.write id
  | .writeFile p => (c.writeFile p).map IoResult.codec.write id
  | .createDirectory p => (c.createDirectory p).map IoResult.codec.write id
  | .remove p => (c.remove p).map IoResult.codec.write id
  | .rename p => (c.rename p).map IoResult.codec.write id
  | .watch p => (c.watch p).map IoResult.codec.write id
  | .unwatch p => (c.unwatch p).map IoResult.codec.write id

end Call

/-- The host is not asked, or the outcome is the one that it gives. -/
theorem Context.ask_cases {σ α : Type} (c : Context σ) (operation uri : String)
    (f : σ → Reply σ α) :
    (∃ text, c.ask operation uri f = (.error (.general text), c)) ∨
      c.ask operation uri f =
        ((f c.host).1.mapError c.policy.hostFailure, { c with host := (f c.host).2 }) := by
  unfold ask Policy.refusal?
  cases c.policy.guard.guardedScheme? uri with
  | some scheme => exact .inl ⟨_, rfl⟩
  | none => exact .inr rfl

namespace Handler

variable {σ P R : Type} {params : Codec P} {v : Json}

theorem of_ok {p : P} (h : params.read v = .ok p) (method : String) (result : Codec R)
    (f : P → Context σ → R × Context σ) (c : Context σ) :
    of method params result f v c = (.ok (result.write (f p c).1), (f p c).2) := by
  simp only [of, ofPartial, h]
  rfl

theorem of_error {e : DecodeError} (h : params.read v = .error e) (method : String)
    (result : Codec R) (f : P → Context σ → R × Context σ) (c : Context σ) :
    of method params result f v c = (.error (.invalidParams (method ++ ": " ++ e.message)), c) := by
  simp only [of, ofPartial, h]

end Handler

namespace Methods

variable {σ : Type} [Host σ]

/-- The method of a call runs it. -/
theorem dispatch_call {call : Call} {params : Json} (h : call.ReadFrom params) (c : Context σ) :
    bridge.dispatch call.method params c = (.ok (call.run c).1, (call.run c).2) := by
  cases call <;>
    simp [dispatch, bridge, Methods.route, add, Call.method, Call.run, Handler.of_ok h]

/-- Every method refuses its parameters and does nothing, or runs a call, wherever it is called. -/
def RunsCalls (m : Methods σ) : Prop :=
  ∀ method h, m.table.get? method = some h → ∀ params,
    (∃ e, ∀ c, h params c = (.error (.invalidParams e), c)) ∨
      ∃ call : Call, call.method = method ∧ call.ReadFrom params ∧
        ∀ c, h params c = (.ok (call.run c).1, (call.run c).2)

theorem runsCalls_empty : (empty : Methods σ).RunsCalls := by
  intro method h hget
  cases hget

theorem RunsCalls.route {P R : Type} {params : Codec P} {result : Codec R}
    {f : P → Context σ → R × Context σ} {m : Methods σ} {name : String} (hm : m.RunsCalls)
    (call : P → Call) (hname : ∀ p, (call p).method = name)
    (hread : ∀ v p, params.read v = .ok p → (call p).ReadFrom v)
    (hrun : ∀ p c, (call p).run c = (result.write (f p c).1, (f p c).2)) :
    (m.route name params result f).RunsCalls := by
  intro method h hget v
  simp only [Methods.route, add, OrderedMap.get?_insert] at hget
  split at hget
  · next heq =>
    obtain rfl := Option.some.inj hget
    cases hv : params.read v with
    | error e => exact .inl ⟨_, Handler.of_error hv name result f⟩
    | ok p =>
      refine .inr ⟨call p, (hname p).trans heq.symm, hread v p hv, fun c => ?_⟩
      rw [Handler.of_ok hv, hrun]
  · exact hm method h hget v

theorem runsCalls_bridge : (bridge : Methods σ).RunsCalls :=
  runsCalls_empty
    |>.route .readFile (fun _ => rfl) (fun _ _ h => h) (fun _ _ => rfl)
    |>.route .exists? (fun _ => rfl) (fun _ _ h => h) (fun _ _ => rfl)
    |>.route .lastModified (fun _ => rfl) (fun _ _ h => h) (fun _ _ => rfl)
    |>.route .created (fun _ => rfl) (fun _ _ h => h) (fun _ _ => rfl)
    |>.route .isDirectory (fun _ => rfl) (fun _ _ h => h) (fun _ _ => rfl)
    |>.route .isFile (fun _ => rfl) (fun _ _ h => h) (fun _ _ => rfl)
    |>.route .list (fun _ => rfl) (fun _ _ h => h) (fun _ _ => rfl)
    |>.route .writeFile (fun _ => rfl) (fun _ _ h => h) (fun _ _ => rfl)
    |>.route .createDirectory (fun _ => rfl) (fun _ _ h => h) (fun _ _ => rfl)
    |>.route .remove (fun _ => rfl) (fun _ _ h => h) (fun _ _ => rfl)
    |>.route .rename (fun _ => rfl) (fun _ _ h => h) (fun _ _ => rfl)
    |>.route .watch (fun _ => rfl) (fun _ _ h => h) (fun _ _ => rfl)
    |>.route .unwatch (fun _ => rfl) (fun _ _ h => h) (fun _ _ => rfl)

/-- A request is answered with a fault and changes nothing, or it is a call. -/
theorem dispatch_cases (method : String) (params : Json) (c : Context σ) :
    (∃ fault, bridge.dispatch method params c = (.error fault, c)) ∨
      ∃ call : Call, call.method = method ∧ call.ReadFrom params ∧
        bridge.dispatch method params c = (.ok (call.run c).1, (call.run c).2) := by
  unfold dispatch
  cases hget : (bridge : Methods σ).table.get? method with
  | none => exact .inl ⟨_, rfl⟩
  | some h =>
    rcases runsCalls_bridge method h hget params with ⟨e, he⟩ | ⟨call, hmethod, hread, hrun⟩
    · exact .inl ⟨_, he c⟩
    · exact .inr ⟨call, hmethod, hread, hrun c⟩

end Methods

end FileBridge
