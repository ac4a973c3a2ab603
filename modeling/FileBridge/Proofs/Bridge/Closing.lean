import FileBridge.Proofs.Bridge.Watches
import FileBridge.Proofs.Rpc.Bodies
import FileBridge.Proofs.Service.Guarded

/-!
Closing a watch. The guard is asked first, as for every call, so a watch whose scheme has come to be
guarded since it was opened stays open. Main statement: apart from that, an open watch is closed
together with its watcher, and where none is open nothing changes.
-/
namespace FileBridge

theorem Registry.unwatch_of_get? {σ : Type} [Host σ] {r : Registry} {uri : String}
    {subscription : Subscription} (h : r.table.get? uri = some subscription) (host : σ) :
    r.unwatch uri host =
      (.ok subscription.watchId, ⟨r.table.erase uri⟩, Host.unwatch subscription.watcher host) := by
  rw [unwatch, h]

theorem Registry.unwatch_of_not_contains {σ : Type} [Host σ] {r : Registry} {uri : String}
    (h : r.contains uri = false) (host : σ) :
    r.unwatch uri host = (.error (.notDefined uri), r, host) := by
  rw [unwatch, OrderedMap.contains_eq_false_iff.mp h]

/-- A session to which nothing has come reads nothing. -/
theorem Session.read_of_idle {σ : Type} [Host σ] {s : Session} (hunread : s.unread = [])
    (hdone : s.peerDone = false) (limit : Nat) (h : σ) : s.read limit h = (s, h) := by
  unfold read
  split
  · rw [hunread, hdone, Rpc.readFrames_starved_nil]
    cases s
    simp_all
  · rfl

/-- The answer that tells of nothing but success. -/
def successJson : Json :=
  .ofMembers [("errorCode", .nat 0)]

theorem Failure.json_ne_successJson (f : Failure) : f.json ≠ successJson := by
  intro heq
  have hmessage := f.message_json
  rw [heq, successJson, Json.member?_ofMembers (by simp)] at hmessage
  cases hmessage

namespace Context

variable {c : Context Tree} {p : WatchParams}

theorem unwatch_of_guards {scheme : String} (h : c.policy.guard.Guards p.uri scheme) :
    c.unwatch p = (.ofOutcome (.error (.general (refusalText "unwatch" scheme))), c) := by
  rw [unwatch, Policy.refusal?_of_guards h]

theorem unwatch_of_get? (h : ∀ scheme, ¬c.policy.guard.Guards p.uri scheme)
    {subscription : Subscription} (hget : c.registry.table.get? p.uri = some subscription) :
    c.unwatch p = (.ofOutcome (.ok ()), { c with
      registry := ⟨c.registry.table.erase p.uri⟩
      host := c.host.unwatch subscription.watcher }) := by
  simp only [unwatch, Policy.refusal?_of_not_guards h, Registry.unwatch_of_get? hget]
  rfl

theorem unwatch_of_not_contains (h : ∀ scheme, ¬c.policy.guard.Guards p.uri scheme)
    (hnot : c.registry.contains p.uri = false) :
    c.unwatch p = (.ofOutcome (.error (.general ("watch not defined for " ++ p.uri))), c) := by
  simp only [unwatch, Policy.refusal?_of_not_guards h, Registry.unwatch_of_not_contains hnot]
  rfl

end Context

namespace Bridge

/-- Whatever sessions have done and whichever schemes are guarded by now, closing a watch succeeds
exactly if the session has it open and its scheme is not guarded. Then the watch and its watcher are
gone, and all other watches and watchers stay. If there is no such watch, or the scheme is guarded,
the answer says so, and nothing changes. -/
theorem run_unwatch_closes (policy : Policy) (limit : Nat) (now : Int) (actions : List Action)
    {s : Session} (hs : s ∈ (run actions (start policy limit (Tree.empty now))).sessions)
    {params : Json} {p : WatchParams}
    (hparams : WatchParams.codec.read params = .ok p) :
    let b := run actions (start policy limit (Tree.empty now))
    let c := s.context b.policy b.host
    let r := Methods.bridge.dispatch "vfs/watcher/unwatch" params c
    (r.1 = .ok (.ofMembers [("errorCode", .nat 0)]) ↔
      (∀ scheme, ¬b.policy.guard.Guards p.uri scheme) ∧ s.registry.contains p.uri = true) ∧
    ((∀ scheme, ¬b.policy.guard.Guards p.uri scheme) →
      ∀ subscription, s.registry.table.get? p.uri = some subscription →
        (∀ uri, r.2.registry.table.get? uri =
          if uri = p.uri then none else s.registry.table.get? uri) ∧
        (b.host.watchers.filter fun w => w.id = subscription.watcher).length = 1 ∧
        r.2.host = { b.host with
          watchers := b.host.watchers.filter fun w => w.id ≠ subscription.watcher }) ∧
    ((∀ scheme, ¬b.policy.guard.Guards p.uri scheme) → s.registry.contains p.uri = false →
      r = (.ok (.ofMembers [("errorCode", .nat 1),
        ("errorMessage", .str ("watch not defined for " ++ p.uri))]), c)) ∧
    ∀ scheme, b.policy.guard.Guards p.uri scheme →
      r = (.ok (.ofMembers [("errorCode", .nat 1),
        ("errorMessage", .str (refusalText "unwatch" scheme))]), c) := by
  intro b c r
  have hbalanced : b.Balanced := ((balanced_start policy limit now).run actions).balanced
  have hr : r = (.ok (IoResult.codec.write (c.unwatch p).1), (c.unwatch p).2) :=
    Methods.dispatch_call (show (Call.unwatch p).ReadFrom params from hparams) c
  have hguarded (scheme : String) (h : b.policy.guard.Guards p.uri scheme) :
      r = (.ok (Failure.general (refusalText "unwatch" scheme)).json, c) := by
    rw [hr, Context.unwatch_of_guards (c := c) h]
    rfl
  have hclosed (h : ∀ scheme, ¬b.policy.guard.Guards p.uri scheme)
      (hnot : s.registry.contains p.uri = false) :
      r = (.ok (Failure.general ("watch not defined for " ++ p.uri)).json, c) := by
    rw [hr, Context.unwatch_of_not_contains (c := c) h hnot]
    rfl
  have hfound (h : ∀ scheme, ¬b.policy.guard.Guards p.uri scheme) {subscription : Subscription}
      (hget : s.registry.table.get? p.uri = some subscription) :
      r = (.ok successJson, { c with
        registry := ⟨s.registry.table.erase p.uri⟩
        host := b.host.unwatch subscription.watcher }) := by
    rw [hr, Context.unwatch_of_get? (c := c) h hget]
    rfl
  refine ⟨⟨fun hsuccess => ?_, fun ⟨h, hcontains⟩ => ?_⟩, fun h subscription hget => ?_,
    hclosed, hguarded⟩
  · -- A guarded scheme or a missing watch gives another answer.
    have hunguarded (scheme : String) : ¬b.policy.guard.Guards p.uri scheme := by
      intro h
      rw [hguarded scheme h] at hsuccess
      exact Failure.json_ne_successJson _ (Except.ok.inj hsuccess)
    refine ⟨hunguarded, ?_⟩
    cases hcontains : s.registry.contains p.uri with
    | true => rfl
    | false =>
      rw [hclosed hunguarded hcontains] at hsuccess
      exact absurd (Except.ok.inj hsuccess) (Failure.json_ne_successJson _)
  · obtain ⟨subscription, hget⟩ := OrderedMap.contains_iff.mp hcontains
    rw [hfound h hget]
    rfl
  · rw [hfound h hget]
    exact ⟨fun uri => OrderedMap.get?_erase .., hbalanced.one_watcher hs hget, rfl⟩

/-- One session opens a watch, and other schemes are guarded after that. -/
def watchThenGuard (g : Guard) : Bridge Tree :=
  run [.openSession, .operate 1 (.watch ⟨"mem:/a", "w"⟩), .setGuard g]
    (start ⟨.empty, .compact⟩ 1048576 (Tree.empty 0))

/-- The session with its watch. -/
def watchingSession : Session :=
  { Session.start 1 with registry := ⟨OrderedMap.empty.insert "mem:/a" ⟨"w", 0⟩⟩ }

theorem watchThenGuard_eq (g : Guard) :
    watchThenGuard g =
      ⟨.bridge, ⟨g, .compact⟩, 1048576, ((Tree.empty 0).watch "mem:/a").2, [watchingSession]⟩ := by
  have hsettle (b : Bridge Tree) (hsessions : b.sessions = [watchingSession])
      (hhost : b.host = ((Tree.empty 0).watch "mem:/a").2) : b.settle = b := by
    obtain ⟨methods, policy, limit, host, sessions⟩ := b
    subst hsessions hhost
    simp only [settle, each, eachOf, Session.read_of_idle (s := watchingSession) rfl rfl]
    rfl
  show setGuard g (settle ⟨.bridge, ⟨.empty, .compact⟩, 1048576,
    ((Tree.empty 0).watch "mem:/a").2, [watchingSession]⟩) = _
  rw [hsettle _ rfl rfl]
  rfl

/-- The watch is closed under another name than it was opened with. -/
theorem run_unwatch_closes_renamed :
    let b := watchThenGuard (.ofList ["rmt"])
    let params : Json := .ofMembers [("uri", .str "mem:/a"), ("watcher", .str "x")]
    let r := Methods.bridge.dispatch "vfs/watcher/unwatch" params
      (watchingSession.context b.policy b.host)
    watchingSession ∈ b.sessions ∧ WatchParams.codec.read params = .ok ⟨"mem:/a", "x"⟩ ∧
      r.1 = .ok (.ofMembers [("errorCode", .nat 0)]) ∧ r.2.registry.contains "mem:/a" = false ∧
      b.host.watchers.length = 1 ∧ r.2.host.watchers = [] := by
  intro b params r
  have hs : watchingSession ∈ b.sessions := by
    rw [show b = _ from watchThenGuard_eq _]
    exact List.mem_singleton_self _
  have hparams : WatchParams.codec.read params = .ok ⟨"mem:/a", "x"⟩ := rfl
  have hunguarded : ∀ scheme, ¬b.policy.guard.Guards "mem:/a" scheme := by
    rw [show b = _ from watchThenGuard_eq _]
    exact Guard.guardedScheme?_eq_none_iff.mp (by decide)
  obtain ⟨hiff, hgone, -⟩ := run_unwatch_closes ⟨.empty, .compact⟩ 1048576 0 _ hs hparams
  obtain ⟨hregistry, -, hhost⟩ := hgone hunguarded ⟨"w", 0⟩ rfl
  have hnone : r.2.registry.table.get? "mem:/a" = none := (hregistry _).trans (if_pos rfl)
  refine ⟨hs, hparams, hiff.mpr ⟨hunguarded, rfl⟩, OrderedMap.contains_eq_false_iff.mpr hnone,
    ?_, ?_⟩
  · rw [show b = _ from watchThenGuard_eq _]
    rfl
  · rw [show r.2.host = _ from hhost]
    show b.host.watchers.filter _ = []
    rw [show b = _ from watchThenGuard_eq _]
    rfl

/-- A watch that is open cannot be closed once its scheme is guarded. -/
theorem open_watch_outlives_unwatch :
    let b := watchThenGuard (.ofList ["mem"])
    let params : Json := .ofMembers [("uri", .str "mem:/a"), ("watcher", .str "w")]
    let r := Methods.bridge.dispatch "vfs/watcher/unwatch" params
      (watchingSession.context b.policy b.host)
    watchingSession ∈ b.sessions ∧ watchingSession.disposed = false ∧
      watchingSession.registry.contains "mem:/a" = true ∧
      WatchParams.codec.read params = .ok ⟨"mem:/a", "w"⟩ ∧
      r.1 ≠ .ok (.ofMembers [("errorCode", .nat 0)]) ∧
      r.1 = .ok (.ofMembers [("errorCode", .nat 1),
        ("errorMessage", .str "unwatch refused: scheme 'mem' is served by the remote peer")]) ∧
      r.2.registry.contains "mem:/a" = true ∧ r.2.host.watchers.length = 1 := by
  intro b params r
  have hb : b = _ := watchThenGuard_eq _
  have hparams : WatchParams.codec.read params = .ok ⟨"mem:/a", "w"⟩ := rfl
  have hguards : b.policy.guard.Guards "mem:/a" "mem" := by
    rw [hb]
    exact Guard.guardedScheme?_eq_some_iff.mp (by decide)
  have hcall : (Call.unwatch ⟨"mem:/a", "w"⟩).ReadFrom params := hparams
  have hr : r = (.ok (Failure.general (refusalText "unwatch" "mem")).json,
      watchingSession.context b.policy b.host) := by
    rw [show r = _ from Methods.dispatch_call hcall _, Call.run,
      Context.unwatch_of_guards (p := ⟨"mem:/a", "w"⟩) hguards]
    rfl
  rw [hr]
  refine ⟨by simp [hb], rfl, rfl, hparams, ?_, rfl, rfl, ?_⟩
  · exact fun h => Failure.json_ne_successJson _ (Except.ok.inj h)
  · rw [hb]
    rfl

end Bridge

end FileBridge
