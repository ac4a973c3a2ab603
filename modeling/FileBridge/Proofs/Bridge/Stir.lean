import FileBridge.Proofs.Bridge.Relay
import FileBridge.Proofs.Service.Guarded

/-!
What one thing that happens to a session does to its watches and to the tree. The changes that it
reports are read off the call, and every watcher is told of them; a watch is opened or closed only
where nothing is reported.
-/
namespace FileBridge

open Rpc

/-- The watches of a session and a tree before and after something that reports changes. -/
structure Stirred (changes : List (ChangeKind × String)) (r : Registry) (t : Tree)
    (r' : Registry) (t' : Tree) : Prop where
  next : t.nextWatcher ≤ t'.nextWatcher
  watchers : ∀ w' ∈ t'.watchers, (∃ w ∈ t.watchers, w' = w.told changes) ∨
    changes = [] ∧ w'.Quiet ∧ w'.id = t.nextWatcher
  watches : ∀ uri s, r'.table.get? uri = some s → r.table.get? uri = some s ∨
    s.watcher = t.nextWatcher ∧
      ∀ w' ∈ t'.watchers, w'.id = t.nextWatcher → w'.uri = uri ∧ w'.listening = true
  same : changes = [] ∨ r' = r

namespace Stirred

variable {changes : List (ChangeKind × String)} {r r' : Registry} {t t' : Tree}

theorem of_told (h : Tree.Told changes t t') (r : Registry) : Stirred changes r t r t' where
  next := Nat.le_of_eq h.next.symm
  watchers w' hw' := by
    rw [h.watchers] at hw'
    obtain ⟨w, hw, rfl⟩ := List.mem_map.mp hw'
    exact .inl ⟨w, hw, rfl⟩
  watches _ _ hget := .inl hget
  same := .inr rfl

theorem refl (r : Registry) (t : Tree) : Stirred [] r t r t :=
  of_told (.of_same rfl rfl) r

/-- Watches are closed, and watchers end. -/
theorem of_subset (hnext : t'.nextWatcher = t.nextWatcher)
    (hwatchers : ∀ w ∈ t'.watchers, w ∈ t.watchers)
    (hwatches : ∀ uri s, r'.table.get? uri = some s → r.table.get? uri = some s) :
    Stirred [] r t r' t' where
  next := Nat.le_of_eq hnext.symm
  watchers w hw := .inl ⟨w, hwatchers w hw, rfl⟩
  watches uri s hget := .inl (hwatches uri s hget)
  same := .inl rfl

theorem watch (hfresh : ∀ w ∈ t.watchers, w.id < t.nextWatcher) (uri watchId : String) :
    Stirred [] r t (r.watch uri watchId t).2.1 (r.watch uri watchId t).2.2 := by
  unfold Registry.watch
  split
  · exact refl r t
  · cases hpath : Path.ofUri uri with
    | error cause =>
      have hreply : Host.watch uri t = (.error cause, t.count) := by
        simp only [show Host.watch uri t = t.watch uri from rfl, Tree.watch, hpath]
      have htold : Tree.Told [] t t.count := .of_same rfl rfl
      simp only [hreply]
      exact of_told htold r
    | ok path =>
      have hreply : Host.watch uri t = (.ok t.nextWatcher, { t.count with
          watchers := t.watchers ++ [⟨t.nextWatcher, path, uri, [], true⟩]
          nextWatcher := t.nextWatcher + 1 }) := by
        simp only [show Host.watch uri t = t.watch uri from rfl, Tree.watch, hpath]
        rfl
      simp only [hreply]
      refine ⟨Nat.le_succ _, fun w' hw' => ?_, fun uri' s hget => ?_, .inl rfl⟩
      · rcases List.mem_append.mp hw' with hw' | hw'
        · exact .inl ⟨w', hw', rfl⟩
        · obtain rfl := List.mem_singleton.mp hw'
          exact .inr ⟨rfl, ⟨rfl, hpath⟩, rfl⟩
      · simp only [OrderedMap.get?_insert] at hget
        split at hget
        next heq =>
          obtain rfl := Option.some.inj hget
          refine .inr ⟨rfl, fun w' hw' hid => ?_⟩
          rcases List.mem_append.mp hw' with hw' | hw'
          · exact absurd hid (Nat.ne_of_lt (hfresh w' hw'))
          · rw [List.mem_singleton.mp hw', heq]
            exact ⟨rfl, rfl⟩
        next => exact .inl hget

theorem unwatch (uri : String) (r : Registry) (t : Tree) :
    Stirred [] r t (r.unwatch uri t).2.1 (r.unwatch uri t).2.2 := by
  unfold Registry.unwatch
  split
  · exact refl r t
  · refine of_subset rfl (fun w hw => (List.mem_filter.mp hw).1) fun uri' s hget => ?_
    simp only [OrderedMap.get?_erase] at hget
    split at hget
    · cases hget
    · exact hget

theorem release (r : Registry) (t : Tree) : Stirred [] r t .empty (r.release t) := by
  have hfold (l : List Subscription) (t : Tree) :
      (l.foldl (fun t s => Host.unwatch s.watcher t) t).nextWatcher = t.nextWatcher ∧
        ∀ w ∈ (l.foldl (fun t s => Host.unwatch s.watcher t) t).watchers, w ∈ t.watchers := by
    induction l generalizing t with
    | nil => exact ⟨rfl, fun _ hw => hw⟩
    | cons s rest ih =>
      obtain ⟨hnext, hwatchers⟩ := ih (t.unwatch s.watcher)
      exact ⟨hnext, fun w hw => (List.mem_filter.mp (hwatchers w hw)).1⟩
  obtain ⟨hnext, hwatchers⟩ := hfold r.subscriptions t
  refine of_subset hnext hwatchers fun uri s hget => ?_
  cases hget

end Stirred

namespace Call

/-- What a call asks of a tree, if that can change entries. -/
def edit? : Call → Option Tree.Operation
  | .writeFile p =>
    (Base64.decode? p.content.toList).map fun content =>
      .write p.uri content p.create p.overwrite
  | .createDirectory p => some (.createDirectory p.uri)
  | .remove p => some (.delete p.uri p.recursive)
  | .rename p => some (.rename p.source p.target p.overwrite)
  | _ => none

/-- The changes that a call reports, in order. A call that is refused reports none. -/
def reports (g : Guard) (t : Tree) (call : Call) : List (ChangeKind × String) :=
  if call.uris.any fun uri => (g.guardedScheme? uri).isSome then []
  else (call.edit?.map fun o => o.reports t).getD []

theorem reports_of_uris {call : Call} {uri : String} (h : call.uris = [uri]) (g : Guard)
    (t : Tree) :
    call.reports g t = if (g.guardedScheme? uri).isSome then []
      else (call.edit?.map fun o => o.reports t).getD [] := by
  simp [reports, h]

/-- The call that a request is, if it is one. -/
def read? (method : String) (params : Json) : Option Call :=
  match method with
  | "vfs/input/readFile" => (UriParams.codec.read params).toOption.map .readFile
  | "vfs/input/exists" => (UriParams.codec.read params).toOption.map .exists?
  | "vfs/input/lastModified" => (UriParams.codec.read params).toOption.map .lastModified
  | "vfs/input/created" => (UriParams.codec.read params).toOption.map .created
  | "vfs/input/isDirectory" => (UriParams.codec.read params).toOption.map .isDirectory
  | "vfs/input/isFile" => (UriParams.codec.read params).toOption.map .isFile
  | "vfs/input/list" => (UriParams.codec.read params).toOption.map .list
  | "vfs/output/writeFile" => (WriteFileParams.codec.read params).toOption.map .writeFile
  | "vfs/output/mkDirectory" => (UriParams.codec.read params).toOption.map .createDirectory
  | "vfs/output/remove" => (RemoveParams.codec.read params).toOption.map .remove
  | "vfs/output/rename" => (RenameParams.codec.read params).toOption.map .rename
  | "vfs/watcher/watch" => (WatchParams.codec.read params).toOption.map .watch
  | "vfs/watcher/unwatch" => (WatchParams.codec.read params).toOption.map .unwatch
  | _ => none

theorem read?_of_readFrom {call : Call} {params : Json} (h : call.ReadFrom params) :
    read? call.method params = some call := by
  cases call <;> simp_all [read?, method, ReadFrom, Except.toOption]

theorem readFrom_of_read? {call : Call} {method : String} {params : Json}
    (h : read? method params = some call) : call.method = method ∧ call.ReadFrom params := by
  have hok {α : Type} {outcome : Except DecodeError α} {p : α} (h : outcome.toOption = some p) :
      outcome = .ok p := by
    cases outcome with
    | error cause => cases h
    | ok a => exact congrArg _ (Option.some.inj h)
  unfold read? at h
  split at h
  case h_14 => cases h
  all_goals
    obtain ⟨p, hp, rfl⟩ := Option.map_eq_some_iff.mp h
    exact ⟨rfl, hok hp⟩

end Call

theorem Stirred.ask {α : Type} {c : Context Tree} {f : Tree → Reply Tree α}
    {changes : List (ChangeKind × String)} (hf : Tree.Told changes c.host (f c.host).2)
    (operation uri : String) :
    Stirred (if (c.policy.guard.guardedScheme? uri).isSome then [] else changes) c.registry c.host
      (c.ask operation uri f).2.registry (c.ask operation uri f).2.host := by
  unfold Context.ask Policy.refusal?
  cases c.policy.guard.guardedScheme? uri with
  | some scheme => exact .refl c.registry c.host
  | none => exact .of_told hf c.registry

/-- Whatever a call does, the watchers are told of the changes that it reports. -/
theorem Call.stirred_run {c : Context Tree}
    (hfresh : ∀ w ∈ c.host.watchers, w.id < c.host.nextWatcher) (call : Call) :
    Stirred (call.reports c.policy.guard c.host) c.registry c.host (call.run c).2.registry
      (call.run c).2.host := by
  cases call with
  | readFile p | exists? p | lastModified p | created p | isDirectory p | isFile p | list p =>
    rw [reports_of_uris rfl]
    refine Stirred.ask ?_ _ _
    exact Tree.told_look p.uri _
  | writeFile p =>
    rw [reports_of_uris rfl]
    refine Stirred.ask ?_ _ _
    simp only [edit?]
    cases Base64.decode? p.content.toList with
    | none => exact .of_same rfl rfl
    | some content => exact Tree.told_edit p.uri _
  | createDirectory p =>
    rw [reports_of_uris rfl]
    have htold : Tree.Told _ c.host (c.host.createDirectory p.uri).2 :=
      Tree.told_edit p.uri _
    exact .ask htold "mkDirectory" p.uri
  | remove p =>
    rw [reports_of_uris rfl]
    have htold : Tree.Told _ c.host (c.host.delete p.uri p.recursive).2 :=
      Tree.told_edit p.uri _
    exact .ask htold "remove" p.uri
  | rename p =>
    have hsource := Stirred.ask (c := c)
      (Tree.told_rename p.source p.target p.overwrite) "rename" p.source
    simp only [run, Context.rename, reports, uris, edit?, Policy.refusal?]
    cases htarget : c.policy.guard.guardedScheme? p.target with
    | some scheme =>
      simp only [List.any_cons, htarget, Option.isSome_some, Bool.true_or, if_true]
      exact .refl c.registry c.host
    | none =>
      simp only [List.any_cons, List.any_nil, htarget, Option.isSome_none, Bool.false_or,
        Bool.or_false, Option.map_none]
      exact hsource
  | watch p =>
    have hreports : (Call.watch p).reports c.policy.guard c.host = [] := ite_self _
    rw [hreports]
    simp only [run, Context.watch]
    split
    · exact .refl c.registry c.host
    · split
      · exact .refl c.registry c.host
      · exact .watch hfresh p.uri p.watcher
  | unwatch p =>
    have hreports : (Call.unwatch p).reports c.policy.guard c.host = [] := ite_self _
    rw [hreports]
    simp only [run, Context.unwatch]
    split
    · exact .refl c.registry c.host
    · exact .unwatch p.uri c.registry c.host

theorem IoResult.ofOutcome_error_ne (failure : Failure) :
    ofOutcome (.error failure) ≠ ⟨.success, none⟩ := fun h => by
  cases congrArg errorMessage h

namespace Context

/-- A watch that succeeds is opened with the tree's next watcher. One that fails opens none. -/
theorem watch_cases (p : WatchParams) (c : Context Tree) :
    (watch p c).1 ≠ ⟨.success, none⟩ ∧ (watch p c).2.registry = c.registry ∨
      (watch p c).1 = ⟨.success, none⟩ ∧ (watch p c).2.registry.table =
        c.registry.table.insert p.uri ⟨p.watcher, c.host.nextWatcher⟩ := by
  unfold watch
  split
  · exact .inl ⟨IoResult.ofOutcome_error_ne _, rfl⟩
  split
  · exact .inl ⟨IoResult.ofOutcome_error_ne _, rfl⟩
  unfold Registry.watch
  by_cases hcontains : c.registry.contains p.uri
  · rw [if_pos hcontains]
    exact .inl ⟨IoResult.ofOutcome_error_ne _, rfl⟩
  rw [if_neg hcontains]
  cases hreply : Host.watch p.uri c.host with
  | mk outcome t =>
    have houtcome : (c.host.watch p.uri).1 = outcome := congrArg Prod.fst hreply
    rcases c.host.watch_cases p.uri with ⟨cause, herror, -⟩ | ⟨hok, -, -⟩
    · obtain rfl := houtcome.symm.trans herror
      exact .inl ⟨IoResult.ofOutcome_error_ne _, rfl⟩
    · obtain rfl := houtcome.symm.trans hok
      exact .inr ⟨rfl, rfl⟩

/-- An unwatch that succeeds closes the watch of its URI. One that fails closes none. -/
theorem unwatch_cases (p : WatchParams) (c : Context Tree) :
    (unwatch p c).1 ≠ ⟨.success, none⟩ ∧ (unwatch p c).2.registry = c.registry ∨
      (unwatch p c).1 = ⟨.success, none⟩ ∧
        (unwatch p c).2.registry.table = c.registry.table.erase p.uri := by
  unfold unwatch
  split
  · exact .inl ⟨IoResult.ofOutcome_error_ne _, rfl⟩
  unfold Registry.unwatch
  cases c.registry.table.get? p.uri with
  | none => exact .inl ⟨IoResult.ofOutcome_error_ne _, rfl⟩
  | some s => exact .inr ⟨rfl, rfl⟩

end Context

namespace Session

/-- What a session does with its watches and its queue while changes are reported: it is told
nothing of them yet, and gets no new writer. -/
structure Stirs (changes : List (ChangeKind × String)) (s : Session) (t : Tree)
    (r : Session × Tree) : Prop where
  stirred : Stirred changes s.registry t r.1.registry r.2
  notices : r.1.notices = s.notices
  writing : r.1.writing = true → s.writing = true

/-- The changes that a move reports, in order. -/
def Move.reports (g : Guard) (s : Session) (t : Tree) : Move → List (ChangeKind × String)
  | .perform place =>
    match s.tasks[place]? with
    | some (.handle r) => ((Call.read? r.method r.params).map fun call => call.reports g t).getD []
    | _ => []
  | _ => []

variable {s : Session} {t : Tree}

theorem notices_schedule (task : Task) : (s.schedule task).notices = s.notices := by
  unfold schedule
  split <;> rfl

theorem notices_send_response (id : Option RequestId) (outcome : Except Fault Json) :
    (s.send (.response id outcome)).notices = s.notices := by
  unfold send
  split
  · simp [notices, List.filter_append, Message.isNotification]
  · rfl

theorem notices_accept (a : Arrival) : (s.accept a).notices = s.notices := by
  have hcomplaint (cause : ReadError) : ∃ id outcome, complaint cause = .response id outcome := by
    cases cause <;> exact ⟨_, _, rfl⟩
  unfold accept
  split
  · exact notices_schedule _
  · rfl
  next cause =>
    obtain ⟨id, outcome, heq⟩ := hcomplaint cause
    rw [notices_schedule, heq, notices_send_response]

theorem notices_foldl_accept (arrivals : List Arrival) :
    (arrivals.foldl accept s).notices = s.notices := by
  induction arrivals generalizing s with
  | nil => rfl
  | cons a rest ih => exact ih.trans (notices_accept a)

/-- Something that concerns neither watches nor the tree. -/
theorem Stirs.of_session {s' : Session} (hregistry : s'.registry = s.registry)
    (hnotices : s'.notices = s.notices) (hwriting : s'.writing = true → s.writing = true)
    (t : Tree) : Stirs [] s t (s', t) := by
  refine ⟨?_, hnotices, hwriting⟩
  rw [hregistry]
  exact .refl s.registry t

/-- What comes before may differ in its queue and its tasks only. -/
theorem Stirs.of_start {s' : Session} {changes : List (ChangeKind × String)} {r : Session × Tree}
    (h : Stirs changes s' t r) (hsame : SameState s s') (hnotices : s'.notices = s.notices) :
    Stirs changes s t r := by
  refine ⟨?_, h.notices.trans hnotices, fun hwrites => hsame.writing.symm.trans (h.writing hwrites)⟩
  rw [← hsame.registry]
  exact h.stirred

theorem stirs_write : Stirs [] s t (s.write, t) :=
  ⟨.refl s.registry t, notices_write, fun hwrites => (Bool.and_eq_true_iff.mp hwrites).1⟩

theorem stirs_dispose : Stirs [] s t (s.dispose t) := by
  unfold dispose
  split
  · exact .of_session rfl rfl (fun h => h) t
  · exact ⟨.release s.registry t, rfl, fun h => h⟩

/-- What comes after may differ in the queue and the tasks only. -/
theorem Stirs.of_end {s' : Session} {changes : List (ChangeKind × String)} {r : Session × Tree}
    (h : Stirs changes s t r) (hsame : SameState r.1 s') (hnotices : s'.notices = r.1.notices) :
    Stirs changes s t (s', r.2) := by
  refine ⟨?_, hnotices.trans h.notices, fun hwrites => h.writing (hsame.writing.symm.trans hwrites)⟩
  rw [hsame.registry]
  exact h.stirred

theorem stirs_stop : Stirs [] s t (s.stop t) := by
  have hdispose : Stirs [] s t (s.dispose t) := stirs_dispose
  have hended : Stirs [] s t
      ({ (s.dispose t).1 with reading := false, unread := [] }, (s.dispose t).2) :=
    ⟨hdispose.stirred, hdispose.notices, hdispose.writing⟩
  exact hended.of_end (sameState_schedule _ _) (notices_schedule _)

theorem stirs_read (limit : Nat) : Stirs [] s t (s.read limit t) := by
  unfold read
  split
  · cases readFrames limit s.peerDone s.unread with
    | mk arrivals stop =>
      have hsame := SameState.foldl sameState_accept arrivals s
      have hnotices : (arrivals.foldl accept s).notices = s.notices := notices_foldl_accept arrivals
      cases stop with
      | starved rest =>
        have hrest : Stirs [] (arrivals.foldl accept s) t
            ({ arrivals.foldl accept s with unread := rest }, t) :=
          ⟨.refl _ t, rfl, fun h => h⟩
        exact hrest.of_start hsame hnotices
      | finished => exact stirs_stop.of_start hsame hnotices
      | failed cause => exact stirs_stop.of_start hsame hnotices
  · exact .of_session rfl rfl (fun h => h) t

/-- A request reports the changes of the call that it is; one that is no call reports none. -/
theorem stirred_dispatch {c : Context Tree}
    (hfresh : ∀ w ∈ c.host.watchers, w.id < c.host.nextWatcher) (method : String) (params : Json) :
    Stirred (((Call.read? method params).map fun call =>
        call.reports c.policy.guard c.host).getD []) c.registry c.host
      (Methods.bridge.dispatch method params c).2.registry
      (Methods.bridge.dispatch method params c).2.host := by
  cases hread : Call.read? method params with
  | some call =>
    obtain ⟨rfl, hparams⟩ := Call.readFrom_of_read? hread
    rw [Methods.dispatch_call hparams]
    exact Call.stirred_run hfresh call
  | none =>
    rcases Methods.dispatch_cases method params c with ⟨fault, heq⟩ | ⟨call, rfl, hparams, -⟩
    · rw [heq]
      exact .refl c.registry c.host
    · rw [Call.read?_of_readFrom hparams] at hread
      cases hread

theorem stirs_handle {policy : Policy} (hfresh : ∀ w ∈ t.watchers, w.id < t.nextWatcher)
    (r : Request) :
    Stirs (((Call.read? r.method r.params).map fun call => call.reports policy.guard t).getD []) s t
      (s.handle .bridge policy r t) := by
  have hstirred := stirred_dispatch (c := s.context policy t) hfresh r.method r.params
  have hhandled : Stirs _ s t ({ s with
      registry := (Methods.bridge.dispatch r.method r.params (s.context policy t)).2.registry },
      (Methods.bridge.dispatch r.method r.params (s.context policy t)).2.host) :=
    ⟨hstirred, rfl, fun h => h⟩
  exact hhandled.of_end (sameState_send _ _) (notices_send_response _ _)

/-- A relay that has nothing to tell. -/
theorem stirs_relay (hquiet : t.IsQuiet) : Stirs [] s t (s.relay t) := by
  have hrelay : s.relay t = (s.write, t) := by
    simp only [relay, hquiet.registry_relay_eq, List.map_nil, List.foldl_nil]
  rw [hrelay]
  exact stirs_write

/-- Whatever a session does while its watches have nothing to tell and all is written, the watchers
are told of the changes that it reports. -/
theorem stirs_move {policy : Policy} (hfresh : ∀ w ∈ t.watchers, w.id < t.nextWatcher)
    (hquiet : t.IsQuiet) (houtbound : s.outbound = []) (limit : Nat) (m : Move) :
    Stirs (m.reports policy.guard s t) s t (s.move .bridge policy limit m t) := by
  cases m with
  | arrive bytes =>
    refine .of_session ?_ ?_ ?_ t <;> split
    all_goals first | rfl | exact fun h => h
  | hangUp => exact ⟨.refl s.registry t, rfl, fun h => h⟩
  | read => exact stirs_read limit
  | perform place =>
    simp only [move, performAt, Move.reports]
    cases s.tasks[place]? with
    | none => exact .of_session rfl rfl (fun h => h) t
    | some task =>
      have hsame : SameState s { s with tasks := s.tasks.eraseIdx place } :=
        ⟨rfl, rfl, rfl, rfl, rfl, rfl, rfl⟩
      cases task with
      | handle r => exact (stirs_handle hfresh r).of_start hsame rfl
      | write => exact stirs_write.of_start hsame rfl
  | write => exact stirs_write
  | breakOff sent =>
    have hnotices : (s.breakOff sent).notices = s.notices := by
      simp only [notices, breakOff, houtbound, List.take_nil, List.append_nil]
    exact ⟨.refl s.registry t, hnotices, fun hwrites => by cases hwrites⟩
  | relay => exact stirs_relay hquiet
  | dispose =>
    simp only [move]
    split
    · exact .of_session rfl rfl (fun h => h) t
    · exact stirs_stop

/-- A move works off a request of the peer for a call. -/
def Move.Runs (s : Session) (call : Call) : Move → Prop
  | .perform place =>
    ∃ r, s.tasks[place]? = some (.handle r) ∧ Call.read? r.method r.params = some call
  | _ => False

theorem Move.Runs.registry {policy : Policy} {limit : Nat} {call : Call} {m : Move}
    (h : m.Runs s call) :
    (s.move .bridge policy limit m t).1.registry = (call.run (s.context policy t)).2.registry := by
  cases m with
  | perform place =>
    obtain ⟨r, htask, hread⟩ := h
    obtain ⟨hmethod, hparams⟩ := Call.readFrom_of_read? hread
    simp only [move, performAt, htask, Session.perform, handle, ← hmethod,
      Methods.dispatch_call hparams]
    exact (sameState_send _ _).registry
  | _ => cases h

/-- A session that does not end, and that runs no call, keeps its watches. -/
theorem registry_move {policy : Policy} {limit : Nat} {m : Move} (hends : ¬ m.Ends limit s)
    (hruns : ∀ call, ¬ m.Runs s call) :
    (s.move .bridge policy limit m t).1.registry = s.registry := by
  cases m with
  | arrive bytes =>
    simp only [move]
    split <;> rfl
  | hangUp | write | breakOff sent => rfl
  | read =>
    simp only [move, Session.read]
    split
    next hreading =>
      cases hframes : readFrames limit s.peerDone s.unread with
      | mk arrivals stop =>
        cases stop with
        | starved rest => exact (SameState.foldl sameState_accept arrivals s).registry
        | finished =>
          refine absurd ⟨hreading, .inl ?_⟩ hends
          cases hdone : s.peerDone with
          | true => rfl
          | false =>
            refine absurd ?_ (readFrames_ne_finished limit s.unread)
            rw [← hdone, hframes]
        | failed cause => exact absurd ⟨hreading, .inr ⟨cause, by rw [hframes]⟩⟩ hends
    · rfl
  | perform place =>
    simp only [move, performAt]
    cases htask : s.tasks[place]? with
    | none => rfl
    | some task =>
      cases task with
      | write => rfl
      | handle r =>
        rcases Methods.dispatch_cases r.method r.params (s.context policy t) with
          ⟨fault, heq⟩ | ⟨call, hmethod, hparams, -⟩
        · have hcontext : { s with tasks := s.tasks.eraseIdx place }.context policy t =
            s.context policy t := rfl
          simp only [Session.perform, handle, hcontext, heq]
          exact (sameState_send _ _).registry
        · have hread := Call.read?_of_readFrom hparams
          exact absurd ⟨r, htask, hmethod ▸ hread⟩ (hruns call)
  | relay => exact (sameState_sends s _).registry
  | dispose => exact absurd trivial hends

end Session

end FileBridge
