import FileBridge.Proofs.Bridge.Watches
import FileBridge.Proofs.Tree.Times

/-!
What a bridge does to its tree. Whatever sessions read, work off and relay, all that happens to the
tree are actions of the tree itself, and only something from outside sets its clock. So what every
run of a tree keeps, every run of a bridge keeps.
-/
namespace FileBridge

namespace Tree

/-- One tree comes from another by actions that leave the clock alone. -/
def Evolves (t t' : Tree) : Prop :=
  ∃ actions : List Action, actions.filterMap Action.clock? = [] ∧ t' = run actions t

variable {t t' t'' : Tree}

theorem Evolves.refl (t : Tree) : Evolves t t :=
  ⟨[], rfl, rfl⟩

theorem Evolves.trans (h : Evolves t t') (h' : Evolves t' t'') : Evolves t t'' := by
  obtain ⟨actions, hclock, rfl⟩ := h
  obtain ⟨later, hclock', rfl⟩ := h'
  refine ⟨actions ++ later, ?_, ?_⟩
  · rw [List.filterMap_append, hclock, hclock', List.append_nil]
  · simp [run, List.foldl_append]

theorem evolves_after {a : Action} (h : a.clock? = none) : Evolves t (t.after a) :=
  ⟨[a], by simp [h], rfl⟩

theorem evolves_perform (o : Operation) : Evolves t (t.perform o).2 :=
  evolves_after (a := .perform o) rfl

theorem evolves_foldl {α : Type} {f : Tree → α → Tree} (hf : ∀ t a, Evolves t (f t a)) (l : List α)
    (t : Tree) : Evolves t (l.foldl f t) := by
  induction l generalizing t with
  | nil => exact .refl t
  | cons a rest ih => exact (hf t a).trans (ih _)

end Tree

theorem Context.evolves_ask {α : Type} {c : Context Tree} {f : Tree → Reply Tree α}
    (hf : c.host.Evolves (f c.host).2) (operation uri : String) :
    c.host.Evolves (c.ask operation uri f).2.host := by
  rcases c.ask_cases operation uri f with ⟨text, heq⟩ | heq
  · rw [heq]
    exact .refl c.host
  · rw [heq]
    exact hf

namespace Registry

theorem evolves_watch (uri watchId : String) (r : Registry) (t : Tree) :
    t.Evolves (r.watch uri watchId t).2.2 := by
  have hwatch : t.Evolves (t.watch uri).2 := Tree.evolves_perform (.watch uri)
  unfold watch
  split
  · exact .refl t
  · split
    next heq => exact congrArg Prod.snd heq ▸ hwatch
    next heq => exact congrArg Prod.snd heq ▸ hwatch

theorem evolves_unwatch (uri : String) (r : Registry) (t : Tree) :
    t.Evolves (r.unwatch uri t).2.2 := by
  unfold unwatch
  split
  · exact .refl t
  next s _ => exact Tree.evolves_after (a := .unwatch s.watcher) rfl

theorem evolves_release (r : Registry) (t : Tree) : t.Evolves (r.release t) := by
  have hunwatch (t : Tree) (s : Subscription) : t.Evolves (Host.unwatch s.watcher t) :=
    Tree.evolves_after (a := .unwatch s.watcher) rfl
  exact Tree.evolves_foldl hunwatch r.subscriptions t

end Registry

theorem Call.evolves_run (call : Call) (c : Context Tree) : c.host.Evolves (call.run c).2.host := by
  cases call with
  | readFile p =>
    refine Context.evolves_ask ?_ _ _
    exact Tree.evolves_perform (.read p.uri)
  | exists? p | lastModified p | created p | isDirectory p | isFile p =>
    refine Context.evolves_ask ?_ _ _
    exact Tree.evolves_perform (.stat p.uri)
  | list p =>
    refine Context.evolves_ask ?_ _ _
    exact Tree.evolves_perform (.list p.uri)
  | writeFile p =>
    refine Context.evolves_ask ?_ _ _
    split
    · exact .refl c.host
    next content _ => exact Tree.evolves_perform (.write p.uri content p.create p.overwrite)
  | createDirectory p =>
    refine Context.evolves_ask ?_ _ _
    exact Tree.evolves_perform (.createDirectory p.uri)
  | remove p =>
    refine Context.evolves_ask ?_ _ _
    exact Tree.evolves_perform (.delete p.uri p.recursive)
  | rename p =>
    simp only [run, Context.rename]
    split
    · exact .refl c.host
    · refine Context.evolves_ask ?_ _ _
      exact Tree.evolves_perform (.rename p.source p.target p.overwrite)
  | watch p =>
    simp only [run, Context.watch]
    split
    · exact .refl c.host
    · split
      · exact .refl c.host
      · exact c.registry.evolves_watch p.uri p.watcher c.host
  | unwatch p =>
    simp only [run, Context.unwatch]
    split
    · exact .refl c.host
    · exact c.registry.evolves_unwatch p.uri c.host

theorem Methods.evolves_dispatch (method : String) (params : Json) (c : Context Tree) :
    c.host.Evolves (bridge.dispatch method params c).2.host := by
  rcases dispatch_cases method params c with ⟨fault, heq⟩ | ⟨call, -, -, heq⟩
  · rw [heq]
    exact .refl c.host
  · rw [heq]
    exact call.evolves_run c

namespace Subscription

theorem evolves_event (s : Subscription) (change : Change) (t : Tree) :
    t.Evolves (s.event change t).2 := by
  have hstat : t.Evolves (t.stat change.uri).2 := Tree.evolves_perform (.stat change.uri)
  unfold event Change.classify
  cases change.kind with
  | created =>
    dsimp only
    split
    next heq => exact congrArg Prod.snd heq ▸ hstat
    next heq => exact congrArg Prod.snd heq ▸ hstat
  | changed => exact .refl t
  | deleted => exact .refl t

theorem evolves_events (s : Subscription) (changes : List Change) (t : Tree) :
    t.Evolves (s.events changes t).2 := by
  induction changes generalizing t with
  | nil => exact .refl t
  | cons change rest ih => exact (s.evolves_event change t).trans (ih _)

theorem evolves_relay (reachable : Bool) (s : Subscription) (t : Tree) :
    t.Evolves (s.relay reachable t).2 := by
  have htake : t.Evolves (t.takeChanges s.watcher).2 :=
    Tree.evolves_after (a := .takeChanges s.watcher) rfl
  cases reachable with
  | true => exact htake.trans (s.evolves_events _ _)
  | false =>
    simp only [relay, Bool.false_eq_true, if_false]
    split
    · exact htake
    next change _ _ =>
      exact (htake.trans (s.evolves_event change _)).trans
        (Tree.evolves_after (a := .mute s.watcher) rfl)

end Subscription

theorem Registry.evolves_relay (reachable : Bool) (r : Registry) (t : Tree) :
    t.Evolves (r.relay reachable t).2 := by
  have hfold (l : List Subscription) (events : List ChangeEvent) (t : Tree) :
      t.Evolves (l.foldl (fun (events, h) s =>
        let (more, h) := s.relay reachable h
        (events ++ more, h)) (events, t)).2 := by
    induction l generalizing events t with
    | nil => exact .refl t
    | cons s rest ih => exact (s.evolves_relay reachable t).trans (ih _ _)
  exact hfold r.subscriptions [] t

namespace Session

theorem evolves_stop (s : Session) (t : Tree) : t.Evolves (s.stop t).2 := by
  simp only [stop, dispose]
  split
  · exact .refl t
  · exact s.registry.evolves_release t

theorem evolves_read (limit : Nat) (s : Session) (t : Tree) : t.Evolves (s.read limit t).2 := by
  unfold read
  split
  · dsimp only
    split
    · exact .refl t
    · exact evolves_stop _ t
    · exact evolves_stop _ t
  · exact .refl t

variable (policy : Policy)

theorem evolves_perform (s : Session) (t : Tree) (task : Task) :
    t.Evolves (s.perform .bridge policy t task).2 := by
  cases task with
  | handle r => exact Methods.evolves_dispatch r.method r.params (s.context policy t)
  | write => exact .refl t

theorem evolves_work (s : Session) (t : Tree) : t.Evolves (s.work .bridge policy t).2 := by
  have hfold (tasks : List Task) (s : Session) (t : Tree) :
      t.Evolves (tasks.foldl (fun r task => r.1.perform .bridge policy r.2 task) (s, t)).2 := by
    induction tasks generalizing s t with
    | nil => exact .refl t
    | cons task rest ih => exact (s.evolves_perform policy t task).trans (ih _ _)
  exact hfold s.tasks _ t

theorem evolves_relay (s : Session) (t : Tree) : t.Evolves (s.relay t).2 :=
  s.registry.evolves_relay s.writing t

theorem evolves_move (limit : Nat) (m : Move) (s : Session) (t : Tree) :
    t.Evolves (s.move .bridge policy limit m t).2 := by
  cases m with
  | arrive bytes => exact .refl t
  | hangUp => exact .refl t
  | read => exact s.evolves_read limit t
  | perform place =>
    simp only [move, performAt]
    split
    next task _ => exact evolves_perform policy _ t task
    · exact .refl t
  | write => exact .refl t
  | breakOff sent => exact .refl t
  | relay => exact s.evolves_relay t
  | dispose =>
    simp only [move]
    split
    · exact .refl t
    · exact s.evolves_stop t

end Session

namespace Bridge

variable {f : Session → Tree → Session × Tree}

theorem evolves_each (hf : ∀ s (t : Tree), t.Evolves (f s t).2) (b : Bridge Tree) :
    b.host.Evolves (b.each f).host := by
  have hsessions (sessions : List Session) (t : Tree) : t.Evolves (eachOf f sessions t).2 := by
    induction sessions generalizing t with
    | nil => exact .refl t
    | cons s rest ih => exact (hf s t).trans (ih _)
  exact hsessions b.sessions b.host

theorem evolves_onSession (hf : ∀ s (t : Tree), t.Evolves (f s t).2) (id : Nat) (b : Bridge Tree) :
    b.host.Evolves (b.onSession id f).host := by
  refine evolves_each (fun s t => ?_) b
  split
  · exact hf s t
  · exact .refl t

theorem evolves_settle {b : Bridge Tree} (h : b.methods = .bridge) :
    b.host.Evolves b.settle.host := by
  have hwork (s : Session) (t : Tree) : t.Evolves (s.work b.methods b.policy t).2 := by
    rw [h]
    exact s.evolves_work b.policy t
  exact ((evolves_each (Session.evolves_read b.limit) b).trans (evolves_each hwork _)).trans
    (evolves_each Session.evolves_relay _)

/-- What the clock of the tree is set to. -/
def Action.clock? : Action → Option Int
  | .onHost a _ => a.clock?
  | _ => none

/-- An action either sets the clock and lets the bridge settle, or leaves the clock alone. -/
theorem evolves_after {b : Bridge Tree} (h : b.methods = .bridge) (a : Action) :
    ∃ actions : List Tree.Action, actions.filterMap Tree.Action.clock? = a.clock?.toList ∧
      (b.after a).host = Tree.run actions b.host := by
  have hof {t : Tree} {a : Action} (hclock : a.clock? = none) (ht : b.host.Evolves t) :
      ∃ actions : List Tree.Action, actions.filterMap Tree.Action.clock? = a.clock?.toList ∧
        t = Tree.run actions b.host := by
    rw [hclock]
    exact ht
  have hsettle {b' : Bridge Tree} (hmethods : b'.methods = b.methods)
      (ht : b.host.Evolves b'.host) : b.host.Evolves b'.settle.host :=
    ht.trans (evolves_settle (hmethods.trans h))
  have hstop (s : Session) (t : Tree) :
      t.Evolves (if s.disposed then (s, t) else s.stop t).2 := by
    split
    · exact .refl t
    · exact s.evolves_stop t
  cases a with
  | openSession => exact hof rfl (.refl _)
  | receive id bytes ended =>
    exact hof rfl (hsettle rfl (evolves_onSession (fun _ t => .refl t) id b))
  | dispose id => exact hof rfl (hsettle rfl (evolves_onSession hstop id b))
  | disposeAll => exact hof rfl (hsettle rfl (evolves_each hstop b))
  | send id m => exact hof rfl (hsettle rfl (evolves_onSession (fun _ t => .refl t) id b))
  | operate id call =>
    refine hof rfl ?_
    simp only [after, operate]
    split
    · exact .refl _
    next s _ =>
      have hrun := call.evolves_run (s.context b.policy b.host)
      exact hrun.trans (evolves_settle h)
  | onHost a hspares =>
    obtain ⟨later, hclock, heq⟩ := evolves_settle (b := { b with host := b.host.after a }) h
    refine ⟨a :: later, ?_, heq⟩
    simp only [List.filterMap_cons, hclock, Action.clock?]
    cases a.clock? <;> rfl
  | takeWritten id => exact hof rfl (evolves_onSession (fun _ t => .refl t) id b)
  | setGuard g => exact hof rfl (.refl _)
  | move id m =>
    refine hof rfl (evolves_onSession (fun s t => ?_) id b)
    rw [h]
    exact s.evolves_move b.policy b.limit m t

/-- While a bridge runs, its tree makes a run in which the clock is set to the same times. -/
theorem exists_run_host {b : Bridge Tree} (h : b.Balanced) (actions : List Action) :
    ∃ steps : List Tree.Action,
      steps.filterMap Tree.Action.clock? = actions.filterMap Action.clock? ∧
        (run actions b).host = Tree.run steps b.host := by
  induction actions generalizing b with
  | nil => exact ⟨[], rfl, rfl⟩
  | cons a rest ih =>
    obtain ⟨first, hfirst, hafter⟩ := evolves_after h.methods a
    obtain ⟨later, hlater, hrun⟩ := ih (h.after a).balanced
    refine ⟨first ++ later, ?_, ?_⟩
    · rw [List.filterMap_append, hfirst, hlater, List.filterMap_cons]
      cases a.clock? <;> rfl
    · simp only [Tree.run, List.foldl_append] at hafter hrun ⊢
      rw [← hafter, ← hrun]
      rfl

/-- A tree behind a bridge that has run from the empty tree is one that the tree comes to by
itself. -/
theorem reachable_host (policy : Policy) (limit : Nat) (now : Int) (actions : List Action) :
    (run actions (start policy limit (Tree.empty now))).host.Reachable := by
  obtain ⟨steps, -, hrun⟩ := exists_run_host (balanced_start policy limit now) actions
  exact ⟨now, steps, hrun⟩

/-- The times of all entries were shown by the clock. -/
theorem dated_host {times : Int → Prop} (policy : Policy) (limit : Nat) {now : Int}
    {actions : List Action} (hclock : ∀ time ∈ now :: actions.filterMap Action.clock?, times time) :
    (run actions (start policy limit (Tree.empty now))).host.Dated times := by
  obtain ⟨hnow, hactions⟩ := List.forall_mem_cons.mp hclock
  obtain ⟨steps, hsteps, hrun⟩ := exists_run_host (balanced_start policy limit now) actions
  rw [hrun]
  exact (Tree.dated_empty hnow).run (hsteps ▸ hactions)

end Bridge

end FileBridge
