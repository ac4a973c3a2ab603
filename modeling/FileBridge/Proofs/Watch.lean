import Mathlib.Data.List.Perm.Basic
import FileBridge.Proofs.OrderedMap
import FileBridge.Proofs.Tree.Watchers
import FileBridge.Watch

/-!
The watches of a session and the watchers at the host. Between a session, all others and a tree the
numbers of the watchers add up: opening a watch adds one on both sides, closing it removes it on
both.
-/
namespace FileBridge

namespace Fields

variable {α : Type}

theorem perm_insert {k : String} {l : List (String × α)} (h : get? k l = none) (v : α) :
    (insert k v l).Perm ((k, v) :: l) := by
  induction l with
  | nil => exact .refl _
  | cons b rest ih =>
    obtain ⟨k', v'⟩ := b
    rw [get?] at h
    split at h
    · cases h
    next hne =>
      rw [insert]
      split
      · exact .refl _
      · exact ((ih h).cons (k', v')).trans (List.Perm.swap _ _ _)

theorem perm_erase {k : String} {v : α} {l : List (String × α)} (h : Ascending l)
    (hget : get? k l = some v) : l.Perm ((k, v) :: erase k l) := by
  induction l with
  | nil => cases hget
  | cons b rest ih =>
    obtain ⟨k', v'⟩ := b
    obtain ⟨hhead, hrest⟩ := List.pairwise_cons.mp h
    rw [get?] at hget
    split at hget
    next heq =>
      obtain rfl := Option.some.inj hget
      subst heq
      -- The key stands at the front, and it stands there only.
      have hkeep : erase k ((k, v') :: rest) = rest := by
        rw [erase, List.filter_cons_of_neg (by simp)]
        refine List.filter_eq_self.mpr fun a ha => ?_
        have hne : a.1 ≠ k := fun heq => String.lt_irrefl k (heq ▸ hhead a ha)
        simpa using hne
      rw [hkeep]
    next hne =>
      have hkeep : erase k ((k', v') :: rest) = (k', v') :: erase k rest :=
        List.filter_cons_of_pos (by simpa using Ne.symm hne)
      rw [hkeep]
      exact ((ih hrest hget).cons (k', v')).trans (List.Perm.swap _ _ _)

end Fields

namespace Registry

/-- The numbers of the watchers behind the watches. -/
def numbers (r : Registry) : List Nat :=
  r.subscriptions.map Subscription.watcher

@[simp] theorem numbers_empty : empty.numbers = [] :=
  rfl

theorem length_numbers (r : Registry) : r.numbers.length = r.size := by
  simp [numbers, subscriptions, size, OrderedMap.size]

theorem numbers_insert {r : Registry} {uri : String} (h : r.contains uri = false)
    (s : Subscription) :
    (Registry.mk (r.table.insert uri s)).numbers.Perm (s.watcher :: r.numbers) := by
  have hget : Fields.get? uri r.table.toList = none := OrderedMap.contains_eq_false_iff.mp h
  exact ((Fields.perm_insert hget s).map Prod.snd).map Subscription.watcher

theorem numbers_erase {r : Registry} {uri : String} {s : Subscription}
    (h : r.table.get? uri = some s) :
    r.numbers.Perm (s.watcher :: (Registry.mk (r.table.erase uri)).numbers) :=
  ((Fields.perm_erase r.table.ascending h).map Prod.snd).map Subscription.watcher

theorem onward_watch (uri watchId : String) (r : Registry) (t : Tree) :
    t.Onward (r.watch uri watchId t).2.2 := by
  have hwatch : t.Onward (Host.watch uri t).2 := Tree.onward_watch uri
  unfold watch
  split
  · exact (Tree.SameNumbers.refl t).onward
  · split
    next heq =>
      rw [heq] at hwatch
      exact hwatch
    next heq =>
      rw [heq] at hwatch
      exact hwatch

theorem onward_unwatch (uri : String) (r : Registry) (t : Tree) :
    t.Onward (r.unwatch uri t).2.2 := by
  unfold unwatch
  split
  · exact (Tree.SameNumbers.refl t).onward
  · exact Tree.onward_unwatch _

theorem onward_release (r : Registry) (t : Tree) : t.Onward (r.release t) := by
  have hfold (l : List Subscription) (t : Tree) :
      t.Onward (l.foldl (fun t s => Host.unwatch s.watcher t) t) := by
    induction l generalizing t with
    | nil => exact (Tree.SameNumbers.refl t).onward
    | cons s rest ih =>
      have hfirst : t.Onward (t.unwatch s.watcher) := Tree.onward_unwatch s.watcher
      exact hfirst.trans (ih _)
  exact hfold r.subscriptions t

end Registry

/-- The watchers of a tree are the ones behind the watches of a session and some others, each
once, and a session that is closed has no watches. -/
structure Tied (others : List Nat) (closed : Bool) (r : Registry) (t : Tree) : Prop where
  perm : (r.numbers ++ others).Perm t.numbers
  nodup : t.numbers.Nodup
  fresh : ∀ n ∈ t.numbers, n < t.nextWatcher
  empty_of_closed : closed = true → r = .empty

namespace Tied

variable {others : List Nat} {closed : Bool} {r : Registry} {t : Tree}

theorem of_sameNumbers {t' : Tree} (h : Tied others closed r t) (hsame : t.SameNumbers t') :
    Tied others closed r t' where
  perm := hsame.numbers ▸ h.perm
  nodup := hsame.numbers ▸ h.nodup
  fresh := by
    rw [hsame.numbers, hsame.next]
    exact h.fresh
  empty_of_closed := h.empty_of_closed

theorem watch (h : Tied others false r t) (uri watchId : String) :
    Tied others false (r.watch uri watchId t).2.1 (r.watch uri watchId t).2.2 := by
  unfold Registry.watch
  split
  · exact h
  next hcontains =>
    have hfree : r.contains uri = false := by simpa using hcontains
    have hcases := t.watch_cases uri
    split
    next cause t' hreply =>
      rw [show t.watch uri = _ from hreply] at hcases
      rcases hcases with ⟨_, -, hsame⟩ | ⟨hok, -⟩
      · exact h.of_sameNumbers hsame
      · cases hok
    next watcher t' hreply =>
      rw [show t.watch uri = _ from hreply] at hcases
      rcases hcases with ⟨_, herror, -⟩ | ⟨hok, hnumbers, hnext⟩
      · cases herror
      · obtain rfl : watcher = t.nextWatcher := Except.ok.inj hok
        have hnew : t.nextWatcher ∉ t.numbers := fun hmem => Nat.lt_irrefl _ (h.fresh _ hmem)
        constructor
        · rw [show t'.numbers = _ from hnumbers]
          refine ((Registry.numbers_insert hfree _).append_right others).trans ?_
          exact (h.perm.cons _).trans (List.perm_append_singleton _ _).symm
        · rw [show t'.numbers = _ from hnumbers]
          exact (List.perm_append_singleton _ _).nodup_iff.mpr (List.nodup_cons.mpr ⟨hnew, h.nodup⟩)
        · rw [show t'.numbers = _ from hnumbers, show t'.nextWatcher = _ from hnext]
          intro n hn
          rcases List.mem_append.mp hn with hn | hn
          · exact Nat.lt_succ_of_lt (h.fresh n hn)
          · exact List.mem_singleton.mp hn ▸ Nat.lt_succ_self _
        · intro hclosed
          cases hclosed

/-- A watcher ends that no watch but one stands for. -/
theorem unwatch_number {number : Nat} {owned : List Nat} (hperm : (number :: owned).Perm t.numbers)
    (hnodup : t.numbers.Nodup) :
    owned.Perm (t.unwatch number).numbers ∧ (t.unwatch number).numbers.Nodup := by
  have hnodup' : (number :: owned).Nodup := hperm.nodup_iff.mpr hnodup
  rw [Tree.numbers_unwatch]
  refine ⟨?_, hnodup.filter _⟩
  have hfilter := hperm.filter fun n => decide (n ≠ number)
  rw [List.filter_cons_of_neg (by simp), List.filter_eq_self.mpr] at hfilter
  · exact hfilter
  · intro n hn
    have hne : n ≠ number := fun heq => (List.nodup_cons.mp hnodup').1 (heq ▸ hn)
    simpa using hne

theorem unwatch (h : Tied others closed r t) (uri : String) :
    Tied others closed (r.unwatch uri t).2.1 (r.unwatch uri t).2.2 := by
  unfold Registry.unwatch
  split
  · exact h
  next s hget =>
    have hperm : (s.watcher :: ((Registry.mk (r.table.erase uri)).numbers ++ others)).Perm
        t.numbers :=
      ((Registry.numbers_erase hget).append_right others).symm.trans h.perm
    obtain ⟨hrest, hnodup⟩ := unwatch_number hperm h.nodup
    refine ⟨hrest, hnodup, fun n hn => ?_, fun hclosed => ?_⟩
    · exact h.fresh n (hperm.mem_iff.mp (List.mem_cons_of_mem _ (hrest.mem_iff.mpr hn)))
    · rw [h.empty_of_closed hclosed] at hget
      cases hget

theorem foldl_unwatch {subscriptions : List Subscription}
    (hperm : (subscriptions.map Subscription.watcher ++ others).Perm t.numbers)
    (hnodup : t.numbers.Nodup) (hfresh : ∀ n ∈ t.numbers, n < t.nextWatcher) :
    Tied others true .empty (subscriptions.foldl (fun h s => Host.unwatch s.watcher h) t) := by
  induction subscriptions generalizing t with
  | nil => exact ⟨hperm, hnodup, hfresh, fun _ => rfl⟩
  | cons s rest ih =>
    obtain ⟨hrest, hnodup'⟩ := unwatch_number hperm hnodup
    refine ih hrest hnodup' fun n hn => ?_
    exact hfresh n (hperm.mem_iff.mp (List.mem_cons_of_mem _ (hrest.mem_iff.mpr hn)))

/-- A session that is disposed of gives all its watchers back. -/
theorem release (h : Tied others closed r t) : Tied others true .empty (r.release t) :=
  foldl_unwatch h.perm h.nodup h.fresh

end Tied

end FileBridge
