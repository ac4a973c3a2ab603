import FileBridge.Proofs.Bridge.Watches
import FileBridge.Proofs.Tree.Reports

/-!
A turn of all relays. Main statement: each session with a writer is told what its watches have
noted, in order of their URIs, whatever the sessions before it were told; and then no watch has
anything left to tell.
-/
namespace FileBridge

open Rpc

/-- The number that a notification gives to a kind of change. -/
def ChangeKind.number : ChangeKind → Nat
  | .created => 1
  | .deleted => 2
  | .changed => 3

/-- What kind of entry a change is about, as far as a tree can tell. What a deleted entry was is
guessed from its name. -/
def Change.entryTypeIn (e : Entries) (c : Change) : EntryType :=
  match c.kind with
  | .created =>
    match Path.ofUri c.uri with
    | .ok path => if e.hasDirectory path then .directory else .file
    | .error _ => .file
  | .changed => .file
  | .deleted => if Uri.looksLikeFile c.uri then .file else .directory

/-- The notification of a change under the name of a watch. -/
def Change.notification (watchId : String) (e : Entries) (c : Change) : Message :=
  .notification "vfs/watcher/emitWatch" <| .ofMembers
    [("watchId", .str watchId), ("location", .str c.uri), ("changeType", .nat c.kind.number),
      ("type", .nat (c.entryTypeIn e).toNat)]

/-- A watcher before and after what the watchers with some numbers had noted has been taken. Nobody
may listen any more to those of them that are deaf. -/
structure Watcher.Emptied (numbers deaf : List Nat) (w w' : Watcher) : Prop where
  id : w'.id = w.id
  path : w'.path = w.path
  uri : w'.uri = w.uri
  other : w.id ∉ numbers → w' = w
  pending : w.id ∈ numbers → w'.pending = []
  listening : w.id ∉ deaf → w'.listening = w.listening

namespace Watcher.Emptied

variable {numbers numbers' deaf deaf' : List Nat} {w w' w'' : Watcher}

theorem refl (w : Watcher) : Emptied [] [] w w :=
  ⟨rfl, rfl, rfl, fun _ => rfl, nofun, fun _ => rfl⟩

theorem trans (h : Emptied numbers deaf w w') (h' : Emptied numbers' deaf' w' w'') :
    Emptied (numbers ++ numbers') (deaf ++ deaf') w w'' where
  id := h'.id.trans h.id
  path := h'.path.trans h.path
  uri := h'.uri.trans h.uri
  other hnot := by
    obtain ⟨hfirst, hsecond⟩ := not_or.mp (List.mem_append.not.mp hnot)
    rw [h'.other (h.id.symm ▸ hsecond), h.other hfirst]
  pending hmem := by
    by_cases hsecond : w.id ∈ numbers'
    · exact h'.pending (h.id.symm ▸ hsecond)
    · rw [h'.other (h.id.symm ▸ hsecond)]
      exact h.pending ((List.mem_append.mp hmem).resolve_right hsecond)
  listening hnot := by
    obtain ⟨hfirst, hsecond⟩ := not_or.mp (List.mem_append.not.mp hnot)
    rw [h'.listening (h.id.symm ▸ hsecond), h.listening hfirst]

end Watcher.Emptied

namespace Tree

/-- What a watcher has noted. -/
def noted (t : Tree) (number : Nat) : List Change :=
  (t.takeChanges number).1

/-- What the watchers with some numbers had noted has been taken; all else that a relay can see is
as it was. -/
structure Cleared (numbers deaf : List Nat) (t t' : Tree) : Prop where
  entries : t'.entries = t.entries
  watchers : List.Forall₂ (Watcher.Emptied numbers deaf) t.watchers t'.watchers
  next : t'.nextWatcher = t.nextWatcher

/-- The watchers with some numbers, if a relay in vain makes them deaf. -/
def deafened (reachable : Bool) (numbers : List Nat) : List Nat :=
  if reachable then [] else numbers

theorem deafened_append (reachable : Bool) (numbers numbers' : List Nat) :
    deafened reachable (numbers ++ numbers') =
      deafened reachable numbers ++ deafened reachable numbers' := by
  cases reachable <;> rfl

variable {t t' t'' : Tree} {numbers numbers' deaf deaf' : List Nat}

theorem Cleared.of_same (hentries : t'.entries = t.entries) (hwatchers : t'.watchers = t.watchers)
    (hnext : t'.nextWatcher = t.nextWatcher) : Cleared [] [] t t' where
  entries := hentries
  watchers := hwatchers ▸ List.forall₂_same.mpr fun w _ => .refl w
  next := hnext

theorem Cleared.trans (h : Cleared numbers deaf t t') (h' : Cleared numbers' deaf' t' t'') :
    Cleared (numbers ++ numbers') (deaf ++ deaf') t t'' where
  entries := h'.entries.trans h.entries
  watchers := by
    have hfirst := h.watchers
    have hsecond := h'.watchers
    generalize t.watchers = l at hfirst ⊢
    generalize t'.watchers = l' at hfirst hsecond
    generalize t''.watchers = l'' at hsecond ⊢
    induction hfirst generalizing l'' with
    | nil =>
      cases hsecond
      exact .nil
    | cons hw _ ih =>
      obtain ⟨w'', rest, hw', hrest, rfl⟩ := List.forall₂_cons_left_iff.mp hsecond
      exact .cons (hw.trans hw') (ih _ hrest)
  next := h'.next.trans h.next

/-- It matters which numbers there are, and not in which order or how often. -/
theorem Cleared.congr (h : Cleared numbers deaf t t') (hnumbers : ∀ n, n ∈ numbers' ↔ n ∈ numbers)
    (hdeaf : ∀ n, n ∈ deaf → n ∈ deaf') : Cleared numbers' deaf' t t' where
  entries := h.entries
  watchers := h.watchers.imp fun _ _ hw =>
    ⟨hw.id, hw.path, hw.uri, fun hnot => hw.other (mt (hnumbers _).mpr hnot),
      fun hmem => hw.pending ((hnumbers _).mp hmem), fun hnot => hw.listening (mt (hdeaf _) hnot)⟩
  next := h.next

theorem cleared_takeChanges (number : Nat) : Cleared [number] [] t (t.takeChanges number).2 where
  entries := rfl
  watchers := by
    refine List.forall₂_map_right_iff.mpr (List.forall₂_same.mpr fun w _ => ?_)
    split
    next hid => exact ⟨rfl, rfl, rfl, fun hnot => by simp [hid] at hnot, fun _ => rfl, fun _ => rfl⟩
    next hid => exact ⟨rfl, rfl, rfl, fun _ => rfl, fun hmem => by simp [hid] at hmem, fun _ => rfl⟩
  next := rfl

theorem cleared_mute (number : Nat) : Cleared [number] [number] t (t.mute number) where
  entries := rfl
  watchers := by
    refine List.forall₂_map_right_iff.mpr (List.forall₂_same.mpr fun w _ => ?_)
    split
    next hid =>
      exact ⟨rfl, rfl, rfl, fun hnot => by simp [hid] at hnot, fun _ => rfl,
        fun hnot => by simp [hid] at hnot⟩
    next hid => exact ⟨rfl, rfl, rfl, fun _ => rfl, fun hmem => by simp [hid] at hmem, fun _ => rfl⟩
  next := rfl

theorem Cleared.exists_watcher (h : Cleared numbers deaf t t') {w' : Watcher}
    (hw' : w' ∈ t'.watchers) : ∃ w ∈ t.watchers, w.Emptied numbers deaf w' := by
  have hwatchers := h.watchers
  generalize t.watchers = l at hwatchers ⊢
  generalize t'.watchers = l' at hwatchers hw'
  induction hwatchers with
  | nil => cases hw'
  | cons hw _ ih =>
    rcases List.mem_cons.mp hw' with rfl | hw'
    · exact ⟨_, List.mem_cons_self, hw⟩
    · obtain ⟨w, hmem, hemptied⟩ := ih hw'
      exact ⟨w, List.mem_cons_of_mem _ hmem, hemptied⟩

theorem Cleared.noted (h : Cleared numbers deaf t t') {number : Nat} (hnot : number ∉ numbers) :
    t'.noted number = t.noted number := by
  have hfilter : t'.watchers.filter (fun w => w.id = number) =
      t.watchers.filter fun w => w.id = number := by
    have hwatchers := h.watchers
    generalize t.watchers = l at hwatchers ⊢
    generalize t'.watchers = l' at hwatchers ⊢
    induction hwatchers with
    | nil => rfl
    | @cons w w' _ _ hw _ ih =>
      by_cases hid : w.id = number
      · rw [hw.other (hid ▸ hnot), List.filter_cons, List.filter_cons, ih]
      · have hid' : w'.id ≠ number := hw.id ▸ hid
        rw [List.filter_cons_of_neg (by simpa using hid'),
          List.filter_cons_of_neg (by simpa using hid), ih]
  simp only [Tree.noted, takeChanges, hfilter]

/-- A tree tells by its entries alone whether a directory is at a path. -/
theorem stat_eq (uri : String) (t : Tree) :
    (match (t.stat uri).1 with
      | .ok m => if m.kind = FileKind.directory then EntryType.directory else .file
      | .error _ => .file) =
      match Path.ofUri uri with
      | .ok path => if t.entries.hasDirectory path then EntryType.directory else .file
      | .error _ => .file := by
  simp only [stat, look]
  cases Path.ofUri uri with
  | error cause => rfl
  | ok path =>
    simp only [metadataAt, Entries.hasDirectory, count]
    by_cases hroot : path = Path.root
    · simp [hroot]
    · simp only [hroot, if_false, decide_false, Bool.false_or]
      cases OrderedMap.get? t.entries path with
      | none => rfl
      | some entry =>
        obtain ⟨node, created, modified⟩ := entry
        cases node <;> rfl

end Tree

/-- What is said of a kind of change. -/
def ChangeKind.type : ChangeKind → ChangeType
  | .created => .created
  | .changed => .modified
  | .deleted => .deleted

theorem Change.notification_eq (watchId : String) (e : Entries) (c : Change) :
    c.notification watchId e =
      (ChangeEvent.mk watchId c.uri c.kind.type (c.entryTypeIn e)).notification := by
  have hnumber : c.kind.number = c.kind.type.toNat := by cases c.kind <;> rfl
  rw [notification, hnumber]
  rfl

namespace Subscription

variable {t t' : Tree} {numbers deaf : List Nat}

theorem event_fst (s : Subscription) (c : Change) (t : Tree) :
    (s.event c t).1 = ⟨s.watchId, c.uri, c.kind.type, c.entryTypeIn t.entries⟩ := by
  obtain ⟨kind, uri⟩ := c
  cases kind with
  | changed => rfl
  | deleted => rfl
  | created =>
    simp only [event, Change.classify, Change.entryTypeIn, ← t.stat_eq uri]
    cases hreply : t.stat uri with
    | mk outcome t' =>
      simp only [show Host.stat uri t = _ from hreply]
      cases outcome <;> rfl

theorem cleared_event (s : Subscription) (c : Change) (t : Tree) :
    Tree.Cleared [] [] t (s.event c t).2 := by
  have hstat : Tree.Cleared [] [] t (t.stat c.uri).2 := by
    unfold Tree.stat Tree.look
    cases Path.ofUri c.uri <;> exact .of_same rfl rfl rfl
  unfold event Change.classify
  cases c.kind with
  | created =>
    cases hreply : t.stat c.uri with
    | mk outcome t' =>
      rw [hreply] at hstat
      simp only [show Host.stat c.uri t = _ from hreply]
      cases outcome <;> exact hstat
  | changed => exact .of_same rfl rfl rfl
  | deleted => exact .of_same rfl rfl rfl

theorem events_eq (s : Subscription) (changes : List Change) (t : Tree) :
    (s.events changes t).1.map ChangeEvent.notification =
        changes.map (Change.notification s.watchId t.entries) ∧
      Tree.Cleared [] [] t (s.events changes t).2 := by
  induction changes generalizing t with
  | nil => exact ⟨rfl, .of_same rfl rfl rfl⟩
  | cons c rest ih =>
    have hfirst := s.cleared_event c t
    obtain ⟨hrest, hcleared⟩ := ih (s.event c t).2
    refine ⟨?_, hfirst.trans hcleared⟩
    rw [hfirst.entries] at hrest
    rw [events, List.map_cons, List.map_cons, hrest, s.event_fst, Change.notification_eq]

/-- A relay whose peer can be reached takes what the watcher noted, and tells all of it. -/
theorem relay_true (s : Subscription) (t : Tree) :
    (s.relay true t).1.map ChangeEvent.notification =
        (t.noted s.watcher).map (Change.notification s.watchId t.entries) ∧
      Tree.Cleared [s.watcher] [] t (s.relay true t).2 := by
  obtain ⟨hevents, hcleared⟩ := s.events_eq (t.noted s.watcher) (t.takeChanges s.watcher).2
  exact ⟨hevents, (Tree.cleared_takeChanges s.watcher).trans hcleared⟩

/-- A relay whose peer cannot be reached takes what the watcher noted in vain, and nobody may listen
to the watcher any more. -/
theorem relay_false (s : Subscription) (t : Tree) :
    (s.relay false t).1 = [] ∧ Tree.Cleared [s.watcher] [s.watcher] t (s.relay false t).2 := by
  have htaken : Tree.Cleared [s.watcher] [] t (t.takeChanges s.watcher).2 :=
    Tree.cleared_takeChanges s.watcher
  cases hchanges : (t.takeChanges s.watcher).1 with
  | nil =>
    have hrelay : s.relay false t = ([], (t.takeChanges s.watcher).2) := by
      have htakes : Host.takeChanges s.watcher t = ([], (t.takeChanges s.watcher).2) :=
        Prod.ext hchanges rfl
      rw [relay, htakes]
      rfl
    rw [hrelay]
    exact ⟨rfl, htaken.congr (fun _ => .rfl) fun _ hn => by cases hn⟩
  | cons c rest =>
    have hrelay : s.relay false t =
        ([], Host.mute s.watcher (s.event c (t.takeChanges s.watcher).2).2) := by
      have htakes : Host.takeChanges s.watcher t = (c :: rest, (t.takeChanges s.watcher).2) :=
        Prod.ext hchanges rfl
      rw [relay, htakes]
      rfl
    have hlooked := htaken.trans (s.cleared_event c _)
    rw [hrelay]
    exact ⟨rfl, (hlooked.trans (Tree.cleared_mute s.watcher)).congr (by simp) (by simp)⟩

theorem cleared_relay (reachable : Bool) (s : Subscription) (t : Tree) :
    Tree.Cleared [s.watcher] (Tree.deafened reachable [s.watcher]) t (s.relay reachable t).2 := by
  cases reachable with
  | true => exact (s.relay_true t).2
  | false => exact (s.relay_false t).2

/-- What a watch would relay at a tree: each notification with the number of the watcher that it
comes from. -/
def relays (reachable : Bool) (t : Tree) (s : Subscription) : List (Nat × Message) :=
  (s.relay reachable t).1.map fun e => (s.watcher, e.notification)

theorem relays_true (s : Subscription) (t : Tree) :
    s.relays true t =
      (t.noted s.watcher).map fun c => (s.watcher, c.notification s.watchId t.entries) := by
  have hpairs : s.relays true t =
      ((s.relay true t).1.map ChangeEvent.notification).map fun m => (s.watcher, m) := by
    rw [relays, List.map_map]
    rfl
  rw [hpairs, (s.relay_true t).1, List.map_map]
  rfl

theorem relays_false (s : Subscription) (t : Tree) : s.relays false t = [] := by
  rw [relays, (s.relay_false t).1, List.map_nil]

theorem relays_congr {s : Subscription} (h : Tree.Cleared numbers deaf t t')
    (hnot : s.watcher ∉ numbers) (reachable : Bool) :
    s.relays reachable t' = s.relays reachable t := by
  cases reachable with
  | true => rw [relays_true, relays_true, h.entries, h.noted hnot]
  | false => rw [relays_false, relays_false]

end Subscription

namespace Registry

/-- What the watches would relay at a tree, in order of their URIs. -/
def relays (reachable : Bool) (t : Tree) (r : Registry) : List (Nat × Message) :=
  r.subscriptions.flatMap (Subscription.relays reachable t)

/-- The relays do not see of one another that they took their turn. -/
theorem foldl_relay (reachable : Bool) {l : List Subscription}
    (hnodup : (l.map Subscription.watcher).Nodup) (events : List ChangeEvent) (t : Tree) :
    let r := l.foldl (fun (events, h) s =>
      let (more, h) := s.relay reachable h
      (events ++ more, h)) (events, t)
    r.1.map ChangeEvent.notification = events.map ChangeEvent.notification ++
        (l.flatMap (Subscription.relays reachable t)).map Prod.snd ∧
      Tree.Cleared (l.map Subscription.watcher)
        (Tree.deafened reachable (l.map Subscription.watcher)) t r.2 := by
  induction l generalizing events t with
  | nil =>
    exact ⟨(List.append_nil _).symm, (Tree.Cleared.of_same rfl rfl rfl).congr (by simp) nofun⟩
  | cons s rest ih =>
    obtain ⟨hfirst, hrest⟩ := List.nodup_cons.mp hnodup
    have hcleared := s.cleared_relay reachable t
    obtain ⟨hevents, hrest⟩ := ih hrest (events ++ (s.relay reachable t).1) (s.relay reachable t).2
    refine ⟨hevents.trans ?_, ?_⟩
    · have hothers : rest.flatMap (Subscription.relays reachable (s.relay reachable t).2) =
          rest.flatMap (Subscription.relays reachable t) := by
        refine List.flatMap_congr fun s' hs' =>
          Subscription.relays_congr hcleared (fun hmem => ?_) reachable
        exact hfirst (List.mem_singleton.mp hmem ▸ List.mem_map_of_mem hs')
      have hsecond : (s.relays reachable t).map Prod.snd =
          (s.relay reachable t).1.map ChangeEvent.notification := by
        rw [Subscription.relays, List.map_map]
        rfl
      rw [hothers, List.flatMap_cons, List.map_append, List.map_append, hsecond, List.append_assoc]
    · have hboth := hcleared.trans hrest
      rw [← Tree.deafened_append] at hboth
      exact hboth

theorem relay_eq {r : Registry} (hnodup : r.numbers.Nodup) (reachable : Bool) (t : Tree) :
    (r.relay reachable t).1.map ChangeEvent.notification =
        (r.relays reachable t).map Prod.snd ∧
      Tree.Cleared r.numbers (Tree.deafened reachable r.numbers) t (r.relay reachable t).2 :=
  foldl_relay reachable hnodup [] t

theorem relays_congr {r : Registry} {numbers deaf : List Nat} {t t' : Tree}
    (h : Tree.Cleared numbers deaf t t') (hnot : ∀ n ∈ r.numbers, n ∉ numbers) (reachable : Bool) :
    r.relays reachable t' = r.relays reachable t :=
  List.flatMap_congr fun _ hs =>
    Subscription.relays_congr h (hnot _ (List.mem_map_of_mem hs)) reachable

end Registry

namespace Tree

variable {t : Tree}

/-- No watcher has anything to tell. -/
def IsQuiet (t : Tree) : Prop :=
  ∀ w ∈ t.watchers, w.pending = []

theorem IsQuiet.takeChanges_eq (h : t.IsQuiet) (number : Nat) : t.takeChanges number = ([], t) := by
  have hnone : (t.watchers.filter fun w => w.id = number).flatMap Watcher.pending = [] :=
    List.flatMap_eq_nil_iff.mpr fun w hw => h w (List.mem_filter.mp hw).1
  have hsame : (t.watchers.map fun w => if w.id = number then { w with pending := [] } else w) =
      t.watchers := by
    refine (List.map_congr_left fun w hw => ?_).trans (List.map_id _)
    split
    · rw [← h w hw]; rfl
    · rfl
  rw [takeChanges, hnone, hsame]

theorem IsQuiet.relay_eq (h : t.IsQuiet) (reachable : Bool) (s : Subscription) :
    s.relay reachable t = ([], t) := by
  rw [Subscription.relay, show Host.takeChanges s.watcher t = _ from h.takeChanges_eq s.watcher]
  cases reachable <;> rfl

theorem IsQuiet.registry_relay_eq (h : t.IsQuiet) (reachable : Bool) (r : Registry) :
    r.relay reachable t = ([], t) := by
  unfold Registry.relay
  induction r.subscriptions with
  | nil => rfl
  | cons s rest ih =>
    simp only [List.foldl_cons, h.relay_eq, List.append_nil]
    exact ih

end Tree

/-- Whether a message is a notification. -/
def Rpc.Message.isNotification : Message → Bool
  | .notification .. => true
  | _ => false

namespace Session

/-- The notifications that have been queued, in order. -/
def notices (s : Session) : List Message :=
  (s.written ++ s.outbound).filter Message.isNotification

/-- What the watches of a session would relay at a tree. -/
def relays (t : Tree) (s : Session) : List (Nat × Message) :=
  s.registry.relays s.writing t

/-- The session after its relays' turn at a tree. -/
def relayed (t : Tree) (s : Session) : Session :=
  (((s.relays t).map Prod.snd).foldl send s).write

variable {s : Session} {t : Tree}

theorem notices_write : s.write.notices = s.notices := by
  simp [notices, write]

theorem sameState_sends (s : Session) (messages : List Message) :
    SameState s (messages.foldl send s) :=
  .foldl sameState_send messages s

theorem notices_sends (h : s.writing = true) {messages : List Message}
    (hmessages : ∀ m ∈ messages, m.isNotification = true) :
    (messages.foldl send s).notices = s.notices ++ messages := by
  induction messages generalizing s with
  | nil => exact (List.append_nil _).symm
  | cons m rest ih =>
    obtain ⟨hm, hrest⟩ := List.forall_mem_cons.mp hmessages
    have hsend : (s.send m).notices = s.notices ++ [m] := by
      simp [send, h, notices, List.filter_append, hm]
    have hwriting : (s.send m).writing = true := (s.sameState_send m).writing.trans h
    rw [List.foldl_cons, ih hwriting hrest, hsend, List.append_assoc, List.singleton_append]

theorem isNotification_of_mem_relays {a : Nat × Message} (h : a ∈ s.relays t) :
    a.2.isNotification = true := by
  obtain ⟨sub, -, ha⟩ := List.mem_flatMap.mp h
  obtain ⟨e, -, rfl⟩ := List.mem_map.mp ha
  rfl

theorem relays_of_not_writing (h : s.writing = false) : s.relays t = [] := by
  rw [relays, Registry.relays, h]
  exact List.flatMap_eq_nil_iff.mpr fun sub _ => sub.relays_false t

theorem notices_relayed : (s.relayed t).notices = s.notices ++ (s.relays t).map Prod.snd := by
  rw [relayed, notices_write]
  cases hwriting : s.writing with
  | true =>
    refine notices_sends hwriting fun m hm => ?_
    obtain ⟨a, ha, rfl⟩ := List.mem_map.mp hm
    exact isNotification_of_mem_relays ha
  | false =>
    rw [relays_of_not_writing hwriting]
    exact (List.append_nil _).symm

theorem registry_relayed : (s.relayed t).registry = s.registry :=
  (s.sameState_sends _).registry

theorem id_relayed : (s.relayed t).id = s.id :=
  (s.sameState_sends _).id

theorem writing_relayed : (s.relayed t).writing = (s.writing && !s.disposed) := by
  have hsame := s.sameState_sends ((s.relays t).map Prod.snd)
  show (_ && !_) = _
  rw [hsame.writing, hsame.disposed]

theorem relay_eq (hnodup : s.registry.numbers.Nodup) (t : Tree) :
    (s.relay t).1 = s.relayed t ∧
      Tree.Cleared s.registry.numbers (Tree.deafened s.writing s.registry.numbers) t
        (s.relay t).2 := by
  obtain ⟨hevents, hcleared⟩ := Registry.relay_eq hnodup s.writing t
  refine ⟨?_, hcleared⟩
  rw [relayed, relays, ← hevents]
  rfl

end Session

namespace Bridge

/-- The watchers that a turn of all relays can make deaf. -/
def deafOf (sessions : List Session) : List Nat :=
  sessions.flatMap fun s => Tree.deafened s.writing s.registry.numbers

/-- A turn of all relays: each session is told what its watches noted, and nothing is left. -/
theorem eachOf_relay {sessions : List Session} (hnodup : (numbersOf sessions).Nodup) (t : Tree) :
    (eachOf Session.relay sessions t).1 = sessions.map (Session.relayed t) ∧
      Tree.Cleared (numbersOf sessions) (deafOf sessions) t
        (eachOf Session.relay sessions t).2 := by
  induction sessions generalizing t with
  | nil => exact ⟨rfl, .of_same rfl rfl rfl⟩
  | cons s rest ih =>
    have hsplit : numbersOf (s :: rest) = s.registry.numbers ++ numbersOf rest := by
      rw [numbersOf, List.flatMap_cons, numbersOf]
    rw [hsplit] at hnodup ⊢
    obtain ⟨hfirst, hnodup, hdisjoint⟩ := List.nodup_append.mp hnodup
    obtain ⟨hsession, hcleared⟩ := Session.relay_eq hfirst t
    obtain ⟨hsessions, hothers⟩ := ih hnodup (s.relay t).2
    refine ⟨?_, hcleared.trans hothers⟩
    -- The sessions after the first see its turn no more than it sees theirs.
    have hsame : rest.map (Session.relayed (s.relay t).2) = rest.map (Session.relayed t) := by
      refine List.map_congr_left fun s' hs' => ?_
      have hnot : ∀ n ∈ s'.registry.numbers, n ∉ s.registry.numbers := fun n hn hn' =>
        hdisjoint n hn' n (List.mem_flatMap.mpr ⟨s', hs', hn⟩) rfl
      rw [Session.relayed, Session.relays, Registry.relays_congr hcleared hnot, Session.relayed,
        Session.relays]
    rw [hsame] at hsessions
    rw [eachOf, List.map_cons, ← hsession, ← hsessions]

end Bridge

end FileBridge
