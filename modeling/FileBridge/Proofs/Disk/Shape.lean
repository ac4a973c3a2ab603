import Mathlib.Data.List.Find
import Mathlib.Data.List.Induction
import FileBridge.Disk.Calls
import FileBridge.Proofs.Disk.Leads
import FileBridge.Proofs.Disk.Spelling

/-!
Disks on which every entry stands in a directory. Each change of a disk is described by what is at
every location after it, and keeps the disk in shape.
-/
namespace FileBridge.Disk

/-- Every entry has a name that an entry can have, and stands in a directory. -/
structure WellFormed (d : Disk) : Prop where
  plain : ∀ {place : Location} {node : DiskNode}, d.node? place = some node →
    ∀ name ∈ place, Plain name
  parent : ∀ {place : Location} {name : Name} {node : DiskNode},
    d.node? (place ++ [name]) = some node → d.isDirectory place = true

/-- Something is at a location that is no link. -/
def Solid (d : Disk) (place : Location) : Prop :=
  ∃ node, d.node? place = some node ∧ ∀ target, node ≠ .link target

variable {d : Disk} {place here x : Location} {name : Name} {node : DiskNode}

theorem isDirectory_iff : d.isDirectory place = true ↔ d.node? place = some .directory := by
  simp [isDirectory]

@[simp] theorem node?_nil (d : Disk) : d.node? [] = some .directory :=
  rfl

theorem isDirectory_nil (d : Disk) : d.isDirectory [] = true :=
  rfl

theorem Solid.of_isDirectory (h : d.isDirectory place = true) : d.Solid place :=
  ⟨.directory, isDirectory_iff.mp h, fun _ heq => by cases heq⟩

theorem Solid.isSome (h : d.Solid place) : (d.node? place).isSome = true := by
  obtain ⟨node, heq, -⟩ := h
  rw [heq]
  rfl

namespace WellFormed

/-- Above an entry there are directories all the way. -/
theorem directory_above (h : d.WellFormed) {below : Location} (hbelow : below ≠ [])
    (hnode : d.node? (place ++ below) = some node) : d.isDirectory place = true := by
  induction below using List.reverseRecOn generalizing node with
  | nil => exact absurd rfl hbelow
  | append_singleton below name ih =>
    rw [← List.append_assoc] at hnode
    have hparent := h.parent hnode
    by_cases hnil : below = []
    · rw [hnil, List.append_nil] at hparent
      exact hparent
    · exact ih hnil (isDirectory_iff.mp hparent)

theorem solid_dropLast (h : d.WellFormed) (hplace : d.Solid place) : d.Solid place.dropLast := by
  rcases List.eq_nil_or_concat place with rfl | ⟨before, name, heq⟩
  · exact hplace
  · rw [List.concat_eq_append] at heq
    subst heq
    obtain ⟨node, hnode, -⟩ := hplace
    rw [List.dropLast_concat]
    exact .of_isDirectory (h.parent hnode)

end WellFormed

/-- Where names lead there is something, and it is no link. -/
theorem Leads.solid {names : List Name} {l : Location} (h : d.Leads here names l)
    (hdisk : d.WellFormed) (hhere : d.Solid here) : d.Solid l := by
  induction h with
  | here _ => exact hhere
  | dot _ ih => exact ih hhere
  | up _ ih => exact ih (hdisk.solid_dropLast hhere)
  | enter _ _ hnode hlink _ ih => exact ih ⟨_, hnode, hlink⟩
  | link _ _ _ _ _ ih =>
    apply ih
    split
    · exact .of_isDirectory d.isDirectory_nil
    · exact hhere

/-- The names of a location lead straight there. -/
theorem walk_straight (hdisk : d.WellFormed) (here : Location) (names rest : List Name)
    (h : d.Solid (here ++ names)) (creates : Bool) (links : Nat) (slashed : Bool) :
    (∃ cause, cause ≠ .notFound ∧
        d.walk creates links here (names ++ rest) slashed = .error cause) ∨
      d.walk creates links here (names ++ rest) slashed =
        d.walk creates links (here ++ names) rest slashed := by
  induction names generalizing here with
  | nil =>
    rw [List.append_nil]
    exact .inr rfl
  | cons name names ih =>
    obtain ⟨node, hnode, hlink⟩ := h
    have hplain : Plain name := hdisk.plain hnode name (by simp)
    have hnext : d.Solid (here ++ [name]) := by
      rw [List.append_cons] at hnode
      by_cases hnil : names = []
      · rw [hnil, List.append_nil] at hnode
        exact ⟨node, hnode, hlink⟩
      · exact .of_isDirectory (hdisk.directory_above hnil hnode)
    rw [List.append_cons] at hnode ⊢
    have hrest := ih (here ++ [name]) ⟨node, hnode, hlink⟩
    obtain ⟨node', hnode', hlink'⟩ := hnext
    rw [List.cons_append]
    rcases d.walk_name creates links here (names ++ rest) slashed hplain.ne_dot hplain.ne_dotDot
      with hfail | ⟨-, -, heq⟩
    · exact .inl hfail
    · rw [heq, hnode']
      split
      next heq => cases heq
      next target heq => exact absurd (Option.some.inj heq) (hlink' target)
      next => exact hrest

/-- A walk that ends at a free name ends in a directory. -/
theorem free_of_walk {names : List Name} {creates slashed : Bool} {links : Nat}
    (hnames : ∀ name ∈ names, Spelled name)
    (h : d.walk creates links here names slashed = .ok (.free place name)) :
    d.isDirectory place = true ∧ d.node? (place ++ [name]) = none ∧ Plain name := by
  fun_induction d.walk creates links here names slashed with
  | case1 | case2 | case3 | case6 | case7 | case9 | case10 | case11 => cases h
  | case4 links here slashed rest _ ih => exact ih (List.forall_mem_cons.mp hnames).2 h
  | case5 links here slashed rest _ _ ih => exact ih (List.forall_mem_cons.mp hnames).2 h
  | case8 links here slashed name hdirectory hdot hup _ hnode =>
    cases h
    exact ⟨by simpa using hdirectory, hnode, hnames _ List.mem_cons_self, hdot, hup⟩
  | case12 here slashed name rest _ _ _ _ _ target _ links path _ ih =>
    refine ih (fun n hn => ?_) h
    rcases List.mem_append.mp hn with hn | hn
    · exact DiskPath.spelled_of_mem hn
    · exact hnames n (List.mem_cons_of_mem _ hn)
  | case13 links here slashed name rest _ _ _ _ _ node _ _ ih =>
    exact ih (List.forall_mem_cons.mp hnames).2 h

section Changes

/-- What is at a location does not hang on what is filed under others. -/
theorem find?_filter {entries : List (Location × DiskNode)} (p : Location → Bool) (x : Location) :
    ((entries.filter fun a => p a.1).find? fun a => decide (a.1 = x)) =
      if p x = true then entries.find? fun a => decide (a.1 = x) else none := by
  rw [List.find?_filter]
  split
  next hx =>
    congr 1
    funext a
    by_cases heq : a.1 = x
    · simp [heq, hx]
    · simp [heq]
  next hx =>
    refine List.find?_eq_none.mpr fun a _ => ?_
    by_cases heq : a.1 = x
    · simp [heq, hx]
    · simp [heq]

theorem node?_filter (d : Disk) (p : Location → Bool) {x : Location} (hx : x ≠ []) :
    ({ d with entries := d.entries.filter fun a => p a.1 } : Disk).node? x =
      if p x = true then d.node? x else none := by
  simp only [node?, if_neg hx, find?_filter]
  split <;> rfl

theorem node?_put (hplace : place ≠ []) (node : DiskNode) (x : Location) :
    (d.put place node).node? x = if x = place then some node else d.node? x := by
  by_cases hx : x = []
  · subst hx
    rw [if_neg (Ne.symm hplace)]
    rfl
  · by_cases heq : x = place
    · subst heq
      simp [node?, put, hx]
    · have hne : ¬place = x := fun h => heq h.symm
      have hkeep := d.node?_filter (fun y => decide (y ≠ place)) hx
      simp only [node?, if_neg hx, put, List.find?_cons, hne, decide_false, if_neg heq] at hkeep ⊢
      rw [hkeep, if_pos (by simpa using heq)]

theorem isPrefixOf_eq_decide (p q : Location) : p.isPrefixOf q = decide (p <+: q) := by
  rw [Bool.eq_iff_iff, List.isPrefixOf_iff_prefix, decide_eq_true_iff]

theorem node?_prune (x : Location) :
    (d.prune place).node? x = if x ≠ [] ∧ place <+: x then none else d.node? x := by
  by_cases hx : x = []
  · subst hx
    simp
  · have hkeep := d.node?_filter (fun y => !place.isPrefixOf y) hx
    rw [prune, hkeep, isPrefixOf_eq_decide]
    by_cases hbelow : place <+: x <;> simp [hx, hbelow]

theorem node?_hollow (x : Location) :
    (d.hollow place).node? x = if x ≠ place ∧ x ≠ [] ∧ place <+: x then none else d.node? x := by
  by_cases hx : x = []
  · subst hx
    simp
  · have hkeep := d.node?_filter (fun y => decide (y = place) || !place.isPrefixOf y) hx
    rw [hollow, hkeep, isPrefixOf_eq_decide]
    by_cases hsame : x = place <;> by_cases hbelow : place <+: x <;> simp [hx, hsame, hbelow]

theorem ne_of_node?_eq_none {a : Location × DiskNode} (ha : a ∈ d.entries) (hx : x ≠ [])
    (h : d.node? x = none) : a.1 ≠ x := by
  simp only [node?, if_neg hx, Option.map_eq_none_iff, List.find?_eq_none, decide_eq_true_eq] at h
  exact h a ha

/-- Where an entry is after a move. -/
def moved (source target place : Location) : Location :=
  if source.isPrefixOf place then target ++ place.drop source.length else place

theorem moved_append (source target rest : Location) :
    moved source target (source ++ rest) = target ++ rest := by
  rw [moved, if_pos (List.isPrefixOf_iff_prefix.mpr (List.prefix_append source rest)),
    List.drop_left]

theorem moved_of_outside {source target place : Location} (h : ¬source <+: place) :
    moved source target place = place := by
  rw [moved, if_neg fun habove => h (List.isPrefixOf_iff_prefix.mp habove)]

theorem node?_transfer_eq {source target : Location} (hx : x ≠ []) :
    (d.transfer source target).node? x =
      (d.entries.find? fun a => decide (moved source target a.1 = x)).map Prod.snd := by
  have hentries : (d.transfer source target).entries =
      d.entries.map fun a => (moved source target a.1, a.2) := by
    refine List.map_congr_left fun a _ => ?_
    simp only [moved]
    split <;> rfl
  simp only [node?, if_neg hx, hentries, List.find?_map, Option.map_map]
  rfl

/-- What has been moved is at the target, and nothing is left at the source. -/
theorem node?_transfer {source target : Location} (hsource : source ≠ []) (htarget : target ≠ [])
    (hfree : ∀ x, target <+: x → d.node? x = none) (x : Location) :
    (d.transfer source target).node? x =
      if target <+: x then d.node? (source ++ x.drop target.length)
      else if source <+: x then none
      else d.node? x := by
  by_cases hx : x = []
  · subst hx
    simp [htarget, hsource]
  · rw [node?_transfer_eq hx]
    split
    next habove =>
      -- Nothing was filed below the target, so all that is there now came from the source.
      obtain ⟨rest, rfl⟩ := habove
      have hnew : source ++ rest ≠ [] := by simp [hsource]
      rw [List.drop_left, node?, if_neg hnew]
      congr 1
      refine List.find?_congr fun a ha => ?_
      rw [decide_eq_decide]
      by_cases hmoved : source <+: a.1
      · obtain ⟨rest', heq⟩ := hmoved
        rw [← heq, moved_append, List.append_cancel_left_eq, List.append_cancel_left_eq]
      · rw [moved_of_outside hmoved]
        constructor
        · exact fun heq => absurd heq (ne_of_node?_eq_none ha hx (hfree _ (List.prefix_append _ _)))
        · exact fun heq => absurd (heq ▸ List.prefix_append source rest) hmoved
    next hnotAbove =>
      have hmove {a : Location} (hmoved : source <+: a) : moved source target a ≠ x := by
        obtain ⟨rest, rfl⟩ := hmoved
        rw [moved_append]
        rintro rfl
        exact hnotAbove (List.prefix_append target rest)
      split
      next hleft =>
        rw [Option.map_eq_none_iff, List.find?_eq_none]
        intro a _
        rw [decide_eq_true_iff]
        by_cases hmoved : source <+: a.1
        · exact hmove hmoved
        · rw [moved_of_outside hmoved]
          rintro rfl
          exact hmoved hleft
      next hother =>
        rw [node?, if_neg hx]
        congr 1
        refine List.find?_congr fun a _ => ?_
        rw [decide_eq_decide]
        by_cases hmoved : source <+: a.1
        · constructor
          · exact fun heq => absurd heq (hmove hmoved)
          · rintro rfl
            exact absurd hmoved hother
        · rw [moved_of_outside hmoved]

end Changes

theorem not_concat_isPrefix_self (place : Location) (name : Name) : ¬place ++ [name] <+: place := by
  intro h
  have hlength := h.length_le
  rw [List.length_append, List.length_singleton] at hlength
  omega

theorem plain_singleton {b : UInt8} (hslash : b ≠ slash) (hdot : b ≠ 46) : Plain [b] :=
  ⟨⟨by simp, by simpa using hslash.symm⟩, by simpa [dot] using hdot, by simp [dotDot]⟩

/-- A disk with nothing on it but the root directory is in shape. -/
theorem wellFormed_bare (current : Location) (now : Int) :
    (⟨[], current, now⟩ : Disk).WellFormed := by
  have hnone {x : Location} (hx : x ≠ []) : (⟨[], current, now⟩ : Disk).node? x = none := if_neg hx
  constructor
  · intro place node hnode name hname
    rw [hnone (List.ne_nil_of_mem hname)] at hnode
    cases hnode
  · intro place name node hnode
    rw [hnone (by simp)] at hnode
    cases hnode

namespace WellFormed

/-- Something new in a directory, or in place of what has nothing below it. -/
theorem put (h : d.WellFormed) (hplace : d.isDirectory place = true) (hname : Plain name)
    (hold : d.isDirectory (place ++ [name]) = false) (node : DiskNode) :
    (d.put (place ++ [name]) node).WellFormed := by
  have hne : place ++ [name] ≠ [] := by simp
  constructor
  · intro x node' hx n hn
    rw [node?_put hne] at hx
    split at hx
    next heq =>
      subst heq
      rcases List.mem_append.mp hn with hn | hn
      · exact h.plain (isDirectory_iff.mp hplace) n hn
      · exact List.mem_singleton.mp hn ▸ hname
    next => exact h.plain hx n hn
  · intro x n node' hx
    rw [node?_put hne] at hx
    rw [isDirectory_iff, node?_put hne]
    split at hx
    next heq =>
      obtain ⟨rfl, -⟩ := List.append_singleton_inj.mp heq
      rw [if_neg (by simp)]
      exact isDirectory_iff.mp hplace
    next =>
      have hparent := h.parent hx
      rw [if_neg, ← isDirectory_iff]
      · exact hparent
      · rintro rfl
        rw [hold] at hparent
        cases hparent

theorem prune (h : d.WellFormed) (place : Location) : (d.prune place).WellFormed := by
  constructor
  · intro x node hx
    rw [node?_prune] at hx
    split at hx
    · cases hx
    · exact h.plain hx
  · intro x n node hx
    rw [node?_prune] at hx
    split at hx
    · cases hx
    next hkeep =>
      have hnotAbove : ¬place <+: x := fun habove =>
        hkeep ⟨by simp, habove.trans (List.prefix_append x [n])⟩
      rw [isDirectory_iff, node?_prune, if_neg fun h => hnotAbove h.2]
      exact isDirectory_iff.mp (h.parent hx)

theorem hollow (h : d.WellFormed) (place : Location) : (d.hollow place).WellFormed := by
  constructor
  · intro x node hx
    rw [node?_hollow] at hx
    split at hx
    · cases hx
    · exact h.plain hx
  · intro x n node hx
    rw [node?_hollow] at hx
    split at hx
    · cases hx
    next hkeep =>
      rw [isDirectory_iff, node?_hollow, if_neg]
      · exact isDirectory_iff.mp (h.parent hx)
      · rintro ⟨hne, -, habove⟩
        refine hkeep ⟨?_, by simp, habove.trans (List.prefix_append x [n])⟩
        rintro rfl
        exact not_concat_isPrefix_self x n habove

/-- A move into a directory that is not below what is moved. -/
theorem transfer (h : d.WellFormed) {source : Location} (hsource : source ≠ [])
    (hplace : d.isDirectory place = true) (hname : Plain name) (hapart : ¬source <+: place)
    (hfree : ∀ x, place ++ [name] <+: x → d.node? x = none) :
    (d.transfer source (place ++ [name])).WellFormed := by
  have hnode := node?_transfer (d := d) hsource (by simp) hfree
  constructor
  · intro x node hx n hn
    rw [hnode] at hx
    split at hx
    next habove =>
      obtain ⟨rest, rfl⟩ := habove
      rw [List.drop_left] at hx
      rw [List.append_assoc, List.mem_append] at hn
      rcases hn with hn | hn
      · exact h.plain (isDirectory_iff.mp hplace) n hn
      · rcases List.mem_cons.mp hn with rfl | hn
        · exact hname
        · exact h.plain hx n (List.mem_append_right _ hn)
    next =>
      split at hx
      · cases hx
      · exact h.plain hx n hn
  · intro x n node hx
    rw [hnode] at hx
    rw [isDirectory_iff, hnode]
    split at hx
    next habove =>
      rcases List.prefix_concat_iff.mp habove with heq | habove
      · -- What has been moved stands in the directory that it was moved into.
        obtain ⟨rfl, -⟩ := List.append_singleton_inj.mp heq
        rw [if_neg, if_neg hapart]
        · exact isDirectory_iff.mp hplace
        · exact not_concat_isPrefix_self place name
      · obtain ⟨rest, rfl⟩ := habove
        rw [List.append_assoc _ rest, List.drop_left, ← List.append_assoc] at hx
        rw [if_pos (List.prefix_append _ rest), List.drop_left]
        exact isDirectory_iff.mp (h.parent hx)
    next hnotAbove =>
      split at hx
      · cases hx
      next hother =>
        rw [if_neg fun habove => hnotAbove (habove.trans (List.prefix_append x [n])),
          if_neg fun habove => hother (habove.trans (List.prefix_append x [n]))]
        exact isDirectory_iff.mp (h.parent hx)

end WellFormed

end FileBridge.Disk
