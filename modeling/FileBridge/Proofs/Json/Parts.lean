import FileBridge.Json.Basic
import FileBridge.Proofs.OrderedMap

/-!
Conditions on a value and on everything inside it. A value is sorted if the names in each object
ascend, and integral if each number is an integer of 64 bits, signed or unsigned; its depth says how
many arrays and objects lie one inside another.
-/
namespace FileBridge

namespace Json

/-- The values directly inside a value. -/
def parts : Json → List Json
  | .arr items => items
  | .obj members => members.map Prod.snd
  | _ => []

/-- A condition holds of a value and of all values inside it. -/
inductive Every (p : Json → Prop) : Json → Prop where
  | intro {v : Json} (self : p v) (inside : ∀ w ∈ v.parts, Every p w) : Every p v

theorem Every.self {p : Json → Prop} {v : Json} (h : Every p v) : p v := by
  cases h
  assumption

theorem Every.part {p : Json → Prop} {v w : Json} (h : Every p v) (hw : w ∈ v.parts) :
    Every p w := by
  cases h with
  | intro _ inside => exact inside w hw

theorem Every.leaf {p : Json → Prop} {v : Json} (self : p v) (h : v.parts = []) : Every p v := by
  refine .intro self ?_
  rw [h]
  intro w hw
  cases hw

theorem every_iff {p : Json → Prop} {v : Json} :
    Every p v ↔ p v ∧ ∀ w ∈ v.parts, Every p w :=
  ⟨fun h => ⟨h.self, fun _ hw => h.part hw⟩, fun h => .intro h.1 h.2⟩

mutual

/-- Whether a test succeeds on a value and on all values inside it. -/
def all (test : Json → Bool) : Json → Bool
  | .arr items => test (.arr items) && allItems test items
  | .obj members => test (.obj members) && allMembers test members
  | .null => test .null
  | .bool b => test (.bool b)
  | .num n => test (.num n)
  | .str s => test (.str s)

/-- Whether a test succeeds on all items and inside them. -/
def allItems (test : Json → Bool) : List Json → Bool
  | [] => true
  | v :: vs => all test v && allItems test vs

/-- Whether a test succeeds on all members and inside them. -/
def allMembers (test : Json → Bool) : List (String × Json) → Bool
  | [] => true
  | (_, v) :: ms => all test v && allMembers test ms

end

mutual

theorem all_eq_true_iff (p : Json → Prop) [DecidablePred p] :
    ∀ v : Json, v.all (fun v => decide (p v)) = true ↔ Every p v
  | .arr items => by
    rw [all, every_iff, Bool.and_eq_true, decide_eq_true_iff, allItems_eq_true_iff p items]
    rfl
  | .obj members => by
    rw [all, every_iff, Bool.and_eq_true, decide_eq_true_iff, allMembers_eq_true_iff p members,
      ← List.forall_mem_map]
    rfl
  | .null => decide_eq_true_iff.trans ⟨fun h => .leaf h rfl, Every.self⟩
  | .bool b => decide_eq_true_iff.trans ⟨fun h => .leaf h rfl, Every.self⟩
  | .num n => decide_eq_true_iff.trans ⟨fun h => .leaf h rfl, Every.self⟩
  | .str s => decide_eq_true_iff.trans ⟨fun h => .leaf h rfl, Every.self⟩

theorem allItems_eq_true_iff (p : Json → Prop) [DecidablePred p] :
    ∀ items : List Json, allItems (fun v => decide (p v)) items = true ↔ ∀ v ∈ items, Every p v
  | [] => by simp [allItems]
  | v :: vs => by
    rw [allItems, Bool.and_eq_true, all_eq_true_iff p v, allItems_eq_true_iff p vs,
      List.forall_mem_cons]

theorem allMembers_eq_true_iff (p : Json → Prop) [DecidablePred p] :
    ∀ members : List (String × Json),
      allMembers (fun v => decide (p v)) members = true ↔ ∀ m ∈ members, Every p m.2
  | [] => by simp [allMembers]
  | (name, v) :: ms => by
    rw [allMembers, Bool.and_eq_true, all_eq_true_iff p v, allMembers_eq_true_iff p ms,
      List.forall_mem_cons]

end

instance (p : Json → Prop) [DecidablePred p] (v : Json) : Decidable (Every p v) :=
  decidable_of_iff _ (all_eq_true_iff p v)

/-- The names of an object ascend. -/
def HasAscendingNames : Json → Prop
  | .obj members => Fields.Ascending members
  | _ => True

/-- A number is an integer that fits in 64 bits, signed or unsigned. -/
def HasInteger : Json → Prop
  | .num (.int n) => minInt64 ≤ n ∧ n < natBound64
  | .num (.real _) => False
  | _ => True

instance : DecidablePred HasAscendingNames
  | .obj members => inferInstanceAs (Decidable (members.Pairwise fun a b => a.1 < b.1))
  | .null => isTrue trivial
  | .bool _ => isTrue trivial
  | .num _ => isTrue trivial
  | .str _ => isTrue trivial
  | .arr _ => isTrue trivial

instance : DecidablePred HasInteger
  | .num (.int n) => inferInstanceAs (Decidable (minInt64 ≤ n ∧ n < natBound64))
  | .num (.real _) => isFalse id
  | .null => isTrue trivial
  | .bool _ => isTrue trivial
  | .str _ => isTrue trivial
  | .arr _ => isTrue trivial
  | .obj _ => isTrue trivial

/-- The names of every object ascend. -/
def Sorted (v : Json) : Prop :=
  Every HasAscendingNames v

/-- Every number is an integer that fits in 64 bits. -/
def Integral (v : Json) : Prop :=
  Every HasInteger v

instance (v : Json) : Decidable v.Sorted :=
  inferInstanceAs (Decidable (Every HasAscendingNames v))

instance (v : Json) : Decidable v.Integral :=
  inferInstanceAs (Decidable (Every HasInteger v))

mutual

/-- How deep arrays and objects are nested. -/
def depth : Json → Nat
  | .arr items => itemsDepth items + 1
  | .obj members => membersDepth members + 1
  | _ => 0

/-- The greatest depth of an item. -/
def itemsDepth : List Json → Nat
  | [] => 0
  | v :: vs => max (depth v) (itemsDepth vs)

/-- The greatest depth of a member. -/
def membersDepth : List (String × Json) → Nat
  | [] => 0
  | (_, v) :: ms => max (depth v) (membersDepth ms)

end

theorem depth_le_itemsDepth {v : Json} {items : List Json} (h : v ∈ items) :
    v.depth ≤ itemsDepth items := by
  induction items with
  | nil => cases h
  | cons w items ih =>
    rw [itemsDepth]
    rcases List.mem_cons.mp h with rfl | h
    · exact Nat.le_max_left _ _
    · exact Nat.le_trans (ih h) (Nat.le_max_right _ _)

theorem depth_le_membersDepth {v : Json} {members : List (String × Json)}
    (h : v ∈ members.map Prod.snd) : v.depth ≤ membersDepth members := by
  induction members with
  | nil => cases h
  | cons m members ih =>
    obtain ⟨name, w⟩ := m
    rw [membersDepth]
    rcases List.mem_cons.mp h with rfl | h
    · exact Nat.le_max_left _ _
    · exact Nat.le_trans (ih h) (Nat.le_max_right _ _)

theorem depth_lt_of_mem_parts {v w : Json} (h : w ∈ v.parts) : w.depth < v.depth := by
  cases v with
  | arr items =>
    rw [depth]
    exact Nat.lt_succ_of_le (depth_le_itemsDepth h)
  | obj members =>
    rw [depth]
    exact Nat.lt_succ_of_le (depth_le_membersDepth h)
  | null => cases h
  | bool b => cases h
  | num n => cases h
  | str s => cases h

theorem ofMembers_eq (members : List (String × Json)) :
    ofMembers members = .obj (Fields.insertAll members []) :=
  rfl

theorem sorted_ofMembers {members : List (String × Json)} (h : ∀ m ∈ members, m.2.Sorted) :
    (ofMembers members).Sorted := by
  rw [ofMembers_eq]
  refine .intro (Fields.Ascending.insertAll .nil members) ?_
  intro w hw
  obtain ⟨m, hm, rfl⟩ := List.mem_map.mp hw
  rcases Fields.mem_insertAll hm with hm | hm
  · exact h m hm
  · cases hm

theorem Sorted.member {members : List (String × Json)} (h : (obj members).Sorted) {name : String}
    {v : Json} (hget : Fields.get? name members = some v) : v.Sorted :=
  Every.part h (List.mem_map.mpr ⟨(name, v), Fields.mem_of_get? hget, rfl⟩)

end Json

end FileBridge
