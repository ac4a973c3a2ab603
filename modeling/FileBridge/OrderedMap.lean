/-!
Values filed under text keys, kept in ascending order of the keys.

`Fields` holds the operations on plain lists of pairs; `OrderedMap` is such a list together with
the fact that its keys ascend. The order of texts is the order of their UTF-8 bytes, since it
compares code points. Main statements: what a lookup finds after an insertion and an erasure.
-/
namespace FileBridge

namespace Fields

variable {α : Type}

/-- The keys ascend strictly, so each occurs once. -/
def Ascending (l : List (String × α)) : Prop :=
  l.Pairwise fun a b => a.1 < b.1

def get? (k : String) : List (String × α) → Option α
  | [] => none
  | (k', v) :: rest => if k = k' then some v else get? k rest

def insert (k : String) (v : α) : List (String × α) → List (String × α)
  | [] => [(k, v)]
  | (k', v') :: rest =>
    if k < k' then (k, v) :: (k', v') :: rest
    else if k = k' then (k, v) :: rest
    else (k', v') :: insert k v rest

def erase (k : String) (l : List (String × α)) : List (String × α) :=
  l.filter fun a => !decide (a.1 = k)

theorem mem_insert {k : String} {v : α} {l : List (String × α)} {a : String × α}
    (h : a ∈ insert k v l) : a = (k, v) ∨ a ∈ l := by
  induction l with
  | nil => simpa [insert] using h
  | cons b rest ih =>
    obtain ⟨k', v'⟩ := b
    rw [insert] at h
    split at h
    · simpa using h
    · split at h
      · rcases List.mem_cons.mp h with rfl | h
        · exact .inl rfl
        · exact .inr (List.mem_cons_of_mem _ h)
      · rcases List.mem_cons.mp h with rfl | h
        · exact .inr List.mem_cons_self
        · exact (ih h).imp id (List.mem_cons_of_mem _)

/-- Keys that neither precede nor equal one another follow one another. -/
theorem lt_of_not_lt_of_ne {a b : String} (h : ¬a < b) (hne : a ≠ b) : b < a := by
  have := Std.not_lt.mp h
  exact Std.lt_of_le_of_ne this (Ne.symm hne)

theorem Ascending.insert {l : List (String × α)} (h : Ascending l) (k : String) (v : α) :
    Ascending (Fields.insert k v l) := by
  induction l with
  | nil => exact List.pairwise_singleton _ _
  | cons b rest ih =>
    obtain ⟨k', v'⟩ := b
    obtain ⟨hhead, hrest⟩ := List.pairwise_cons.mp h
    rw [Fields.insert]
    split
    · next hlt =>
      refine List.pairwise_cons.mpr ⟨?_, h⟩
      intro a ha
      rcases List.mem_cons.mp ha with rfl | ha
      · exact hlt
      · exact String.lt_trans hlt (hhead a ha)
    · next hnlt =>
      split
      · next heq =>
        subst heq
        exact List.pairwise_cons.mpr ⟨hhead, hrest⟩
      · next hne =>
        refine List.pairwise_cons.mpr ⟨?_, ih hrest⟩
        intro a ha
        rcases mem_insert ha with rfl | ha
        · exact lt_of_not_lt_of_ne hnlt hne
        · exact hhead a ha

theorem Ascending.erase {l : List (String × α)} (h : Ascending l) (k : String) :
    Ascending (Fields.erase k l) :=
  List.Pairwise.filter _ h

theorem get?_insert (k k₀ : String) (v : α) (l : List (String × α)) :
    get? k₀ (insert k v l) = if k₀ = k then some v else get? k₀ l := by
  induction l with
  | nil => simp [insert, get?]
  | cons b rest ih =>
    obtain ⟨k', v'⟩ := b
    rw [insert]
    split
    · simp [get?]
    · split
      · next heq =>
        subst heq
        by_cases h : k₀ = k <;> simp [get?, h]
      · next hne =>
        by_cases h : k₀ = k'
        · subst h
          simp [get?, Ne.symm hne]
        · simp [get?, h, ih]

theorem get?_erase (k k₀ : String) (l : List (String × α)) :
    get? k₀ (erase k l) = if k₀ = k then none else get? k₀ l := by
  induction l with
  | nil => simp [erase, get?]
  | cons b rest ih =>
    obtain ⟨k', v'⟩ := b
    unfold erase at ih ⊢
    by_cases h : k' = k
    · subst h
      by_cases h₀ : k₀ = k'
      · subst h₀
        simpa using ih
      · simp [get?, ih, h₀]
    · by_cases h₀ : k₀ = k'
      · subst h₀
        simp [get?, h]
      · simp [get?, ih, h, h₀]

end Fields

/-- A finite map from texts, in ascending order of the keys. -/
structure OrderedMap (α : Type) where
  /-- The pairs in order. -/
  toList : List (String × α)
  /-- Each key comes before the next. -/
  ascending : Fields.Ascending toList

namespace OrderedMap

variable {α : Type}

def empty : OrderedMap α :=
  ⟨[], List.Pairwise.nil⟩

instance : Inhabited (OrderedMap α) :=
  ⟨empty⟩

def keys (m : OrderedMap α) : List String :=
  m.toList.map Prod.fst

def size (m : OrderedMap α) : Nat :=
  m.toList.length

def get? (m : OrderedMap α) (k : String) : Option α :=
  Fields.get? k m.toList

def contains (m : OrderedMap α) (k : String) : Bool :=
  (m.get? k).isSome

def insert (m : OrderedMap α) (k : String) (v : α) : OrderedMap α :=
  ⟨Fields.insert k v m.toList, m.ascending.insert k v⟩

def erase (m : OrderedMap α) (k : String) : OrderedMap α :=
  ⟨Fields.erase k m.toList, m.ascending.erase k⟩

/-- The pairs from a key on. -/
def fromKey (m : OrderedMap α) (k : String) : List (String × α) :=
  m.toList.dropWhile fun a => a.1 < k

theorem ext_toList {m n : OrderedMap α} (h : m.toList = n.toList) : m = n := by
  cases m
  cases n
  cases h
  rfl

@[simp]
theorem get?_empty (k : String) : (empty : OrderedMap α).get? k = none :=
  rfl

@[simp]
theorem get?_insert (m : OrderedMap α) (k k₀ : String) (v : α) :
    (m.insert k v).get? k₀ = if k₀ = k then some v else m.get? k₀ :=
  Fields.get?_insert k k₀ v m.toList

@[simp]
theorem get?_erase (m : OrderedMap α) (k k₀ : String) :
    (m.erase k).get? k₀ = if k₀ = k then none else m.get? k₀ :=
  Fields.get?_erase k k₀ m.toList

end OrderedMap

end FileBridge
