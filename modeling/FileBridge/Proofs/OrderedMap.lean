import FileBridge.OrderedMap

/-!
Pairs under ascending keys: lookups against membership, and what comes of filing several pairs.
-/
namespace FileBridge

namespace Fields

variable {α : Type}

theorem get?_eq_some_of_mem {l : List (String × α)} (h : Ascending l) {k : String} {v : α}
    (hmem : (k, v) ∈ l) : get? k l = some v := by
  induction l with
  | nil => simp at hmem
  | cons a rest ih =>
    obtain ⟨k', v'⟩ := a
    obtain ⟨hhead, hrest⟩ := List.pairwise_cons.mp h
    rcases List.mem_cons.mp hmem with heq | hmem
    · obtain ⟨rfl, rfl⟩ := Prod.mk.inj heq
      simp [get?]
    · have hlt : k' < k := hhead _ hmem
      have hne : k ≠ k' := by
        rintro rfl
        exact String.lt_irrefl k hlt
      rw [get?, if_neg hne]
      exact ih hrest hmem

theorem mem_of_get? {l : List (String × α)} {k : String} {v : α} (h : get? k l = some v) :
    (k, v) ∈ l := by
  induction l with
  | nil => simp [get?] at h
  | cons a rest ih =>
    obtain ⟨k', v'⟩ := a
    rw [get?] at h
    split at h
    next heq =>
      subst heq
      simp_all
    next => exact List.mem_cons_of_mem _ (ih h)

/-- A key that follows all others is filed at the end. -/
theorem insert_eq_append {k : String} {l : List (String × α)} (h : ∀ a ∈ l, a.1 < k) (v : α) :
    insert k v l = l ++ [(k, v)] := by
  induction l with
  | nil => rfl
  | cons b rest ih =>
    obtain ⟨k', v'⟩ := b
    have hlt : k' < k := h (k', v') List.mem_cons_self
    have hrest := ih fun a ha => h a (List.mem_cons_of_mem _ ha)
    rw [insert, if_neg (String.lt_asymm hlt), if_neg (Ne.symm (String.ne_of_lt hlt)), hrest]
    rfl

/-- Files pairs one after the other. -/
def insertAll (pairs l : List (String × α)) : List (String × α) :=
  pairs.foldl (fun l a => insert a.1 a.2 l) l

theorem Ascending.insertAll {l : List (String × α)} (h : Ascending l)
    (pairs : List (String × α)) : Ascending (insertAll pairs l) := by
  induction pairs generalizing l with
  | nil => exact h
  | cons a pairs ih => exact ih (h.insert a.1 a.2)

theorem mem_insertAll {pairs l : List (String × α)} {a : String × α}
    (h : a ∈ insertAll pairs l) : a ∈ pairs ∨ a ∈ l := by
  induction pairs generalizing l with
  | nil => exact .inr h
  | cons b pairs ih =>
    rcases ih h with h | h
    · exact .inl (List.mem_cons_of_mem _ h)
    · rcases mem_insert h with rfl | h
      · exact .inl List.mem_cons_self
      · exact .inr h

theorem get?_eq_none_of_not_mem {k : String} {l : List (String × α)}
    (h : k ∉ l.map Prod.fst) : get? k l = none := by
  induction l with
  | nil => rfl
  | cons a rest ih =>
    obtain ⟨k', v'⟩ := a
    simp only [List.map_cons, List.mem_cons, not_or] at h
    rw [get?, if_neg h.1]
    exact ih h.2

/-- Pairs with distinct keys are all found. -/
theorem get?_insertAll {pairs : List (String × α)} (h : (pairs.map Prod.fst).Nodup) (k : String)
    (l : List (String × α)) : get? k (insertAll pairs l) = (get? k pairs).or (get? k l) := by
  induction pairs generalizing l with
  | nil => rfl
  | cons a pairs ih =>
    obtain ⟨k', v'⟩ := a
    obtain ⟨hnot, hpairs⟩ := List.nodup_cons.mp h
    have hlater : get? k (insertAll ((k', v') :: pairs) l) =
        (get? k pairs).or (get? k (insert k' v' l)) := ih hpairs _
    rw [hlater, get?_insert, get?]
    by_cases hk : k = k'
    · rw [hk, get?_eq_none_of_not_mem hnot, if_pos rfl, if_pos rfl]
      rfl
    · rw [if_neg hk, if_neg hk]

end Fields

namespace OrderedMap

variable {α : Type}

theorem get?_eq_some_iff {m : OrderedMap α} {k : String} {v : α} :
    m.get? k = some v ↔ (k, v) ∈ m.toList :=
  ⟨Fields.mem_of_get?, Fields.get?_eq_some_of_mem m.ascending⟩

theorem contains_iff {m : OrderedMap α} {k : String} :
    m.contains k = true ↔ ∃ v, m.get? k = some v := by
  simp [contains, Option.isSome_iff_exists]

theorem mem_keys_iff {m : OrderedMap α} {k : String} : k ∈ m.keys ↔ m.contains k = true := by
  simp [keys, contains_iff, get?_eq_some_iff]

theorem nodup_keys (m : OrderedMap α) : m.keys.Nodup := by
  refine (List.pairwise_map.mpr m.ascending).imp ?_
  rintro a b hlt rfl
  exact String.lt_irrefl a hlt

theorem contains_eq_false_iff {m : OrderedMap α} {k : String} :
    m.contains k = false ↔ m.get? k = none := by
  simp [contains]

end OrderedMap

end FileBridge
