import FileBridge.Text.Decimal

/-!
Decimal digits read back: the digits of a number are digits only, denote that number, and start with
a zero only if they are that zero.
-/
namespace FileBridge.Text

theorem toNat_of_isDigit {c : Char} (h : c.isDigit = true) : 48 ≤ c.toNat ∧ c.toNat ≤ 57 := by
  simp only [Char.isDigit, Bool.and_eq_true, decide_eq_true_eq, ge_iff_le,
    UInt32.le_iff_toNat_le] at h
  exact h

theorem isDigit_digitChar {d : Nat} (h : d < 10) : (digitChar d).isDigit = true := by
  have hall : ∀ d < 10, (digitChar d).isDigit = true := by decide
  exact hall d h

theorem digitValue_digitChar {d : Nat} (h : d < 10) : digitValue (digitChar d) = d := by
  have hall : ∀ d < 10, digitValue (digitChar d) = d := by decide
  exact hall d h

theorem digits_ne_nil (n : Nat) : digits n ≠ [] := by
  rw [digits]
  split <;> simp

theorem isDigit_of_mem_digits {n : Nat} {c : Char} (h : c ∈ digits n) : c.isDigit = true := by
  fun_induction digits n with
  | case1 n hn =>
    rw [List.mem_singleton.mp h]
    exact isDigit_digitChar hn
  | case2 n hn ih =>
    rcases List.mem_append.mp h with h | h
    · exact ih h
    · rw [List.mem_singleton.mp h]
      exact isDigit_digitChar (Nat.mod_lt n (by decide))

theorem exists_digits_eq_cons (n : Nat) : ∃ c rest, digits n = c :: rest ∧ c.isDigit = true := by
  obtain ⟨c, rest, h⟩ := List.exists_cons_of_ne_nil (digits_ne_nil n)
  have hmem : c ∈ digits n := h ▸ List.mem_cons_self
  exact ⟨c, rest, h, isDigit_of_mem_digits hmem⟩

theorem valueOf_append (ds : List Char) (d : Char) :
    valueOf (ds ++ [d]) = 10 * valueOf ds + digitValue d := by
  simp [valueOf]

/-- The digits of a number denote it. -/
theorem valueOf_digits (n : Nat) : valueOf (digits n) = n := by
  fun_induction digits n with
  | case1 n hn => simp [valueOf, digitValue_digitChar hn]
  | case2 n hn ih =>
    rw [valueOf_append, ih, digitValue_digitChar (Nat.mod_lt n (by decide))]
    omega

theorem natural?_digits (n : Nat) : natural? (digits n) = some n := by
  have hall : (digits n).all Char.isDigit = true :=
    List.all_eq_true.mpr fun _ h => isDigit_of_mem_digits h
  simp [natural?, digits_ne_nil, hall, valueOf_digits]

theorem length_digits_le {n k : Nat} (h : n < Nat.pow 10 (k + 1)) :
    (digits n).length ≤ k + 1 := by
  induction k generalizing n with
  | zero =>
    have hn : n < 10 := by simpa using h
    rw [digits, if_pos hn]
    simp
  | succ k ih =>
    rw [digits]
    split
    · simp
    · have hdiv : n / 10 < Nat.pow 10 (k + 1) := by
        rw [Nat.div_lt_iff_lt_mul (by decide)]
        exact h
      have := ih hdiv
      simp only [List.length_append, List.length_singleton]
      omega

/-- Only zero is written with a zero in front. -/
theorem eq_zero_of_head?_digits {n : Nat} (h : (digits n).head? = some '0') : n = 0 := by
  fun_induction digits n with
  | case1 n hn =>
    have hall : ∀ d < 10, [digitChar d].head? = some '0' → d = 0 := by decide
    exact hall n hn h
  | case2 n hn ih =>
    obtain ⟨c, rest, hcons⟩ := List.exists_cons_of_ne_nil (digits_ne_nil (n / 10))
    rw [hcons] at h ih
    have := ih (by simpa using h)
    omega

end FileBridge.Text
