import FileBridge.Proofs.Text.Utf8

/-!
The order of texts. Texts are compared by code points; written as UTF-8 they compare the same way
byte by byte, since a character with a greater code point has a greater first byte or, after equal
bytes, a greater one among those that continue it.
-/
namespace FileBridge.Text

variable {p q r base : Nat} {u v : List UInt8}

theorem ofNat_cons_lt (hq : q < 256) (hle : p ≤ q) (hrest : p = q → u < v) :
    UInt8.ofNat p :: u < UInt8.ofNat q :: v := by
  rw [List.cons_lt_cons_iff]
  rcases Nat.lt_or_eq_of_le hle with hlt | rfl
  · left
    rw [UInt8.lt_iff_toNat_lt, UInt8.toNat_ofNat', UInt8.toNat_ofNat']
    omega
  · exact .inr ⟨rfl, hrest rfl⟩

/-- The first byte of a character has the leading digit of its code point. -/
theorem leading_cons_lt (hle : p ≤ q) (hq : q < r) (hbase : r + base ≤ 256)
    (hrest : p = q → u < v) :
    UInt8.ofNat (p % r + base) :: u < UInt8.ofNat (q % r + base) :: v := by
  rw [Nat.mod_eq_of_lt hq, Nat.mod_eq_of_lt (Nat.lt_of_le_of_lt hle hq)]
  exact ofNat_cons_lt (by omega) (by omega) fun h => hrest (by omega)

/-- The other bytes have one digit each, to base 64. -/
theorem continuing_cons_lt (hle : p ≤ q) (habove : p / 64 = q / 64) (hrest : p = q → u < v) :
    UInt8.ofNat (p % 64 + 128) :: u < UInt8.ofNat (q % 64 + 128) :: v :=
  ofNat_cons_lt (by omega) (by omega) fun h => hrest (by omega)

/-- A character with a smaller code point comes first, whatever follows the two. -/
theorem utf8EncodeChar_append_lt {c d : Char} (h : c < d) (u v : List UInt8) :
    String.utf8EncodeChar c ++ u < String.utf8EncodeChar d ++ v := by
  have hlt : c.val.toNat < d.val.toNat := h
  have hbound : d.val.toNat < 1114112 := by
    rcases d.valid with hd | hd <;> omega
  simp only [String.utf8EncodeChar]
  generalize c.val.toNat = m at hlt
  generalize d.val.toNat = n at hlt hbound
  have hle (k : Nat) : m / k ≤ n / k := Nat.div_le_div_right (Nat.le_of_lt hlt)
  have hlast (habove : m / 64 = n / 64) :
      UInt8.ofNat (m % 64 + 128) :: u < UInt8.ofNat (n % 64 + 128) :: v :=
    continuing_cons_lt (Nat.le_of_lt hlt) habove fun heq => by omega
  have hlastTwo (habove : m / 4096 = n / 4096) :
      UInt8.ofNat (m / 64 % 64 + 128) :: UInt8.ofNat (m % 64 + 128) :: u <
        UInt8.ofNat (n / 64 % 64 + 128) :: UInt8.ofNat (n % 64 + 128) :: v :=
    continuing_cons_lt (hle 64) (by simpa only [Nat.div_div_eq_div_mul] using habove) hlast
  have hlastThree (habove : m / 262144 = n / 262144) :
      UInt8.ofNat (m / 4096 % 64 + 128) :: UInt8.ofNat (m / 64 % 64 + 128) ::
          UInt8.ofNat (m % 64 + 128) :: u <
        UInt8.ofNat (n / 4096 % 64 + 128) :: UInt8.ofNat (n / 64 % 64 + 128) ::
          UInt8.ofNat (n % 64 + 128) :: v :=
    continuing_cons_lt (hle 4096) (by simpa only [Nat.div_div_eq_div_mul] using habove) hlastTwo
  -- With fewer bytes the first one is smaller; with as many, the digits are compared in turn.
  by_cases hm : m ≤ 0x7f
  · rw [if_pos hm]
    split
    · exact ofNat_cons_lt (by omega) (by omega) fun heq => by omega
    · split
      · exact ofNat_cons_lt (by omega) (by omega) fun heq => by omega
      · split <;> exact ofNat_cons_lt (by omega) (by omega) fun heq => by omega
  rw [if_neg hm, if_neg (by omega : ¬n ≤ 0x7f)]
  by_cases hm : m ≤ 0x7ff
  · rw [if_pos hm]
    split
    · exact leading_cons_lt (hle 64) (by omega) (by decide) hlast
    · split <;> exact ofNat_cons_lt (by omega) (by omega) fun heq => by omega
  rw [if_neg hm, if_neg (by omega : ¬n ≤ 0x7ff)]
  by_cases hm : m ≤ 0xffff
  · rw [if_pos hm]
    split
    · exact leading_cons_lt (hle 4096) (by omega) (by decide) hlastTwo
    · exact ofNat_cons_lt (by omega) (by omega) fun heq => by omega
  rw [if_neg hm, if_neg (by omega : ¬n ≤ 0xffff)]
  exact leading_cons_lt (hle 262144) (by omega) (by decide) hlastThree

theorem flatMap_utf8EncodeChar_lt {s t : List Char} (h : s < t) :
    s.flatMap String.utf8EncodeChar < t.flatMap String.utf8EncodeChar := by
  induction s generalizing t with
  | nil =>
    cases t with
    | nil => exact absurd h (List.not_lt_nil [])
    | cons d t =>
      obtain ⟨b, rest, hd⟩ := List.exists_cons_of_ne_nil (String.utf8EncodeChar_ne_nil (c := d))
      rw [List.flatMap_cons, hd]
      exact List.nil_lt_cons b _
  | cons c s ih =>
    cases t with
    | nil => exact absurd h (List.not_lt_nil _)
    | cons d t =>
      rw [List.flatMap_cons, List.flatMap_cons]
      rcases List.cons_lt_cons_iff.mp h with hlt | ⟨rfl, hrest⟩
      · exact utf8EncodeChar_append_lt hlt _ _
      · exact List.append_left_lt (ih hrest)

/-- Texts are in the order of their bytes. -/
theorem bytes_lt_bytes_iff {s t : String} : bytes s < bytes t ↔ s < t := by
  have hmono {s t : String} (h : s < t) : bytes s < bytes t := by
    rw [bytes_eq_flatMap, bytes_eq_flatMap]
    exact flatMap_utf8EncodeChar_lt h
  refine ⟨fun h => ?_, hmono⟩
  apply Decidable.byContradiction
  intro hnot
  by_cases heq : s = t
  · rw [heq] at h
    exact List.lt_irrefl _ h
  · have hlt : t < s := Std.lt_of_le_of_ne (Std.not_lt.mp hnot) (Ne.symm heq)
    exact List.lt_asymm h (hmono hlt)

end FileBridge.Text
