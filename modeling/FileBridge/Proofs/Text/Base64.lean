import FileBridge.Text.Base64

/-!
Base64 read back. Main statement: the reader accepts exactly the texts that the encoder writes, and
gives the bytes that they were written for.
-/
namespace FileBridge.Base64

theorem value?_digit {n : Nat} (h : n < 64) : value? (digit n) = some n := by
  have hall : ∀ n < 64, value? (digit n) = some n := by decide
  exact hall n h

theorem digit_ne_filling {n : Nat} (h : n < 64) : digit n ≠ '=' := by
  have hall : ∀ n < 64, digit n ≠ '=' := by decide
  exact hall n h

/-- A digit has six bits, and it is the only one for them. -/
theorem value?_eq_some {c : Char} {n : Nat} (h : value? c = some n) : n < 64 ∧ c = digit n := by
  -- All digits are ASCII, where the alphabet can be gone through.
  have hascii : c.toNat < 128 := by
    unfold value? at h
    simp only [Bool.and_eq_true, decide_eq_true_eq] at h
    split at h
    next hc => exact Nat.lt_of_le_of_lt (Char.le_def.mp hc.2) (by decide)
    split at h
    next hc => exact Nat.lt_of_le_of_lt (Char.le_def.mp hc.2) (by decide)
    split at h
    next hc => exact Nat.lt_of_le_of_lt (Char.le_def.mp hc.2) (by decide)
    split at h
    next hc => rw [hc]; decide
    split at h
    next hc => rw [hc]; decide
    cases h
  have hall : ∀ m < 128, (value? (.ofNat m)).all fun n => n < 64 && Char.ofNat m = digit n := by
    decide
  have hc := hall c.toNat hascii
  rw [Char.ofNat_toNat, h] at hc
  simpa using hc

/-- What the encoder writes is read back. -/
theorem decode?_encode (bytes : List UInt8) : decode? (encode bytes) = some bytes := by
  fun_induction encode bytes with
  | case1 => rfl
  | case2 a =>
    have ha := a.toNat_lt
    have hzero : a.toNat % 4 * 16 % 16 = 0 := by omega
    have hone : a.toNat / 4 * 4 + a.toNat % 4 * 16 / 16 = a.toNat := by omega
    simp only [decode?, decide_true, Bool.and_true, if_true, decodeOne?,
      value?_digit (show a.toNat / 4 < 64 by omega),
      value?_digit (show a.toNat % 4 * 16 < 64 by omega), Option.bind_eq_bind, Option.bind_some,
      hzero, hone, UInt8.ofNat_toNat]
  | case3 a b =>
    have ha := a.toNat_lt
    have hb := b.toNat_lt
    have hzero : b.toNat % 16 * 4 % 4 = 0 := by omega
    have hone : a.toNat / 4 * 4 + (a.toNat % 4 * 16 + b.toNat / 16) / 16 = a.toNat := by omega
    have htwo : (a.toNat % 4 * 16 + b.toNat / 16) % 16 * 16 + b.toNat % 16 * 4 / 4 = b.toNat := by
      omega
    simp only [decode?, digit_ne_filling (show b.toNat % 16 * 4 < 64 by omega), decide_true,
      decide_false, Bool.and_true, Bool.and_false, Bool.false_eq_true, if_true, if_false,
      decodeTwo?, value?_digit (show a.toNat / 4 < 64 by omega),
      value?_digit (show a.toNat % 4 * 16 + b.toNat / 16 < 64 by omega),
      value?_digit (show b.toNat % 16 * 4 < 64 by omega), Option.bind_eq_bind, Option.bind_some,
      hzero, hone, htwo, UInt8.ofNat_toNat]
  | case4 a b c rest ih =>
    have ha := a.toNat_lt
    have hb := b.toNat_lt
    have hc := c.toNat_lt
    have hone : a.toNat / 4 * 4 + (a.toNat % 4 * 16 + b.toNat / 16) / 16 = a.toNat := by omega
    have htwo : (a.toNat % 4 * 16 + b.toNat / 16) % 16 * 16 +
        (b.toNat % 16 * 4 + c.toNat / 64) / 4 = b.toNat := by omega
    have hthree : (b.toNat % 16 * 4 + c.toNat / 64) % 4 * 64 + c.toNat % 64 = c.toNat := by omega
    simp only [decode?, digit_ne_filling (show c.toNat % 64 < 64 by omega), decide_false,
      Bool.and_false, Bool.false_eq_true, if_false, decodeThree?,
      value?_digit (show a.toNat / 4 < 64 by omega),
      value?_digit (show a.toNat % 4 * 16 + b.toNat / 16 < 64 by omega),
      value?_digit (show b.toNat % 16 * 4 + c.toNat / 64 < 64 by omega),
      value?_digit (show c.toNat % 64 < 64 by omega), Option.bind_eq_bind, Option.bind_some,
      hone, htwo, hthree, UInt8.ofNat_toNat, ih, Option.map_some, List.cons_append,
      List.nil_append]

theorem encode_of_decodeOne? {p q : Char} {bytes : List UInt8} (h : decodeOne? p q = some bytes) :
    encode bytes = [p, q, '=', '='] := by
  simp only [decodeOne?, Option.bind_eq_bind, Option.bind_eq_some_iff] at h
  obtain ⟨p', hp, q', hq, h⟩ := h
  obtain ⟨hp', rfl⟩ := value?_eq_some hp
  obtain ⟨hq', rfl⟩ := value?_eq_some hq
  split at h
  next hzero =>
    obtain rfl := Option.some.inj h
    have hfirst : (p' * 4 + q' / 16) / 4 = p' := by omega
    have hsecond : (p' * 4 + q' / 16) % 4 * 16 = q' := by omega
    rw [encode, UInt8.toNat_ofNat_of_lt' (show _ < 256 by omega), hfirst, hsecond]
  · cases h

theorem encode_of_decodeTwo? {p q r : Char} {bytes : List UInt8}
    (h : decodeTwo? p q r = some bytes) : encode bytes = [p, q, r, '='] := by
  simp only [decodeTwo?, Option.bind_eq_bind, Option.bind_eq_some_iff] at h
  obtain ⟨p', hp, q', hq, r', hr, h⟩ := h
  obtain ⟨hp', rfl⟩ := value?_eq_some hp
  obtain ⟨hq', rfl⟩ := value?_eq_some hq
  obtain ⟨hr', rfl⟩ := value?_eq_some hr
  split at h
  next hzero =>
    obtain rfl := Option.some.inj h
    have hfirst : (p' * 4 + q' / 16) / 4 = p' := by omega
    have hsecond : (p' * 4 + q' / 16) % 4 * 16 + (q' % 16 * 16 + r' / 4) / 16 = q' := by omega
    have hthird : (q' % 16 * 16 + r' / 4) % 16 * 4 = r' := by omega
    rw [encode, UInt8.toNat_ofNat_of_lt' (show _ < 256 by omega),
      UInt8.toNat_ofNat_of_lt' (show _ < 256 by omega), hfirst, hsecond, hthird]
  · cases h

theorem encode_of_decodeThree? {p q r s : Char} {bytes : List UInt8}
    (h : decodeThree? p q r s = some bytes) (rest : List UInt8) :
    encode (bytes ++ rest) = p :: q :: r :: s :: encode rest := by
  simp only [decodeThree?, Option.bind_eq_bind, Option.bind_eq_some_iff] at h
  obtain ⟨p', hp, q', hq, r', hr, s', hs, h⟩ := h
  obtain ⟨hp', rfl⟩ := value?_eq_some hp
  obtain ⟨hq', rfl⟩ := value?_eq_some hq
  obtain ⟨hr', rfl⟩ := value?_eq_some hr
  obtain ⟨hs', rfl⟩ := value?_eq_some hs
  obtain rfl := Option.some.inj h
  have hfirst : (p' * 4 + q' / 16) / 4 = p' := by omega
  have hsecond : (p' * 4 + q' / 16) % 4 * 16 + (q' % 16 * 16 + r' / 4) / 16 = q' := by omega
  have hthird : (q' % 16 * 16 + r' / 4) % 16 * 4 + (r' % 4 * 64 + s') / 64 = r' := by omega
  have hfourth : (r' % 4 * 64 + s') % 64 = s' := by omega
  simp only [List.cons_append, List.nil_append, encode]
  rw [UInt8.toNat_ofNat_of_lt' (show _ < 256 by omega),
    UInt8.toNat_ofNat_of_lt' (show _ < 256 by omega),
    UInt8.toNat_ofNat_of_lt' (show _ < 256 by omega), hfirst, hsecond, hthird, hfourth]

/-- What is read was written by the encoder. -/
theorem encode_of_decode? {text : List Char} {bytes : List UInt8} (h : decode? text = some bytes) :
    encode bytes = text := by
  fun_induction decode? text generalizing bytes with
  | case1 =>
    obtain rfl := Option.some.inj h
    rfl
  | case2 p q r s rest hlast =>
    simp only [Bool.and_eq_true, decide_eq_true_eq] at hlast
    obtain ⟨⟨rfl, rfl⟩, rfl⟩ := hlast
    exact encode_of_decodeOne? h
  | case3 p q r s rest _ hlast =>
    simp only [Bool.and_eq_true, decide_eq_true_eq] at hlast
    obtain ⟨rfl, rfl⟩ := hlast
    exact encode_of_decodeTwo? h
  | case4 p q r s rest _ _ group hgroup ih =>
    obtain ⟨others, hrest, rfl⟩ := Option.map_eq_some_iff.mp h
    rw [encode_of_decodeThree? hgroup, ih hrest]
  | case5 => cases h
  | case6 => cases h

/-- The reader accepts exactly what the encoder writes. -/
theorem decode?_eq_some_iff {text : List Char} {bytes : List UInt8} :
    decode? text = some bytes ↔ text = encode bytes := by
  constructor
  · exact fun h => (encode_of_decode? h).symm
  · rintro rfl
    exact decode?_encode bytes

end FileBridge.Base64
