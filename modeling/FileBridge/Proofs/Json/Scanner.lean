import Mathlib.Data.List.Chain
import FileBridge.Json.Printer
import FileBridge.Proofs.Json.Parts
import FileBridge.Proofs.Text.Decimal

/-!
The scanner reads units back from their spelling. A word ends only at a character that cannot
belong to one, so units come apart again unless one word directly follows another; the units of a
value never do that.
-/
namespace FileBridge

namespace Number

theorem splitDigits_digits (n : Nat) : splitDigits (Text.digits n) = (Text.digits n, []) := by
  have h : ∀ c ∈ Text.digits n, c.isDigit = true := fun c hc => Text.isDigit_of_mem_digits hc
  have htake : (Text.digits n ++ []).takeWhile Char.isDigit = _ := List.takeWhile_append_of_pos h
  have hdrop : (Text.digits n ++ []).dropWhile Char.isDigit = _ := List.dropWhile_append_of_pos h
  simp only [List.append_nil, List.takeWhile_nil, List.dropWhile_nil] at htake hdrop
  rw [splitDigits, htake, hdrop]

/-- Digits have no leading zero, unless zero is all there is. -/
theorem not_leading_zero (n : Nat) :
    ¬(Text.digits n = [] ∨ (Text.digits n).head? = some '0' ∧ (Text.digits n).length ≠ 1) := by
  rintro (hnil | ⟨hzero, hlength⟩)
  · exact Text.digits_ne_nil n hnil
  · rw [Text.eq_zero_of_head?_digits hzero, Text.digits] at hlength
    exact hlength rfl

theorem readLiteral?_digits (n : Nat) :
    readLiteral? (Text.digits n) = some ⟨false, Text.digits n, none, none⟩ := by
  obtain ⟨c, rest, hcons, hdigit⟩ := Text.exists_digits_eq_cons n
  have hminus : c ≠ '-' := by
    rintro rfl
    simp at hdigit
  have hsplit := splitDigits_digits n
  have hzero := not_leading_zero n
  rw [hcons] at hsplit hzero ⊢
  simpa [readLiteral?, hminus, hsplit, readFraction?, readExponent?] using hzero

theorem readLiteral?_minus_digits (n : Nat) :
    readLiteral? ('-' :: Text.digits n) = some ⟨true, Text.digits n, none, none⟩ := by
  simp [readLiteral?, splitDigits_digits, not_leading_zero, readFraction?, readExponent?]

theorem ofLiteral?_digits {k : Nat} (h : k < natBound64) :
    ofLiteral? ⟨false, Text.digits k, none, none⟩ = some (.int k) := by
  simp [ofLiteral?, Text.valueOf_digits, h]

theorem ofLiteral?_minus_digits {k : Nat} (hpos : 0 < k) (hlow : minInt64 ≤ -(k : Int)) :
    ofLiteral? ⟨true, Text.digits k, none, none⟩ = some (.int (-k)) := by
  simp [ofLiteral?, Text.valueOf_digits, hpos, hlow]

/-- An integer of 64 bits is read back from its text. -/
theorem read?_signed {n : Int} (hlow : minInt64 ≤ n) (hhigh : n < natBound64) :
    read? (Text.signed n).toList = some (.int n) := by
  rw [Text.signed, String.toList_ofList, read?]
  by_cases hneg : n < 0
  · have hpos : 0 < n.natAbs := by omega
    have hnat : -(n.natAbs : Int) = n := by omega
    rw [if_pos hneg, readLiteral?_minus_digits, Option.bind_some,
      ofLiteral?_minus_digits hpos (by rwa [hnat]), hnat]
  · have hlt : n.natAbs < natBound64 := by omega
    have hnat : (n.natAbs : Int) = n := by omega
    rw [if_neg hneg, readLiteral?_digits, Option.bind_some, ofLiteral?_digits hlt, hnat]

end Number

namespace Json

theorem eq_minus_or_isDigit_of_mem_signed {n : Int} {c : Char} (h : c ∈ (Text.signed n).toList) :
    c = '-' ∨ c.isDigit = true := by
  rw [Text.signed, String.toList_ofList] at h
  split at h
  · rcases List.mem_cons.mp h with rfl | h
    · exact .inl rfl
    · exact .inr (Text.isDigit_of_mem_digits h)
  · exact .inr (Text.isDigit_of_mem_digits h)

theorem signed_ne_nil (n : Int) : (Text.signed n).toList ≠ [] := by
  rw [Text.signed, String.toList_ofList]
  split
  · exact List.cons_ne_nil _ _
  · exact Text.digits_ne_nil _

namespace Token

/-- A unit that is a word: it ends only where another character follows that is none of a word. -/
def isWord : Token → Bool
  | .null => true
  | .bool _ => true
  | .num _ => true
  | _ => false

/-- A number is an integer that fits in 64 bits. -/
def HasInteger : Token → Prop
  | .num n => Json.HasInteger (.num n)
  | _ => True

/-- Of two units in a row one at least is no word. -/
def Apart (t u : Token) : Prop :=
  t.isWord = false ∨ u.isWord = false

theorem hasInteger_of_not_isWord {t : Token} (h : t.isWord = false) : t.HasInteger := by
  cases t with
  | num n => cases h
  | _ => exact trivial

theorem text_ne_nil {t : Token} (ht : t.HasInteger) : t.text ≠ [] := by
  cases t with
  | bool b => cases b <;> exact List.cons_ne_nil _ _
  | num n =>
    cases n with
    | int n => exact signed_ne_nil n
    | real d => exact ht.elim
  | _ => exact List.cons_ne_nil _ _

theorem all_isWordChar {t : Token} (hword : t.isWord = true) (ht : t.HasInteger) :
    t.text.all isWordChar = true := by
  cases t with
  | null => rfl
  | bool b => cases b <;> rfl
  | num n =>
    cases n with
    | int n =>
      refine List.all_eq_true.mpr fun c hc => ?_
      rcases eq_minus_or_isDigit_of_mem_signed hc with rfl | hdigit
      · rfl
      · simp [isWordChar, Char.isAlphanum, hdigit]
    | real d => exact ht.elim
  | _ => cases hword

/-- A word is told from its spelling. -/
theorem ofWord?_text {t : Token} (hword : t.isWord = true) (ht : t.HasInteger) :
    ofWord? t.text = some t := by
  cases t with
  | null => rfl
  | bool b => cases b <;> rfl
  | num n =>
    cases n with
    | int n =>
      have hnot {c : Char} (hc : c ≠ '-') (hdigit : c.isDigit = false) {w : List Char}
          (hmem : c ∈ w) : (Text.signed n).toList ≠ w := by
        rintro rfl
        rcases eq_minus_or_isDigit_of_mem_signed hmem with h | h
        · exact hc h
        · simp [hdigit] at h
      have hnull := hnot (c := 'n') (w := ['n', 'u', 'l', 'l']) (by decide) rfl (by decide)
      have htrue := hnot (c := 't') (w := ['t', 'r', 'u', 'e']) (by decide) rfl (by decide)
      have hfalse := hnot (c := 'f') (w := ['f', 'a', 'l', 's', 'e']) (by decide) rfl (by decide)
      rw [text, Number.text, ofWord?, if_neg hnull, if_neg htrue, if_neg hfalse,
        Number.read?_signed ht.1 ht.2]
      rfl
    | real d => exact ht.elim
  | _ => cases hword

end Token

namespace Lexer

/-- A character that is none of a word is read as between units, after the word before it if there
is one. -/
theorem step_of_finish {l : Lexer} {before : List Token} (h : l.finish = some before) {c : Char}
    (hc : isWordChar c = false) : l.step c = stepIdle before.reverse c := by
  obtain ⟨scan, units⟩ := l
  cases scan with
  | idle =>
    simp only [finish, Option.some.injEq] at h
    rw [← h, List.reverse_reverse]
    rfl
  | word acc =>
    obtain ⟨t, hword, rfl⟩ := Option.map_eq_some_iff.mp h
    simp [step, hc, hword]
  | _ => cases h

theorem foldlM_step_word {w : List Char} (h : w.all isWordChar = true) (acc : List Char)
    (units : List Token) :
    w.foldlM step ⟨.word acc, units⟩ = some ⟨.word (w.reverse ++ acc), units⟩ := by
  induction w generalizing acc with
  | nil => rfl
  | cons c w ih =>
    rw [List.all_cons, Bool.and_eq_true] at h
    have hstep : step ⟨.word acc, units⟩ c = some ⟨.word (c :: acc), units⟩ := if_pos h.1
    rw [List.foldlM_cons, hstep, List.reverse_cons, List.append_assoc]
    exact ih h.2 (c :: acc)

theorem stepIdle_of_isWordChar {c : Char} (h : isWordChar c = true) (units : List Token) :
    stepIdle units c = some ⟨.word [c], units⟩ := by
  have hspace : isSpace c = false := by
    rw [Bool.eq_false_iff]
    intro hspace
    simp only [isSpace, Bool.or_eq_true, decide_eq_true_eq] at hspace
    rcases hspace with ((rfl | rfl) | rfl) | rfl <;> cases h
  have hquote : c ≠ '"' := by
    rintro rfl
    cases h
  simp [stepIdle, hspace, hquote, h]

/-- A word is kept as it is spelled until it ends. -/
theorem foldlM_step_text_of_isWord {t : Token} (hword : t.isWord = true) (ht : t.HasInteger)
    (units : List Token) :
    t.text.foldlM step ⟨.idle, units⟩ = some ⟨.word t.text.reverse, units⟩ := by
  have hall := Token.all_isWordChar hword ht
  obtain ⟨c, w, hcons⟩ := List.exists_cons_of_ne_nil (Token.text_ne_nil ht)
  rw [hcons, List.all_cons, Bool.and_eq_true] at hall
  have hstep : step ⟨.idle, units⟩ c = some ⟨.word [c], units⟩ :=
    stepIdle_of_isWordChar hall.1 units
  rw [hcons, List.foldlM_cons, hstep, List.reverse_cons]
  exact foldlM_step_word hall.2 [c] units

theorem hexValue?_hexDigit {n : Nat} (h : n < 16) : Text.hexValue? (hexDigit n) = some n := by
  have hall : ∀ n < 16, Text.hexValue? (hexDigit n) = some n := by decide
  exact hall n h

/-- A control character is read back from the four digits of its escape. -/
theorem foldlM_step_control {c : Char} (h : c.toNat < 0x20) (acc : List Char)
    (units : List Token) :
    ['\\', 'u', '0', '0', hexDigit (c.toNat / 16), hexDigit (c.toNat % 16)].foldlM step
      ⟨.text acc, units⟩ = some ⟨.text (c :: acc), units⟩ := by
  have hzero : Text.hexValue? '0' = some 0 := rfl
  have htens := hexValue?_hexDigit (n := c.toNat / 16) (by omega)
  have hones := hexValue?_hexDigit (n := c.toNat % 16) (by omega)
  have hvalue : 16 * (c.toNat / 16) + c.toNat % 16 = c.toNat := Nat.div_add_mod _ _
  -- A control character is no surrogate, so its escape stands alone.
  have hend : endUnicode? acc none c.toNat = some (.text (c :: acc)) := by
    have hhigh : isHigh c.toNat = false := by
      simp only [isHigh, Bool.and_eq_false_iff, decide_eq_false_iff_not]
      omega
    have hlow : isLow c.toNat = false := by
      simp only [isLow, Bool.and_eq_false_iff, decide_eq_false_iff_not]
      omega
    simp [endUnicode?, hhigh, hlow]
  simp [step, hzero, htens, hones, hvalue, hend]

/-- A character of a string is read back from its escape. -/
theorem foldlM_step_escapeChar (c : Char) (acc : List Char) (units : List Token) :
    (escapeChar c).foldlM step ⟨.text acc, units⟩ = some ⟨.text (c :: acc), units⟩ := by
  by_cases hquote : c = '"'
  · subst hquote
    rfl
  by_cases hslash : c = '\\'
  · subst hslash
    rfl
  by_cases hback : c.toNat = 0x08
  · obtain rfl : c = '\x08' := Char.toNat_inj.mp hback
    rfl
  by_cases hfeed : c.toNat = 0x0c
  · obtain rfl : c = '\x0c' := Char.toNat_inj.mp hfeed
    rfl
  by_cases hline : c = '\n'
  · subst hline
    rfl
  by_cases hreturn : c = '\r'
  · subst hreturn
    rfl
  by_cases htab : c = '\t'
  · subst htab
    rfl
  rw [escapeChar, if_neg hquote, if_neg hslash, if_neg hback, if_neg hfeed, if_neg hline,
    if_neg hreturn, if_neg htab]
  by_cases hcontrol : c.toNat < 0x20
  · rw [if_pos hcontrol]
    exact foldlM_step_control hcontrol acc units
  · rw [if_neg hcontrol]
    simp [step, hquote, hslash, hcontrol]

theorem foldlM_step_escaped (s acc : List Char) (units : List Token) :
    (s.flatMap escapeChar).foldlM step ⟨.text acc, units⟩ =
      some ⟨.text (s.reverse ++ acc), units⟩ := by
  induction s generalizing acc with
  | nil => rfl
  | cons c s ih =>
    rw [List.flatMap_cons, List.foldlM_append, foldlM_step_escapeChar, List.reverse_cons,
      List.append_assoc]
    exact ih (c :: acc)

/-- A unit that is no word is read back where a unit may start or a word may end. -/
theorem foldlM_step_text_of_not_isWord {l : Lexer} {before : List Token}
    (h : l.finish = some before) {t : Token} (hword : t.isWord = false) :
    t.text.foldlM step l = some ⟨.idle, (before ++ [t]).reverse⟩ := by
  rw [List.reverse_append]
  cases t with
  | str s =>
    have hopen : l.step '"' = some ⟨.text [], before.reverse⟩ := step_of_finish h rfl
    have hclose : step ⟨.text s.toList.reverse, before.reverse⟩ '"' =
        some ⟨.idle, .str s :: before.reverse⟩ := by
      simp [step]
    rw [Token.text, List.cons_append, List.foldlM_cons, hopen]
    simp [List.foldlM_append, foldlM_step_escaped, hclose]
  | null => cases hword
  | bool b => cases hword
  | num n => cases hword
  | _ =>
    rw [Token.text, List.foldlM_cons, step_of_finish h rfl]
    rfl

end Lexer

/-- Units that can be told apart: numbers are integers of 64 bits, and no word directly follows
another. -/
structure Legible (ts : List Token) : Prop where
  integers : ∀ t ∈ ts, t.HasInteger
  apart : ts.IsChain Token.Apart

theorem legible_singleton {t : Token} (h : t.HasInteger) : Legible [t] :=
  ⟨by simpa using h, .singleton t⟩

theorem Legible.cons {t : Token} (ht : t.isWord = false) {ts : List Token} (h : Legible ts) :
    Legible (t :: ts) where
  integers := List.forall_mem_cons.mpr ⟨Token.hasInteger_of_not_isWord ht, h.integers⟩
  apart := h.apart.cons fun _ _ => .inl ht

theorem Legible.append {ts us : List Token} (hts : Legible ts) (hus : Legible us)
    (hfirst : ∀ u ∈ us.head?, u.isWord = false) : Legible (ts ++ us) where
  integers := List.forall_mem_append.mpr ⟨hts.integers, hus.integers⟩
  apart := hts.apart.append hus.apart fun _ _ u hu => .inr (hfirst u hu)

/-- Legible units are read back from their spelling. -/
theorem finish_foldlM_text {ts : List Token} (hts : Legible ts) {l : Lexer} {before : List Token}
    (h : l.finish = some before)
    (hfirst : l = ⟨.idle, before.reverse⟩ ∨ ∀ t ∈ ts.head?, t.isWord = false) :
    ((ts.flatMap Token.text).foldlM Lexer.step l).bind Lexer.finish = some (before ++ ts) := by
  induction ts generalizing l before with
  | nil => simpa using h
  | cons t ts ih =>
    obtain ⟨hinteger, hintegers⟩ := List.forall_mem_cons.mp hts.integers
    obtain ⟨hnext, hapart⟩ := List.isChain_cons.mp hts.apart
    rw [List.flatMap_cons, List.foldlM_append, List.append_cons]
    cases hword : t.isWord with
    | false =>
      rw [Lexer.foldlM_step_text_of_not_isWord h hword]
      have hfinish : Lexer.finish ⟨.idle, (before ++ [t]).reverse⟩ = some (before ++ [t]) := by
        rw [Lexer.finish, List.reverse_reverse]
      exact ih ⟨hintegers, hapart⟩ hfinish (.inl rfl)
    | true =>
      obtain rfl : l = ⟨.idle, before.reverse⟩ := by
        rcases hfirst with rfl | hfirst
        · rfl
        · simp [hfirst t rfl] at hword
      -- The word is still open, so the next unit must be one that ends it.
      rw [Lexer.foldlM_step_text_of_isWord hword hinteger]
      have hfinish :
          Lexer.finish ⟨.word t.text.reverse, before.reverse⟩ = some (before ++ [t]) := by
        simp [Lexer.finish, Token.ofWord?_text hword hinteger]
      refine ih ⟨hintegers, hapart⟩ hfinish (.inr fun u hu => ?_)
      rcases hnext u hu with ht | hu
      · simp [ht] at hword
      · exact hu

theorem tokens?_text {ts : List Token} (h : Legible ts) :
    tokens? (ts.flatMap Token.text) = some ts := by
  have hstart : Lexer.start.finish = some [] := rfl
  exact finish_foldlM_text h hstart (.inl rfl)

theorem not_isWord_of_head?_moreItemUnits {items : List Json} :
    ∀ u ∈ (moreItemUnits items).head?, u.isWord = false := by
  intro u hu
  cases items with
  | nil =>
    cases hu
    rfl
  | cons v items =>
    cases hu
    rfl

theorem not_isWord_of_head?_moreMemberUnits {members : List (String × Json)} :
    ∀ u ∈ (moreMemberUnits members).head?, u.isWord = false := by
  intro u hu
  cases members with
  | nil =>
    cases hu
    rfl
  | cons m members =>
    cases hu
    rfl

theorem legible_moreItemUnits {items : List Json} (h : ∀ v ∈ items, Legible (units v)) :
    Legible (moreItemUnits items) := by
  induction items with
  | nil => exact legible_singleton trivial
  | cons v items ih =>
    obtain ⟨hv, hitems⟩ := List.forall_mem_cons.mp h
    exact (hv.append (ih hitems) not_isWord_of_head?_moreItemUnits).cons rfl

theorem Legible.member {v : Json} (hv : Legible (units v)) (name : String) {rest : List Token}
    (hrest : Legible rest) (hfirst : ∀ u ∈ rest.head?, u.isWord = false) :
    Legible (.str name :: .colon :: units v ++ rest) :=
  ((hv.append hrest hfirst).cons (t := .colon) rfl).cons rfl

theorem legible_moreMemberUnits {members : List (String × Json)}
    (h : ∀ m ∈ members, Legible (units m.2)) : Legible (moreMemberUnits members) := by
  induction members with
  | nil => exact legible_singleton trivial
  | cons m members ih =>
    obtain ⟨hv, hmembers⟩ := List.forall_mem_cons.mp h
    exact (hv.member m.1 (ih hmembers) not_isWord_of_head?_moreMemberUnits).cons rfl

/-- The units of a value whose numbers are integers can be told apart. -/
theorem legible_units {v : Json} (h : v.Integral) : Legible (units v) := by
  induction h with
  | @intro v self inside ih =>
    cases v with
    | null => exact legible_singleton trivial
    | bool b => exact legible_singleton trivial
    | num n => exact legible_singleton self
    | str s => exact legible_singleton trivial
    | arr items =>
      cases items with
      | nil => exact (legible_singleton (t := .closeArray) trivial).cons rfl
      | cons v items =>
        obtain ⟨hv, hitems⟩ := List.forall_mem_cons.mp ih
        exact (hv.append (legible_moreItemUnits hitems) not_isWord_of_head?_moreItemUnits).cons rfl
    | obj members =>
      cases members with
      | nil => exact (legible_singleton (t := .closeObject) trivial).cons rfl
      | cons m members =>
        obtain ⟨hv, hmembers⟩ := List.forall_mem_cons.mp (List.forall_mem_map.mp ih)
        exact (hv.member m.1 (legible_moreMemberUnits hmembers)
          not_isWord_of_head?_moreMemberUnits).cons rfl

end Json

end FileBridge
