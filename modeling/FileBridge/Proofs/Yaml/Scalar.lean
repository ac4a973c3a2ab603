import FileBridge.Proofs.Text.Decimal
import FileBridge.Yaml.Plain
import FileBridge.Yaml.Quoted
import FileBridge.Yaml.Writer

/-!
A text without a line feed is read back from what is written for it: plain, between single quotes,
or between double quotes. Each scan stops right behind the scalar, whatever follows.
-/
namespace FileBridge.Yaml

/-- Parts without line ends that make a text, character by character. -/
inductive Spells : List Piece → List Char → Prop where
  | nil : Spells [] []
  | char {ps : List Piece} {s : List Char} (c : Char) (h : Spells ps s) :
    Spells (.char c :: ps) (c :: s)
  | blank {ps : List Piece} {s : List Char} (c : Char) (h : Spells ps s) :
    Spells (.blank c :: ps) (c :: s)

theorem fold_append_char {ps : List Piece} {s : List Char} (h : Spells ps s)
    (atEnd : Spacing → List Char) (blanks : List Char) (c : Char) (rest : List Piece) :
    fold atEnd (.blanks blanks) (ps ++ .char c :: rest) =
      blanks ++ s ++ c :: fold atEnd .empty rest := by
  induction h generalizing blanks with
  | nil => simp [fold, Spacing.text]
  | char d _ ih => simp [fold, Spacing.text, Spacing.empty, ih]
  | blank d _ ih => simp [fold, Spacing.blank, ih]

theorem fold_text {ps : List Piece} {s : List Char} (h : Spells ps s) (blanks : List Char) :
    fold Spacing.text (.blanks blanks) ps = blanks ++ s := by
  induction h generalizing blanks with
  | nil => simp [fold, Spacing.text]
  | char d _ ih => simp [fold, Spacing.text, Spacing.empty, ih]
  | blank d _ ih => simp [fold, Spacing.blank, ih]

theorem foldAll_of_spells {ps : List Piece} {s : List Char} (h : Spells ps s) :
    foldAll ps = String.ofList s := by
  rw [foldAll, Spacing.empty, fold_text h, List.nil_append]

theorem Spells.cons_of {ps : List Piece} {s : List Char} {c : Char} (hc : isBreak c = false)
    (h : Spells ps s) : Spells (Piece.of c :: ps) (c :: s) := by
  rw [Piece.of]
  cases isBlank c with
  | true => exact .blank c h
  | false =>
    rw [hc]
    exact .char c h

theorem spells_map_of {s : List Char} (h : ∀ c ∈ s, isBreak c = false) :
    Spells (s.map Piece.of) s := by
  induction s with
  | nil => exact .nil
  | cons c s ih =>
    have hs := ih fun d hd => h d (List.mem_cons_of_mem c hd)
    exact hs.cons_of (h c List.mem_cons_self)

theorem not_isBreak_of_isBlank {c : Char} (h : isBlank c = true) : isBreak c = false := by
  simp only [isBlank, Bool.or_eq_true, decide_eq_true_eq] at h
  rcases h with rfl | rfl <;> decide

theorem not_isBlank_of_isBreak {c : Char} (h : isBreak c = true) : isBlank c = false := by
  cases hc : isBlank c with
  | false => rfl
  | true => exact absurd h (by simp [not_isBreak_of_isBlank hc])

namespace Place

theorem next_of_not_break {c : Char} (h : isBreak c = false) (p : Place) : p.next c = p.skip 1 := by
  simp [next, h]

@[simp] theorem skip_skip (m n : Nat) (p : Place) : (p.skip m).skip n = p.skip (n + m) := by
  simp [skip, Nat.add_assoc, Nat.add_comm m]

@[simp] theorem column_skip (n : Nat) (p : Place) : (p.skip n).column = p.column + n := rfl

@[simp] theorem index_skip (n : Nat) (p : Place) : (p.skip n).index = p.index + n := rfl

end Place

@[simp] theorem Found.map_comp_map {α β γ : Type} (g : β → γ) (f : α → β) :
    Found.map g ∘ Found.map f = Found.map (g ∘ f) := rfl

theorem startsMark_cons {c mark : Char} (h : c ≠ mark) (s : List Char) :
    startsMark mark (c :: s) = false := by
  rcases s with _ | ⟨b, _ | ⟨d, rest⟩⟩ <;> simp [startsMark, h]

theorem startsMark_cons_cons {c mark : Char} (h : c ≠ mark) (b : Char) (s : List Char) :
    startsMark mark (b :: c :: s) = false := by
  cases s <;> simp [startsMark, h]

theorem isPrintable_of_not_needsEscape {s : List Char} (h : needsEscape s = false) :
    ∀ c ∈ s, isPrintable c = true := by
  simpa [needsEscape] using h

section Single

theorem successors_cons (c : Char) (s : List Char) :
    successors (c :: s) = (c, s.head?) :: successors s := by
  cases s <;> simp [successors]

theorem hasSpaceBreak_cons (c : Char) (s : List Char) :
    hasSpaceBreak (c :: s) = ((c = ' ' && s.head?.any isBreak) || hasSpaceBreak s) := by
  simp [hasSpaceBreak, successors_cons]

theorem hasBreakSpace_cons (c : Char) (s : List Char) :
    hasBreakSpace (c :: s) = ((isBreak c && s.head? = some ' ') || hasBreakSpace s) := by
  simp [hasBreakSpace, successors_cons]

/-- The indentation of a line that is not the first one. -/
def indentation (afterBreak : Bool) : List Piece :=
  if afterBreak then [.blank ' ', .blank ' '] else []

/-- The parts of a text between single quotes, with the indentation of its lines. -/
def singlePieces (afterBreak : Bool) : List Char → List Piece
  | [] => indentation afterBreak
  | c :: s =>
    if isBreak c then .newline c :: singlePieces true s
    else indentation afterBreak ++ .of c :: singlePieces false s

/-- After a line's end a written line is indented or empty, so no document starts on it. -/
theorem startsDocument_singleBody (s rest : List Char) :
    startsDocument (singleBody true s ++ '\x27' :: rest) = false := by
  have hother {c : Char} (hdash : c ≠ '-') (hpoint : c ≠ '.') (t : List Char) :
      startsDocument (c :: t) = false := by
    rw [startsDocument, startsMark_cons hdash, startsMark_cons hpoint, Bool.or_false]
  cases s with
  | nil => exact hother (by decide) (by decide) _
  | cons c s =>
    rw [singleBody]
    split
    next hc =>
      apply hother
      · rintro rfl
        exact absurd hc (by decide)
      · rintro rfl
        exact absurd hc (by decide)
    next => exact hother (by decide) (by decide) _

theorem scanSingle_quote {rest : List Char} (h : rest.head? ≠ some '\x27') (p : Place) :
    scanSingle p ('\x27' :: rest) = some ⟨[], p.skip 1, rest⟩ := by
  cases rest with
  | nil => rfl
  | cons c rest =>
    have hc : c ≠ '\x27' := fun hc => h (by simp [hc])
    simp [scanSingle, hc]

theorem scanSingle_other {c : Char} (h : c ≠ '\x27') {t : List Char}
    (hmark : isBreak c = true → startsDocument t = false) (p : Place) :
    scanSingle p (c :: t) = (scanSingle (p.next c) t).map (.map (.of c :: ·)) := by
  have hgo : (isBreak c && startsDocument t) = false := by
    cases hc : isBreak c with
    | false => rfl
    | true => simp [hmark hc]
  rw [scanSingle]
  · simp [hgo]
  all_goals simp [h]

theorem scanSingle_indentation (afterBreak : Bool) (p : Place) (t : List Char) :
    scanSingle p ((if afterBreak then [' ', ' '] else []) ++ t) =
      (scanSingle (p.skip (indentation afterBreak).length) t).map
        (.map (indentation afterBreak ++ ·)) := by
  cases afterBreak with
  | false => exact (congrFun Option.map_id _).symm
  | true =>
    have hspace : isBreak ' ' = false := rfl
    have hstep (p : Place) (t : List Char) := scanSingle_other (c := ' ') (t := t) (by decide)
      (by simp [hspace]) p
    simp only [if_true, List.cons_append, List.nil_append, hstep, Place.next_of_not_break hspace,
      Place.skip_skip, Option.map_map]
    rfl

/-- A character that does not end the line is read back from one or two quotes or from itself. -/
theorem scanSingle_char {c : Char} (h : isBreak c = false) (p : Place) (t : List Char) :
    ∃ n, scanSingle p ((if c = '\x27' then ['\x27', '\x27'] else [c]) ++ t) =
      (scanSingle (p.skip n) t).map (.map (.of c :: ·)) := by
  by_cases hc : c = '\x27'
  · subst hc
    exact ⟨2, rfl⟩
  · refine ⟨1, ?_⟩
    rw [if_neg hc, List.singleton_append, scanSingle_other hc (by simp [h]),
      Place.next_of_not_break h]

/-- The closing quote is found, whichever text stands before it. -/
theorem exists_scanSingle (s : List Char) {rest : List Char} (hrest : rest.head? ≠ some '\x27')
    (afterBreak : Bool) (p : Place) :
    ∃ q : Place, p.line ≤ q.line ∧
      scanSingle p (singleBody afterBreak s ++ '\x27' :: rest) =
        some ⟨singlePieces afterBreak s, q, rest⟩ := by
  induction s generalizing afterBreak p with
  | nil =>
    refine ⟨(p.skip (indentation afterBreak).length).skip 1, Nat.le_refl _, ?_⟩
    rw [singleBody, scanSingle_indentation, scanSingle_quote hrest]
    simp [Found.map, singlePieces]
  | cons c s ih =>
    rw [singleBody, singlePieces]
    cases hc : isBreak c with
    | true =>
      obtain ⟨q, hq, hscan⟩ := ih true (p.next c)
      have hquote : c ≠ '\x27' := by
        rintro rfl
        exact absurd hc (by decide)
      refine ⟨q, Nat.le_trans ?_ hq, ?_⟩
      · simp [Place.next, hc]
      · have hpiece : Piece.of c = .newline c := by simp [Piece.of, not_isBlank_of_isBreak hc, hc]
        rw [if_pos rfl, if_pos rfl, List.cons_append,
          scanSingle_other hquote fun _ => startsDocument_singleBody s rest, hscan, hpiece]
        rfl
    | false =>
      obtain ⟨n, hchar⟩ := scanSingle_char hc (p.skip (indentation afterBreak).length)
        (singleBody false s ++ '\x27' :: rest)
      obtain ⟨q, hq, hscan⟩ := ih false ((p.skip (indentation afterBreak).length).skip n)
      refine ⟨q, hq, ?_⟩
      simp only [Bool.false_eq_true, if_false, List.append_assoc]
      rw [scanSingle_indentation, hchar, hscan]
      rfl

/-- What is read between single quotes is the text, if no line's end in it stands next to a space.
Spaces that wait for the next character come first, or line ends that wait for it. -/
theorem fold_singlePieces {s : List Char} (hspace : hasSpaceBreak s = false)
    (hbreak : hasBreakSpace s = false) (htab : '\t' ∉ s) (hline : '\n' ∉ s) :
    (∀ blanks, blanks = [] ∨ s.head?.any isBreak = false →
      fold Spacing.text (.blanks blanks) (singlePieces false s) = blanks ++ s) ∧
    (∀ first more, first ≠ '\n' → s.head? ≠ some ' ' →
      fold Spacing.text (.lines (some first) more) (singlePieces true s) =
        first :: (more ++ s)) := by
  induction s with
  | nil =>
    constructor
    · intro blanks _
      simp [singlePieces, indentation, fold, Spacing.text]
    · intro first more hfirst _
      simp [singlePieces, indentation, fold, Spacing.blank, Spacing.text, hfirst]
  | cons c s ih =>
    rw [hasSpaceBreak_cons, Bool.or_eq_false_iff] at hspace
    rw [hasBreakSpace_cons, Bool.or_eq_false_iff] at hbreak
    obtain ⟨ihword, ihline⟩ := ih hspace.2 hbreak.2 (fun h => htab (List.mem_cons_of_mem c h))
      (fun h => hline (List.mem_cons_of_mem c h))
    have hc : c ≠ '\n' := fun h => hline (h ▸ List.mem_cons_self)
    cases hend : isBreak c with
    | true =>
      have hnext : s.head? ≠ some ' ' := by simpa [hend] using hbreak.1
      constructor
      · intro blanks hblanks
        obtain rfl : blanks = [] := by simpa [hend] using hblanks
        simp [singlePieces, hend, fold, Spacing.newline, ihline c [] hc hnext]
      · intro first more hfirst _
        simp [singlePieces, hend, fold, Spacing.newline, ihline first _ hfirst hnext]
    | false =>
      by_cases hblank : c = ' '
      · have hpiece : Piece.of c = .blank c := by simp [Piece.of, isBlank, hblank]
        have hnext : s.head?.any isBreak = false := by simpa [hblank] using hspace.1
        constructor
        · intro blanks _
          simp [singlePieces, hend, indentation, hpiece, fold, Spacing.blank,
            ihword _ (.inr hnext)]
        · intro first more _ hhead
          exact absurd (by simp [hblank]) hhead
      · have htab : c ≠ '\t' := fun h => htab (h ▸ List.mem_cons_self)
        have hpiece : Piece.of c = .char c := by simp [Piece.of, isBlank, hblank, htab, hend]
        have hword := ihword [] (.inl rfl)
        constructor
        · intro blanks _
          simp [singlePieces, hend, indentation, hpiece, fold, Spacing.text, Spacing.empty, hword]
        · intro first more hfirst _
          simp [singlePieces, hend, indentation, hpiece, fold, Spacing.blank, Spacing.text,
            Spacing.empty, hfirst, hword]

theorem foldAll_singlePieces {s : String} (h : singleAllowed s.toList = true)
    (hline : '\n' ∉ s.toList) : foldAll (singlePieces false s.toList) = s := by
  simp only [singleAllowed, Bool.not_eq_true', Bool.or_eq_false_iff] at h
  obtain ⟨⟨hescape, hspace⟩, hbreak⟩ := h
  have htab : '\t' ∉ s.toList := by
    intro hmem
    exact absurd (isPrintable_of_not_needsEscape hescape _ hmem) (by decide)
  rw [foldAll, Spacing.empty, (fold_singlePieces hspace hbreak htab hline).1 [] (.inl rfl),
    List.nil_append, String.ofList_toList]

end Single

section Double

theorem hexValue?_hexDigit {n : Nat} (h : n < 16) :
    Text.hexValue? (Json.hexDigit n).toUpper = some n := by
  have hall : ∀ n < 16, Text.hexValue? (Json.hexDigit n).toUpper = some n := by decide
  exact hall n h

theorem foldlM_hexDigits (count n : Nat) :
    (hexDigits count n).foldlM (fun n c => (Text.hexValue? c).map (16 * n + ·)) 0 =
      some (n % Nat.pow 16 count) := by
  induction count generalizing n with
  | zero => simp [hexDigits, Nat.mod_one]
  | succ count ih =>
    have hlast := hexValue?_hexDigit (Nat.mod_lt n (show 16 > 0 by decide))
    have hpow : Nat.pow 16 (count + 1) = 16 * Nat.pow 16 count := Nat.mul_comm _ _
    rw [hexDigits, List.foldlM_append, ih, hpow, Nat.mod_mul, Nat.add_comm]
    simp [hlast]

/-- A code point in enough digits denotes its character. -/
theorem codePoint?_hexDigits {c : Char} {count : Nat} (h : c.toNat < Nat.pow 16 count) :
    codePoint? (hexDigits count c.toNat) = some c := by
  rw [codePoint?, foldlM_hexDigits, Nat.mod_eq_of_lt h]
  have hvalid : c.toNat.isValidChar := c.valid
  simp [hvalid]

/-- The code points whose escape is a single letter. -/
def lettered : List Nat :=
  [0, 0x07, 0x08, 0x09, 0x0a, 0x0b, 0x0c, 0x0d, 0x1b, 0x22, 0x5c, 0x85, 0xa0, 0x2028, 0x2029]

theorem escape_of_not_lettered {c : Char} (h : c.toNat ∉ lettered) :
    escape c = '\\' ::
      if c.toNat ≤ 0xff then 'x' :: hexDigits 2 c.toNat
      else if c.toNat ≤ 0xffff then 'u' :: hexDigits 4 c.toNat
      else 'U' :: hexDigits 8 c.toNat := by
  simp only [lettered, List.mem_cons, List.not_mem_nil, not_or, or_false] at h
  simp [escape, h]

theorem scanDouble_escape (c : Char) (p : Place) (t : List Char) :
    scanDouble p (escape c ++ t) =
      (scanDouble (p.skip (escape c).length) t).map (.map (.char c :: ·)) := by
  by_cases h : c.toNat ∈ lettered
  · have hc : c = Char.ofNat c.toNat := (Char.ofNat_toNat c).symm
    generalize c.toNat = n at h hc
    subst hc
    simp only [lettered, List.mem_cons, List.not_mem_nil, or_false] at h
    rcases h with rfl | rfl | rfl | rfl | rfl | rfl | rfl | rfl | rfl | rfl | rfl | rfl | rfl |
      rfl | rfl <;> rfl
  rw [escape_of_not_lettered h]
  split
  next hc =>
    have hcode := codePoint?_hexDigits (Nat.lt_of_le_of_lt hc (show 0xff < Nat.pow 16 2 by decide))
    simp only [hexDigits, List.nil_append, List.cons_append] at hcode ⊢
    simp [scanDouble, hcode, consChar]
  split
  next hc =>
    have hcode := codePoint?_hexDigits
      (Nat.lt_of_le_of_lt hc (show 0xffff < Nat.pow 16 4 by decide))
    simp only [hexDigits, List.nil_append, List.cons_append] at hcode ⊢
    simp [scanDouble, hcode, consChar]
  next =>
    have hcode := codePoint?_hexDigits (show c.toNat < Nat.pow 16 8 from c.val.toNat_lt)
    simp only [hexDigits, List.nil_append, List.cons_append] at hcode ⊢
    simp [scanDouble, hcode, consChar]

theorem exists_scanDouble_doubleChar (c : Char) (p : Place) (t : List Char) :
    ∃ piece, (∀ ps s, Spells ps s → Spells (piece :: ps) (c :: s)) ∧
      scanDouble p (doubleChar c ++ t) =
        (scanDouble (p.skip (doubleChar c).length) t).map (.map (piece :: ·)) := by
  rw [doubleChar]
  split
  next h =>
    simp only [Bool.and_eq_true, Bool.not_eq_true', decide_eq_true_eq] at h
    obtain ⟨⟨⟨-, hbreak⟩, hquote⟩, hslash⟩ := h
    refine ⟨.of c, fun ps s h => h.cons_of hbreak, ?_⟩
    rw [List.cons_append, List.nil_append, scanDouble]
    · simp [hbreak, Place.next_of_not_break]
    all_goals simp [hquote, hslash]
  next => exact ⟨.char c, fun ps s h => h.char c, scanDouble_escape c p t⟩

/-- Between double quotes every text can be written, line ends too. -/
theorem exists_scanDouble (s rest : List Char) (p : Place) :
    ∃ ps, Spells ps s ∧ scanDouble p (s.flatMap doubleChar ++ '"' :: rest) =
      some ⟨ps, p.skip ((s.flatMap doubleChar).length + 1), rest⟩ := by
  induction s generalizing p with
  | nil => exact ⟨[], .nil, by simp [scanDouble]⟩
  | cons c s ih =>
    obtain ⟨piece, hpiece, hscan⟩ :=
      exists_scanDouble_doubleChar c p (s.flatMap doubleChar ++ '"' :: rest)
    obtain ⟨ps, hps, htail⟩ := ih (p.skip (doubleChar c).length)
    refine ⟨piece :: ps, hpiece ps s hps, ?_⟩
    rw [List.flatMap_cons, List.append_assoc, hscan, htail]
    simp [Found.map, Nat.add_comm, Nat.add_left_comm]

end Double

section Plain

theorem isCutShort_cons (c : Char) (s : List Char) :
    isCutShort (c :: s) =
      ((c = ':' && isGap s.head?) || (isGap (some c) && s.head? = some '#') || isCutShort s) := by
  simp [isCutShort, successors_cons]

theorem scanPlain_blank {inner : Nat} {run : Run} {c : Char} (h : isBlank c = true)
    (hrun : run ≠ .line) (p : Place) (t : List Char) :
    scanPlain false inner run p (c :: t) =
      (scanPlain false inner .blank (p.skip 1) t).map (.map fun x => (.of c :: x.1, x.2)) := by
  simp [scanPlain, h, hrun, Piece.of, Place.next_of_not_break (not_isBreak_of_isBlank h)]

theorem scanPlain_char {inner : Nat} {run : Run} {c : Char} {p : Place} {t : List Char}
    (hblank : isBlank c = false) (hbreak : isBreak c = false)
    (hrun : run = .word ∨ leavesPlain false inner p (c :: t) = false)
    (hcolon : (c = ':' && isGap t.head?) = false) :
    scanPlain false inner run p (c :: t) =
      (scanPlain false inner .word (p.skip 1) t).map (.map fun x => (.of c :: x.1, x.2)) := by
  have hend : endsPlain false c t.head? = false := by simp [endsPlain, hcolon]
  rcases hrun with h | h <;>
    simp [scanPlain, hblank, hbreak, h, hend, isMisplaced, Piece.of, Place.next_of_not_break hbreak]

/-- What stands right before the end of a text on one line. -/
def Run.after (run : Run) (s : List Char) : Run :=
  s.foldl (fun _ c => if isBlank c then .blank else .word) run

/-- A plain scalar goes on over a text on one line that nothing in it cuts short. -/
theorem scanPlain_append {inner : Nat} {s : List Char} (hcut : isCutShort s = false)
    (hbreak : ∀ c ∈ s, isBreak c = false) {run : Run} {p : Place} (hcolumn : inner ≤ p.column + 1)
    (hrun : run = .word ∨
      run = .blank ∧ inner ≤ p.column ∧ 0 < p.column ∧ s.head? ≠ some '#')
    (t : List Char) :
    scanPlain false inner run p (s ++ t) =
      (scanPlain false inner (run.after s) (p.skip s.length) t).map
        (.map fun x => (s.map Piece.of ++ x.1, x.2)) := by
  induction s generalizing run p with
  | nil => exact (congrFun Option.map_id _).symm
  | cons c s ih =>
    rw [isCutShort_cons, Bool.or_eq_false_iff, Bool.or_eq_false_iff] at hcut
    obtain ⟨⟨hcolon, hcomment⟩, hcut⟩ := hcut
    have hc := hbreak c List.mem_cons_self
    have ih := @ih hcut fun d hd => hbreak d (List.mem_cons_of_mem c hd)
    cases hblank : isBlank c with
    | true =>
      have hne : run ≠ .line := by rcases hrun with h | h <;> simp [h]
      have hhash : s.head? ≠ some '#' := by simpa [isGap, hblank] using hcomment
      rw [List.cons_append, scanPlain_blank hblank hne, ih (by simp; omega)
        (.inr ⟨rfl, by simp; omega, by simp, hhash⟩)]
      simp only [Option.map_map, Found.map_comp_map]
      simp [Run.after, hblank, Function.comp_def]
    | false =>
      have hstay : run = .word ∨ leavesPlain false inner p (c :: (s ++ t)) = false := by
        refine hrun.imp_right fun ⟨_, hinner, hpos, hhash⟩ => ?_
        simp [leavesPlain] at hhash ⊢
        exact ⟨⟨hinner, fun h => by omega⟩, hhash⟩
      have hnext : (c = ':' && isGap (s ++ t).head?) = false := by
        cases s with
        | nil =>
          have hne : c ≠ ':' := by simpa [isGap] using hcolon
          simp [hne]
        | cons d s => simpa using hcolon
      rw [List.cons_append, scanPlain_char hblank hc hstay hnext, ih (by simp; omega) (.inl rfl)]
      simp only [Option.map_map, Found.map_comp_map]
      simp [Run.after, hblank, Function.comp_def]

/-- A text that may be written without quotes, but for what it could be taken for. -/
structure IsPlain (s : List Char) : Prop where
  nonempty : s ≠ []
  start : startIsSpecial s = false
  uncut : isCutShort s = false
  printable : ∀ c ∈ s, isPrintable c = true
  unbroken : ∀ c ∈ s, isBreak c = false
  head : ∀ c, s.head? = some c → isBlank c = false
  last : ∀ c, s.getLast? = some c → isBlank c = false

theorem isPlain_of_plainAllowed {s : List Char} (hne : s ≠ []) (h : plainAllowed s = true) :
    IsPlain s := by
  simp only [plainAllowed, Bool.not_eq_true', Bool.or_eq_false_iff] at h
  obtain ⟨⟨⟨⟨hstart, hcut⟩, hloose⟩, hescape⟩, hbreak⟩ := h
  have hprintable := isPrintable_of_not_needsEscape hescape
  rw [hasLooseEnd, Bool.or_eq_false_iff] at hloose
  -- A tab is escaped, so a blank at an end could only be a space.
  have hblank (c : Char) (hmem : c ∈ s) (hc : (c = ' ' || isBreak c) = false) :
      isBlank c = false := by
    have htab : c ≠ '\t' := by
      rintro rfl
      exact absurd (hprintable _ hmem) (by decide)
    simpa [isBlank, htab] using (Bool.or_eq_false_iff.mp hc).1
  refine ⟨hne, hstart, hcut, hprintable, by simpa using hbreak, fun c hc => ?_, fun c hc => ?_⟩
  · exact hblank c (List.mem_of_mem_head? hc) (by simpa [hc] using hloose.1)
  · exact hblank c (List.mem_of_mem_getLast? hc) (by simpa [hc] using hloose.2)

theorem isCutShort_of_forall {s : List Char} (h : ∀ c ∈ s, isGap (some c) = false ∧ c ≠ ':') :
    isCutShort s = false := by
  induction s with
  | nil => rfl
  | cons c s ih =>
    obtain ⟨hgap, hcolon⟩ := h c List.mem_cons_self
    rw [isCutShort_cons, ih fun d hd => h d (List.mem_cons_of_mem c hd)]
    simp [hgap, hcolon]

/-- A digit means nothing but itself wherever it stands. -/
theorem isPrintable_and_not_mark_of_isDigit {c : Char} (h : c.isDigit = true) :
    isPrintable c = true ∧ isGap (some c) = false ∧ isIndicator c = false ∧
      c ∉ ['-', '?', ':', '.'] := by
  have hall : ∀ n < 58, 48 ≤ n →
      isPrintable (Char.ofNat n) = true ∧ isGap (some (Char.ofNat n)) = false ∧
        isIndicator (Char.ofNat n) = false ∧ Char.ofNat n ∉ ['-', '?', ':', '.'] := by
    decide
  have hrange := Text.toNat_of_isDigit h
  rw [← Char.ofNat_toNat c]
  exact hall c.toNat (Nat.lt_succ_of_le hrange.2) hrange.1

theorem isPlain_digits (n : Nat) : IsPlain (Text.digits n) := by
  have hdigit (c : Char) (hc : c ∈ Text.digits n) :=
    isPrintable_and_not_mark_of_isDigit (Text.isDigit_of_mem_digits hc)
  have hgap (c : Char) (hc : c ∈ Text.digits n) : isBlank c = false ∧ isBreak c = false := by
    have := (hdigit c hc).2.1
    simp only [isGap, Bool.or_eq_false_iff] at this
    exact this.1
  have hcut : isCutShort (Text.digits n) = false := by
    apply isCutShort_of_forall
    intro c hc
    obtain ⟨-, hgap, -, hmark⟩ := hdigit c hc
    exact ⟨hgap, fun h => hmark (by simp [h])⟩
  have hstart : startIsSpecial (Text.digits n) = false := by
    obtain ⟨c, s, hdigits, -⟩ := Text.exists_digits_eq_cons n
    obtain ⟨-, -, hindicator, hmark⟩ := hdigit c (hdigits ▸ List.mem_cons_self)
    simp only [List.mem_cons, List.not_mem_nil, not_or, or_false] at hmark
    rw [hdigits]
    simp [startIsSpecial, startsWithMark, hindicator, hmark]
  exact ⟨Text.digits_ne_nil n, hstart, hcut, fun c hc => (hdigit c hc).1, fun c hc => (hgap c hc).2,
    fun c hc => (hgap c (List.mem_of_mem_head? hc)).1,
    fun c hc => (hgap c (List.mem_of_mem_getLast? hc)).1⟩

theorem IsPlain.exists_append {s : List Char} (h : IsPlain s) :
    ∃ init c, s = init ++ [c] ∧ isBlank c = false := by
  refine ⟨_, _, (List.dropLast_concat_getLast h.nonempty).symm, h.last _ ?_⟩
  exact List.getLast?_eq_some_getLast h.nonempty

theorem Run.after_of_isPlain {s : List Char} (h : IsPlain s) (run : Run) : run.after s = .word := by
  obtain ⟨init, c, rfl, hc⟩ := h.exists_append
  simp [Run.after, hc]

/-- What a plain scalar is folded to, with a line's end behind it or without. -/
theorem foldTrimmed_of_isPlain {s : List Char} (h : IsPlain s) {tail : List Piece}
    (htail : fold (fun _ => []) .empty tail = []) :
    foldTrimmed (s.map Piece.of ++ tail) = String.ofList s := by
  obtain ⟨init, c, rfl, hblank⟩ := h.exists_append
  have hc : Piece.of c = .char c := by simp [Piece.of, hblank, h.unbroken c (by simp)]
  have hinit := spells_map_of fun d hd => h.unbroken d (List.mem_append_left [c] hd)
  rw [List.map_append, List.map_singleton, hc, List.append_assoc, List.singleton_append,
    foldTrimmed, Spacing.empty, fold_append_char hinit, htail, List.nil_append]

/-- A plain scalar up to the colon after it. -/
theorem scanPlain_colon {s rest : List Char} {inner : Nat} {p : Place} (h : IsPlain s)
    (hcolumn : inner ≤ p.column + 1) (hgap : isGap rest.head? = true) :
    scanPlain false inner .word p (s ++ ':' :: rest) =
      some ⟨(s.map Piece.of, .word), p.skip s.length, ':' :: rest⟩ := by
  rw [scanPlain_append h.uncut h.unbroken hcolumn (.inl rfl), Run.after_of_isPlain h]
  simp [scanPlain, isBlank, isBreak, isMisplaced, endsPlain, hgap, Found.map]

theorem scanPlain_newline (inner : Nat) (run : Run) (p : Place) (t : List Char) :
    scanPlain false inner run p ('\n' :: t) =
      (scanPlain false inner .line (p.next '\n') t).map
        (.map fun x => (.newline '\n' :: x.1, x.2)) := by
  have hblank : isBlank '\n' = false := rfl
  have hbreak : isBreak '\n' = true := rfl
  simp [scanPlain, hblank, hbreak]

/-- A plain scalar up to a line that is not indented, or up to the text's end. -/
theorem scanPlain_line {s rest : List Char} {inner : Nat} {p : Place} (h : IsPlain s)
    (hinner : 0 < inner) (hcolumn : inner ≤ p.column + 1)
    (hrest : ∀ c, rest.head? = some c → isBlank c = false ∧ isBreak c = false) :
    scanPlain false inner .word p (s ++ '\n' :: rest) =
      some ⟨(s.map Piece.of ++ [.newline '\n'], .line), (p.skip s.length).next '\n', rest⟩ := by
  rw [scanPlain_append h.uncut h.unbroken hcolumn (.inl rfl), Run.after_of_isPlain h,
    scanPlain_newline]
  have hstart : ((p.skip s.length).next '\n').column = 0 := rfl
  cases rest with
  | nil => rfl
  | cons c rest =>
    obtain ⟨hblank, hbreak⟩ := hrest c rfl
    simp [scanPlain, Found.map, hblank, hbreak, leavesPlain, hstart, hinner]

theorem IsPlain.ne_of_isIndicator {c d : Char} {s : List Char} (h : IsPlain (c :: s))
    (hd : isIndicator d = true) : c ≠ d := by
  rintro rfl
  have hstart := h.start
  simp [startIsSpecial, hd] at hstart

/-- A mark at the start of a plain scalar has another character right behind it. -/
theorem IsPlain.not_isGap_of_mark {c : Char} {s : List Char} (h : IsPlain (c :: s))
    (hc : c = '-' ∨ c = '?' ∨ c = ':') (t : List Char) : isGap (s ++ t).head? = false := by
  have hgap : isGap s.head? = false := by
    have hstart := h.start
    have hcut := h.uncut
    rw [startIsSpecial, Bool.or_eq_false_iff, Bool.or_eq_false_iff, Bool.or_eq_false_iff] at hstart
    rw [isCutShort_cons, Bool.or_eq_false_iff, Bool.or_eq_false_iff] at hcut
    rcases hc with rfl | rfl | rfl
    · simpa using hstart.1.1.2
    · simpa using hstart.1.1.2
    · simpa using hcut.1.1
  cases s with
  | nil => exact absurd hgap (by decide)
  | cons d s => exact hgap

theorem IsPlain.startsPlain {c : Char} {s : List Char} (h : IsPlain (c :: s)) (t : List Char) :
    startsPlain false c (s ++ t).head? = true := by
  have hgap : isGap (some c) = false := by
    have hnull : c.toNat ≠ 0 := by
      intro hc
      obtain rfl : c = Char.ofNat 0 := by rw [← hc, Char.ofNat_toNat]
      exact absurd (h.printable _ List.mem_cons_self) (by decide)
    simp [isGap, h.head c rfl, h.unbroken c List.mem_cons_self, hnull]
  have hindicator : isIndicator c = false := by
    cases hc : isIndicator c with
    | false => rfl
    | true => exact absurd rfl (h.ne_of_isIndicator hc)
  rw [Yaml.startsPlain]
  split
  next hc => rw [h.not_isGap_of_mark (.inl hc) t, Bool.not_false]
  split
  next hc =>
    have hmark : c = '?' ∨ c = ':' := by simpa using hc
    rw [h.not_isGap_of_mark (.inr hmark) t]
    rfl
  next =>
    rw [hgap, hindicator]
    rfl

end Plain

/-- A text without a line feed is written in one of three styles. What is written plainly could not
be taken for anything but text. -/
theorem styleOf_cases {s : String} (h : '\n' ∉ s.toList) :
    (styleOf s = .plain ∧ isTextOnly s = true ∧ IsPlain s.toList) ∨
      (styleOf s = .single ∧ singleAllowed s.toList = true) ∨ styleOf s = .double := by
  have hstyle : styleOf s =
      if isTextOnly s && plainAllowed s.toList then .plain
      else if singleAllowed s.toList then .single else .double := by
    simp [styleOf, h]
  split at hstyle
  next hplain =>
    obtain ⟨htext, hplain⟩ := Bool.and_eq_true_iff.mp hplain
    have hne : s.toList ≠ [] := by
      intro hnil
      obtain rfl : s = "" := String.toList_eq_nil_iff.mp hnil
      exact absurd htext (by decide)
    exact .inl ⟨hstyle, htext, isPlain_of_plainAllowed hne hplain⟩
  split at hstyle
  next hsingle => exact .inr (.inl ⟨hstyle, hsingle⟩)
  next => exact .inr (.inr hstyle)

end FileBridge.Yaml
