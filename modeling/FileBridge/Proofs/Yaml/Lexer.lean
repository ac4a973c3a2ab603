import FileBridge.Proofs.Yaml.Scalar
import FileBridge.Yaml.Lexer

/-!
How the lexer goes through a mapping as it is written: from the start of a line over a name, its
colon and its value to the start of a later line, one pair after the other. The blocks that are open
between two pairs are always the same.
-/
namespace FileBridge.Yaml

/-- A character that the lexer does not skip between two units. -/
def isSolid (c : Char) : Bool :=
  !(isBlank c || isBreak c || c = '#' || c = '\ufeff')

/-- A text that is empty or starts with such a character. -/
def StartsSolid (s : List Char) : Prop :=
  ∀ c, s.head? = some c → isSolid c = true

theorem startsSolid_cons {c : Char} (h : isSolid c = true) (s : List Char) :
    StartsSolid (c :: s) := by
  simp [StartsSolid, h]

theorem startsSolid_of_isPlain {s : List Char} (h : IsPlain s) (t : List Char) :
    StartsSolid (s ++ t) := by
  obtain ⟨c, s, rfl⟩ := List.exists_cons_of_ne_nil h.nonempty
  have hmark : c ≠ '\ufeff' := by
    rintro rfl
    exact absurd (h.printable _ List.mem_cons_self) (by decide)
  apply startsSolid_cons
  simp [isSolid, h.head c rfl, h.unbroken c List.mem_cons_self, h.ne_of_isIndicator (d := '#') rfl,
    hmark]

namespace Lexer

/-- Whatever the lexer still does from one state it does from the other, and each unit in between
takes a character at least. -/
def Reaches (l l' : Lexer) : Prop :=
  ∃ count, count + l'.rest.length ≤ l.rest.length ∧ ∀ n, run (n + count) l = run n l'

theorem Reaches.refl (l : Lexer) : Reaches l l :=
  ⟨0, by omega, fun _ => rfl⟩

theorem Reaches.trans {l₁ l₂ l₃ : Lexer} (h₁ : Reaches l₁ l₂) (h₂ : Reaches l₂ l₃) :
    Reaches l₁ l₃ := by
  obtain ⟨m, hm, hrun₁⟩ := h₁
  obtain ⟨n, hn, hrun₂⟩ := h₂
  refine ⟨n + m, by omega, fun k => ?_⟩
  rw [← Nat.add_assoc, hrun₁, hrun₂]

theorem reaches_of_toNext {l l' : Lexer} (h : l.toNext = l'.toNext)
    (hlength : l'.rest.length ≤ l.rest.length) : Reaches l l' := by
  refine ⟨0, by omega, fun n => ?_⟩
  cases n with
  | zero => rfl
  | succ n => rw [Nat.add_zero, run, run, h]

theorem reaches_of_read {l m l' : Lexer} {c : Char} {rest : List Char} (hnext : l.toNext = some m)
    (hrest : m.rest = c :: rest) (hread : m.read c rest = some l')
    (hlength : l'.rest.length < l.rest.length) : Reaches l l' := by
  refine ⟨1, by omega, fun n => ?_⟩
  rw [run, hnext]
  simp [hrest, hread]

section ToNext

theorem skipSpace_of_startsSolid {s : List Char} (h : StartsSolid s) (flow allowed : Bool)
    (p : Place) : skipSpace flow false allowed p s = ⟨allowed, p, s⟩ := by
  cases s with
  | nil => rfl
  | cons c s =>
    have hc := h c rfl
    simp only [isSolid, isBlank, Bool.not_eq_true', Bool.or_eq_false_iff, decide_eq_false_iff_not]
      at hc
    simp [skipSpace, hc]

theorem expire_of_fresh {l : Lexer} (h : ∀ c ∈ l.candidate, c.isStale l.place = false)
    (houter : ∀ c ∈ l.outer, c = none) : l.expire = some l := by
  obtain ⟨place, rest, tokens, indents, candidate, outer, nameAllowed⟩ := l
  have hnone : outer = List.replicate outer.length none :=
    List.eq_replicate_iff.mpr ⟨rfl, houter⟩
  have hmapM {f : Option Candidate → Option (Option Candidate)} (hf : f none = some none)
      (n : Nat) : (List.replicate n none).mapM f = some (List.replicate n none) := by
    induction n with
    | zero => rfl
    | succ n ih => simp [List.replicate_succ, hf, ih]
  rw [hnone]
  cases candidate with
  | none => simp [expire, hmapM]
  | some c => simp [expire, hmapM, h c rfl]

theorem closeBlocks_of_le {l : Lexer} (h : ∀ i ∈ l.indents, i ≤ l.place.column) :
    l.closeBlocks (l.place.column < ·) = l := by
  obtain ⟨place, rest, tokens, indents, candidate, outer, nameAllowed⟩ := l
  cases indents with
  | nil => simp [closeBlocks]
  | cons i indents =>
    have hi : ¬ place.column < i := Nat.not_lt.mpr (h i List.mem_cons_self)
    simp [closeBlocks, hi]

/-- A lexer stays where a unit starts. -/
theorem toNext_of_startsSolid {l : Lexer} (hrest : StartsSolid l.rest)
    (hfresh : ∀ c ∈ l.candidate, c.isStale l.place = false) (houter : ∀ c ∈ l.outer, c = none)
    (hindents : ∀ i ∈ l.indents, i ≤ l.place.column) : l.toNext = some l := by
  rw [toNext, skipSpace_of_startsSolid hrest]
  have hfollow : (l.follow ⟨l.nameAllowed, l.place, l.rest⟩).allowName l.nameAllowed = l := rfl
  simp only [hfollow, expire_of_fresh hfresh houter, Option.map_some, closeBlocks_of_le hindents]

theorem toNext_space {l : Lexer} {s : List Char} (h : l.rest = ' ' :: s) :
    l.toNext = toNext { l with place := l.place.skip 1, rest := s } := by
  have hbreak : isBreak ' ' = false := rfl
  simp only [toNext, h, skipSpace]
  simp [hbreak, Place.next_of_not_break, follow, allowName, inFlow]

/-- On a new line a name may start. -/
theorem toNext_newline {l : Lexer} {s : List Char} (h : l.rest = '\n' :: s)
    (houter : l.outer = []) :
    l.toNext =
      toNext { l with place := l.place.next '\n', rest := s, nameAllowed := true } := by
  have hbreak : isBreak '\n' = true := rfl
  simp only [toNext, h, skipSpace]
  simp [hbreak, follow, allowName, inFlow, houter]

/-- What started on an earlier line, and did not have to be a name, is none. -/
theorem toNext_of_stale {l : Lexer} (hrest : StartsSolid l.rest)
    (h : ∀ c ∈ l.candidate, c.required = false ∧ c.place.line < l.place.line) :
    l.toNext = toNext { l with candidate := none } := by
  obtain ⟨place, rest, tokens, indents, candidate, outer, nameAllowed⟩ := l
  simp only [toNext, skipSpace_of_startsSolid hrest, follow, allowName]
  cases candidate with
  | none => rfl
  | some c =>
    obtain ⟨hrequired, hline⟩ := h c rfl
    simp [expire, Candidate.isStale, hrequired, hline]

end ToNext

/-- A lexer outside brackets. -/
def outside (candidate : Option Candidate) (named : Bool) (indents : List Nat) (p : Place)
    (tokens : List Token) (rest : List Char) : Lexer where
  place := p
  rest := rest
  tokens := tokens
  indents := indents
  candidate := candidate
  outer := []
  nameAllowed := named

theorem toNext_outside {rest : List Char} (h : StartsSolid rest) (named : Bool) (p : Place)
    (tokens : List Token) :
    (outside none named [0] p tokens rest).toNext =
      some (outside none named [0] p tokens rest) := by
  apply toNext_of_startsSolid h <;> simp [outside]

/-- What a lexer remembers that starts at a place. -/
def remembered (named : Bool) (indents : List Nat) (p : Place) (tokens : List Token) :
    Option Candidate :=
  if named then some ⟨indents.head? = some p.column, tokens.length, p⟩ else none

theorem saveName_outside (named : Bool) (indents : List Nat) (p : Place) (tokens : List Token)
    (rest : List Char) :
    (outside none named indents p tokens rest).saveName =
      some (outside (remembered named indents p tokens) named indents p tokens rest) := by
  cases named <;> rfl

/-- A plain scalar starts with nothing that means something else. -/
theorem read_of_isPlain {l : Lexer} {c : Char} {s : List Char} (h : IsPlain (c :: s))
    (houter : l.outer = []) (hstart : l.place.column = 0 → c ≠ '-' ∧ c ≠ '.') (t : List Char) :
    l.read c (s ++ t) = l.readPlain := by
  have hflow : l.inFlow = false := by simp [inFlow, houter]
  have hmark {d : Char} (hd : d = '-' ∨ d = '?' ∨ d = ':') :
      (c = d && isGap (s ++ t).head?) = false := by
    by_cases hcd : c = d
    · rw [h.not_isGap_of_mark (hcd ▸ hd) t, Bool.and_false]
    · simp [hcd]
  have hdocument {d : Char} (hd : l.place.column = 0 → c ≠ d) :
      (l.place.column = 0 && startsMark d (c :: (s ++ t))) = false := by
    by_cases hcolumn : l.place.column = 0
    · simp [startsMark_cons (hd hcolumn)]
    · simp [hcolumn]
  rw [read]
  simp only [hflow, Bool.false_or, hdocument fun h => (hstart h).1,
    hdocument fun h => (hstart h).2, hmark (d := '-') (by simp), hmark (d := '?') (by simp),
    hmark (d := ':') (by simp), h.startsPlain t]
  have hne {d : Char} (hd : isIndicator d = true) : c ≠ d := h.ne_of_isIndicator hd
  simp [hne (d := '%') rfl, hne (d := '[') rfl, hne (d := '\x7b') rfl, hne (d := ']') rfl,
    hne (d := '\x7d') rfl, hne (d := ',') rfl, hne (d := '*') rfl, hne (d := '&') rfl,
    hne (d := '!') rfl, hne (d := '|') rfl, hne (d := '>') rfl, hne (d := '\x27') rfl,
    hne (d := '"') rfl]

theorem readPlain_outside {named : Bool} {indents : List Nat} {p : Place} {tokens : List Token}
    {rest : List Char} {x : Found (List Piece × Run)}
    (h : scanPlain false (outside none named indents p tokens rest).inner .word p rest = some x) :
    (outside none named indents p tokens rest).readPlain =
      some (outside (remembered named indents p tokens) (x.value.2 = .line) indents x.place
        (.scalar (foldTrimmed x.value.1) .plain :: tokens) x.rest) := by
  rw [readPlain, saveName_outside]
  change Option.bind (scanPlain false (outside none named indents p tokens rest).inner .word p rest)
    _ = _
  rw [h]
  rfl

/-- A lexer reads a plain scalar up to where the scan of it stops. -/
theorem reaches_plain {s t : List Char} {named : Bool} {indents : List Nat} {p : Place}
    {tokens : List Token} {x : Found (List Piece × Run)} (h : IsPlain s)
    (hindents : ∀ i ∈ indents, i ≤ p.column)
    (hstart : p.column = 0 → ∀ c, s.head? = some c → c ≠ '-' ∧ c ≠ '.')
    (hscan : scanPlain false (outside none named indents p tokens (s ++ t)).inner .word p (s ++ t) =
      some x)
    (hlength : x.rest.length < (s ++ t).length) :
    Reaches (outside none named indents p tokens (s ++ t))
      (outside (remembered named indents p tokens) (x.value.2 = .line) indents x.place
        (.scalar (foldTrimmed x.value.1) .plain :: tokens) x.rest) := by
  obtain ⟨c, s, rfl⟩ := List.exists_cons_of_ne_nil h.nonempty
  have hnext := toNext_of_startsSolid (l := outside none named indents p tokens (c :: s ++ t))
    (startsSolid_of_isPlain h t) (by simp [outside]) (by simp [outside]) hindents
  apply reaches_of_read hnext rfl _ hlength
  exact (read_of_isPlain h rfl (fun hp => hstart hp c rfl) t).trans (readPlain_outside hscan)

section Names

/-- The units that a name brings with it, the last one first: the first name of a text opens the
mapping. -/
def opening (indents : List Nat) : List Token :=
  if indents = [] then [.name, .blockMappingStart] else [.name]

/-- A name that can start a line. -/
structure IsName (name : List Char) : Prop where
  plain : IsPlain name
  head : ∀ c, name.head? = some c → c ≠ '-' ∧ c ≠ '.'
  short : name.length ≤ 1024

theorem isName_of_plainAllowed {name : List Char} (hhead : name.head?.any Char.isAlpha = true)
    (hplain : plainAllowed name = true) (hshort : name.length ≤ 1024) : IsName name := by
  have hne : name ≠ [] := by
    rintro rfl
    exact absurd hhead (by decide)
  refine ⟨isPlain_of_plainAllowed hne hplain, fun c hc => ?_, hshort⟩
  rw [hc, Option.any_some] at hhead
  constructor
  · rintro rfl
    exact absurd hhead (by decide)
  · rintro rfl
    exact absurd hhead (by decide)

/-- The colon shows that what started before is a name. -/
theorem reaches_colon {t : Token} {rest : List Char} {indents : List Nat} {p q : Place}
    (hindents : indents = [] ∨ indents = [0]) (hcolumn : p.column = 0) (hq : q.column ≠ 0)
    (hfresh : q.line = p.line ∧ q.index ≤ p.index + 1024) (tokens : List Token)
    (hgap : isGap rest.head? = true) :
    Reaches
      (outside (remembered true indents p tokens) false indents q (t :: tokens) (':' :: rest))
      (outside none false [0] (q.skip 1) (.value :: t :: (opening indents ++ tokens)) rest) := by
  have hnext := toNext_of_startsSolid
    (l := outside (remembered true indents p tokens) false indents q (t :: tokens) (':' :: rest))
    (startsSolid_cons rfl rest) (by simp [outside, remembered, Candidate.isStale, hfresh])
    (by simp [outside])
    (by rcases hindents with rfl | rfl <;> simp [outside])
  apply reaches_of_read hnext rfl _ (by simp [outside])
  have hread (l : Lexer) (hl : l.place.column ≠ 0) : l.read ':' rest = l.readValue rest := by
    simp [read, hl, hgap]
  rw [hread _ hq]
  rcases hindents with rfl | rfl <;>
    simp [outside, remembered, readValue, startsBlock, inFlow, inner, hcolumn, Lexer.insert, emit,
      moveTo, allowName, opening]

theorem reaches_name {name rest : List Char} {indents : List Nat} {p : Place} (h : IsName name)
    (hindents : indents = [] ∨ indents = [0]) (hcolumn : p.column = 0) (tokens : List Token)
    (hgap : isGap rest.head? = true) :
    Reaches (outside none true indents p tokens (name ++ ':' :: rest))
      (outside none false [0] (p.skip (name.length + 1))
        (.value :: .scalar (String.ofList name) .plain :: (opening indents ++ tokens)) rest) := by
  have hpos : 0 < name.length := List.length_pos_iff.mpr h.plain.nonempty
  have hinner :
      (outside none true indents p tokens (name ++ ':' :: rest)).inner ≤ p.column + 1 := by
    rcases hindents with rfl | rfl <;> simp [inner, outside]
  have hindent : ∀ i ∈ indents, i ≤ p.column := by
    rcases hindents with rfl | rfl <;> simp
  have hfold := foldTrimmed_of_isPlain h.plain (show fold (fun _ => []) .empty [] = [] from rfl)
  rw [List.append_nil] at hfold
  have hname := reaches_plain h.plain hindent (fun _ => h.head)
    (scanPlain_colon h.plain hinner hgap) (by simp; omega)
  rw [hfold] at hname
  have hcolon := reaches_colon (t := .scalar (String.ofList name) .plain)
    (q := p.skip name.length) hindents hcolumn (by rw [Place.column_skip]; omega)
    ⟨rfl, by simp [h.short]⟩ tokens hgap
  rw [Place.skip_skip, Nat.add_comm] at hcolon
  exact hname.trans hcolon

end Names

section Scalars

theorem reaches_space (named : Bool) (p : Place) (tokens : List Token) (rest : List Char) :
    Reaches (outside none named [0] p tokens (' ' :: rest))
      (outside none named [0] (p.skip 1) tokens rest) := by
  apply reaches_of_toNext
  · exact toNext_space rfl
  · simp [outside]

theorem reaches_newline (candidate : Option Candidate) (p : Place) (tokens : List Token)
    (rest : List Char) :
    Reaches (outside candidate false [0] p tokens ('\n' :: rest))
      (outside candidate true [0] (p.next '\n') tokens rest) := by
  apply reaches_of_toNext
  · exact toNext_newline rfl rfl
  · simp [outside]

/-- A scalar that is not in the first column need not be a name, and is none on the next line. -/
theorem reaches_of_remembered {named : Bool} {p q : Place} {tokens tokens' : List Token}
    {rest : List Char} (hcolumn : p.column ≠ 0) (hline : p.line < q.line)
    (hrest : StartsSolid rest) :
    Reaches (outside (remembered named [0] p tokens) true [0] q tokens' rest)
      (outside none true [0] q tokens' rest) := by
  apply reaches_of_toNext
  · apply toNext_of_stale hrest
    intro c hc
    cases named with
    | false => simp [outside, remembered] at hc
    | true =>
      obtain rfl : _ = c := by simpa [outside, remembered] using hc
      exact ⟨by simpa using Ne.symm hcolumn, hline⟩
  · simp [outside]

theorem reaches_plain_line {s rest : List Char} {p : Place} (h : IsPlain s)
    (hcolumn : p.column ≠ 0) (hrest : StartsSolid rest) (named : Bool) (tokens : List Token) :
    ∃ q : Place, q.column = 0 ∧
      Reaches (outside none named [0] p tokens (s ++ '\n' :: rest))
        (outside none true [0] q (.scalar (String.ofList s) .plain :: tokens) rest) := by
  have hhead : ∀ c, rest.head? = some c → isBlank c = false ∧ isBreak c = false := by
    intro c hc
    have := hrest c hc
    simp only [isSolid, Bool.not_eq_true', Bool.or_eq_false_iff] at this
    exact this.1.1
  have hscan : scanPlain false (outside none named [0] p tokens (s ++ '\n' :: rest)).inner .word p
      (s ++ '\n' :: rest) = some _ := scanPlain_line h Nat.one_pos (Nat.le_add_left 1 _) hhead
  have hread := reaches_plain h (by simp) (fun hp => absurd hp hcolumn) hscan (by simp; omega)
  rw [foldTrimmed_of_isPlain h rfl] at hread
  exact ⟨_, rfl, hread.trans (reaches_of_remembered hcolumn (Nat.lt_succ_self _) hrest)⟩

theorem readQuoted_outside (named : Bool) (indents : List Nat) (p : Place) (tokens : List Token)
    (rest : List Char) (style : Style) (x : Found (List Piece)) :
    (outside none named indents p tokens rest).readQuoted style (some x) =
      some (outside (remembered named indents p tokens) false indents x.place
        (.scalar (foldAll x.value) style :: tokens) x.rest) := by
  rw [readQuoted, saveName_outside]
  rfl

/-- A scalar between quotes up to the line's end behind it. -/
theorem reaches_quoted_line {c : Char} {s : String} {body rest : List Char} {ps : List Piece}
    {style : Style} {found : Option (Found (List Piece))} {named : Bool} {p q : Place}
    {tokens : List Token} (hsolid : isSolid c = true)
    (hread : (outside none named [0] p tokens (c :: body)).read c body =
      (outside none named [0] p tokens (c :: body)).readQuoted style found)
    (hfound : found = some ⟨ps, q, '\n' :: rest⟩) (hps : foldAll ps = s)
    (hcolumn : p.column ≠ 0) (hline : p.line ≤ q.line) (hlength : rest.length < body.length)
    (hrest : StartsSolid rest) :
    ∃ q : Place, q.column = 0 ∧
      Reaches (outside none named [0] p tokens (c :: body))
        (outside none true [0] q (.scalar s style :: tokens) rest) := by
  have hnext := toNext_outside (startsSolid_cons hsolid body) named p tokens
  rw [hfound, readQuoted_outside, hps] at hread
  have hscalar := reaches_of_read hnext rfl hread (by simpa [outside] using hlength)
  refine ⟨q.next '\n', rfl, (hscalar.trans (reaches_newline _ q _ rest)).trans ?_⟩
  exact reaches_of_remembered hcolumn (Nat.lt_succ_of_le hline) hrest

theorem read_single {l : Lexer} (h : l.place.column ≠ 0) (body : List Char) :
    l.read '\x27' body = l.readQuoted .single (scanSingle (l.place.skip 1) body) := by
  simp [read, h]

theorem read_double {l : Lexer} (h : l.place.column ≠ 0) (body : List Char) :
    l.read '"' body = l.readQuoted .double (scanDouble (l.place.skip 1) body) := by
  simp [read, h]

/-- A text without a line feed, in whichever style it is written. -/
theorem reaches_scalarLine {s : String} {rest : List Char} {named : Bool} {p : Place}
    (h : '\n' ∉ s.toList) (hcolumn : p.column ≠ 0) (tokens : List Token)
    (hrest : StartsSolid rest) :
    ∃ q : Place, q.column = 0 ∧
      Reaches (outside none named [0] p tokens (scalarLine s ++ rest))
        (outside none true [0] q (.scalar s (styleOf s) :: tokens) rest) := by
  rcases styleOf_cases h with ⟨hstyle, -, hplain⟩ | ⟨hstyle, hsingle⟩ | hstyle
  · have hline := reaches_plain_line hplain hcolumn hrest named tokens
    have htext : scalarLine s ++ rest = s.toList ++ '\n' :: rest := by simp [scalarLine, hstyle]
    rwa [String.ofList_toList, ← htext, ← hstyle] at hline
  · obtain ⟨q, hq, hscan⟩ := exists_scanSingle s.toList
      (show ('\n' :: rest).head? ≠ some '\x27' by simp) false (p.skip 1)
    have htext : scalarLine s ++ rest =
        '\x27' :: (singleBody false s.toList ++ '\x27' :: '\n' :: rest) := by
      simp [scalarLine, hstyle]
    rw [htext, hstyle]
    exact reaches_quoted_line rfl (read_single hcolumn _) hscan (foldAll_singlePieces hsingle h)
      hcolumn hq (by simp; omega) hrest
  · obtain ⟨ps, hps, hscan⟩ := exists_scanDouble s.toList ('\n' :: rest) (p.skip 1)
    have hfold : foldAll ps = s := by rw [foldAll_of_spells hps, String.ofList_toList]
    have htext : scalarLine s ++ rest =
        '"' :: (s.toList.flatMap doubleChar ++ '"' :: '\n' :: rest) := by
      simp [scalarLine, hstyle]
    rw [htext, hstyle]
    exact reaches_quoted_line rfl (read_double hcolumn _) hscan hfold hcolumn (Nat.le_refl _)
      (by simp; omega) hrest

end Scalars

end Lexer

end FileBridge.Yaml
