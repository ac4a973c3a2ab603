import FileBridge.Proofs.Yaml.Lexer

/-!
The units of a written mapping: what is written for a name is a scalar, a number, or a list with one
item on a line, and the lexer cuts a text of such pairs into their units.
-/
namespace FileBridge.Yaml

/-- What may be written for a name. -/
inductive Content where
  | scalar (s : String)
  | number (n : Nat)
  | list (items : List String)

/-- The line of an item. -/
def itemLine (s : String) : List Char :=
  '-' :: ' ' :: scalarLine s

/-- The units of an item. -/
def itemTokens (s : String) : List Token :=
  [.item, .scalar s (styleOf s)]

namespace Content

/-- What follows the colon, up to the end of the last line. -/
def text : Content → List Char
  | .scalar s => ' ' :: scalarLine s
  | .number n => ' ' :: Text.digits n ++ ['\n']
  | .list [] => [' ', '[', ']', '\n']
  | .list (s :: items) => '\n' :: (s :: items).flatMap itemLine

/-- The units of the value. -/
def tokens : Content → List Token
  | .scalar s => [.scalar s (styleOf s)]
  | .number n => [.scalar (Text.decimal n) .plain]
  | .list [] => [.flowListStart, .flowListEnd]
  | .list (s :: items) => (s :: items).flatMap itemTokens

/-- No text has a line feed. -/
def IsSingleLine : Content → Prop
  | .scalar s => '\n' ∉ s.toList
  | .number _ => True
  | .list items => ∀ s ∈ items, '\n' ∉ s.toList

theorem isGap_head?_text (content : Content) (rest : List Char) :
    isGap (content.text ++ rest).head? = true := by
  cases content with
  | scalar s => rfl
  | number n => rfl
  | list items => cases items <;> rfl

end Content

/-- The lines of a name and what is written for it. -/
def pairText (x : String × Content) : List Char :=
  x.1.toList ++ ':' :: x.2.text

/-- The units of a name and what is written for it. -/
def pairTokens (x : String × Content) : List Token :=
  .name :: .scalar x.1 .plain :: .value :: x.2.tokens

namespace Lexer

theorem read_dash {l : Lexer} {rest : List Char} (hgap : isGap rest.head? = true)
    (hmark : startsMark '-' ('-' :: rest) = false) : l.read '-' rest = l.readItem rest := by
  have hpoint : startsMark '.' ('-' :: rest) = false := startsMark_cons (by decide) rest
  simp [read, hgap, hmark, hpoint]

theorem reaches_item {s : String} {rest : List Char} {p : Place} (h : '\n' ∉ s.toList)
    (hcolumn : p.column = 0) (tokens : List Token) (hrest : StartsSolid rest) :
    ∃ q : Place, q.column = 0 ∧
      Reaches (outside none true [0] p tokens ('-' :: ' ' :: (scalarLine s ++ rest)))
        (outside none true [0] q (.scalar s (styleOf s) :: .item :: tokens) rest) := by
  have hnext := toNext_outside
    (startsSolid_cons (c := '-') rfl (' ' :: (scalarLine s ++ rest))) true p tokens
  have hdash : Reaches (outside none true [0] p tokens ('-' :: ' ' :: (scalarLine s ++ rest)))
      (outside none true [0] (p.skip 1) (.item :: tokens) (' ' :: (scalarLine s ++ rest))) := by
    apply reaches_of_read hnext rfl _ (by simp [outside])
    rw [read_dash rfl (startsMark_cons_cons (by decide) _ _)]
    simp [readItem, outside, inFlow, openBlock, startsBlock, inner, hcolumn, dropName, emit, moveTo,
      allowName]
  have hspace := reaches_space true (p.skip 1) (.item :: tokens) (scalarLine s ++ rest)
  obtain ⟨q, hq, hscalar⟩ := reaches_scalarLine h (show (p.skip 2).column ≠ 0 by simp)
    (.item :: tokens) hrest
  exact ⟨q, hq, (hdash.trans hspace).trans hscalar⟩

/-- The lines of a list, item by item. -/
theorem reaches_items {items : List String} {rest : List Char} {p : Place}
    (h : ∀ s ∈ items, '\n' ∉ s.toList) (hcolumn : p.column = 0)
    (tokens : List Token) (hrest : StartsSolid rest) :
    ∃ q : Place, q.column = 0 ∧
      Reaches (outside none true [0] p tokens (items.flatMap itemLine ++ rest))
        (outside none true [0] q ((items.flatMap itemTokens).reverse ++ tokens) rest) := by
  induction items generalizing p tokens with
  | nil => exact ⟨p, hcolumn, .refl _⟩
  | cons s items ih =>
    have hmore : StartsSolid (items.flatMap itemLine ++ rest) := by
      cases items with
      | nil => exact hrest
      | cons s items => exact startsSolid_cons rfl _
    obtain ⟨q, hq, hitem⟩ := reaches_item (h s List.mem_cons_self) hcolumn tokens hmore
    obtain ⟨q', hq', hitems⟩ :=
      ih (fun s hs => h s (List.mem_cons_of_mem _ hs)) hq (.scalar s (styleOf s) :: .item :: tokens)
    refine ⟨q', hq', ?_⟩
    simpa [itemLine, itemTokens] using hitem.trans hitems

/-- A list without items stands between brackets. -/
theorem reaches_empty_list {rest : List Char} {p : Place} (hcolumn : p.column ≠ 0)
    (tokens : List Token) :
    ∃ q : Place, q.column = 0 ∧
      Reaches (outside none false [0] p tokens ('[' :: ']' :: '\n' :: rest))
        (outside none true [0] q (.flowListEnd :: .flowListStart :: tokens) rest) := by
  have hopen := toNext_outside
    (startsSolid_cons (c := '[') rfl (']' :: '\n' :: rest)) false p tokens
  have hclose := toNext_of_startsSolid
    (l := { outside none true [0] (p.skip 1) (.flowListStart :: tokens) (']' :: '\n' :: rest) with
      outer := [none] })
    (startsSolid_cons rfl _) (by simp [outside]) (by simp) (by simp [outside])
  have hstart : Reaches (outside none false [0] p tokens ('[' :: ']' :: '\n' :: rest))
      { outside none true [0] (p.skip 1) (.flowListStart :: tokens) (']' :: '\n' :: rest) with
        outer := [none] } := by
    apply reaches_of_read hopen rfl _ (by simp [outside])
    simp [read, outside, hcolumn, openFlow, saveName, emit, moveTo]
  have hend : Reaches
      { outside none true [0] (p.skip 1) (.flowListStart :: tokens) (']' :: '\n' :: rest) with
        outer := [none] }
      (outside none false [0] (p.skip 2) (.flowListEnd :: .flowListStart :: tokens)
        ('\n' :: rest)) := by
    apply reaches_of_read hclose rfl _ (by simp [outside])
    simp [read, outside, closeFlow, dropName, emit, moveTo, allowName]
  exact ⟨_, rfl, (hstart.trans hend).trans (reaches_newline none _ _ rest)⟩

/-- What is written for a name, from the colon to the start of another line. -/
theorem reaches_content {content : Content} {rest : List Char} (h : content.IsSingleLine)
    (hrest : StartsSolid rest) (p : Place) (tokens : List Token) :
    ∃ q : Place, q.column = 0 ∧
      Reaches (outside none false [0] p tokens (content.text ++ rest))
        (outside none true [0] q (content.tokens.reverse ++ tokens) rest) := by
  have hcolumn : (p.skip 1).column ≠ 0 := by simp
  cases content with
  | scalar s =>
    obtain ⟨q, hq, hline⟩ := reaches_scalarLine h hcolumn tokens hrest
    exact ⟨q, hq, (reaches_space false p tokens _).trans hline⟩
  | number n =>
    obtain ⟨q, hq, hline⟩ := reaches_plain_line (isPlain_digits n) hcolumn hrest false tokens
    refine ⟨q, hq, ?_⟩
    simpa [Content.text, Content.tokens, Text.decimal] using
      (reaches_space false p tokens _).trans hline
  | list items =>
    cases items with
    | nil =>
      obtain ⟨q, hq, hline⟩ := reaches_empty_list hcolumn tokens
      exact ⟨q, hq, (reaches_space false p tokens _).trans hline⟩
    | cons s items =>
      have hstart : (p.next '\n').column = 0 := rfl
      obtain ⟨q, hq, hlines⟩ := reaches_items h hstart tokens hrest
      exact ⟨q, hq, (reaches_newline none p tokens _).trans hlines⟩

theorem startsSolid_pairs {pairs : List (String × Content)}
    (h : ∀ x ∈ pairs, IsName x.1.toList) : StartsSolid (pairs.flatMap pairText) := by
  cases pairs with
  | nil => simp [StartsSolid]
  | cons x pairs =>
    have hsolid := startsSolid_of_isPlain (h x List.mem_cons_self).plain
    simpa [pairText] using hsolid _

/-- A name and what is written for it, on lines of their own. -/
theorem reaches_pair {x : String × Content} {rest : List Char} {indents : List Nat} {p : Place}
    (hname : IsName x.1.toList) (hcontent : x.2.IsSingleLine)
    (hindents : indents = [] ∨ indents = [0]) (hcolumn : p.column = 0) (tokens : List Token)
    (hrest : StartsSolid rest) :
    ∃ q : Place, q.column = 0 ∧
      Reaches (outside none true indents p tokens (x.1.toList ++ ':' :: (x.2.text ++ rest)))
        (outside none true [0] q
          (x.2.tokens.reverse ++ .value :: .scalar x.1 .plain :: (opening indents ++ tokens))
          rest) := by
  have hstart := reaches_name hname hindents hcolumn tokens (x.2.isGap_head?_text rest)
  rw [String.ofList_toList] at hstart
  obtain ⟨q, hq, hlines⟩ := reaches_content hcontent hrest (p.skip (x.1.toList.length + 1))
    (.value :: .scalar x.1 .plain :: (opening indents ++ tokens))
  exact ⟨q, hq, hstart.trans hlines⟩

/-- Pairs one after the other, up to the end of the text. -/
theorem reaches_pairs {pairs : List (String × Content)} (hnames : ∀ x ∈ pairs, IsName x.1.toList)
    (hcontents : ∀ x ∈ pairs, x.2.IsSingleLine) {p : Place} (hcolumn : p.column = 0)
    (tokens : List Token) :
    ∃ q : Place, q.column = 0 ∧
      Reaches (outside none true [0] p tokens (pairs.flatMap pairText))
        (outside none true [0] q ((pairs.flatMap pairTokens).reverse ++ tokens) []) := by
  induction pairs generalizing p tokens with
  | nil => exact ⟨p, hcolumn, .refl _⟩
  | cons x pairs ih =>
    have hnames' := fun y hy => hnames y (List.mem_cons_of_mem x hy)
    obtain ⟨q, hq, hpair⟩ := reaches_pair (hnames x List.mem_cons_self)
      (hcontents x List.mem_cons_self) (.inr rfl) hcolumn tokens (startsSolid_pairs hnames')
    obtain ⟨q', hq', hpairs⟩ := ih hnames' (fun y hy => hcontents y (List.mem_cons_of_mem x hy)) hq
      (x.2.tokens.reverse ++ .value :: .scalar x.1 .plain :: (opening [0] ++ tokens))
    refine ⟨q', hq', ?_⟩
    simpa [pairText, pairTokens, opening] using hpair.trans hpairs

theorem run_end (n : Nat) (p : Place) (tokens : List Token) :
    run (n + 1) (outside none true [0] p tokens []) = some (tokens.reverse ++ [.blockEnd]) := by
  have hnext := toNext_outside (show StartsSolid [] by simp [StartsSolid]) true p tokens
  rw [run, hnext]
  simp [outside, leaveBlocks, closeBlocks, inFlow, dropName, allowName]

/-- The lexer gets from the start of a text to its end in no more steps than it has characters. -/
theorem Reaches.tokens?_eq {s : List Char} {l : Lexer} {tokens : List Token}
    (h : Reaches (start s) l) (hend : ∀ n, run (n + 1) l = some tokens) :
    tokens? s = some tokens := by
  obtain ⟨count, hcount, hrun⟩ := h
  have hlength : count ≤ s.length := Nat.le_trans (Nat.le_add_right _ _) hcount
  have hfuel : s.length + 1 = s.length - count + 1 + count := by omega
  rw [tokens?, hfuel, hrun, hend]

end Lexer

/-- The units of a written mapping. -/
theorem tokens?_pairs {x : String × Content} {pairs : List (String × Content)}
    (hnames : ∀ y ∈ x :: pairs, Lexer.IsName y.1.toList)
    (hcontents : ∀ y ∈ x :: pairs, y.2.IsSingleLine) :
    tokens? ((x :: pairs).flatMap pairText) =
      some (.blockMappingStart :: ((x :: pairs).flatMap pairTokens ++ [.blockEnd])) := by
  have hnames' := fun y hy => hnames y (List.mem_cons_of_mem x hy)
  obtain ⟨q, hq, hpair⟩ := Lexer.reaches_pair (p := .start) (hnames x List.mem_cons_self)
    (hcontents x List.mem_cons_self) (.inl rfl) rfl [] (Lexer.startsSolid_pairs hnames')
  obtain ⟨q', -, hpairs⟩ := Lexer.reaches_pairs hnames'
    (fun y hy => hcontents y (List.mem_cons_of_mem x hy)) hq
    (x.2.tokens.reverse ++ .value :: .scalar x.1 .plain :: (Lexer.opening [] ++ []))
  have hend := (hpair.trans hpairs).tokens?_eq fun n => Lexer.run_end n q' _
  simpa [pairText, pairTokens, Lexer.opening] using hend

end FileBridge.Yaml
