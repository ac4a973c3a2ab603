import FileBridge.Proofs.Yaml.Mapping
import FileBridge.Yaml.Pairs

/-!
A written mapping is read back: its units make a document, the document has the pairs that were
written, and no character of its text is refused or changed on the way.
-/
namespace FileBridge.Yaml

/-- The scalar that a text is read as. -/
def scalarOf (s : String) : Scalar :=
  ⟨s, styleOf s, none⟩

@[simp] theorem text_scalarOf (s : String) : (scalarOf s).text = s := rfl

@[simp] theorem text_comp_scalarOf : Scalar.text ∘ scalarOf = id := rfl

namespace Content

/-- The part of a document that is written for a name. -/
def node : Content → Node
  | .scalar s => .leaf (.scalar none (scalarOf s))
  | .number n => .leaf (.scalar none ⟨Text.decimal n, .plain, none⟩)
  | .list items => .list none ((items.map scalarOf).map (.scalar none))

/-- The value that is written for a name. -/
def value : Content → Value
  | .scalar s => .scalar (scalarOf s)
  | .number n => .scalar ⟨Text.decimal n, .plain, none⟩
  | .list items => .list (items.map scalarOf)

end Content

/-- The part of a document that a name and what is written for it make. -/
def pairNode (x : String × Content) : Leaf × Node :=
  (.scalar none ⟨x.1, .plain, none⟩, x.2.node)

variable (handles : List TagHandle)

theorem takeLeaf_scalar (text : String) (style : Style) (rest : List Token) :
    takeLeaf handles (.scalar text style :: rest) =
      some (.scalar none ⟨text, style, none⟩, rest) := by
  simp [takeLeaf, takeMarks]

theorem takeBlockItems_items {items : List String} {count : Nat} {t : Token}
    (hcount : items.length < count) (ht : t = .name ∨ t = .blockEnd) (rest : List Token) :
    takeBlockItems handles false count (items.flatMap itemTokens ++ t :: rest) =
      some ((items.map scalarOf).map (.scalar none), t :: rest) := by
  induction items generalizing count with
  | nil =>
    obtain ⟨count, rfl⟩ := Nat.exists_eq_add_one_of_ne_zero (Nat.ne_zero_of_lt hcount)
    rcases ht with rfl | rfl <;> simp [takeBlockItems]
  | cons s items ih =>
    obtain ⟨count, rfl⟩ := Nat.exists_eq_add_one_of_ne_zero (Nat.ne_zero_of_lt hcount)
    have hitems := ih (Nat.lt_of_succ_lt_succ hcount)
    simp [takeBlockItems, itemTokens, takeLeafUnless, takeLeaf_scalar, hitems, scalarOf]

theorem length_le_length_flatMap {α β : Type} {f : α → List β} (h : ∀ a, f a ≠ []) (l : List α) :
    l.length ≤ (l.flatMap f).length := by
  induction l with
  | nil => simp
  | cons a l ih =>
    have hpos := List.length_pos_iff.mpr (h a)
    simp only [List.length_cons, List.flatMap_cons, List.length_append]
    omega

theorem takeNode_item (ts : List Token) :
    takeNode handles true (.item :: ts) =
      (takeBlockItems handles false (ts.length + 2) (.item :: ts)).map fun x =>
        (.list none x.1, x.2) := by
  simp [takeNode, takeMarks]

theorem takeNode_tokens (content : Content) {t : Token} (ht : t = .name ∨ t = .blockEnd)
    (rest : List Token) :
    takeNode handles true (content.tokens ++ t :: rest) = some (content.node, t :: rest) := by
  cases content with
  | scalar s => simp [takeNode, Content.tokens, takeMarks, takeLeaf_scalar, Content.node, scalarOf]
  | number n => simp [takeNode, Content.tokens, takeMarks, takeLeaf_scalar, Content.node]
  | list items =>
    cases items with
    | nil => simp [takeNode, Content.tokens, takeMarks, takeFlowItems, Content.node]
    | cons s items =>
      have hcount := length_le_length_flatMap (f := itemTokens) (by simp [itemTokens]) items
      have htokens : (Content.list (s :: items)).tokens ++ t :: rest =
          .item :: .scalar s (styleOf s) :: (items.flatMap itemTokens ++ t :: rest) := by
        simp [Content.tokens, itemTokens]
      rw [htokens, takeNode_item, ← htokens, Content.tokens, takeBlockItems_items handles _ ht rest]
      · rfl
      · simp only [List.length_cons, List.length_append]
        omega

/-- What is written for a name is never nothing. -/
theorem takeValue_tokens (content : Content) (rest : List Token) :
    takeValue handles true [.name, .value, .blockEnd] (.value :: (content.tokens ++ rest)) =
      takeNode handles true (content.tokens ++ rest) := by
  cases content with
  | scalar s => simp [takeValue, Content.tokens]
  | number n => simp [takeValue, Content.tokens]
  | list items => cases items <;> simp [takeValue, Content.tokens, itemTokens]

theorem takeBlockPairs_pairs {pairs : List (String × Content)} {count : Nat}
    (hcount : pairs.length < count) (rest : List Token) :
    takeBlockPairs handles count (pairs.flatMap pairTokens ++ .blockEnd :: rest) =
      some (pairs.map pairNode, rest) := by
  induction pairs generalizing count with
  | nil =>
    obtain ⟨count, rfl⟩ := Nat.exists_eq_add_one_of_ne_zero (Nat.ne_zero_of_lt hcount)
    simp [takeBlockPairs]
  | cons x pairs ih =>
    obtain ⟨count, rfl⟩ := Nat.exists_eq_add_one_of_ne_zero (Nat.ne_zero_of_lt hcount)
    have hpairs := ih (Nat.lt_of_succ_lt_succ hcount)
    -- Whether another pair follows or the mapping ends, the value before it ends there.
    obtain ⟨t, ts, ht, hts⟩ : ∃ t ts, (t = .name ∨ t = .blockEnd) ∧
        pairs.flatMap pairTokens ++ .blockEnd :: rest = t :: ts := by
      cases pairs with
      | nil => exact ⟨_, _, .inr rfl, rfl⟩
      | cons y pairs => exact ⟨_, _, .inl rfl, rfl⟩
    have hnode := takeNode_tokens handles x.2 ht ts
    have hcons : (x :: pairs).flatMap pairTokens ++ .blockEnd :: rest =
        .name :: .scalar x.1 .plain :: .value :: (x.2.tokens ++ t :: ts) := by
      rw [← hts]
      simp [pairTokens]
    rw [hts] at hpairs
    rw [hcons]
    simp [takeBlockPairs, takeLeafUnless, takeLeaf_scalar, takeValue_tokens, hnode, hpairs,
      pairNode]

theorem takeContent_blockMapping (ts : List Token) :
    Document.takeContent handles (.blockMappingStart :: ts) =
      (takeBlockPairs handles (ts.length + 1) ts).map fun x => (⟨none, x.1⟩, x.2) := by
  simp [Document.takeContent, takeMarks]

theorem ofTokens?_pairs (pairs : List (String × Content)) :
    Document.ofTokens? (.blockMappingStart :: (pairs.flatMap pairTokens ++ [.blockEnd])) =
      some ⟨none, pairs.map pairNode⟩ := by
  have hcount : pairs.length < (pairs.flatMap pairTokens ++ [Token.blockEnd]).length + 1 := by
    have := length_le_length_flatMap (f := pairTokens) (by simp [pairTokens]) pairs
    rw [List.length_append]
    omega
  have htake (ts : List Token) : Document.take (.blockMappingStart :: ts) =
      Document.takeContent defaultHandles (.blockMappingStart :: ts) := by
    simp [Document.take, takeHandles]
  rw [Document.ofTokens?, if_neg (by simp), htake, takeContent_blockMapping,
    takeBlockPairs_pairs defaultHandles hcount []]
  rfl

/-- What a content without aliases refers to. -/
def Content.ref : Content → RefValue
  | .scalar s => .one (.scalar (scalarOf s))
  | .number n => .one (.scalar ⟨Text.decimal n, .plain, none⟩)
  | .list items => .list ((items.map scalarOf).map .scalar)

theorem referAll_scalars (a : Anchors) (scalars : List Scalar) :
    referAll a (scalars.map (.scalar none)) = some (a, scalars.map .scalar) := by
  induction scalars with
  | nil => rfl
  | cons s scalars ih => simp [referAll, Leaf.refer, Anchors.note, ih]

theorem refer_node (a : Anchors) (content : Content) :
    content.node.refer a = some (a, content.ref) := by
  cases content with
  | scalar s => rfl
  | number n => rfl
  | list items =>
    rw [Content.node, Node.refer, Anchors.note, referAll_scalars]
    rfl

theorem referPairs_nodes (a : Anchors) (pairs : List (String × Content)) :
    referPairs a (pairs.map pairNode) =
      some (a, pairs.map fun x => (.scalar ⟨x.1, .plain, none⟩, x.2.ref)) := by
  induction pairs with
  | nil => rfl
  | cons x pairs ih => simp [referPairs, pairNode, Leaf.refer, Anchors.note, refer_node, ih]

theorem mapM_map {α β γ : Type} {f : β → Option γ} {g : α → β} {h : α → γ}
    (hfg : ∀ a, f (g a) = some (h a)) (l : List α) : (l.map g).mapM f = some (l.map h) := by
  induction l with
  | nil => rfl
  | cons a l ih => simp [hfg, ih]

theorem resolve?_ref (a : Anchors) (content : Content) :
    content.ref.resolve? a = some content.value := by
  cases content with
  | scalar s => rfl
  | number n => rfl
  | list items =>
    have hscalars := mapM_map (f := Ref.resolve? a) (g := Ref.scalar) (h := id) (fun _ => rfl)
      (items.map scalarOf)
    rw [Content.ref, RefValue.resolve?, hscalars, List.map_id]
    rfl

theorem pairs?_of_nodes (pairs : List (String × Content)) :
    Document.pairs? ⟨none, pairs.map pairNode⟩ = some (pairs.map fun x => (x.1, x.2.value)) := by
  rw [Document.pairs?, referPairs_nodes]
  apply mapM_map
  intro x
  simp [Ref.resolve?, resolve?_ref]

section Printable

theorem isAllowed_of_isPrintable {c : Char} (h : isPrintable c = true) : isAllowed c = true := by
  simp only [isPrintable, isAllowed, Bool.or_eq_true, Bool.and_eq_true, decide_eq_true_eq] at h ⊢
  rcases h with ((h | h) | h) | h
  · simp [h]
  all_goals omega

theorem normalize_of_isPrintable {s : List Char} (h : ∀ c ∈ s, isPrintable c = true) :
    normalize s = s := by
  induction s with
  | nil => rfl
  | cons c s ih =>
    have hc := h c List.mem_cons_self
    have hreturn : c ≠ '\r' := by
      rintro rfl
      exact absurd hc (by decide)
    have hnext : c ≠ '\u0085' := by
      rintro rfl
      exact absurd hc (by decide)
    rw [normalize, ih fun d hd => h d (List.mem_cons_of_mem c hd)]
    · simp [hreturn, hnext]
    · simp [hreturn]

theorem isPrintable_of_mem_hexDigits {c : Char} {count n : Nat} (h : c ∈ hexDigits count n) :
    isPrintable c = true := by
  have hall : ∀ d < 16, isPrintable (Json.hexDigit d).toUpper = true := by decide
  induction count generalizing n with
  | zero => simp [hexDigits] at h
  | succ count ih =>
    rw [hexDigits, List.mem_append, List.mem_singleton] at h
    rcases h with h | rfl
    · exact ih h
    · exact hall _ (Nat.mod_lt n (by decide))

theorem isPrintable_of_mem_escape {c d : Char} (h : d ∈ escape c) : isPrintable d = true := by
  by_cases hletter : c.toNat ∈ lettered
  · have hall : (lettered.all fun n => (escape (Char.ofNat n)).all isPrintable) = true := by decide
    have hescape := List.all_eq_true.mp hall c.toNat hletter
    rw [Char.ofNat_toNat] at hescape
    exact List.all_eq_true.mp hescape d h
  · rw [escape_of_not_lettered hletter, List.mem_cons] at h
    rcases h with rfl | h
    · decide
    repeat' split at h
    all_goals
      rcases List.mem_cons.mp h with rfl | h
      · decide
      · exact isPrintable_of_mem_hexDigits h

theorem isPrintable_of_mem_doubleChar {c d : Char} (h : d ∈ doubleChar c) :
    isPrintable d = true := by
  rw [doubleChar] at h
  split at h
  next hc =>
    obtain rfl := List.mem_singleton.mp h
    simp only [Bool.and_eq_true] at hc
    exact hc.1.1.1
  next => exact isPrintable_of_mem_escape h

theorem isPrintable_of_mem_singleBody {s : List Char} (h : ∀ c ∈ s, isPrintable c = true)
    (afterBreak : Bool) : ∀ c ∈ singleBody afterBreak s, isPrintable c = true := by
  have hspace : isPrintable ' ' = true := rfl
  have hindent (b : Bool) : ∀ c ∈ (if b then [' ', ' '] else []), isPrintable c = true := by
    cases b <;> simp [hspace]
  induction s generalizing afterBreak with
  | nil => exact hindent afterBreak
  | cons c s ih =>
    have hc := h c List.mem_cons_self
    have ih := ih fun d hd => h d (List.mem_cons_of_mem c hd)
    intro d hd
    rw [singleBody] at hd
    split at hd
    next =>
      rcases List.mem_cons.mp hd with rfl | hd
      · exact hc
      · exact ih true d hd
    next =>
      simp only [List.mem_append] at hd
      rcases hd with (hd | hd) | hd
      · exact hindent afterBreak d hd
      · have hdc : d = c := by
          split at hd
          next hq => simpa [hq] using hd
          next => exact List.mem_singleton.mp hd
        rwa [hdc]
      · exact ih false d hd

theorem isPrintable_of_mem_scalarLine {s : String} (h : '\n' ∉ s.toList) :
    ∀ c ∈ scalarLine s, isPrintable c = true := by
  have hnewline : isPrintable '\n' = true := rfl
  rcases styleOf_cases h with ⟨hstyle, -, hplain⟩ | ⟨hstyle, hsingle⟩ | hstyle
  · intro c hc
    simp only [scalarLine, hstyle, List.mem_append, List.mem_singleton] at hc
    rcases hc with hc | rfl
    · exact hplain.printable c hc
    · exact hnewline
  · simp only [singleAllowed, Bool.not_eq_true', Bool.or_eq_false_iff] at hsingle
    have hprintable := isPrintable_of_not_needsEscape hsingle.1.1
    have hquote : isPrintable '\x27' = true := rfl
    intro c hc
    simp only [scalarLine, hstyle, List.mem_cons, List.mem_append, List.not_mem_nil, or_false] at hc
    rcases hc with (rfl | hc) | rfl | rfl
    · exact hquote
    · exact isPrintable_of_mem_singleBody hprintable false c hc
    · exact hquote
    · exact hnewline
  · have hquote : isPrintable '"' = true := rfl
    intro c hc
    simp only [scalarLine, hstyle, List.mem_cons, List.mem_append, List.mem_flatMap,
      List.not_mem_nil, or_false] at hc
    rcases hc with (rfl | ⟨d, -, hc⟩) | rfl | rfl
    · exact hquote
    · exact isPrintable_of_mem_doubleChar hc
    · exact hquote
    · exact hnewline

theorem isPrintable_of_mem_text {content : Content} (h : content.IsSingleLine) :
    ∀ c ∈ content.text, isPrintable c = true := by
  intro c hc
  cases content with
  | scalar s =>
    rcases List.mem_cons.mp hc with rfl | hc
    · rfl
    · exact isPrintable_of_mem_scalarLine h c hc
  | number n =>
    simp only [Content.text, List.cons_append, List.mem_cons, List.mem_append, List.not_mem_nil,
      or_false] at hc
    rcases hc with rfl | hc | rfl
    · rfl
    · exact (isPlain_digits n).printable c hc
    · rfl
  | list items =>
    cases items with
    | nil =>
      simp only [Content.text, List.mem_cons, List.not_mem_nil, or_false] at hc
      rcases hc with rfl | rfl | rfl | rfl <;> rfl
    | cons s items =>
      rcases List.mem_cons.mp hc with rfl | hc
      · rfl
      obtain ⟨t, ht, hc⟩ := List.mem_flatMap.mp hc
      simp only [itemLine, List.mem_cons] at hc
      rcases hc with rfl | rfl | hc
      · rfl
      · rfl
      · exact isPrintable_of_mem_scalarLine (h t ht) c hc

end Printable

/-- A written mapping is read back as the pairs that were written. -/
theorem pairs?_flatMap_pairText {pairs : List (String × Content)} (hne : pairs ≠ [])
    (hnames : ∀ x ∈ pairs, Lexer.IsName x.1.toList) (hcontents : ∀ x ∈ pairs, x.2.IsSingleLine) :
    pairs? (pairs.flatMap pairText) = some (pairs.map fun x => (x.1, x.2.value)) := by
  have hprintable : ∀ c ∈ pairs.flatMap pairText, isPrintable c = true := by
    intro c hc
    obtain ⟨x, hx, hc⟩ := List.mem_flatMap.mp hc
    rcases List.mem_append.mp hc with hc | hc
    · exact (hnames x hx).plain.printable c hc
    · rcases List.mem_cons.mp hc with rfl | hc
      · rfl
      · exact isPrintable_of_mem_text (hcontents x hx) c hc
  have hallowed : (pairs.flatMap pairText).all isAllowed = true :=
    List.all_eq_true.mpr fun c hc => isAllowed_of_isPrintable (hprintable c hc)
  obtain ⟨x, pairs, rfl⟩ := List.exists_cons_of_ne_nil hne
  rw [pairs?, if_pos hallowed, normalize_of_isPrintable hprintable,
    tokens?_pairs hnames hcontents, Option.bind_some, ofTokens?_pairs, Option.bind_some,
    pairs?_of_nodes]

end FileBridge.Yaml
