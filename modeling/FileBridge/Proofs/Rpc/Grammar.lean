import FileBridge.Proofs.Guard
import FileBridge.Proofs.Rpc.Bodies

/-!
The grammar of heads. A head is made of lines: line ends that stand alone, header lines, and the
line end that closes it. Which of these announce a body, and of which length, is said without the
reader; main statement: the reader takes exactly the heads of the grammar, ends cleanly exactly
after line ends alone, and gives up on all other input.
-/
namespace FileBridge

namespace Text

/-- What is left of a text without the white space at both ends. -/
structure IsTrimmed (s core : List Char) : Prop where
  whole : ∃ before after, s = before ++ core ++ after ∧
    (∀ c ∈ before, isBlank c = true) ∧ ∀ c ∈ after, isBlank c = true
  front : ∀ c, core.head? = some c → isBlank c = false
  back : ∀ c, core.getLast? = some c → isBlank c = false

theorem dropWhile_isBlank_append {before s : List Char} (hbefore : ∀ c ∈ before, isBlank c = true)
    (hs : ∀ c, s.head? = some c → isBlank c = false) : (before ++ s).dropWhile isBlank = s := by
  rw [List.dropWhile_append_of_pos hbefore]
  cases s with
  | nil => rfl
  | cons c s => rw [List.dropWhile_cons_of_neg (by simp [hs c rfl])]

theorem IsTrimmed.trim_eq {s core : List Char} (h : IsTrimmed s core) : trim s = core := by
  obtain ⟨before, after, rfl, hbefore, hafter⟩ := h.whole
  have hreverse : ∀ c ∈ after.reverse, isBlank c = true := fun c hc =>
    hafter c (List.mem_reverse.mp hc)
  have hend : trimEnd (core ++ after) = core := by
    rw [trimEnd, List.reverse_append, dropWhile_isBlank_append hreverse, List.reverse_reverse]
    intro c hc
    rw [List.head?_reverse] at hc
    exact h.back c hc
  rw [trim, trimStart, List.append_assoc]
  cases core with
  | nil =>
    -- Nothing but white space: the front takes it all.
    have hall : ∀ c ∈ before ++ ([] ++ after), isBlank c = true := by
      intro c hc
      rcases List.mem_append.mp hc with hc | hc
      · exact hbefore c hc
      · exact hafter c hc
    have hnil := dropWhile_isBlank_append (s := []) hall (fun c hc => by cases hc)
    rw [List.append_nil] at hnil
    rw [hnil]
    rfl
  | cons c core =>
    rw [dropWhile_isBlank_append hbefore, hend]
    exact fun d hd => h.front d hd

theorem isBlank_head?_dropWhile {s : List Char} {c : Char}
    (h : (s.dropWhile isBlank).head? = some c) : isBlank c = false := by
  have hnot := List.head?_dropWhile_not isBlank s
  rw [h] at hnot
  exact hnot

theorem isTrimmed_trim (s : List Char) : IsTrimmed s (trim s) := by
  have hfront := List.takeWhile_append_dropWhile (p := isBlank) (l := s)
  have hback := List.takeWhile_append_dropWhile (p := isBlank) (l := (trimStart s).reverse)
  have hstart : trimStart s = trim s ++ ((trimStart s).reverse.takeWhile isBlank).reverse := by
    rw [trim, trimEnd, ← List.reverse_append, hback, List.reverse_reverse]
  refine ⟨⟨s.takeWhile isBlank, ((trimStart s).reverse.takeWhile isBlank).reverse, ?_, ?_, ?_⟩,
    ?_, ?_⟩
  · rw [List.append_assoc, ← hstart, trimStart, hfront]
  · exact fun c hc => List.all_eq_true.mp List.all_takeWhile c hc
  · exact fun c hc => List.all_eq_true.mp List.all_takeWhile c (List.mem_reverse.mp hc)
  · intro c hc
    apply isBlank_head?_dropWhile (s := s)
    rw [← trimStart, hstart, List.head?_append, hc]
    rfl
  · intro c hc
    rw [trim, trimEnd, List.getLast?_reverse] at hc
    exact isBlank_head?_dropWhile hc

theorem isTrimmed_iff {s core : List Char} : IsTrimmed s core ↔ trim s = core :=
  ⟨IsTrimmed.trim_eq, fun h => h ▸ isTrimmed_trim s⟩

theorem natural?_eq_some_iff {s : List Char} {n : Nat} :
    natural? s = some n ↔ s ≠ [] ∧ (∀ d ∈ s, d.isDigit = true) ∧ valueOf s = n := by
  simp only [natural?, List.all_eq_true, Option.ite_none_right_eq_some, Option.some.injEq,
    and_assoc]

end Text

namespace Rpc

/-- The end of a line, which alone makes a blank line. -/
inductive LineEnd where
  | feed
  | returnFeed

def LineEnd.text : LineEnd → String
  | .feed => "\n"
  | .returnFeed => "\r\n"

/-- A header line: a name and, after the first colon, a value. -/
structure Header where
  line : String
  name : List Char
  value : List Char
  isLine : IsLine line
  parts : line.toList = name ++ ':' :: value
  colon : ':' ∉ name

/-- The header is the one that gives the length, whatever the case of its name. -/
def Header.NamesLength (header : Header) : Prop :=
  ∃ name, Text.IsTrimmed header.name name ∧ name.map Char.toLower = lengthHeader

/-- The value of the header is a length: digits, after a plus sign or not, that denote a number of
64 bits. -/
def Header.HasLength (header : Header) (n : Nat) : Prop :=
  ∃ value digits, Text.IsTrimmed header.value value ∧ (value = digits ∨ value = '+' :: digits) ∧
    digits ≠ [] ∧ (∀ d ∈ digits, d.isDigit = true) ∧ Text.valueOf digits = n ∧ n < natBound64

/-- Each header that names the length has one, and the last that does has this one. -/
structure Announces (headers : List Header) (n : Nat) : Prop where
  lengths : ∀ header ∈ headers, header.NamesLength → ∃ m, header.HasLength m
  last : ∃ before header after, headers = before ++ header :: after ∧ header.NamesLength ∧
    header.HasLength n ∧ ∀ other ∈ after, ¬other.NamesLength

def blankLines (ends : List LineEnd) : List UInt8 :=
  ends.flatMap fun e => Text.bytes e.text

def headerLines (headers : List Header) : List UInt8 :=
  headers.flatMap fun header => Text.bytes header.line

/-- The lines of a head. -/
structure HeadLines where
  stray : List LineEnd
  headers : List Header
  closing : LineEnd

def HeadLines.bytes (head : HeadLines) : List UInt8 :=
  blankLines head.stray ++ headerLines head.headers ++ Text.bytes head.closing.text

theorem HeadLines.bytes_stray (e : LineEnd) (head : HeadLines) :
    { head with stray := e :: head.stray }.bytes = Text.bytes e.text ++ head.bytes := by
  simp [bytes, blankLines]

theorem HeadLines.bytes_header (header : Header) {head : HeadLines} (h : head.stray = []) :
    { head with headers := header :: head.headers }.bytes =
      Text.bytes header.line ++ head.bytes := by
  simp [bytes, headerLines, blankLines, h]

/-! ### Single lines -/

theorem LineEnd.isLine (e : LineEnd) : IsLine e.text := by
  cases e with
  | feed => exact ⟨⟨[], rfl, by simp⟩, by decide⟩
  | returnFeed => exact ⟨⟨['\r'], rfl, by simp⟩, by decide⟩

theorem LineEnd.isBlankLine (e : LineEnd) : isBlankLine e.text.toList = true := by
  cases e <;> rfl

theorem exists_lineEnd {line : String} (h : isBlankLine line.toList = true) :
    ∃ e : LineEnd, line = e.text := by
  simp only [isBlankLine, Bool.or_eq_true, decide_eq_true_eq] at h
  rcases h with h | h
  · exact ⟨.returnFeed, String.toList_inj.mp h⟩
  · exact ⟨.feed, String.toList_inj.mp h⟩

theorem Header.not_isBlankLine (header : Header) : isBlankLine header.line.toList = false := by
  rw [Bool.eq_false_iff]
  intro hblank
  obtain ⟨e, he⟩ := exists_lineEnd hblank
  have hcolon : ':' ∈ header.line.toList := by simp [header.parts]
  rw [he] at hcolon
  cases e <;> simp [LineEnd.text] at hcolon

theorem Header.namesLength_iff (header : Header) :
    header.NamesLength ↔ (Text.trim header.name).map Char.toLower = lengthHeader := by
  simp only [NamesLength, Text.isTrimmed_iff, exists_eq_left']

theorem readLength?_eq_some_iff {value : List Char} {n : Nat} :
    readLength? value = some n ↔
      ∃ digits, (value = digits ∨ value = '+' :: digits) ∧ digits ≠ [] ∧
        (∀ d ∈ digits, d.isDigit = true) ∧ Text.valueOf digits = n ∧ n < natBound64 := by
  constructor
  · intro h
    revert h
    fun_cases readLength? value with
    | case1 digits m hm hbound =>
      intro h
      obtain rfl := Option.some.inj h
      obtain ⟨hne, hall, hvalue⟩ := Text.natural?_eq_some_iff.mp hm
      refine ⟨digits, ?_, hne, hall, hvalue, hbound⟩
      simp only [digits]
      split
      · exact .inr rfl
      · exact .inl rfl
    | _ => exact fun h => by cases h
  · rintro ⟨digits, hvalue, hne, hall, hn, hbound⟩
    have hnatural := Text.natural?_eq_some_iff.mpr ⟨hne, hall, hn⟩
    rcases hvalue with rfl | rfl
    · cases value with
      | nil => exact absurd rfl hne
      | cons c rest =>
        have hplus : c ≠ '+' := by
          rintro rfl
          exact absurd (hall '+' List.mem_cons_self) (by decide)
        simp [readLength?, hplus, hnatural, hbound]
    · simp [readLength?, hnatural, hbound]

theorem Header.hasLength_iff (header : Header) {n : Nat} :
    header.HasLength n ↔ readLength? (Text.trim header.value) = some n := by
  simp only [HasLength, Text.isTrimmed_iff, readLength?_eq_some_iff]
  constructor
  · rintro ⟨value, digits, rfl, hdigits⟩
    exact ⟨digits, hdigits⟩
  · rintro ⟨digits, hdigits⟩
    exact ⟨_, digits, rfl, hdigits⟩

theorem Header.exists_span (header : Header) :
    ∃ c, header.line.toList.span (fun c => decide (c ≠ ':')) =
      (header.name, c :: header.value) := by
  have hcut := Text.cutFirst?_eq_some_iff.mpr ⟨header.parts, header.colon⟩
  unfold Text.cutFirst? at hcut
  split at hcut
  · cases hcut
  next before c after hspan =>
    obtain ⟨rfl, rfl⟩ := Prod.mk.inj (Option.some.inj hcut)
    exact ⟨c, hspan⟩

theorem Header.readHeader_other {header : Header} (h : ¬header.NamesLength) :
    readHeader header.line.toList = .ok none := by
  obtain ⟨c, hspan⟩ := header.exists_span
  rw [readHeader, hspan]
  exact if_neg (header.namesLength_iff.not.mp h)

theorem Header.readHeader_length {header : Header} (h : header.NamesLength) {n : Nat}
    (hn : header.HasLength n) : readHeader header.line.toList = .ok (some n) := by
  obtain ⟨c, hspan⟩ := header.exists_span
  rw [readHeader, hspan]
  simp only [if_pos (header.namesLength_iff.mp h), header.hasLength_iff.mp hn]

/-- A line that is read as a header is one. -/
theorem exists_header {line : String} (hline : IsLine line) {found : Option Nat}
    (h : readHeader line.toList = .ok found) :
    ∃ header : Header, header.line = line ∧
      ((found = none ∧ ¬header.NamesLength) ∨
        ∃ n, found = some n ∧ header.NamesLength ∧ header.HasLength n) := by
  unfold readHeader at h
  split at h
  · cases h
  next name c value hspan =>
    have hcut : Text.cutFirst? ':' line.toList = some (name, value) := by
      rw [Text.cutFirst?, hspan]
    obtain ⟨hparts, hcolon⟩ := Text.cutFirst?_eq_some_iff.mp hcut
    let header : Header := ⟨line, name, value, hline, hparts, hcolon⟩
    refine ⟨header, rfl, ?_⟩
    split at h
    next hname =>
      simp only at h
      split at h
      next n hn =>
        obtain rfl := Except.ok.inj h
        exact .inr ⟨n, rfl, header.namesLength_iff.mpr hname, header.hasLength_iff.mpr hn⟩
      · cases h
    next hname =>
      obtain rfl := Except.ok.inj h
      exact .inl ⟨rfl, header.namesLength_iff.not.mpr hname⟩

theorem exists_content_of_getLast? {k : Nat} {input : List UInt8}
    (h : (takeLine k input).1.getLast? = some 10) :
    ∃ content, (takeLine k input).1 = content ++ [10] ∧ (10 : UInt8) ∉ content := by
  fun_induction takeLine k input with
  | case1 => simp at h
  | case2 => simp at h
  | case3 => exact ⟨[], rfl, by simp⟩
  | case4 k b input hb line rest hline ih =>
    have hlast : line.getLast? = some 10 := by
      rw [List.getLast?_cons] at h
      cases hlast : line.getLast? with
      | none => simp [hlast, hb] at h
      | some c => simpa [hlast] using h
    rw [hline] at ih
    obtain ⟨content, hcontent, hnot⟩ := ih hlast
    exact ⟨b :: content, congrArg (b :: ·) hcontent, by simp [Ne.symm hb, hnot]⟩

/-- Text that ends in its only line feed byte ends in its only line feed. -/
theorem exists_ends {text : String} {content : List UInt8} (h : Text.bytes text = content ++ [10])
    (hnot : (10 : UInt8) ∉ content) :
    ∃ chars, text.toList = chars ++ ['\n'] ∧ '\n' ∉ chars := by
  have hmem : '\n' ∈ text.toList := by
    rw [← Text.lineFeed_mem_bytes_iff, h]
    simp
  obtain ⟨chars, after, htext, hchars⟩ := List.eq_append_cons_of_mem hmem
  refine ⟨chars, ?_, hchars⟩
  have hbytes : Text.bytes text =
      Text.bytes (String.ofList chars) ++ 10 :: Text.bytes (String.ofList after) := by
    have hparts : text = String.ofList chars ++ "\n" ++ String.ofList after := by
      apply String.ext
      simpa using htext
    rw [hparts, Text.bytes_append, Text.bytes_append, List.append_assoc]
    rfl
  have hfront : (10 : UInt8) ∉ Text.bytes (String.ofList chars) := by
    rw [Text.lineFeed_mem_bytes_iff, String.toList_ofList]
    exact hchars
  -- Both cuts are at the first line feed, so they leave the same behind.
  have hcut := takeLine_append_lineFeed hfront (n := (Text.bytes text).length) (by
    rw [hbytes, List.length_append, List.length_cons]
    omega) (Text.bytes (String.ofList after))
  have hcut' := takeLine_append_lineFeed hnot (n := (Text.bytes text).length) (by
    rw [h, List.length_append, List.length_singleton]
    omega) []
  rw [← hbytes] at hcut
  rw [← h, hcut] at hcut'
  have hafter : Text.bytes (String.ofList after) = Text.bytes "" := (Prod.mk.inj hcut').2
  have hempty := congrArg Text.ofBytes? hafter
  rw [Text.ofBytes?_bytes, Text.ofBytes?_bytes] at hempty
  rw [htext, ← String.toList_ofList (l := after), Option.some.inj hempty]
  rfl

/-- A line that has been taken whole, and is text, is a line as it stands in a head. -/
theorem isLine_of_closed {input : List UInt8} {text : String}
    (hclosed : ¬(isOpenLine (firstLine input) && !false) = true)
    (htext : Text.ofBytes? (firstLine input) = some text)
    (hshort : ¬headerLineLimit < (firstLine input).length) : IsLine text := by
  have hbytes := Text.eq_bytes_of_ofBytes? htext
  have hlast : (firstLine input).getLast? = some 10 := by
    simpa [isOpenLine, Nat.not_lt.mp hshort] using hclosed
  obtain ⟨content, hcontent, hnot⟩ := exists_content_of_getLast? hlast
  refine ⟨exists_ends ?_ hnot, ?_⟩
  · rw [← hbytes]
    exact hcontent
  · rw [← hbytes]
    exact Nat.not_lt.mp hshort

/-! ### Header lines in a row -/

/-- The length that was given before some header lines, and the one that is given after them. -/
inductive Counts : Option Nat → List Header → Option Nat → Prop
  | nil (length : Option Nat) : Counts length [] length
  | other {length length' : Option Nat} {header : Header} {rest : List Header}
    (hname : ¬header.NamesLength) (hrest : Counts length rest length') :
    Counts length (header :: rest) length'
  | given {length length' : Option Nat} {header : Header} {rest : List Header} {n : Nat}
    (hname : header.NamesLength) (hn : header.HasLength n) (hrest : Counts (some n) rest length') :
    Counts length (header :: rest) length'

theorem Counts.append {length length' length'' : Option Nat} {front back : List Header}
    (hfront : Counts length front length') (hback : Counts length' back length'') :
    Counts length (front ++ back) length'' := by
  induction hfront with
  | nil => exact hback
  | other hname _ ih => exact .other hname (ih hback)
  | given hname hn _ ih => exact .given hname hn (ih hback)

theorem counts_others {headers : List Header} (h : ∀ header ∈ headers, ¬header.NamesLength)
    (length : Option Nat) : Counts length headers length := by
  induction headers with
  | nil => exact .nil length
  | cons header rest ih =>
    exact .other (h header List.mem_cons_self) (ih fun other hother =>
      h other (List.mem_cons_of_mem _ hother))

theorem exists_counts {headers : List Header}
    (h : ∀ header ∈ headers, header.NamesLength → ∃ m, header.HasLength m) (length : Option Nat) :
    ∃ length', Counts length headers length' := by
  induction headers generalizing length with
  | nil => exact ⟨length, .nil length⟩
  | cons header rest ih =>
    have hrest := ih fun other hother => h other (List.mem_cons_of_mem _ hother)
    by_cases hname : header.NamesLength
    · obtain ⟨m, hm⟩ := h header List.mem_cons_self hname
      obtain ⟨length', hlength'⟩ := hrest (some m)
      exact ⟨length', .given hname hm hlength'⟩
    · obtain ⟨length', hlength'⟩ := hrest length
      exact ⟨length', .other hname hlength'⟩

theorem Counts.lengths {length length' : Option Nat} {headers : List Header}
    (h : Counts length headers length') :
    ∀ header ∈ headers, header.NamesLength → ∃ m, header.HasLength m := by
  induction h with
  | nil => exact fun header hmem => by cases hmem
  | other hname _ ih =>
    intro header hmem hnames
    rcases List.mem_cons.mp hmem with rfl | hmem
    · exact absurd hnames hname
    · exact ih header hmem hnames
  | given _ hn _ ih =>
    intro header hmem hnames
    rcases List.mem_cons.mp hmem with rfl | hmem
    · exact ⟨_, hn⟩
    · exact ih header hmem hnames

/-- The length that counts is that of the last header that gives one, or else the one before. -/
theorem Counts.last {length : Option Nat} {headers : List Header} {n : Nat}
    (h : Counts length headers (some n)) :
    (length = some n ∧ ∀ header ∈ headers, ¬header.NamesLength) ∨
      ∃ before header after, headers = before ++ header :: after ∧ header.NamesLength ∧
        header.HasLength n ∧ ∀ other ∈ after, ¬other.NamesLength := by
  obtain ⟨length', hlength'⟩ : ∃ length' : Option Nat, length' = some n := ⟨_, rfl⟩
  rw [← hlength'] at h
  induction h with
  | nil => exact .inl ⟨hlength', fun header hmem => by cases hmem⟩
  | @other _ _ header _ hname _ ih =>
    rcases ih hlength' with ⟨hlength, hrest⟩ | ⟨before, last, after, rfl, hlast⟩
    · exact .inl ⟨hlength, List.forall_mem_cons.mpr ⟨hname, hrest⟩⟩
    · exact .inr ⟨header :: before, last, after, rfl, hlast⟩
  | @given _ _ header rest m hname hm _ ih =>
    rcases ih hlength' with ⟨hlength, hrest⟩ | ⟨before, last, after, rfl, hlast⟩
    · obtain rfl := Option.some.inj hlength
      exact .inr ⟨[], header, rest, rfl, hname, hm, hrest⟩
    · exact .inr ⟨header :: before, last, after, rfl, hlast⟩

theorem counts_iff_announces {headers : List Header} {n : Nat} :
    Counts none headers (some n) ↔ Announces headers n := by
  constructor
  · intro h
    refine ⟨h.lengths, h.last.resolve_left ?_⟩
    rintro ⟨hnone, -⟩
    cases hnone
  · rintro ⟨hlengths, before, header, after, rfl, hname, hn, hafter⟩
    have hfront : ∀ other ∈ before, other.NamesLength → ∃ m, other.HasLength m :=
      fun other hother => hlengths other (List.mem_append_left _ hother)
    obtain ⟨length, hbefore⟩ := exists_counts hfront none
    exact hbefore.append (.given hname hn (counts_others hafter (some n)))

/-! ### Reading the lines -/

variable {ended seen : Bool} {length : Option Nat} {input rest : List UInt8} {n : Nat}

theorem readHead_other {header : Header} (h : ¬header.NamesLength) (ended seen : Bool)
    (length : Option Nat) (rest : List UInt8) :
    readHead ended seen length (Text.bytes header.line ++ rest) =
      readHead ended true length rest := by
  have hline := header.isLine
  have hshort : ¬headerLineLimit < (Text.bytes header.line).length := Nat.not_lt.mpr hline.short
  rw [readHead.eq_def]
  simp only [hline.firstLine, hline.afterLine, hline.not_open, Bool.false_and, Bool.false_eq_true,
    if_false, dif_neg hline.ne_nil, Text.ofBytes?_bytes, if_neg hshort, header.not_isBlankLine,
    header.readHeader_other h]

theorem readHead_stray (e : LineEnd) (ended : Bool) (length : Option Nat) (rest : List UInt8) :
    readHead ended false length (Text.bytes e.text ++ rest) = readHead ended false length rest := by
  have hline := e.isLine
  have hshort : ¬headerLineLimit < (Text.bytes e.text).length := Nat.not_lt.mpr hline.short
  rw [readHead.eq_def]
  simp only [hline.firstLine, hline.afterLine, hline.not_open, Bool.false_and, Bool.false_eq_true,
    if_false, dif_neg hline.ne_nil, Text.ofBytes?_bytes, if_neg hshort, e.isBlankLine, if_true]

theorem readHead_blankLines (ends : List LineEnd) (ended : Bool) (length : Option Nat)
    (rest : List UInt8) :
    readHead ended false length (blankLines ends ++ rest) = readHead ended false length rest := by
  induction ends with
  | nil => rfl
  | cons e ends ih =>
    rw [blankLines, List.flatMap_cons, List.append_assoc, readHead_stray]
    exact ih

/-- Header lines are read one after the other; if there are any, a header has been seen. -/
theorem readHead_headerLines {length' : Option Nat} {headers : List Header}
    (h : Counts length headers length') (ended seen : Bool) (rest : List UInt8) :
    readHead ended seen length (headerLines headers ++ rest) =
      readHead ended (seen || !headers.isEmpty) length' rest := by
  induction h generalizing seen with
  | nil => simp [headerLines]
  | other hname _ ih =>
    rw [headerLines, List.flatMap_cons, List.append_assoc, readHead_other hname]
    simpa [headerLines] using ih true
  | @given _ _ header _ _ hname hn _ ih =>
    rw [headerLines, List.flatMap_cons, List.append_assoc,
      readHead_header header.isLine header.not_isBlankLine (header.readHeader_length hname hn)]
    simpa [headerLines] using ih true

theorem readHead_bytes (head : HeadLines) (h : Announces head.headers n) (ended : Bool)
    (rest : List UInt8) : readHead ended false none (head.bytes ++ rest) = .length n rest := by
  have hany : head.headers.isEmpty = false := by
    obtain ⟨before, header, after, hheaders, -⟩ := h.last
    simp [hheaders]
  rw [HeadLines.bytes, List.append_assoc, List.append_assoc, readHead_blankLines,
    readHead_headerLines (counts_iff_announces.mpr h), hany]
  exact readHead_blankLine head.closing.isLine head.closing.isBlankLine ended n rest

theorem eq_bytes_append {text : String} (h : Text.ofBytes? (firstLine input) = some text) :
    input = Text.bytes text ++ afterLine input := by
  rw [← Text.eq_bytes_of_ofBytes? h]
  exact (takeLine_append _ input).symm

/-- What the reader takes for a head is one, from wherever it has got to. -/
theorem exists_headLines (h : readHead false seen length input = .length n rest) :
    ∃ head : HeadLines, input = head.bytes ++ rest ∧ Counts length head.headers (some n) ∧
      (seen = true → head.stray = []) := by
  fun_induction readHead false seen length input with
  | case6 input _ _ text htext _ hblank m =>
    obtain ⟨rfl, rfl⟩ := Head.length.inj h
    obtain ⟨e, rfl⟩ := exists_lineEnd hblank
    exact ⟨⟨[], [], e⟩, eq_bytes_append htext, .nil _, fun _ => rfl⟩
  | case8 seen length input _ _ text htext _ hblank hseen ih =>
    obtain ⟨e, rfl⟩ := exists_lineEnd hblank
    obtain ⟨head, hafter, hcounts, -⟩ := ih h
    refine ⟨{ head with stray := e :: head.stray }, ?_, hcounts, fun htrue => absurd htrue hseen⟩
    rw [eq_bytes_append htext, hafter, HeadLines.bytes_stray, List.append_assoc]
  | case10 seen length input hclosed _ text htext hshort _ m hheader ih =>
    obtain ⟨header, rfl, hfound⟩ := exists_header (isLine_of_closed hclosed htext hshort) hheader
    obtain ⟨hnone, -⟩ | ⟨_, hm, hname, hlength⟩ := hfound
    · cases hnone
    obtain rfl := Option.some.inj hm
    obtain ⟨head, hafter, hcounts, hstray⟩ := ih h
    refine ⟨{ head with headers := header :: head.headers }, ?_, .given hname hlength hcounts,
      fun _ => hstray rfl⟩
    rw [eq_bytes_append htext, hafter, HeadLines.bytes_header header (hstray rfl),
      List.append_assoc]
  | case11 seen length input hclosed _ text htext hshort _ hheader ih =>
    obtain ⟨header, rfl, hfound⟩ := exists_header (isLine_of_closed hclosed htext hshort) hheader
    obtain ⟨-, hname⟩ | ⟨_, hsome, -⟩ := hfound
    · obtain ⟨head, hafter, hcounts, hstray⟩ := ih h
      refine ⟨{ head with headers := header :: head.headers }, ?_, .other hname hcounts,
        fun _ => hstray rfl⟩
      rw [eq_bytes_append htext, hafter, HeadLines.bytes_header header (hstray rfl),
        List.append_assoc]
    · cases hsome
  | _ => cases h

/-- A head is found without knowing that the stream has ended. -/
theorem readHead_of_length (h : readHead ended seen length input = .length n rest) :
    readHead false seen length input = .length n rest := by
  cases ended with
  | false => exact h
  | true =>
    cases hhead : readHead false seen length input with
    | starved => exact absurd h (readHead_of_starved hhead n rest)
    | finished => exact absurd hhead readHead_ne_finished
    | failed cause =>
      have hended := readHead_append_of_failed hhead true []
      rw [List.append_nil, h] at hended
      cases hended
    | length m behind =>
      have hended := readHead_append_of_length hhead true []
      rw [List.append_nil, List.append_nil, h] at hended
      exact hended.symm

theorem eq_nil_of_firstLine (h : firstLine input = []) : input = [] := by
  cases input with
  | nil => rfl
  | cons b input =>
    rw [firstLine, takeLine] at h
    split at h <;> cases h

/-- A stream ends cleanly only after line ends. -/
theorem exists_blankLines (h : readHead true seen length input = .finished) :
    seen = false ∧ ∃ ends, input = blankLines ends := by
  fun_induction readHead true seen length input with
  | case3 seen length input _ hnil hseen =>
    exact ⟨by simpa using hseen, [], eq_nil_of_firstLine hnil⟩
  | case8 seen length input _ _ text htext _ hblank hseen ih =>
    obtain ⟨e, rfl⟩ := exists_lineEnd hblank
    obtain ⟨hfalse, ends, hafter⟩ := ih h
    refine ⟨hfalse, e :: ends, ?_⟩
    rw [eq_bytes_append htext, hafter]
    rfl
  | case10 seen length input _ _ text _ _ _ m _ ih => cases (ih h).1
  | case11 seen length input _ _ text _ _ _ _ ih => cases (ih h).1
  | _ => cases h

theorem not_isRecoverable_of_failed {cause : ReadError}
    (h : readHead ended seen length input = .failed cause) : cause.isRecoverable = false := by
  fun_induction readHead ended seen length input with
  | case8 _ _ _ _ _ _ _ _ _ _ ih => exact ih h
  | case10 _ _ _ _ _ _ _ _ _ _ _ ih => exact ih h
  | case11 _ _ _ _ _ _ _ _ _ _ ih => exact ih h
  | _ => cases h <;> rfl

/-- The reader finds a body announced exactly if the input starts with lines that announce one, and
goes on right after them, whether or not the stream has ended. An input that is all there is ends
cleanly exactly if it is made of line ends, and every other one is given up for good. -/
theorem readHead_outcomes (input : List UInt8) :
    (∀ ended n rest, readHead ended false none input = .length n rest ↔
      ∃ head : HeadLines, input = head.bytes ++ rest ∧ Announces head.headers n) ∧
    (readHead true false none input = .finished ↔ ∃ ends, input = blankLines ends) ∧
    ((∃ cause, readHead true false none input = .failed cause ∧ cause.isRecoverable = false) ↔
      (¬∃ (head : HeadLines) (n : Nat) (rest : List UInt8),
        input = head.bytes ++ rest ∧ Announces head.headers n) ∧
      ¬∃ ends, input = blankLines ends) := by
  have hlength (ended : Bool) (n : Nat) (rest : List UInt8) :
      readHead ended false none input = .length n rest ↔
        ∃ head : HeadLines, input = head.bytes ++ rest ∧ Announces head.headers n := by
    constructor
    · intro h
      obtain ⟨head, hinput, hcounts, -⟩ := exists_headLines (readHead_of_length h)
      exact ⟨head, hinput, counts_iff_announces.mp hcounts⟩
    · rintro ⟨head, rfl, hannounces⟩
      exact readHead_bytes head hannounces ended rest
  have hfinished :
      readHead true false none input = .finished ↔ ∃ ends, input = blankLines ends := by
    constructor
    · exact fun h => (exists_blankLines h).2
    · rintro ⟨ends, rfl⟩
      rw [← List.append_nil (blankLines ends), readHead_blankLines]
      exact readHead_nil false none
  refine ⟨hlength, hfinished, ?_⟩
  rw [← hfinished]
  constructor
  · rintro ⟨cause, hfailed, -⟩
    refine ⟨?_, by simp [hfailed]⟩
    rintro ⟨head, n, rest, hhead⟩
    have := (hlength true n rest).mpr ⟨head, hhead⟩
    rw [hfailed] at this
    cases this
  · rintro ⟨hnone, hgoes⟩
    cases hhead : readHead true false none input with
    | starved => exact absurd hhead readHead_ne_starved
    | finished => exact absurd hhead hgoes
    | failed cause => exact ⟨cause, rfl, not_isRecoverable_of_failed hhead⟩
    | length n rest =>
      obtain ⟨head, hlines⟩ := (hlength true n rest).mp hhead
      exact absurd ⟨head, n, rest, hlines⟩ hnone

end Rpc

end FileBridge
