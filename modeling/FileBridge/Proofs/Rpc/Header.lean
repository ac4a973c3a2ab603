import FileBridge.Rpc.Frame
import FileBridge.Proofs.Text.Utf8

/-!
Header lines at the front of a stream. A line that ends in a line feed is read as its text, whatever
follows; a line that the stream ends in is never taken for a blank one, so a head that is cut short
always fails.
-/
namespace FileBridge

namespace Text

theorem lineFeed_mem_bytes_iff {s : String} : (10 : UInt8) ∈ bytes s ↔ '\n' ∈ s.toList := by
  rw [bytes_eq_flatMap, List.mem_flatMap]
  constructor
  · rintro ⟨c, hc, hb⟩
    have hnat : c.toNat = '\n'.toNat := eq_of_mem_utf8EncodeChar hb (by decide)
    rwa [Char.toNat_inj.mp hnat] at hc
  · intro hc
    exact ⟨'\n', hc, by decide⟩

end Text

namespace Rpc

theorem takeLine_of_not_mem {n : Nat} {input : List UInt8} (h : (10 : UInt8) ∉ input)
    (hn : input.length ≤ n) : takeLine n input = (input, []) := by
  induction input generalizing n with
  | nil => cases n <;> rfl
  | cons b input ih =>
    cases n with
    | zero => simp at hn
    | succ n =>
      have hb : b ≠ 10 := fun heq => h (heq ▸ List.mem_cons_self)
      have hrest := ih (n := n) (fun hmem => h (List.mem_cons_of_mem _ hmem)) (by simpa using hn)
      rw [takeLine, if_neg hb, hrest]

theorem takeLine_of_long {n : Nat} {input : List UInt8} (h : (10 : UInt8) ∉ input)
    (hn : n ≤ input.length) : (takeLine n input).1 = input.take n := by
  induction input generalizing n with
  | nil => cases n <;> rfl
  | cons b input ih =>
    cases n with
    | zero => rfl
    | succ n =>
      have hb : b ≠ 10 := fun heq => h (heq ▸ List.mem_cons_self)
      have hrest := ih (n := n) (fun hmem => h (List.mem_cons_of_mem _ hmem)) (by simpa using hn)
      rw [takeLine, if_neg hb, List.take_succ_cons, ← hrest]

theorem takeLine_append_lineFeed {n : Nat} {line : List UInt8} (h : (10 : UInt8) ∉ line)
    (hn : line.length < n) (rest : List UInt8) :
    takeLine n (line ++ 10 :: rest) = (line ++ [10], rest) := by
  induction line generalizing n with
  | nil =>
    cases n with
    | zero => simp at hn
    | succ n => simp [takeLine]
  | cons b line ih =>
    cases n with
    | zero => simp at hn
    | succ n =>
      have hb : b ≠ 10 := fun heq => h (heq ▸ List.mem_cons_self)
      have hrest := ih (n := n) (fun hmem => h (List.mem_cons_of_mem _ hmem)) (by simpa using hn)
      rw [List.cons_append, takeLine, if_neg hb, hrest]
      rfl

/-- A line of text as it stands in a head: it ends in its only line feed and is short enough. -/
structure IsLine (line : String) : Prop where
  ends : ∃ content, line.toList = content ++ ['\n'] ∧ '\n' ∉ content
  short : (Text.bytes line).length ≤ headerLineLimit

theorem exists_content {line : String}
    (h : ∃ content, line.toList = content ++ ['\n'] ∧ '\n' ∉ content) :
    ∃ content, Text.bytes line = content ++ [10] ∧ (10 : UInt8) ∉ content := by
  obtain ⟨content, hcontent, hnot⟩ := h
  have hline : line = String.ofList content ++ "\n" := by
    apply String.ext
    simpa using hcontent
  refine ⟨Text.bytes (String.ofList content), ?_, ?_⟩
  · rw [hline, Text.bytes_append]
    rfl
  · rw [Text.lineFeed_mem_bytes_iff, String.toList_ofList]
    exact hnot

theorem IsLine.takeLine {line : String} (h : IsLine line) (rest : List UInt8) :
    takeLine (headerLineLimit + 1) (Text.bytes line ++ rest) = (Text.bytes line, rest) := by
  obtain ⟨content, hcontent, hnot⟩ := exists_content h.ends
  have hshort := h.short
  rw [hcontent] at hshort ⊢
  simp only [List.length_append, List.length_singleton] at hshort
  rw [List.append_assoc, List.singleton_append]
  exact takeLine_append_lineFeed hnot (by omega) rest

theorem IsLine.firstLine {line : String} (h : IsLine line) (rest : List UInt8) :
    firstLine (Text.bytes line ++ rest) = Text.bytes line := by
  rw [Rpc.firstLine, h.takeLine]

theorem IsLine.afterLine {line : String} (h : IsLine line) (rest : List UInt8) :
    afterLine (Text.bytes line ++ rest) = rest := by
  rw [Rpc.afterLine, h.takeLine]

theorem IsLine.getLast? {line : String} (h : IsLine line) :
    (Text.bytes line).getLast? = some 10 := by
  obtain ⟨content, hcontent, -⟩ := exists_content h.ends
  rw [hcontent, List.getLast?_concat]

theorem IsLine.not_open {line : String} (h : IsLine line) :
    isOpenLine (Text.bytes line) = false := by
  simp [isOpenLine, h.getLast?]

theorem IsLine.ne_nil {line : String} (h : IsLine line) : Text.bytes line ≠ [] := by
  intro hnil
  have := h.getLast?
  simp [hnil] at this

/-- A header that gives a length is taken over, whatever was read before. -/
theorem readHead_header {line : String} (h : IsLine line)
    (hblank : isBlankLine line.toList = false) {n : Nat}
    (hheader : readHeader line.toList = .ok (some n)) (ended seen : Bool) (length : Option Nat)
    (rest : List UInt8) :
    readHead ended seen length (Text.bytes line ++ rest) = readHead ended true (some n) rest := by
  have hshort : ¬headerLineLimit < (Text.bytes line).length := Nat.not_lt.mpr h.short
  rw [readHead.eq_def]
  simp only [h.firstLine, h.afterLine, h.not_open, Bool.false_and, Bool.false_eq_true, if_false,
    dif_neg h.ne_nil, Text.ofBytes?_bytes, if_neg hshort, hblank, hheader]

/-- A blank line ends a head that gives a length. -/
theorem readHead_blankLine {line : String} (h : IsLine line)
    (hblank : isBlankLine line.toList = true) (ended : Bool) (n : Nat) (rest : List UInt8) :
    readHead ended true (some n) (Text.bytes line ++ rest) = .length n rest := by
  have hshort : ¬headerLineLimit < (Text.bytes line).length := Nat.not_lt.mpr h.short
  rw [readHead.eq_def]
  simp only [h.firstLine, h.afterLine, h.not_open, Bool.false_and, Bool.false_eq_true, if_false,
    dif_neg h.ne_nil, Text.ofBytes?_bytes, if_neg hshort, hblank, if_true]

theorem readHead_nil (seen : Bool) (length : Option Nat) :
    readHead true seen length [] = if seen then .failed .truncated else .finished := by
  rw [readHead.eq_def]
  simp [firstLine, takeLine]

theorem not_isBlankLine_of_not_mem {line : List Char} (h : '\n' ∉ line) :
    isBlankLine line = false := by
  rw [Bool.eq_false_iff]
  intro hblank
  simp only [isBlankLine, Bool.or_eq_true, decide_eq_true_eq] at hblank
  rcases hblank with rfl | rfl <;> simp at h

/-- A line that the stream ends in makes the head fail. -/
theorem readHead_unterminated {input : List UInt8} (h : (10 : UInt8) ∉ input) (hne : input ≠ [])
    (seen : Bool) (length : Option Nat) :
    ∃ cause, readHead true seen length input = .failed cause ∧ cause.isRecoverable = false := by
  rw [readHead.eq_def]
  simp only [Bool.not_true, Bool.and_false, Bool.false_eq_true, if_false]
  by_cases hlong : headerLineLimit < input.length
  · have hfirst : firstLine input = input.take (headerLineLimit + 1) := takeLine_of_long h hlong
    have hlength : (firstLine input).length = headerLineLimit + 1 := by
      rw [hfirst, List.length_take]
      omega
    have hfirst_ne : firstLine input ≠ [] := by
      intro hnil
      simp [hnil] at hlength
    rw [dif_neg hfirst_ne]
    cases Text.ofBytes? (firstLine input) with
    | none => exact ⟨_, rfl, rfl⟩
    | some text =>
      refine ⟨_, if_pos ?_, rfl⟩
      omega
  · have htake := takeLine_of_not_mem h (n := headerLineLimit + 1) (by omega)
    have hfirst : firstLine input = input := congrArg Prod.fst htake
    have hafter : afterLine input = [] := congrArg Prod.snd htake
    rw [hfirst, hafter, dif_neg hne]
    cases htext : Text.ofBytes? input with
    | none => exact ⟨_, rfl, rfl⟩
    | some text =>
      have hblank : isBlankLine text.toList = false := by
        apply not_isBlankLine_of_not_mem
        rw [← Text.lineFeed_mem_bytes_iff, ← Text.eq_bytes_of_ofBytes? htext]
        exact h
      simp only [if_neg hlong, hblank, Bool.false_eq_true, if_false]
      cases readHeader text.toList with
      | error cause => exact ⟨_, rfl, rfl⟩
      | ok found =>
        cases found with
        | none => exact ⟨.truncated, readHead_nil true length, rfl⟩
        | some n => exact ⟨.truncated, readHead_nil true (some n), rfl⟩

theorem readHead_cut_line {line : String} (h : IsLine line) {cut : Nat} (hpos : 0 < cut)
    (hcut : cut < (Text.bytes line).length) (seen : Bool) (length : Option Nat) :
    ∃ cause, readHead true seen length ((Text.bytes line).take cut) = .failed cause ∧
      cause.isRecoverable = false := by
  obtain ⟨content, hcontent, hnot⟩ := exists_content h.ends
  rw [hcontent] at hcut ⊢
  simp only [List.length_append, List.length_singleton] at hcut
  rw [List.take_append_of_le_length (by omega)]
  apply readHead_unterminated
  · exact fun hmem => hnot (List.mem_of_mem_take hmem)
  · intro hnil
    have := congrArg List.length hnil
    simp only [List.length_take, List.length_nil] at this
    omega

end Rpc

end FileBridge
