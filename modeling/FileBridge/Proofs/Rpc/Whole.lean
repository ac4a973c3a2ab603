import FileBridge.Proofs.Rpc.Bodies
import FileBridge.Proofs.Rpc.RoundTrip

/-!
Streams of whole frames. A frame is read to its end or makes the reader give up, however large its
body is. Main statement: a reader that goes on after messages were sent has nothing left over.
-/
namespace FileBridge.Rpc

theorem length_takeLine_of_long {n : Nat} {line : List UInt8} (h : (10 : UInt8) ∉ line)
    (hn : n ≤ line.length + 1) (rest : List UInt8) :
    (takeLine n (line ++ 10 :: rest)).1.length = n := by
  induction line generalizing n with
  | nil =>
    obtain rfl | rfl : n = 0 ∨ n = 1 := by
      rw [List.length_nil] at hn
      omega
    · rfl
    · rfl
  | cons b line ih =>
    cases n with
    | zero => rfl
    | succ n =>
      have hb : b ≠ 10 := fun heq => h (heq ▸ List.mem_cons_self)
      have hrest := ih (fun hmem => h (List.mem_cons_of_mem _ hmem)) (Nat.le_of_succ_le_succ hn)
      rw [List.cons_append, takeLine, if_neg hb]
      exact congrArg (· + 1) hrest

/-- A line that is too long makes the head fail. -/
theorem readHead_of_long {input : List UInt8} (h : headerLineLimit < (firstLine input).length)
    (ended seen : Bool) (length : Option Nat) :
    ∃ cause, readHead ended seen length input = .failed cause := by
  have hclosed : isOpenLine (firstLine input) = false := by
    simp [isOpenLine, Nat.not_le.mpr h]
  have hne : firstLine input ≠ [] := by
    intro hnil
    simp [hnil] at h
  rw [readHead.eq_def, hclosed, dif_neg hne]
  cases Text.ofBytes? (firstLine input) with
  | none => exact ⟨_, rfl⟩
  | some text => exact ⟨_, if_pos h⟩

theorem readHeader_lengthLine_of_le {n : Nat} (h : natBound64 ≤ n) :
    readHeader (lengthLine n).toList = .error (.badLength (Text.digits n)) := by
  have hlength : readLength? (Text.digits n) = none := by
    obtain ⟨c, rest, hcons, hdigit⟩ := Text.exists_digits_eq_cons n
    have hplus : c ≠ '+' := by
      rintro rfl
      simp at hdigit
    have hnatural := Text.natural?_digits n
    rw [hcons] at hnatural ⊢
    simp [readLength?, hplus, hnatural, h]
  rw [readHeader, span_lengthLine]
  simp only [trim_lengthName, if_true, trim_lengthValue, hlength]

/-- A length that does not fit makes the head fail, and if only because its line is too long. -/
theorem readHead_lengthLine_of_le {n : Nat} (h : natBound64 ≤ n) (ended seen : Bool)
    (length : Option Nat) (rest : List UInt8) :
    ∃ cause, readHead ended seen length (Text.bytes (lengthLine n) ++ rest) = .failed cause := by
  by_cases hshort : (Text.bytes (lengthLine n)).length ≤ headerLineLimit
  · have hline : IsLine (lengthLine n) := ⟨lengthLine_ends n, hshort⟩
    refine ⟨.badHeader (.badLength (Text.digits n)), ?_⟩
    rw [readHead.eq_def]
    simp only [hline.firstLine, hline.not_open, Bool.false_and, Bool.false_eq_true, if_false,
      dif_neg hline.ne_nil, Text.ofBytes?_bytes, if_neg (Nat.not_lt.mpr hshort),
      not_isBlankLine_lengthLine, readHeader_lengthLine_of_le h]
  · refine readHead_of_long ?_ ended seen length
    obtain ⟨content, hcontent, hnot⟩ := exists_content (lengthLine_ends n)
    rw [hcontent] at hshort ⊢
    simp only [List.length_append, List.length_singleton] at hshort
    rw [List.append_assoc, List.singleton_append, firstLine,
      length_takeLine_of_long hnot (by omega)]
    exact Nat.lt_succ_self _

/-- A frame is read to its end, or the reader gives up. -/
theorem read_frame_cases (limit : Nat) (body : List UInt8) (ended : Bool) (rest : List UInt8) :
    (∃ arrival : Arrival, read limit ended (frame body ++ rest) = arrival.reading rest) ∨
      ∃ cause, read limit ended (frame body ++ rest) = .failed cause := by
  rcases Nat.lt_or_ge body.length natBound64 with hbound | hbound
  · rcases Nat.lt_or_ge limit body.length with hlimit | hlimit
    · have hhead : readHead ended false none (frame body ++ rest) =
          .length body.length (body ++ rest) := by
        rw [frame_eq, List.append_assoc, List.append_assoc, readHead_lengthLine hbound,
          readHead_blank]
      exact .inr ⟨.tooLarge body.length limit, by simp only [read, hhead, if_pos hlimit]⟩
    · exact .inl ⟨_, read_frame hbound hlimit ended rest⟩
  · obtain ⟨cause, hcause⟩ := readHead_lengthLine_of_le hbound ended false none
      (Text.bytes "\r\n" ++ (body ++ rest))
    refine .inr ⟨cause, ?_⟩
    rw [frame_eq, List.append_assoc, List.append_assoc, read, hcause]

/-- What is left over makes no frame. -/
theorem readFrames_rest {limit : Nat} {ended : Bool} {input rest : List UInt8}
    (h : (readFrames limit ended input).2 = .starved rest) :
    readFrames limit ended rest = ([], .starved rest) := by
  fun_induction bodies limit input with
  | case1 input body behind hnext ih =>
    rw [readFrames_arrival (read_of_nextBody? hnext ended)] at h
    exact ih h
  | case2 input hnext =>
    have hstarved : read limit ended input = .starved := by
      rcases read_of_none hnext ended with ⟨hread, -⟩ | ⟨hread | ⟨cause, hread⟩, -⟩
      · exact hread
      · rw [readFrames.eq_def] at h
        split at h <;> simp_all
      · rw [readFrames_failed hread] at h
        cases h
    rw [readFrames_of_starved hstarved] at h
    obtain rfl := Stop.starved.inj h
    exact readFrames_of_starved hstarved

/-- After messages that were sent, nothing is left over unless the reader has given up. -/
theorem readFrames_whole (limit : Nat) (messages : List Message) :
    (readFrames limit false (messages.flatMap Message.encode)).2 = .starved [] ∨
      ∃ cause, (readFrames limit false (messages.flatMap Message.encode)).2 = .failed cause := by
  induction messages with
  | nil => exact .inl (congrArg Prod.snd (readFrames_starved_nil limit))
  | cons m rest ih =>
    rw [List.flatMap_cons, Message.encode]
    rcases read_frame_cases limit m.body false (rest.flatMap Message.encode) with
      ⟨arrival, hread⟩ | ⟨cause, hread⟩
    · rw [readFrames_arrival hread]
      exact ih
    · exact .inr ⟨cause, congrArg Prod.snd (readFrames_failed hread)⟩

end FileBridge.Rpc
