import Mathlib.Data.List.TakeDrop
import FileBridge.Proofs.Rpc.Header
import FileBridge.Proofs.Text.Decimal

/-!
Frames in a row. A frame at the front of a stream is read as its body alone is decoded, and reading
goes on right after it; a stream that ends inside a frame fails there. So a stream of frames that is
cut anywhere gives what its whole frames hold, and then ends cleanly or with one failure.
-/
namespace FileBridge

namespace Text

theorem not_isBlank_of_isDigit {c : Char} (h : c.isDigit = true) : isBlank c = false := by
  have hrange := toNat_of_isDigit h
  simp only [isBlank, Bool.or_eq_false_iff, Bool.and_eq_false_iff, decide_eq_false_iff_not,
    beq_eq_false_iff_ne]
  omega

/-- Trimming takes blanks off both ends of a text without any. -/
theorem trim_append {before s after : List Char} (hbefore : before.all isBlank = true)
    (hs : ∀ c ∈ s, isBlank c = false) (hne : s ≠ []) (hafter : after.all isBlank = true) :
    trim (before ++ s ++ after) = s := by
  have hkeep {t u : List Char} (ht : ∀ c ∈ t, isBlank c = false) (htne : t ≠ []) :
      (t ++ u).dropWhile isBlank = t ++ u := by
    cases t with
    | nil => exact absurd rfl htne
    | cons c t =>
      have := ht c List.mem_cons_self
      rw [List.cons_append, List.dropWhile_cons_of_neg (by simp [this])]
  have hstart : trimStart (before ++ s ++ after) = s ++ after := by
    rw [trimStart, List.append_assoc, List.dropWhile_append_of_pos (List.all_eq_true.mp hbefore),
      hkeep hs hne]
  have hrev : ∀ c ∈ s.reverse, isBlank c = false := fun c hc => hs c (List.mem_reverse.mp hc)
  rw [trim, hstart, trimEnd, List.reverse_append,
    List.dropWhile_append_of_pos fun c hc => List.all_eq_true.mp hafter c (List.mem_reverse.mp hc)]
  have := hkeep (u := []) hrev (by simpa using hne)
  rw [List.append_nil] at this
  rw [this, List.reverse_reverse]

end Text

namespace Rpc

/-- The header line that announces a body. -/
def lengthLine (n : Nat) : String :=
  "Content-Length: " ++ Text.decimal n ++ "\r\n"

-- Unfolding through the definition's own equation is slow: it compares the literals byte by byte.
theorem lengthLine_eq (n : Nat) : lengthLine n = "Content-Length: " ++ Text.decimal n ++ "\r\n" :=
  rfl

theorem frame_eq (body : List UInt8) :
    frame body = Text.bytes (lengthLine body.length) ++ (Text.bytes "\r\n" ++ body) := by
  have hends : "\r\n\r\n" = "\r\n" ++ "\r\n" := rfl
  rw [frame, hends, ← String.append_assoc, Text.bytes_append, List.append_assoc, lengthLine_eq]

theorem lengthLine_toList (n : Nat) :
    (lengthLine n).toList =
      "Content-Length".toList ++ ':' :: ([' '] ++ Text.digits n ++ ['\r', '\n']) := by
  simp [lengthLine_eq, Text.decimal]

theorem readLength?_digits {n : Nat} (h : n < natBound64) :
    readLength? (Text.digits n) = some n := by
  obtain ⟨c, rest, hcons, hdigit⟩ := Text.exists_digits_eq_cons n
  have hplus : c ≠ '+' := by
    rintro rfl
    simp at hdigit
  have hnatural := Text.natural?_digits n
  rw [hcons] at hnatural ⊢
  simp [readLength?, hplus, hnatural, h]

theorem span_lengthLine (n : Nat) :
    (lengthLine n).toList.span (fun c => decide (c ≠ ':')) =
      ("Content-Length".toList, ':' :: ([' '] ++ Text.digits n ++ ['\r', '\n'])) := by
  rw [lengthLine_toList, List.span_eq_takeWhile_dropWhile]
  rfl

theorem trim_lengthName : (Text.trim "Content-Length".toList).map Char.toLower = lengthHeader :=
  rfl

theorem trim_lengthValue (n : Nat) :
    Text.trim ([' '] ++ Text.digits n ++ ['\r', '\n']) = Text.digits n := by
  apply Text.trim_append
  · rfl
  · exact fun c hc => Text.not_isBlank_of_isDigit (Text.isDigit_of_mem_digits hc)
  · exact Text.digits_ne_nil n
  · rfl

theorem readHeader_lengthLine {n : Nat} (h : n < natBound64) :
    readHeader (lengthLine n).toList = .ok (some n) := by
  rw [readHeader, span_lengthLine]
  simp only [trim_lengthName, if_true, trim_lengthValue, readLength?_digits h]

theorem lengthLine_ends (n : Nat) :
    ∃ content, (lengthLine n).toList = content ++ ['\n'] ∧ '\n' ∉ content := by
  refine ⟨"Content-Length: ".toList ++ Text.digits n ++ ['\r'], ?_, ?_⟩
  · rw [lengthLine_toList]
    simp
  · simp only [List.mem_append, not_or]
    refine ⟨⟨by decide, fun hmem => ?_⟩, by decide⟩
    have := Text.isDigit_of_mem_digits hmem
    simp at this

theorem isLine_lengthLine {n : Nat} (h : n < natBound64) : IsLine (lengthLine n) where
  ends := lengthLine_ends n
  short := by
    have hdigits : (Text.digits n).length ≤ 19 + 1 :=
      Text.length_digits_le (Nat.lt_trans h (by decide))
    have hlength : (lengthLine n).length = 18 + (Text.digits n).length := by
      rw [← String.length_toList, lengthLine_toList]
      simp
      omega
    have hbytes := Text.length_bytes_le (lengthLine n)
    unfold headerLineLimit
    omega

theorem isLine_blank : IsLine "\r\n" where
  ends := ⟨['\r'], rfl, by decide⟩
  short := by decide

theorem not_isBlankLine_lengthLine (n : Nat) : isBlankLine (lengthLine n).toList = false := by
  rw [lengthLine_toList]
  rfl

theorem frame_length_pos (body : List UInt8) : 0 < (frame body).length := by
  rw [frame_eq, List.length_append, List.length_append]
  have : (Text.bytes "\r\n").length = 2 := rfl
  omega

theorem readHead_lengthLine {n : Nat} (h : n < natBound64) (ended seen : Bool)
    (length : Option Nat) (rest : List UInt8) :
    readHead ended seen length (Text.bytes (lengthLine n) ++ rest) =
      readHead ended true (some n) rest :=
  readHead_header (isLine_lengthLine h) (not_isBlankLine_lengthLine n) (readHeader_lengthLine h)
    ended seen length rest

theorem readHead_blank (ended : Bool) (n : Nat) (rest : List UInt8) :
    readHead ended true (some n) (Text.bytes "\r\n" ++ rest) = .length n rest :=
  readHead_blankLine isLine_blank rfl ended n rest

/-- What a body arrives as when it is decoded on its own. -/
def Arrival.ofBody (body : List UInt8) : Arrival :=
  match decode body with
  | .ok m => .message m
  | .error cause => .unusable cause

/-- The reading that delivers an arrival. -/
def Arrival.reading (rest : List UInt8) : Arrival → Reading
  | .message m => .message m rest
  | .unusable cause => .unusable cause rest

/-- A frame at the front of a stream is read as its body alone is decoded. -/
theorem read_frame {limit : Nat} {body : List UInt8} (h : body.length < natBound64)
    (hlimit : body.length ≤ limit) (ended : Bool) (rest : List UInt8) :
    read limit ended (frame body ++ rest) = (Arrival.ofBody body).reading rest := by
  have hhead : readHead ended false none (frame body ++ rest) =
      .length body.length (body ++ rest) := by
    rw [frame_eq, List.append_assoc, List.append_assoc, readHead_lengthLine h, readHead_blank]
  have hfits : ¬limit < body.length := Nat.not_lt.mpr hlimit
  have hall : ¬(body ++ rest).length < body.length := by simp
  simp only [read, hhead, if_neg hfits, if_neg hall, List.take_left, List.drop_left,
    Arrival.ofBody]
  cases decode body <;> rfl

theorem readFrames_arrival {limit : Nat} {ended : Bool} {input rest : List UInt8}
    {arrival : Arrival} (h : read limit ended input = arrival.reading rest) :
    readFrames limit ended input =
      (arrival :: (readFrames limit ended rest).1, (readFrames limit ended rest).2) := by
  rw [readFrames.eq_def]
  cases arrival with
  | message m => split <;> simp_all [Arrival.reading]
  | unusable cause => split <;> simp_all [Arrival.reading]

theorem readFrames_failed {limit : Nat} {ended : Bool} {input : List UInt8} {cause : ReadError}
    (h : read limit ended input = .failed cause) :
    readFrames limit ended input = ([], .failed cause) := by
  rw [readFrames.eq_def]
  split <;> simp_all

theorem readFrames_nil (limit : Nat) : readFrames limit true [] = ([], .finished) := by
  have h : read limit true [] = .finished := by rw [read, readHead_nil]; rfl
  rw [readFrames.eq_def]
  split <;> simp_all

theorem read_of_readHead_failed {limit : Nat} {ended : Bool} {input : List UInt8}
    (h : ∃ cause, readHead ended false none input = .failed cause ∧ cause.isRecoverable = false) :
    ∃ cause, read limit ended input = .failed cause ∧ cause.isRecoverable = false := by
  obtain ⟨cause, hhead, hcause⟩ := h
  exact ⟨cause, by rw [read, hhead], hcause⟩

/-- A stream that ends inside a frame fails: in the line that gives the length, in the blank line
after it, or for lack of a body that is long enough. -/
theorem read_cut_frame {limit : Nat} {body : List UInt8} (h : body.length < natBound64)
    (hlimit : body.length ≤ limit) {cut : Nat} (hpos : 0 < cut)
    (hcut : cut < (frame body).length) :
    ∃ cause, read limit true ((frame body).take cut) = .failed cause ∧
      cause.isRecoverable = false := by
  have htwo : (Text.bytes "\r\n").length = 2 := rfl
  rw [frame_eq] at hcut ⊢
  simp only [List.length_append] at hcut
  by_cases hline : cut < (Text.bytes (lengthLine body.length)).length
  · rw [List.take_append_of_le_length (Nat.le_of_lt hline)]
    exact read_of_readHead_failed (readHead_cut_line (isLine_lengthLine h) hpos hline false none)
  · obtain ⟨past, rfl⟩ := Nat.exists_eq_add_of_le (Nat.not_lt.mp hline)
    rw [List.take_length_add_append]
    by_cases hblank : past < (Text.bytes "\r\n").length
    · rw [List.take_append_of_le_length (Nat.le_of_lt hblank)]
      apply read_of_readHead_failed
      rw [readHead_lengthLine h]
      cases past with
      | zero => exact ⟨.truncated, readHead_nil true _, rfl⟩
      | succ past => exact readHead_cut_line isLine_blank (Nat.succ_pos past) hblank true _
    · obtain ⟨part, rfl⟩ := Nat.exists_eq_add_of_le (Nat.not_lt.mp hblank)
      rw [List.take_length_add_append]
      have hfits : ¬limit < body.length := Nat.not_lt.mpr hlimit
      have hshort : (body.take part).length < body.length := by
        rw [List.length_take]
        omega
      refine ⟨.truncated, ?_, rfl⟩
      simp only [read, readHead_lengthLine h, readHead_blank, if_neg hfits, if_pos hshort, if_true]

/-- What the first `cut` bytes of frames in a row give: the arrivals of the `whole` frames that lie
before the cut, then the end of the stream if the cut is where they end, and else a failure that
reading cannot go past. -/
structure CutOutcome (bodies : List (List UInt8)) (cut whole : Nat) (arrivals : List Arrival)
    (stop : Stop) : Prop where
  whole_le : whole ≤ bodies.length
  reached : ((bodies.take whole).flatMap frame).length ≤ cut
  unreached : whole < bodies.length → cut < ((bodies.take (whole + 1)).flatMap frame).length
  arrivals_eq : arrivals = (bodies.take whole).map Arrival.ofBody
  finished : cut = ((bodies.take whole).flatMap frame).length → stop = .finished
  failed : cut ≠ ((bodies.take whole).flatMap frame).length →
    ∃ cause, stop = .failed cause ∧ cause.isRecoverable = false

theorem cutOutcome_zero (bodies : List (List UInt8)) : CutOutcome bodies 0 0 [] .finished where
  whole_le := Nat.zero_le _
  reached := Nat.le_refl 0
  unreached := by
    intro h
    obtain ⟨body, later, rfl⟩ := List.exists_cons_of_length_pos h
    simp [frame_length_pos]
  arrivals_eq := rfl
  finished := fun _ => rfl
  failed := fun h => absurd rfl h

theorem cutOutcome_failed {body : List UInt8} {cut : Nat} (hpos : 0 < cut)
    (hcut : cut < (frame body).length) (bodies : List (List UInt8)) {cause : ReadError}
    (hcause : cause.isRecoverable = false) :
    CutOutcome (body :: bodies) cut 0 [] (.failed cause) where
  whole_le := Nat.zero_le _
  reached := Nat.zero_le _
  unreached := fun _ => by simpa using hcut
  arrivals_eq := rfl
  finished := fun h => absurd h (Nat.ne_of_gt hpos)
  failed := fun _ => ⟨cause, rfl, hcause⟩

theorem CutOutcome.cons {bodies : List (List UInt8)} {cut whole : Nat} {arrivals : List Arrival}
    {stop : Stop} (h : CutOutcome bodies cut whole arrivals stop) (body : List UInt8) :
    CutOutcome (body :: bodies) ((frame body).length + cut) (whole + 1)
      (Arrival.ofBody body :: arrivals) stop where
  whole_le := Nat.succ_le_succ h.whole_le
  reached := by simpa using h.reached
  unreached := by simpa using h.unreached
  arrivals_eq := by simpa using h.arrivals_eq
  finished := by simpa using h.finished
  failed := by simpa using h.failed

theorem ofBody_cases (body : List UInt8) :
    (∃ m, Arrival.ofBody body = .message m) ∨ Arrival.ofBody body = .unusable .notJson ∨
      ∃ misfit, Arrival.ofBody body = .unusable (.notMessage misfit) := by
  unfold Arrival.ofBody decode
  cases Json.parseBytes? body with
  | none => exact .inr (.inl rfl)
  | some v =>
    cases hmessage : Message.ofJson v with
    | ok m => exact .inl ⟨m, by simp only [hmessage]⟩
    | error misfit => exact .inr (.inr ⟨misfit, by simp only [hmessage]⟩)

/-- Frames in a row, cut anywhere, give what the whole frames among them hold, each decoded on its
own, and then the end of the stream or one failure. What a body holds never ends the stream. -/
theorem readFrames_cut_frames {limit cut : Nat} {bodies : List (List UInt8)}
    (hbound : limit < natBound64) (hlimit : ∀ body ∈ bodies, body.length ≤ limit)
    (hcut : cut ≤ (bodies.flatMap frame).length) :
    (∃ whole,
      CutOutcome bodies cut whole
        (readFrames limit true ((bodies.flatMap frame).take cut)).1
        (readFrames limit true ((bodies.flatMap frame).take cut)).2) ∧
      ∀ body ∈ bodies,
        (∃ m, Arrival.ofBody body = .message m) ∨ Arrival.ofBody body = .unusable .notJson ∨
          ∃ misfit, Arrival.ofBody body = .unusable (.notMessage misfit) := by
  refine ⟨?_, fun body _ => ofBody_cases body⟩
  induction bodies generalizing cut with
  | nil =>
    obtain rfl : cut = 0 := Nat.le_zero.mp hcut
    rw [List.take_zero, readFrames_nil]
    exact ⟨0, cutOutcome_zero []⟩
  | cons body bodies ih =>
    have hbody : body.length ≤ limit := hlimit body List.mem_cons_self
    have hbody64 : body.length < natBound64 := Nat.lt_of_le_of_lt hbody hbound
    rw [List.flatMap_cons] at hcut ⊢
    by_cases hframe : cut < (frame body).length
    · rw [List.take_append_of_le_length (Nat.le_of_lt hframe)]
      rcases Nat.eq_zero_or_pos cut with rfl | hpos
      · rw [List.take_zero, readFrames_nil]
        exact ⟨0, cutOutcome_zero _⟩
      · obtain ⟨cause, hread, hcause⟩ := read_cut_frame hbody64 hbody hpos hframe
        rw [readFrames_failed hread]
        exact ⟨0, cutOutcome_failed hpos hframe bodies hcause⟩
    · obtain ⟨later, rfl⟩ := Nat.exists_eq_add_of_le (Nat.not_lt.mp hframe)
      rw [List.length_append, Nat.add_le_add_iff_left] at hcut
      obtain ⟨whole, houtcome⟩ := ih (fun b hb => hlimit b (List.mem_cons_of_mem _ hb)) hcut
      rw [List.take_length_add_append, readFrames_arrival (read_frame hbody64 hbody true _)]
      exact ⟨whole + 1, houtcome.cons body⟩

/-- A body that reads like a frame of its own, one that is not text, and an empty array. -/
def awkwardBodies : List (List UInt8) :=
  [Text.bytes "Content-Length: 2\r\n\r\n{}", [255], Text.bytes "[]"]

/-- The cut falls between the carriage return and the line feed of the third frame's first line. -/
theorem readFrames_cut_awkwardBodies :
    64 < natBound64 ∧ (∀ body ∈ awkwardBodies, body.length ≤ 64) ∧
      85 ≤ (awkwardBodies.flatMap frame).length ∧
      (∃ whole,
        CutOutcome awkwardBodies 85 whole
          (readFrames 64 true ((awkwardBodies.flatMap frame).take 85)).1
          (readFrames 64 true ((awkwardBodies.flatMap frame).take 85)).2) ∧
      ∀ body ∈ awkwardBodies,
        (∃ m, Arrival.ofBody body = .message m) ∨ Arrival.ofBody body = .unusable .notJson ∨
          ∃ misfit, Arrival.ofBody body = .unusable (.notMessage misfit) :=
  have hbound : 64 < natBound64 := by decide
  have hlimit : ∀ body ∈ awkwardBodies, body.length ≤ 64 := by decide
  have hcut : 85 ≤ (awkwardBodies.flatMap frame).length := by decide +kernel
  ⟨hbound, hlimit, hcut, readFrames_cut_frames hbound hlimit hcut⟩

end Rpc

end FileBridge
