import FileBridge.Proofs.Rpc.Grammar

/-!
Reading until there is nothing more to read. Inside a head every line takes a byte at least, and so
does every attempt that delivers something, whatever the length of the body. Main statement: on
input that is all there is, no more lines are taken for a head than there are bytes, no more
attempts are made than there are bytes and one, and the last of them finds the end of the stream or
fails for good.
-/
namespace FileBridge.Rpc

/-- The input starts with a line of text that is short enough. -/
structure StartsWithLine (input : List UInt8) (text : String) : Prop where
  ne_nil : input ≠ []
  text : Text.ofBytes? (firstLine input) = some text
  short : (firstLine input).length ≤ headerLineLimit

variable {limit : Nat} {seen : Bool} {length : Option Nat} {input rest : List UInt8}

theorem firstLine_ne_nil (h : input ≠ []) : firstLine input ≠ [] :=
  fun hnil => h (eq_nil_of_firstLine hnil)

theorem not_open_of_ended (line : List UInt8) : ¬(isOpenLine line && !true) = true := by
  simp

/-- A blank line closes a head, or is passed over before the first header. -/
theorem StartsWithLine.readHead_blank {text : String} (h : StartsWithLine input text)
    (hblank : isBlankLine text.toList = true) :
    readHead true seen length input =
      if seen then
        length.elim (.failed (.badHeader .noLength)) fun n => .length n (afterLine input)
      else readHead true seen length (afterLine input) := by
  rw [readHead.eq_def, if_neg (not_open_of_ended _), dif_neg (firstLine_ne_nil h.ne_nil), h.text]
  simp only [if_neg (Nat.not_lt.mpr h.short), hblank, if_true]
  cases length <;> rfl

/-- What an attempt delivers. -/
def Reading.arrival? : Reading → Option Arrival
  | .message m _ => some (.message m)
  | .unusable cause _ => some (.unusable cause)
  | .finished => none
  | .failed _ => none
  | .starved => none

@[simp] theorem Arrival.rest?_reading (a : Arrival) : (a.reading rest).rest? = some rest := by
  cases a <;> rfl

@[simp] theorem Arrival.arrival?_reading (a : Arrival) : (a.reading rest).arrival? = some a := by
  cases a <;> rfl

/-- Attempts on input that is all there is, at most as many as the first number says. Each starts
where the one before it left off. -/
def attempts (limit : Nat) : Nat → List UInt8 → List Reading
  | 0, _ => []
  | n + 1, input =>
    read limit true input :: (read limit true input).rest?.elim [] (attempts limit n)

theorem ofBody_isRecoverable {body : List UInt8} {cause : ReadError}
    (h : Arrival.ofBody body = .unusable cause) : cause.isRecoverable = true := by
  rcases ofBody_cases body with ⟨m, heq⟩ | heq | ⟨misfit, heq⟩
  · cases heq.symm.trans h
  · obtain rfl := Arrival.unusable.inj (heq.symm.trans h)
    rfl
  · obtain rfl := Arrival.unusable.inj (heq.symm.trans h)
    rfl

/-- What attempts on input that is all there is come to. However many are allowed, no more are made
than there are bytes, and one. All but the last deliver something; the last one finds the end of the
stream or fails for good. -/
structure Concludes (limit : Nat) (input : List UInt8) (delivered : List Reading) (last : Reading) :
    Prop where
  attempts_eq : ∀ n, input.length < n → attempts limit n input = delivered ++ [last]
  few : delivered.length ≤ input.length
  delivers : ∀ r ∈ delivered, (∃ m rest, r = .message m rest) ∨
    ∃ cause rest, r = .unusable cause rest ∧ cause.isRecoverable = true
  arrivals : (readFrames limit true input).1 = delivered.filterMap Reading.arrival?
  stops : last = .finished ∧ (readFrames limit true input).2 = .finished ∨
    ∃ cause, last = .failed cause ∧ cause.isRecoverable = false ∧
      (readFrames limit true input).2 = .failed cause

/-- One attempt that delivers something goes before the others. -/
theorem Concludes.cons {body : List UInt8} {delivered : List Reading} {last : Reading}
    (hnext : nextBody? limit input = some (body, rest))
    (h : Concludes limit rest delivered last) :
    Concludes limit input ((Arrival.ofBody body).reading rest :: delivered) last := by
  have hread := read_of_nextBody? hnext true
  have hless := nextBody?_rest_lt hnext
  constructor
  · intro n hn
    obtain ⟨n, rfl⟩ := Nat.exists_eq_add_one_of_ne_zero (Nat.ne_of_gt (Nat.zero_lt_of_lt hn))
    rw [attempts, hread, Arrival.rest?_reading, Option.elim_some, h.attempts_eq n (by omega)]
    rfl
  · exact Nat.le_trans (Nat.succ_le_succ h.few) hless
  · intro r hr
    rcases List.mem_cons.mp hr with rfl | hr
    · cases harrival : Arrival.ofBody body with
      | message m => exact .inl ⟨m, rest, rfl⟩
      | unusable cause => exact .inr ⟨cause, rest, rfl, ofBody_isRecoverable harrival⟩
    · exact h.delivers r hr
  · rw [readFrames_arrival hread, List.filterMap_cons, Arrival.arrival?_reading, h.arrivals]
  · rw [readFrames_arrival hread]
    exact h.stops

end FileBridge.Rpc
