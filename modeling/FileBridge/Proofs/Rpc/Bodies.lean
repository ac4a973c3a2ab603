import FileBridge.Proofs.Rpc.Stream

/-!
The bodies of the frames at the front of a stream. Reading delivers what each of them decodes to,
whether or not the stream has ended, and it does not matter in which pieces the stream arrives.
-/
namespace FileBridge.Rpc

theorem length_takeLine_le (n : Nat) (input : List UInt8) : (takeLine n input).1.length ≤ n := by
  fun_induction takeLine n input with
  | case1 => exact Nat.le_refl 0
  | case2 => exact Nat.zero_le _
  | case3 => simp
  | case4 n b input h line rest hline ih => simpa [hline] using ih

/-- A line that has ended, or is as long as it may be, does not depend on what follows. -/
theorem takeLine_of_closed {n : Nat} {input : List UInt8}
    (h : (takeLine n input).1.getLast? = some 10 ∨ (takeLine n input).1.length = n)
    (more : List UInt8) :
    takeLine n (input ++ more) = ((takeLine n input).1, (takeLine n input).2 ++ more) := by
  fun_induction takeLine n input with
  | case1 => rfl
  | case2 => simp at h
  | case3 => simp [takeLine]
  | case4 n b input hb line rest hline ih =>
    have hrest : line.getLast? = some 10 ∨ line.length = n := by
      refine h.imp (fun hlast => ?_) (fun hlength => by simpa using hlength)
      rw [List.getLast?_cons] at hlast
      cases hlast' : line.getLast? with
      | none => simp [hlast', hb] at hlast
      | some c => simpa [hlast'] using hlast
    rw [hline] at ih
    simp [takeLine, hb, ih hrest]

/-- A line that has not ended, though it might be longer, is all there is. -/
theorem takeLine_of_open {n : Nat} {input : List UInt8}
    (hlast : (takeLine n input).1.getLast? ≠ some 10) (hlength : (takeLine n input).1.length < n) :
    (10 : UInt8) ∉ input := by
  fun_induction takeLine n input with
  | case1 => simp at hlength
  | case2 => simp
  | case3 => simp at hlast
  | case4 n b input hb line rest hline ih =>
    rw [hline] at ih
    have hrest : line.getLast? ≠ some 10 := by
      intro heq
      simp [List.getLast?_cons, heq] at hlast
    simp only [List.mem_cons, not_or]
    exact ⟨Ne.symm hb, ih hrest (by simpa using hlength)⟩

variable {input : List UInt8}

theorem firstLine_append (h : isOpenLine (firstLine input) = false) (more : List UInt8) :
    firstLine (input ++ more) = firstLine input ∧
      afterLine (input ++ more) = afterLine input ++ more := by
  have hclosed : (firstLine input).getLast? = some 10 ∨
      (firstLine input).length = headerLineLimit + 1 := by
    have hle : (firstLine input).length ≤ headerLineLimit + 1 := length_takeLine_le _ input
    simp only [isOpenLine, Bool.and_eq_false_iff, decide_eq_false_iff_not, bne_eq_false_iff_eq] at h
    rcases h with h | h
    · exact .inr (by omega)
    · exact .inl h
  have htake := takeLine_of_closed hclosed more
  rw [firstLine, afterLine, htake]
  exact ⟨rfl, rfl⟩

theorem not_mem_of_isOpenLine (h : isOpenLine (firstLine input) = true) : (10 : UInt8) ∉ input := by
  simp only [isOpenLine, Bool.and_eq_true, decide_eq_true_eq, bne_iff_ne, ne_eq] at h
  exact takeLine_of_open h.2 (Nat.lt_succ_of_le h.1)

/-- How a head starts with a line that is complete, whatever follows the input. -/
theorem readHead_of_closed (h : ¬(isOpenLine (firstLine input) && !false) = true)
    (ended seen : Bool) (length : Option Nat) (more : List UInt8) :
    readHead ended seen length (input ++ more) =
      match Text.ofBytes? (firstLine input) with
      | none => .failed (.notText (firstLine input))
      | some text =>
        if headerLineLimit < (firstLine input).length then .failed (.badHeader .lineTooLong)
        else if isBlankLine text.toList then
          if seen then
            match length with
            | some n => .length n (afterLine input ++ more)
            | none => .failed (.badHeader .noLength)
          else readHead ended seen length (afterLine input ++ more)
        else
          match readHeader text.toList with
          | .error cause => .failed (.badHeader cause)
          | .ok (some n) => readHead ended true (some n) (afterLine input ++ more)
          | .ok none => readHead ended true length (afterLine input ++ more) := by
  have hclosed : isOpenLine (firstLine input) = false := by simpa using h
  have hne : firstLine input ≠ [] := by
    intro hnil
    rw [hnil] at hclosed
    cases hclosed
  obtain ⟨hfirst, hafter⟩ := firstLine_append hclosed more
  rw [readHead.eq_def, hfirst, hafter, hclosed, dif_neg hne]
  rfl

/-- A head with more bytes after it. -/
def Head.append (more : List UInt8) : Head → Head
  | .length n rest => .length n (rest ++ more)
  | head => head

/-- A head that is complete does not depend on what follows, nor on whether the stream ends. -/
theorem readHead_append {seen : Bool} {length : Option Nat}
    (h : readHead false seen length input ≠ .starved) (ended : Bool) (more : List UInt8) :
    readHead ended seen length (input ++ more) =
      (readHead false seen length input).append more := by
  fun_induction readHead false seen length input with
  | case1 => exact absurd rfl h
  | case2 _ _ hclosed hnil => simp [hnil, isOpenLine] at hclosed
  | case3 _ _ _ hclosed hnil => simp [hnil, isOpenLine] at hclosed
  | case4 seen length input hclosed _ htext =>
    rw [readHead_of_closed hclosed, htext]
    rfl
  | case5 seen length input hclosed _ text htext hlong =>
    simp only [readHead_of_closed hclosed, htext, if_pos hlong]
    rfl
  | case6 input hclosed _ text htext hshort hblank n =>
    simp only [readHead_of_closed hclosed, htext, if_neg hshort, if_pos hblank, if_true]
    rfl
  | case7 input hclosed _ text htext hshort hblank =>
    simp only [readHead_of_closed hclosed, htext, if_neg hshort, if_pos hblank, if_true]
    rfl
  | case8 seen length input hclosed _ text htext hshort hblank hseen ih =>
    simp only [readHead_of_closed hclosed, htext, if_neg hshort, if_pos hblank, if_neg hseen]
    exact ih h
  | case9 seen length input hclosed _ text htext hshort hblank cause hheader =>
    simp only [readHead_of_closed hclosed, htext, if_neg hshort, if_neg hblank, hheader]
    rfl
  | case10 seen length input hclosed _ text htext hshort hblank n hheader ih =>
    simp only [readHead_of_closed hclosed, htext, if_neg hshort, if_neg hblank, hheader]
    exact ih h
  | case11 seen length input hclosed _ text htext hshort hblank hheader ih =>
    simp only [readHead_of_closed hclosed, htext, if_neg hshort, if_neg hblank, hheader]
    exact ih h

theorem readHead_append_of_length {seen : Bool} {length : Option Nat} {n : Nat}
    {rest : List UInt8} (h : readHead false seen length input = .length n rest) (ended : Bool)
    (more : List UInt8) :
    readHead ended seen length (input ++ more) = .length n (rest ++ more) := by
  rw [readHead_append (by simp [h]), h, Head.append]

theorem readHead_append_of_failed {seen : Bool} {length : Option Nat} {cause : ReadError}
    (h : readHead false seen length input = .failed cause) (ended : Bool) (more : List UInt8) :
    readHead ended seen length (input ++ more) = .failed cause := by
  rw [readHead_append (by simp [h]), h]
  rfl

theorem readHead_ne_starved {seen : Bool} {length : Option Nat} :
    readHead true seen length input ≠ .starved := by
  fun_induction readHead true seen length input with
  | case1 _ _ _ hopen => simp at hopen
  | case8 _ _ _ _ _ _ _ _ _ _ ih => exact ih
  | case10 _ _ _ _ _ _ _ _ _ _ _ ih => exact ih
  | case11 _ _ _ _ _ _ _ _ _ _ ih => exact ih
  | _ => exact fun h => by cases h

theorem readHead_ne_finished {seen : Bool} {length : Option Nat} :
    readHead false seen length input ≠ .finished := by
  fun_induction readHead false seen length input with
  | case3 _ _ _ hclosed hnil => simp [hnil, isOpenLine] at hclosed
  | case8 _ _ _ _ _ _ _ _ _ _ ih => exact ih
  | case10 _ _ _ _ _ _ _ _ _ _ _ ih => exact ih
  | case11 _ _ _ _ _ _ _ _ _ _ ih => exact ih
  | _ => exact fun h => by cases h

/-- A head that lacks something lacks it for good if the stream ends there. -/
theorem readHead_of_starved {seen : Bool} {length : Option Nat}
    (h : readHead false seen length input = .starved) (n : Nat) (rest : List UInt8) :
    readHead true seen length input ≠ .length n rest := by
  fun_induction readHead false seen length input with
  | case1 seen length input hopen =>
    have hnot := not_mem_of_isOpenLine (by simpa using hopen)
    rcases List.eq_nil_or_concat input with rfl | ⟨front, last, rfl⟩
    · rw [readHead_nil]
      split <;> exact fun heq => by cases heq
    · obtain ⟨cause, hfailed, -⟩ := readHead_unterminated hnot (by simp) seen length
      rw [hfailed]
      exact fun heq => by cases heq
  | case8 seen length input hclosed _ text htext hshort hblank hseen ih =>
    have hstep := readHead_of_closed hclosed true seen length []
    simp only [htext, if_neg hshort, if_pos hblank, if_neg hseen, List.append_nil] at hstep
    rw [hstep]
    exact ih h
  | case10 seen length input hclosed _ text htext hshort hblank n hheader ih =>
    have hstep := readHead_of_closed hclosed true seen length []
    simp only [htext, if_neg hshort, if_neg hblank, hheader, List.append_nil] at hstep
    rw [hstep]
    exact ih h
  | case11 seen length input hclosed _ text htext hshort hblank hheader ih =>
    have hstep := readHead_of_closed hclosed true seen length []
    simp only [htext, if_neg hshort, if_neg hblank, hheader, List.append_nil] at hstep
    rw [hstep]
    exact ih h
  | _ => cases h

/-- The body of the frame at the front of the input, and what follows it. -/
def nextBody? (limit : Nat) (input : List UInt8) : Option (List UInt8 × List UInt8) :=
  match readHead false false none input with
  | .length n rest =>
    if n ≤ limit ∧ n ≤ rest.length then some (rest.take n, rest.drop n) else none
  | _ => none

variable {limit : Nat} {body rest : List UInt8}

theorem exists_head (h : nextBody? limit input = some (body, rest)) :
    ∃ n behind, readHead false false none input = .length n behind ∧ n ≤ limit ∧
      n ≤ behind.length ∧ body = behind.take n ∧ rest = behind.drop n := by
  unfold nextBody? at h
  split at h
  next n behind hhead =>
    split at h
    next hfits =>
      obtain ⟨rfl, rfl⟩ := Prod.mk.inj (Option.some.inj h)
      exact ⟨n, behind, hhead, hfits.1, hfits.2, rfl, rfl⟩
    · cases h
  · cases h

theorem nextBody?_rest_lt (h : nextBody? limit input = some (body, rest)) :
    rest.length < input.length := by
  obtain ⟨n, behind, hhead, -, -, -, rfl⟩ := exists_head h
  have := readHead_rest_lt hhead
  rw [List.length_drop]
  omega

/-- The bodies of the frames at the front of a stream, up to the first that is not whole. -/
def bodies (limit : Nat) (input : List UInt8) : List (List UInt8) :=
  match _ : nextBody? limit input with
  | some (body, rest) => body :: bodies limit rest
  | none => []
termination_by input.length
decreasing_by exact nextBody?_rest_lt (by assumption)

theorem bodies_of_some (h : nextBody? limit input = some (body, rest)) :
    bodies limit input = body :: bodies limit rest := by
  rw [bodies.eq_def]
  split <;> simp_all

theorem bodies_of_none (h : nextBody? limit input = none) : bodies limit input = [] := by
  rw [bodies.eq_def]
  split <;> simp_all

theorem nextBody?_append (h : nextBody? limit input = some (body, rest)) (more : List UInt8) :
    nextBody? limit (input ++ more) = some (body, rest ++ more) := by
  obtain ⟨n, behind, hhead, hlimit, hlength, rfl, rfl⟩ := exists_head h
  have hlonger : n ≤ (behind ++ more).length := by
    rw [List.length_append]
    omega
  simp only [nextBody?, readHead_append_of_length hhead]
  rw [if_pos ⟨hlimit, hlonger⟩, List.take_append_of_le_length hlength,
    List.drop_append_of_le_length hlength]

/-- A body that is there is delivered as what it decodes to. -/
theorem read_of_nextBody? (h : nextBody? limit input = some (body, rest)) (ended : Bool) :
    read limit ended input = (Arrival.ofBody body).reading rest := by
  obtain ⟨n, behind, hhead, hlimit, hlength, rfl, rfl⟩ := exists_head h
  have hhead' := readHead_append_of_length hhead ended []
  rw [List.append_nil, List.append_nil] at hhead'
  simp only [read, hhead', if_neg (Nat.not_lt.mpr hlimit), if_neg (Nat.not_lt.mpr hlength)]
  unfold Arrival.ofBody
  cases decode (behind.take n) with
  | ok m => rfl
  | error cause => rfl

/-- Where no body is there, reading delivers nothing. It waits for more only if the stream goes on,
and gives up on a stream that goes on only if no more bytes would help. -/
theorem read_of_none (h : nextBody? limit input = none) (ended : Bool) :
    (read limit ended input = .starved ∧ ended = false) ∨
      ((read limit ended input = .finished ∨ ∃ cause, read limit ended input = .failed cause) ∧
        (ended = false → ∀ more, nextBody? limit (input ++ more) = none)) := by
  cases hhead : readHead false false none input with
  | starved =>
    cases ended with
    | false => exact .inl ⟨by rw [read, hhead], rfl⟩
    | true =>
      refine .inr ⟨?_, fun hended => by cases hended⟩
      cases hhead' : readHead true false none input with
      | starved => exact absurd hhead' readHead_ne_starved
      | finished => exact .inl (by rw [read, hhead'])
      | failed cause => exact .inr ⟨cause, by rw [read, hhead']⟩
      | length n behind => exact absurd hhead' (readHead_of_starved hhead n behind)
  | finished => exact absurd hhead readHead_ne_finished
  | failed cause =>
    refine .inr ⟨.inr ⟨cause, ?_⟩, fun _ more => ?_⟩
    · have hhead' := readHead_append_of_failed hhead ended []
      rw [List.append_nil] at hhead'
      rw [read, hhead']
    · rw [nextBody?, readHead_append_of_failed hhead]
  | length n behind =>
    have hhead' := readHead_append_of_length hhead ended []
    rw [List.append_nil, List.append_nil] at hhead'
    by_cases hlimit : n ≤ limit
    · have hshort : behind.length < n := by
        by_contra hlength
        rw [nextBody?, hhead] at h
        simp only [if_pos (And.intro hlimit (Nat.not_lt.mp hlength))] at h
        cases h
      simp only [read, hhead', if_neg (Nat.not_lt.mpr hlimit), if_pos hshort]
      cases ended with
      | false => exact .inl ⟨rfl, rfl⟩
      | true => exact .inr ⟨.inr ⟨.truncated, rfl⟩, fun hended => by cases hended⟩
    · refine .inr ⟨.inr ⟨.tooLarge n limit, ?_⟩, fun _ more => ?_⟩
      · simp only [read, hhead', if_pos (Nat.not_le.mp hlimit)]
      · simp only [nextBody?, readHead_append_of_length hhead]
        exact if_neg fun hfits => hlimit hfits.1

/-- What is delivered is what the bodies decode to. -/
theorem readFrames_fst (limit : Nat) (ended : Bool) (input : List UInt8) :
    (readFrames limit ended input).1 = (bodies limit input).map Arrival.ofBody := by
  fun_induction bodies limit input with
  | case1 input body rest hnext ih =>
    rw [readFrames_arrival (read_of_nextBody? hnext ended), ih, List.map_cons]
  | case2 input hnext =>
    rw [readFrames.eq_def]
    rcases read_of_none hnext ended with ⟨hread, -⟩ | ⟨hread | ⟨cause, hread⟩, -⟩
    all_goals split <;> simp_all

/-- Reading that waits for more has delivered all bodies but those that more bytes complete. Reading
that stops before the stream ends has delivered all there will ever be. -/
theorem readFrames_snd (limit : Nat) (ended : Bool) (input : List UInt8) :
    (∃ rest, (readFrames limit ended input).2 = .starved rest ∧ ended = false ∧
      ∀ more, bodies limit (input ++ more) = bodies limit input ++ bodies limit (rest ++ more)) ∨
    ((∀ rest, (readFrames limit ended input).2 ≠ .starved rest) ∧
      (ended = false → ∀ more, bodies limit (input ++ more) = bodies limit input)) := by
  fun_induction bodies limit input with
  | case1 input body rest hnext ih =>
    rw [readFrames_arrival (read_of_nextBody? hnext ended)]
    have happend (more : List UInt8) :
        bodies limit (input ++ more) = body :: bodies limit (rest ++ more) :=
      bodies_of_some (nextBody?_append hnext more)
    rcases ih with ⟨unread, hstop, hended, hmore⟩ | ⟨hstop, hmore⟩
    · refine .inl ⟨unread, hstop, hended, fun more => ?_⟩
      rw [happend, hmore, List.cons_append]
    · refine .inr ⟨hstop, fun hended more => ?_⟩
      rw [happend, hmore hended]
  | case2 input hnext =>
    rw [readFrames.eq_def]
    rcases read_of_none hnext ended with ⟨hread, hended⟩ | ⟨hread, hmore⟩
    · refine .inl ⟨input, ?_, hended, fun more => rfl⟩
      split <;> simp_all
    · refine .inr ⟨fun rest => ?_, fun hended more => bodies_of_none (hmore hended more)⟩
      rcases hread with hread | ⟨cause, hread⟩
      all_goals split <;> simp_all

theorem bodies_prefix_append (limit : Nat) (input more : List UInt8) :
    bodies limit input <+: bodies limit (input ++ more) := by
  rcases readFrames_snd limit false input with ⟨rest, -, -, hmore⟩ | ⟨-, hmore⟩
  · rw [hmore]
    exact List.prefix_append _ _
  · exact ⟨[], by rw [List.append_nil, hmore rfl]⟩

theorem read_ne_finished : read limit false input ≠ .finished := by
  intro h
  unfold read at h
  split at h <;> try cases h
  next hhead => exact readHead_ne_finished hhead
  split at h
  · cases h
  · split at h
    · cases h
    · split at h <;> cases h

theorem readFrames_ne_finished (limit : Nat) (input : List UInt8) :
    (readFrames limit false input).2 ≠ .finished := by
  fun_induction readFrames limit false input with
  | case1 input m rest hread later stop heq ih =>
    rw [heq] at ih
    exact ih
  | case2 input cause rest hread later stop heq ih =>
    rw [heq] at ih
    exact ih
  | case3 input hread => exact absurd hread read_ne_finished
  | case4 input cause hread => exact nofun
  | case5 input hread => exact nofun

theorem readFrames_of_starved {ended : Bool} (h : read limit ended input = .starved) :
    readFrames limit ended input = ([], .starved input) := by
  rw [readFrames.eq_def]
  split <;> simp_all

theorem readFrames_starved_nil (limit : Nat) :
    readFrames limit false [] = ([], .starved []) := by
  apply readFrames_of_starved
  rw [read, readHead.eq_def]
  rfl

/-- A stream that was given up is given up for the same cause, whatever follows. -/
theorem read_append_of_failed {cause : ReadError} (h : read limit false input = .failed cause)
    (ended : Bool) (more : List UInt8) : read limit ended (input ++ more) = .failed cause := by
  unfold read at h ⊢
  cases hhead : readHead false false none input with
  | starved =>
    rw [hhead] at h
    cases h
  | finished => exact absurd hhead readHead_ne_finished
  | failed cause' =>
    rw [hhead] at h
    rw [readHead_append_of_failed hhead]
    exact h
  | length n behind =>
    rw [readHead_append_of_length hhead]
    simp only [hhead] at h ⊢
    split at h
    next hlimit => rw [if_pos hlimit, h]
    · split at h
      · cases h
      · split at h <;> cases h

/-- Reading that waits for more goes on, when more is there, from what it has not read. -/
theorem readFrames_append_of_starved (h : (readFrames limit false input).2 = .starved rest)
    (ended : Bool) (more : List UInt8) :
    readFrames limit ended (input ++ more) =
      ((readFrames limit false input).1 ++ (readFrames limit ended (rest ++ more)).1,
        (readFrames limit ended (rest ++ more)).2) := by
  fun_induction bodies limit input with
  | case1 input body behind hnext ih =>
    rw [readFrames_arrival (read_of_nextBody? hnext false)] at h ⊢
    rw [readFrames_arrival (read_of_nextBody? (nextBody?_append hnext more) ended), ih h]
    rfl
  | case2 input hnext =>
    rcases read_of_none hnext false with ⟨hread, -⟩ | ⟨hread | ⟨cause, hread⟩, -⟩
    · rw [readFrames_of_starved hread] at h ⊢
      obtain rfl := Stop.starved.inj h
      rfl
    · exact absurd hread read_ne_finished
    · rw [readFrames_failed hread] at h
      cases h

/-- Reading that has stopped before the stream ended delivers nothing more, whatever follows. -/
theorem readFrames_append_of_stopped
    (h : ∀ rest, (readFrames limit false input).2 ≠ .starved rest) (ended : Bool)
    (more : List UInt8) :
    readFrames limit ended (input ++ more) = readFrames limit false input := by
  fun_induction bodies limit input with
  | case1 input body behind hnext ih =>
    rw [readFrames_arrival (read_of_nextBody? hnext false)] at h ⊢
    rw [readFrames_arrival (read_of_nextBody? (nextBody?_append hnext more) ended), ih h]
  | case2 input hnext =>
    rcases read_of_none hnext false with ⟨hread, -⟩ | ⟨hread | ⟨cause, hread⟩, -⟩
    · exact absurd (congrArg Prod.snd (readFrames_of_starved hread)) (h input)
    · exact absurd hread read_ne_finished
    · rw [readFrames_failed hread, readFrames_failed (read_append_of_failed hread ended more)]

end FileBridge.Rpc
