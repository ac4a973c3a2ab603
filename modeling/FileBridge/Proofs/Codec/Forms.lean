import FileBridge.Proofs.Codec.Stable
import FileBridge.Proofs.Wire.Envelope

/-!
The conversions that records are made of are stable, and both forms of a record say the same: an
array of values in the order of the members is read as the object that has these values under the
members' names. Values may be left out at the end of the array; the object then lacks those members.
-/
namespace FileBridge

namespace Codec

variable {α β : Type}

theorem stable_flag : flag.Stable := by
  intro v a hv hread
  cases v with
  | bool b =>
    cases hread
    exact ⟨hv, rfl⟩
  | _ => cases hread

/-- The natural numbers that fit are those below the power of two. -/
theorem fits_natural {bits n : Nat} (h : n < Nat.pow 2 bits) (wanted : String) :
    (natural wanted bits).Fits n := by
  have hrange : (0 : Int) ≤ n ∧ (n : Int) ≤ (Nat.pow 2 bits : Int) - 1 := by omega
  refine ⟨.leaf trivial rfl, ?_⟩
  simp only [natural, integer, Json.nat, if_pos hrange]
  rfl

theorem read_natural {wanted : String} {bits n : Nat} {v : Json}
    (h : (natural wanted bits).read v = .ok n) : n < Nat.pow 2 bits := by
  cases v with
  | num m =>
    cases m with
    | int m =>
      simp only [natural, integer] at h
      split at h
      next hrange =>
        cases h
        omega
      · cases h
    | real d => cases h
  | _ => cases h

theorem stable_natural (wanted : String) (bits : Nat) : (natural wanted bits).Stable :=
  fun _ _ _ hread => fits_natural (read_natural hread) wanted

theorem stable_list {c : Codec α} (h : c.Stable) : c.list.Stable := by
  intro v as hv hread
  cases v with
  | arr items =>
    have hitems : ∀ w ∈ items, w.Sorted := fun w hw => Json.Every.part hv hw
    have hall : readAll c items = .ok as := hread
    refine fits_list fun a ha => ?_
    clear hread hv
    induction items generalizing as with
    | nil =>
      cases hall
      cases ha
    | cons w items ih =>
      obtain ⟨hw, hrest⟩ := List.forall_mem_cons.mp hitems
      obtain ⟨first, hfirst, hcons⟩ := exists_ok_of_bind hall
      obtain ⟨later, hlater, hcons⟩ := exists_ok_of_bind hcons
      cases hcons
      rcases List.mem_cons.mp ha with rfl | ha
      · exact h w a hw hfirst
      · exact ih later hrest hlater ha
  | _ => cases hread

/-- A value that is found by its code is found by it again. -/
theorem stable_coded (values : List α) (code : α → Nat) : (coded values code).Stable := by
  intro v a hv hread
  obtain ⟨n, hn, hread⟩ := exists_ok_of_bind hread
  cases hfind : values.find? fun a => code a == n with
  | none =>
    simp only [hfind] at hread
    cases hread
  | some b =>
    simp only [hfind] at hread
    cases hread
    have hcode : code a = n := by simpa using List.find?_some hfind
    have hfits := fits_natural (read_natural hn) "u8"
    refine ⟨.leaf trivial rfl, ?_⟩
    have hagain : (natural "u8" 8).read (.nat (code a)) = .ok n := hcode ▸ hfits.read_write
    simp only [coded, hagain, bind, Except.bind, hfind]

theorem byName_name {values : List α} {name : α → String} {s : String} {a : α}
    (h : byName values name s = .ok a) : byName values name (name a) = .ok a := by
  cases hfind : values.find? fun a => name a == s with
  | none =>
    rw [byName, hfind] at h
    cases h
  | some b =>
    have hname : name b = s := by simpa using List.find?_some hfind
    rw [byName, hfind] at h
    cases h
    rw [byName, hname, hfind]

/-- A value is written by its name, whichever way the name was given. -/
theorem stable_named (values : List α) (name : α → String) : (named values name).Stable := by
  intro v a hv hread
  have hname : byName values name (name a) = .ok a := by
    cases v with
    | str s => exact byName_name hread
    | obj fields =>
      cases fields with
      | nil => cases hread
      | cons m fields =>
        cases fields with
        | nil =>
          obtain ⟨b, hb, hread⟩ := exists_ok_of_bind hread
          obtain ⟨_, -, hread⟩ := exists_ok_of_bind hread
          cases hread
          exact byName_name hb
        | cons => cases hread
    | _ => cases hread
  exact ⟨.leaf trivial rfl, hname⟩

end Codec

theorem Member.stable_defaulted {α : Type} {c : Codec α} (h : c.Stable) {d : α} (hd : c.Fits d)
    (name : String) : (defaulted name c d).Stable where
  of_read v a hv hread := ⟨(h v a hv hread).sorted, (h v a hv hread).read_write⟩
  of_absent a habsent := by
    cases habsent
    exact ⟨hd.sorted, hd.read_write⟩

theorem toOption_bind {ε α β : Type} (x : Except ε α) (f : α → Except ε β) :
    (x >>= f).toOption = x.toOption.bind fun a => (f a).toOption := by
  cases x <;> rfl

theorem toOption_eq_some_iff {ε α : Type} {x : Except ε α} {a : α} :
    x.toOption = some a ↔ x = .ok a := by
  cases x <;> simp [Except.toOption]

theorem Fields.names_zip_sublist {α : Type} (names : List String) (items : List α) :
    ((names.zip items).map Prod.fst).Sublist names := by
  induction names generalizing items with
  | nil => simp
  | cons name names ih =>
    cases items with
    | nil => simp
    | cons v items => exact (ih items).cons_cons name

namespace Members

/-- Values in the order of the members give the tuple that the same values give under the members'
names, with nothing left over. -/
theorem collectItems_eq_collect {α : Type} {ms : Members α} (hnames : ms.names.Nodup)
    (short : DecodeError) {items : List Json} (hlength : items.length ≤ ms.names.length)
    {fields : List (String × Json)}
    (hget : ∀ name ∈ ms.names, Fields.get? name fields = Fields.get? name (ms.names.zip items)) :
    (ms.collectItems short items).toOption = (ms.collect fields).toOption.map (·, []) := by
  induction ms generalizing items with
  | nil =>
    obtain rfl := List.length_eq_zero_iff.mp (Nat.le_zero.mp hlength)
    rfl
  | cons m rest ih =>
    obtain ⟨hname, hrest⟩ := List.nodup_cons.mp hnames
    obtain ⟨hfirst, hlater⟩ := List.forall_mem_cons.mp hget
    rw [collect_cons, toOption_bind]
    cases items with
    | cons v items =>
      have htail : ∀ name ∈ rest.names,
          Fields.get? name fields = Fields.get? name (rest.names.zip items) := by
        intro name hmem
        have hne : name ≠ m.name := fun heq => hname (heq ▸ hmem)
        rw [hlater name hmem]
        exact if_neg hne
      have hfind : m.find fields = m.read v := by
        have hget : Fields.get? m.name fields = some v := hfirst.trans (if_pos rfl)
        rw [Member.find, hget]
      have ih := ih hrest (Nat.le_of_succ_le_succ hlength) htail
      rw [hfind, collectItems, toOption_bind]
      cases (m.read v).toOption with
      | none => rfl
      | some a =>
        simp only [Option.bind_some, toOption_bind, ih]
        cases (rest.collect fields).toOption <;> rfl
    | nil =>
      have htail : ∀ name ∈ rest.names,
          Fields.get? name fields = Fields.get? name (rest.names.zip []) := by
        intro name hmem
        rw [hlater name hmem, List.zip_nil_right, List.zip_nil_right]
      have hget : Fields.get? m.name fields = none := hfirst
      have ih := ih hrest (Nat.zero_le _) htail
      rw [Member.find, hget, collectItems]
      cases m.absent with
      | none => rfl
      | some a =>
        have hok : (.ok a : Except DecodeError _).toOption = some a := rfl
        simp only [toOption_bind, ih, hok, Option.bind_some]
        cases (rest.collect fields).toOption <;> rfl

/-- Where the members of an object give a tuple, each of them was read. -/
theorem examine_of_collect {α : Type} {ms : Members α} {fields : List (String × Json)} {a : α}
    (h : ms.collect fields = .ok a) {name : String} (hname : name ∈ ms.names) {v : Json}
    (hget : Fields.get? name fields = some v) : ms.examine name v = some (.ok ()) := by
  induction ms with
  | nil => cases hname
  | cons m rest ih =>
    rw [collect_cons] at h
    obtain ⟨first, hfirst, hrest⟩ := exists_ok_of_bind h
    obtain ⟨later, hlater, -⟩ := exists_ok_of_bind hrest
    rw [examine]
    by_cases hm : name = m.name
    · rw [if_pos hm]
      rw [Member.find, ← hm, hget] at hfirst
      simp only [hfirst]
      rfl
    · rw [if_neg hm]
      exact ih hlater ((List.mem_cons.mp hname).resolve_left hm)

end Members

namespace Codec

variable {α β : Type}

/-- An array of values in the order of the members and the object with these values under the
members' names are read as the same record. -/
theorem read_arr_iff {ms : Members α} (hnames : ms.names.Nodup) {items : List Json}
    (hlength : items.length ≤ ms.names.length) (name : String) (closed : Bool) (make : α → β)
    (parts : β → α) (b : β) :
    (record name closed ms make parts).read (.arr items) = .ok b ↔
      (record name closed ms make parts).read (.ofMembers (ms.names.zip items)) = .ok b := by
  have hdistinct : ((ms.names.zip items).map Prod.fst).Nodup :=
    (Fields.names_zip_sublist ms.names items).nodup hnames
  have hfields (name : String) : Fields.get? name (Fields.insertAll (ms.names.zip items) []) =
      Fields.get? name (ms.names.zip items) := by
    rw [Fields.get?_insertAll hdistinct]
    exact Option.or_none
  have hcollect := Members.collectItems_eq_collect hnames
    (.tooFewItems items.length name ms.names.length) hlength fun name _ => hfields name
  -- Once the tuple is there, going through the members of the object finds nothing wrong.
  have hexamine (a : α) (h : ms.collect (Fields.insertAll (ms.names.zip items) []) = .ok a) :
      ms.examineAll closed (Fields.insertAll (ms.names.zip items) []) = .ok () := by
    refine Members.examineAll_eq_ok fun m hm => ?_
    have hmem : m ∈ ms.names.zip items :=
      (Fields.mem_insertAll hm).resolve_right (List.not_mem_nil)
    have hget := Fields.get?_eq_some_of_mem (Fields.Ascending.insertAll .nil _) hm
    exact Members.examine_of_collect h (List.of_mem_zip hmem).1 hget
  rw [Json.ofMembers_eq, ← toOption_eq_some_iff, ← toOption_eq_some_iff]
  simp only [record, toOption_bind, hcollect]
  cases h : ms.collect (Fields.insertAll (ms.names.zip items) []) with
  | error cause => simp [Except.toOption]
  | ok a => simp [hexamine a h, Except.toOption]

end Codec

end FileBridge
