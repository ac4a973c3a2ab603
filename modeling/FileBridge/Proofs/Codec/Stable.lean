import FileBridge.Codec.Record
import FileBridge.Proofs.Json.Parts

/-!
Reading back what was written. A conversion is stable if every value that it reads from JSON is
written as JSON that is sorted and read as the same value. Main statement: a record is stable if its
members are and have distinct names.
-/
namespace FileBridge

theorem exists_ok_of_bind {ε α β : Type} {x : Except ε α} {f : α → Except ε β} {b : β}
    (h : (x >>= f) = .ok b) : ∃ a, x = .ok a ∧ f a = .ok b := by
  cases x with
  | error e => cases h
  | ok a => exact ⟨a, rfl, h⟩

namespace Codec

variable {α β : Type}

/-- A value is written as sorted JSON and read back. -/
structure Fits (c : Codec α) (a : α) : Prop where
  sorted : (c.write a).Sorted
  read_write : c.read (c.write a) = .ok a

/-- Every value that is read can be written and read back. -/
def Stable (c : Codec α) : Prop :=
  ∀ v a, v.Sorted → c.read v = .ok a → c.Fits a

theorem stable_json : json.Stable := by
  intro v a hv hread
  cases hread
  exact ⟨hv, rfl⟩

theorem stable_textAs (wanted : String) : (textAs wanted).Stable := by
  intro v a hv hread
  cases v with
  | str s =>
    cases hread
    exact ⟨hv, rfl⟩
  | _ => cases hread

theorem stable_text : text.Stable :=
  stable_textAs _

theorem stable_integer (wanted : String) (low high : Int) : (integer wanted low high).Stable := by
  intro v a hv hread
  cases v with
  | num n =>
    cases n with
    | int n =>
      simp only [integer] at hread
      split at hread
      · next hrange =>
        cases hread
        exact ⟨hv, if_pos hrange⟩
      · cases hread
    | real d => cases hread
  | _ => cases hread

end Codec

namespace Member

variable {α : Type}

/-- A value is written as sorted JSON and read back, or left out and found again. -/
def Fits (m : Member α) (a : α) : Prop :=
  match m.write a with
  | some v => v.Sorted ∧ m.read v = .ok a
  | none => m.absent = some a

/-- Every value of the member fits, whether it is read or stands for a member left out. -/
structure Stable (m : Member α) : Prop where
  of_read : ∀ v a, v.Sorted → m.read v = .ok a → m.Fits a
  of_absent : ∀ a, m.absent = some a → m.Fits a

theorem stable_required {c : Codec α} (h : c.Stable) (name : String) :
    (required name c).Stable where
  of_read v a hv hread := ⟨(h v a hv hread).sorted, (h v a hv hread).read_write⟩
  of_absent a habsent := by cases habsent

theorem optional_read {v : Json} (h : v ≠ .null) (name : String) (c : Codec α) :
    (optional name c).read v = (c.read v).map some := by
  cases v with
  | null => exact absurd rfl h
  | _ => rfl

/-- An optional member is stable if only null is written as null. -/
theorem stable_optional {c : Codec α} (h : c.Stable)
    (hnull : ∀ v a, v ≠ .null → c.read v = .ok a → c.write a ≠ .null) (name : String) :
    (optional name c).Stable where
  of_read v a hv hread := by
    by_cases hv_null : v = .null
    · subst hv_null
      cases hread
      rfl
    · rw [optional_read hv_null] at hread
      cases hinner : c.read v with
      | error e =>
        rw [hinner] at hread
        cases hread
      | ok b =>
        rw [hinner] at hread
        cases hread
        have hfits := h v b hv hinner
        refine ⟨hfits.sorted, ?_⟩
        rw [optional_read (hnull v b hv_null hinner), hfits.read_write]
        rfl
  of_absent a habsent := by
    cases habsent
    rfl

/-- The value of a member among the fields of an object. -/
def find (m : Member α) (fields : List (String × Json)) : Except DecodeError α :=
  match Fields.get? m.name fields with
  | some v => m.read v
  | none =>
    match m.absent with
    | some a => .ok a
    | none => .error (.missingMember m.name)

theorem Stable.fits_of_find {m : Member α} (h : m.Stable) {fields : List (String × Json)}
    (hsorted : (Json.obj fields).Sorted) {a : α} (hfind : m.find fields = .ok a) : m.Fits a := by
  rw [find] at hfind
  cases hget : Fields.get? m.name fields with
  | some v =>
    rw [hget] at hfind
    exact h.of_read v a (hsorted.member hget) hfind
  | none =>
    rw [hget] at hfind
    cases habsent : m.absent with
    | some d =>
      simp only [habsent] at hfind
      cases hfind
      exact h.of_absent a habsent
    | none =>
      simp only [habsent] at hfind
      cases hfind

/-- A value that fits is found where it was written. -/
theorem Fits.find {m : Member α} {a : α} (h : m.Fits a) {fields : List (String × Json)}
    (hget : Fields.get? m.name fields = m.write a) : m.find fields = .ok a := by
  rw [Fits] at h
  rw [Member.find, hget]
  cases hwrite : m.write a with
  | some v =>
    rw [hwrite] at h
    exact h.2
  | none =>
    rw [hwrite] at h
    simp only [h]

end Member

namespace Members

/-- Every member of a tuple fits. -/
def Fits : {α : Type} → Members α → α → Prop
  | _, .nil, _ => True
  | _, .cons m rest, (a, b) => m.Fits a ∧ rest.Fits b

/-- Every member is stable. -/
def Stable : {α : Type} → Members α → Prop
  | _, .nil => True
  | _, .cons m rest => m.Stable ∧ rest.Stable

theorem collect_cons {α β : Type} (m : Member α) (rest : Members β)
    (fields : List (String × Json)) :
    (cons m rest).collect fields =
      (m.find fields >>= fun a => rest.collect fields >>= fun b => .ok (a, b)) := by
  rw [collect, Member.find]
  cases Fields.get? m.name fields with
  | some v => rfl
  | none => cases m.absent <;> rfl

theorem fits_of_collect {α : Type} {ms : Members α} (h : ms.Stable)
    {fields : List (String × Json)} (hsorted : (Json.obj fields).Sorted) {a : α}
    (hcollect : ms.collect fields = .ok a) : ms.Fits a := by
  induction ms with
  | nil => trivial
  | cons m rest ih =>
    rw [collect_cons] at hcollect
    obtain ⟨first, hfirst, hrest⟩ := exists_ok_of_bind hcollect
    obtain ⟨later, hlater, hpair⟩ := exists_ok_of_bind hrest
    cases hpair
    exact ⟨h.1.fits_of_find hsorted hfirst, ih h.2 hlater⟩

theorem fits_of_collectItems {α : Type} {ms : Members α} (h : ms.Stable) {short : DecodeError}
    {items : List Json} (hsorted : ∀ v ∈ items, v.Sorted) {a : α} {left : List Json}
    (hcollect : ms.collectItems short items = .ok (a, left)) : ms.Fits a := by
  induction ms generalizing items left with
  | nil => trivial
  | cons m rest ih =>
    cases items with
    | cons v items =>
      obtain ⟨hv, hitems⟩ := List.forall_mem_cons.mp hsorted
      obtain ⟨first, hfirst, hrest⟩ := exists_ok_of_bind hcollect
      obtain ⟨⟨later, left'⟩, hlater, hpair⟩ := exists_ok_of_bind hrest
      cases hpair
      exact ⟨h.1.of_read v first hv hfirst, ih h.2 hitems hlater⟩
    | nil =>
      rw [collectItems] at hcollect
      cases habsent : m.absent with
      | some d =>
        rw [habsent] at hcollect
        obtain ⟨⟨later, left'⟩, hlater, hpair⟩ := exists_ok_of_bind hcollect
        cases hpair
        exact ⟨h.1.of_absent d habsent, ih h.2 hsorted hlater⟩
      | none =>
        rw [habsent] at hcollect
        cases hcollect

theorem names_write_sublist {α : Type} (ms : Members α) (a : α) :
    ((ms.write a).map Prod.fst).Sublist ms.names := by
  induction ms with
  | nil => exact List.Sublist.refl _
  | cons m rest ih =>
    obtain ⟨a, b⟩ := a
    rw [write, names]
    cases m.write a with
    | some v => exact (ih b).cons_cons m.name
    | none => exact (ih b).cons m.name

/-- The field of a record's first member is the one that the member writes. -/
theorem get?_write_head {α β : Type} {m : Member α} {rest : Members β}
    (hname : m.name ∉ rest.names) (a : α) (b : β) :
    Fields.get? m.name ((cons m rest).write (a, b)) = m.write a := by
  have hrest : Fields.get? m.name (rest.write b) = none :=
    Fields.get?_eq_none_of_not_mem fun hmem => hname ((names_write_sublist rest b).subset hmem)
  rw [write]
  cases m.write a with
  | some v => exact if_pos rfl
  | none => exact hrest

theorem get?_write_tail {α β : Type} (m : Member α) (rest : Members β) {name : String}
    (hname : name ≠ m.name) (a : α) (b : β) :
    Fields.get? name ((cons m rest).write (a, b)) = Fields.get? name (rest.write b) := by
  rw [write]
  cases m.write a with
  | some v => exact if_neg hname
  | none => rfl

/-- What fits is collected from any object that has its fields. -/
theorem Fits.collect {α : Type} {ms : Members α} {a : α} (h : ms.Fits a) (hnames : ms.names.Nodup)
    {fields : List (String × Json)}
    (hget : ∀ name ∈ ms.names, Fields.get? name fields = Fields.get? name (ms.write a)) :
    ms.collect fields = .ok a := by
  induction ms with
  | nil => rfl
  | cons m rest ih =>
    obtain ⟨a, b⟩ := a
    obtain ⟨hname, hrest⟩ := List.nodup_cons.mp hnames
    obtain ⟨hfirst, hlater⟩ := List.forall_mem_cons.mp hget
    rw [get?_write_head hname] at hfirst
    have htail : ∀ name ∈ rest.names,
        Fields.get? name fields = Fields.get? name (rest.write b) := by
      intro name hmem
      have hne : name ≠ m.name := fun heq => hname (heq ▸ hmem)
      rw [hlater name hmem, get?_write_tail m rest hne]
    rw [collect_cons, h.1.find hfirst, ih h.2 hrest htail]
    rfl

theorem Fits.examine {α : Type} {ms : Members α} {a : α} (h : ms.Fits a)
    (hnames : ms.names.Nodup) {name : String} {v : Json} (hmem : (name, v) ∈ ms.write a) :
    v.Sorted ∧ ms.examine name v = some (.ok ()) := by
  induction ms with
  | nil => cases hmem
  | cons m rest ih =>
    obtain ⟨a, b⟩ := a
    obtain ⟨hname, hrest⟩ := List.nodup_cons.mp hnames
    obtain ⟨hfirst, hlater⟩ := h
    -- The name of a later field is not that of the first member, so the first one lets it pass.
    have hof_tail (htail : (name, v) ∈ rest.write b) :
        v.Sorted ∧ (cons m rest).examine name v = some (.ok ()) := by
      have hne : name ≠ m.name := by
        rintro rfl
        exact hname ((names_write_sublist rest b).subset (List.mem_map_of_mem htail))
      rw [Members.examine, if_neg hne]
      exact ih hlater hrest htail
    rw [Member.Fits] at hfirst
    rw [write] at hmem
    cases hwrite : m.write a with
    | some w =>
      rw [hwrite] at hfirst hmem
      rcases List.mem_cons.mp hmem with heq | htail
      · cases heq
        refine ⟨hfirst.1, ?_⟩
        rw [Members.examine, if_pos rfl, hfirst.2]
        rfl
      · exact hof_tail htail
    | none =>
      rw [hwrite] at hmem
      exact hof_tail hmem

theorem examineAll_eq_ok {α : Type} {ms : Members α} {closed : Bool}
    {fields : List (String × Json)}
    (h : ∀ m ∈ fields, ms.examine m.1 m.2 = some (.ok ())) :
    ms.examineAll closed fields = .ok () := by
  induction fields with
  | nil => rfl
  | cons m fields ih =>
    obtain ⟨hfirst, hlater⟩ := List.forall_mem_cons.mp h
    rw [examineAll, hfirst]
    exact ih hlater

end Members

namespace Codec

variable {α β : Type}

/-- A record whose members fit is written as sorted JSON and read back. -/
theorem fits_record {ms : Members α} (hnames : ms.names.Nodup) {make : α → β} {parts : β → α}
    (hmake : ∀ b, make (parts b) = b) {b : β} (h : ms.Fits (parts b)) (name : String)
    (closed : Bool) : (record name closed ms make parts).Fits b where
  sorted := Json.sorted_ofMembers fun _ hm => (h.examine hnames hm).1
  read_write := by
    have hdistinct : ((ms.write (parts b)).map Prod.fst).Nodup :=
      (Members.names_write_sublist ms (parts b)).nodup hnames
    have hexamine : ms.examineAll closed (Fields.insertAll (ms.write (parts b)) []) = .ok () := by
      apply Members.examineAll_eq_ok
      intro m hm
      rcases Fields.mem_insertAll hm with hm | hm
      · exact (h.examine hnames hm).2
      · cases hm
    have hcollect : ms.collect (Fields.insertAll (ms.write (parts b)) []) = .ok (parts b) := by
      apply h.collect hnames
      intro name _
      rw [Fields.get?_insertAll hdistinct]
      exact Option.or_none
    simp only [record, Json.ofMembers_eq, hexamine, hcollect]
    exact congrArg Except.ok (hmake b)

/-- A record is stable if its members are and have distinct names. -/
theorem stable_record {ms : Members α} (h : ms.Stable) (hnames : ms.names.Nodup) {make : α → β}
    {parts : β → α} (hmake : ∀ b, make (parts b) = b) (hparts : ∀ a, parts (make a) = a)
    (name : String) (closed : Bool) : (record name closed ms make parts).Stable := by
  intro v b hv hread
  -- An array may stand for the record too, so the tuple comes from either form.
  have hfits : ∃ a, make a = b ∧ ms.Fits a := by
    cases v with
    | obj fields =>
      obtain ⟨_, -, hread⟩ := exists_ok_of_bind hread
      obtain ⟨a, hcollect, hmade⟩ := exists_ok_of_bind hread
      cases hmade
      exact ⟨a, rfl, Members.fits_of_collect h hv hcollect⟩
    | arr items =>
      obtain ⟨⟨a, left⟩, hcollect, hread⟩ := exists_ok_of_bind hread
      have hitems : ∀ w ∈ items, w.Sorted := fun w hw => Json.Every.part hv hw
      refine ⟨a, ?_, Members.fits_of_collectItems h hitems hcollect⟩
      simp only at hread
      split at hread
      · cases hread
        rfl
      · cases hread
    | _ => cases hread
  obtain ⟨a, rfl, hfits⟩ := hfits
  refine fits_record hnames hmake ?_ name closed
  rw [hparts]
  exact hfits

end Codec

end FileBridge
