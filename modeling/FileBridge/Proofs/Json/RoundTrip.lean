import FileBridge.Json.Parser
import FileBridge.Proofs.Json.Scanner

/-!
The text of a value is read back as the value. Main statement: a sorted value whose numbers are
integers of 64 bits, and which is not nested too deep, is what its compact text denotes.
-/
namespace FileBridge.Json

namespace Builder

/-- Where a value may start, the units of this value put it where it belongs, unless that is too
deep. -/
def Builds (v : Json) : Prop :=
  ∀ (stack : List Open) (rest : List Token), stack.length + v.depth ≤ depthLimit →
    (units v ++ rest).foldlM step ⟨stack, .value⟩ = rest.foldlM step (complete stack v)

theorem foldlM_step_firstItem (v : Json) (stack : List Open) (rest : List Token) :
    (units v ++ rest).foldlM step ⟨stack, .firstItem⟩ =
      (units v ++ rest).foldlM step ⟨.array [] :: stack, .value⟩ := by
  cases v <;> rfl

theorem foldlM_step_moreItemUnits {items : List Json} (h : ∀ v ∈ items, Builds v)
    {stack : List Open} (hdepth : ∀ v ∈ items, stack.length + 1 + v.depth ≤ depthLimit)
    (before : List Json) (rest : List Token) :
    (moreItemUnits items ++ rest).foldlM step ⟨stack, .nextItem before⟩ =
      rest.foldlM step (complete stack (.arr (before.reverse ++ items))) := by
  induction items generalizing before with
  | nil =>
    rw [List.append_nil]
    rfl
  | cons v items ih =>
    obtain ⟨hv, hitems⟩ := List.forall_mem_cons.mp h
    obtain ⟨hvdepth, hitemsdepth⟩ := List.forall_mem_cons.mp hdepth
    calc (moreItemUnits (v :: items) ++ rest).foldlM step ⟨stack, .nextItem before⟩
        = (units v ++ (moreItemUnits items ++ rest)).foldlM step
            ⟨.array before :: stack, .value⟩ := by
          simp only [moreItemUnits, List.cons_append, List.append_assoc]
          rfl
      _ = (moreItemUnits items ++ rest).foldlM step ⟨stack, .nextItem (v :: before)⟩ :=
          hv (.array before :: stack) _ hvdepth
      _ = rest.foldlM step (complete stack (.arr (before.reverse ++ v :: items))) := by
          rw [ih hitems hitemsdepth, List.reverse_cons, List.append_assoc]
          rfl

/-- A name that follows those before it, and its value, extend the innermost open object. -/
theorem foldlM_step_member {v : Json} (h : Builds v) {stack : List Open}
    (hdepth : stack.length + 1 + v.depth ≤ depthLimit) {before : List (String × Json)}
    {name : String} (hname : ∀ m ∈ before, m.1 < name) (rest : List Token) :
    (.colon :: units v ++ rest).foldlM step ⟨stack, .colon before name⟩ =
      rest.foldlM step ⟨stack, .nextMember (before ++ [(name, v)])⟩ := by
  have hvalue := h (.object before name :: stack) rest hdepth
  rw [complete, Fields.insert_eq_append hname] at hvalue
  exact hvalue

theorem foldlM_step_moreMemberUnits {members : List (String × Json)}
    (h : ∀ m ∈ members, Builds m.2) {stack : List Open}
    (hdepth : ∀ m ∈ members, stack.length + 1 + m.2.depth ≤ depthLimit)
    {before : List (String × Json)} (hsorted : Fields.Ascending (before ++ members))
    (rest : List Token) :
    (moreMemberUnits members ++ rest).foldlM step ⟨stack, .nextMember before⟩ =
      rest.foldlM step (complete stack (.obj (before ++ members))) := by
  induction members generalizing before with
  | nil =>
    rw [List.append_nil]
    rfl
  | cons m members ih =>
    obtain ⟨name, v⟩ := m
    obtain ⟨hv, hmembers⟩ := List.forall_mem_cons.mp h
    obtain ⟨hvdepth, hmembersdepth⟩ := List.forall_mem_cons.mp hdepth
    have hname : ∀ a ∈ before, a.1 < name := fun a ha =>
      (List.pairwise_append.mp hsorted).2.2 a ha _ List.mem_cons_self
    rw [List.append_cons] at hsorted ⊢
    calc (moreMemberUnits ((name, v) :: members) ++ rest).foldlM step ⟨stack, .nextMember before⟩
        = (.colon :: units v ++ (moreMemberUnits members ++ rest)).foldlM step
            ⟨stack, .colon before name⟩ := by
          simp only [moreMemberUnits, List.cons_append, List.append_assoc]
          rfl
      _ = (moreMemberUnits members ++ rest).foldlM step
            ⟨stack, .nextMember (before ++ [(name, v)])⟩ :=
          foldlM_step_member hv hvdepth hname _
      _ = rest.foldlM step (complete stack (.obj (before ++ [(name, v)] ++ members))) :=
          ih hmembers hmembersdepth hsorted

theorem builds_arr {items : List Json} (h : ∀ v ∈ items, Builds v) : Builds (.arr items) := by
  intro stack rest hdepth
  have hroom : stack.length < depthLimit := by
    rw [depth] at hdepth
    omega
  have hitems : ∀ v ∈ items, stack.length + 1 + v.depth ≤ depthLimit := by
    intro v hv
    have := depth_lt_of_mem_parts (v := .arr items) hv
    omega
  have hopen : step ⟨stack, .value⟩ .openArray = some ⟨stack, .firstItem⟩ := if_pos hroom
  rw [units, List.cons_append, List.foldlM_cons, hopen]
  cases items with
  | nil => rfl
  | cons v items =>
    obtain ⟨hv, hlater⟩ := List.forall_mem_cons.mp h
    obtain ⟨hvdepth, hlaterdepth⟩ := List.forall_mem_cons.mp hitems
    calc (itemUnits (v :: items) ++ rest).foldlM step ⟨stack, .firstItem⟩
        = (units v ++ (moreItemUnits items ++ rest)).foldlM step ⟨.array [] :: stack, .value⟩ := by
          rw [itemUnits, List.append_assoc, foldlM_step_firstItem]
      _ = (moreItemUnits items ++ rest).foldlM step ⟨stack, .nextItem [v]⟩ :=
          hv (.array [] :: stack) _ hvdepth
      _ = rest.foldlM step (complete stack (.arr (v :: items))) :=
          foldlM_step_moreItemUnits hlater hlaterdepth [v] rest

theorem builds_obj {members : List (String × Json)} (hsorted : Fields.Ascending members)
    (h : ∀ m ∈ members, Builds m.2) : Builds (.obj members) := by
  intro stack rest hdepth
  have hroom : stack.length < depthLimit := by
    rw [depth] at hdepth
    omega
  have hmembers : ∀ m ∈ members, stack.length + 1 + m.2.depth ≤ depthLimit := by
    intro m hm
    have := depth_lt_of_mem_parts (v := .obj members) (List.mem_map_of_mem hm)
    omega
  have hopen : step ⟨stack, .value⟩ .openObject = some ⟨stack, .firstName⟩ := if_pos hroom
  rw [units, List.cons_append, List.foldlM_cons, hopen]
  cases members with
  | nil => rfl
  | cons m members =>
    obtain ⟨name, v⟩ := m
    obtain ⟨hv, hlater⟩ := List.forall_mem_cons.mp h
    obtain ⟨hvdepth, hlaterdepth⟩ := List.forall_mem_cons.mp hmembers
    have hnone : ∀ a ∈ ([] : List (String × Json)), a.1 < name := fun a ha => by cases ha
    calc (memberUnits ((name, v) :: members) ++ rest).foldlM step ⟨stack, .firstName⟩
        = (.colon :: units v ++ (moreMemberUnits members ++ rest)).foldlM step
            ⟨stack, .colon [] name⟩ := by
          simp only [memberUnits, List.cons_append, List.append_assoc]
          rfl
      _ = (moreMemberUnits members ++ rest).foldlM step ⟨stack, .nextMember [(name, v)]⟩ :=
          foldlM_step_member hv hvdepth hnone _
      _ = rest.foldlM step (complete stack (.obj ((name, v) :: members))) :=
          foldlM_step_moreMemberUnits hlater hlaterdepth hsorted rest

/-- The units of a sorted value put it together again. -/
theorem builds_of_sorted {v : Json} (h : v.Sorted) : Builds v := by
  induction h with
  | @intro v self inside ih =>
    cases v with
    | null => exact fun stack rest _ => rfl
    | bool b => exact fun stack rest _ => rfl
    | num n => exact fun stack rest _ => rfl
    | str s => exact fun stack rest _ => rfl
    | arr items => exact builds_arr ih
    | obj members => exact builds_obj self (List.forall_mem_map.mp ih)

end Builder

theorem ofTokens?_units {v : Json} (hsorted : v.Sorted) (hdepth : v.depth ≤ depthLimit) :
    ofTokens? (units v) = some v := by
  have hbuild := Builder.builds_of_sorted hsorted [] [] (by simpa using hdepth)
  rw [List.append_nil] at hbuild
  rw [ofTokens?, Builder.start, hbuild]
  rfl

/-- The bytes of a value's text are read back as the value. -/
theorem parseBytes?_text {v : Json} (hsorted : v.Sorted) (hintegral : v.Integral)
    (hdepth : v.depth ≤ depthLimit) : parseBytes? (Text.bytes v.text) = some v := by
  rw [parseBytes?, Text.ofBytes?_bytes]
  simp only [Option.bind_some, parse?, text, String.toList_ofList,
    tokens?_text (legible_units hintegral), ofTokens?_units hsorted hdepth]

end FileBridge.Json
