import FileBridge.CommandLine
import FileBridge.Proofs.Guard

/-!
The guarded schemes that a command line asks for. Main statement: they are the values that its
arguments give for them, in order and without the white space around them, and each is a scheme.
-/
namespace FileBridge

theorem Text.exists_cutFirst?_of_mem {c : Char} {s : List Char} (h : c ∈ s) :
    ∃ before after, cutFirst? c s = some (before, after) := by
  obtain ⟨before, after, rfl, hnot⟩ := List.eq_append_cons_of_mem h
  exact ⟨before, after, cutFirst?_eq_some_iff.mpr ⟨rfl, hnot⟩⟩

theorem exists_of_map_eq_ok {ε α β : Type} {x : Except ε α} {f : α → β} {b : β}
    (h : x.map f = .ok b) : ∃ a, x = .ok a ∧ f a = b := by
  cases x with
  | error cause => cases h
  | ok a => exact ⟨a, rfl, Except.ok.inj h⟩

namespace Flag

theorem ofName?_eq_guardScheme_iff {name : String} :
    ofName? name = some (.valued .guardScheme) ↔ name = "guard-scheme" := by
  constructor
  · intro h
    unfold ofName? at h
    split at h <;> simp_all
  · rintro rfl
    rfl

theorem ofLetter?_ne_guardScheme (letter : Char) :
    ofLetter? letter ≠ some (.valued .guardScheme) := by
  unfold ofLetter?
  split <;> simp

end Flag

namespace Arguments

/-- A value without the white space around it. -/
def trimmed (value : String) : String :=
  String.ofList (Text.trim value.toList)

/-- Some arguments ask for the guarded schemes of others and for those of some values. -/
structure Adds (a : Arguments) (values : List String) (a' : Arguments) : Prop where
  schemes : a'.guardSchemes = a.guardSchemes ++ values.map trimmed
  valid : ∀ value ∈ values, Uri.isValidScheme (trimmed value) = true

theorem Adds.of_eq {a a' : Arguments} (h : a'.guardSchemes = a.guardSchemes) : Adds a [] a' :=
  ⟨by rw [h, List.map_nil, List.append_nil], by simp⟩

theorem Adds.trans {a b c : Arguments} {values more : List String} (h : Adds a values b)
    (h' : Adds b more c) : Adds a (values ++ more) c := by
  constructor
  · rw [h'.schemes, h.schemes, List.map_append, List.append_assoc]
  · intro value hvalue
    rcases List.mem_append.mp hvalue with hvalue | hvalue
    · exact h.valid value hvalue
    · exact h'.valid value hvalue

theorem readScheme_eq_ok_iff {value scheme : String} :
    readScheme value = .ok scheme ↔ scheme = trimmed value ∧ Uri.isValidScheme scheme = true := by
  unfold readScheme
  dsimp only
  split
  next hvalid =>
    constructor
    · intro h
      cases h
      exact ⟨rfl, hvalid⟩
    · rintro ⟨rfl, -⟩
      rfl
  next hinvalid =>
    constructor
    · intro h
      cases h
    · rintro ⟨rfl, hvalid⟩
      exact absurd hvalid hinvalid

/-- The values that a flag gives for guarded schemes. -/
def flagValues (f : ValueFlag) (value : Option String) : List String :=
  if f = .guardScheme then value.toList else []

/-- Only the flag of guarded schemes adds to them. -/
theorem take_adds {a a' : Arguments} {f : ValueFlag} {value : String}
    (h : a.take f value = .ok a') : Adds a (flagValues f (some value)) a' := by
  cases f with
  | guardScheme =>
    obtain ⟨scheme, hread, rfl⟩ := exists_of_map_eq_ok h
    obtain ⟨rfl, hvalid⟩ := readScheme_eq_ok_iff.mp hread
    exact ⟨rfl, by simpa [flagValues] using hvalid⟩
  | config | bind | port | backend | root =>
    obtain ⟨v, -, rfl⟩ := exists_of_map_eq_ok h
    exact .of_eq rfl

end Arguments

namespace CommandLine

open Arguments

variable {l l' : CommandLine} {a : Arguments} {argument : String} {rest : List String}

/-- The values for guarded schemes that have been read or come next, but have not been looked at. -/
def due (l : CommandLine) (next : Option String) : List String :=
  match l.pending with
  | none => []
  | some (f, value) => flagValues f (value.or next)

theorem resolve_adds (h : l.resolve = .ok a) (next : Option String) :
    Adds l.arguments (l.due next) a := by
  unfold resolve at h
  unfold due
  split at h
  next heq =>
    cases h
    rw [heq]
    exact .of_eq rfl
  next => cases h
  next f value heq =>
    rw [heq]
    exact take_adds h

/-- A flag looks at the value that is pending, and takes its own or waits for it. -/
theorem readFlag_adds {flag : Flag} {attached : Option String}
    (h : l.readFlag flag attached = .ok l') (here next : Option String) {values : List String}
    (hnext : Adds l'.arguments (l'.due next ++ values) a) :
    Adds l.arguments
      (l.due here ++ ((if flag = .valued .guardScheme then (attached.or next).toList else []) ++
        values)) a := by
  -- Whatever the flag is, the pending value was taken first.
  cases hresolve : l.resolve with
  | error cause =>
    simp only [readFlag, hresolve] at h
    split at h <;> cases h
  | ok b =>
    refine (resolve_adds hresolve here).trans ?_
    simp only [readFlag, hresolve] at h
    split at h
    next f value =>
      replace h : ((b.take f value).bind fun b' => .ok ⟨b', none, l.escaped⟩) = .ok l' := h
      cases htake : b.take f value with
      | error cause =>
        rw [htake] at h
        cases h
      | ok b' =>
        rw [htake] at h
        cases h
        simpa [flagValues, due] using (take_adds htake).trans hnext
    next f =>
      cases h
      simpa [due, flagValues] using hnext
    next => cases h
    next =>
      replace h : (if b.detailedErrors then _ else _) = Except.ok l' := h
      split at h
      · cases h
      · cases h
        have hsame : Adds b [] { b with detailedErrors := true } := .of_eq rfl
        simpa [due] using hsame.trans hnext
    next => cases h
    next => cases h

/-- The values that an argument gives for guarded schemes: what follows an equals sign in it, or the
next argument. -/
def valuesOf (argument : String) (next : Option String) : List String :=
  if argument = "--guard-scheme" then next.toList
  else if "--guard-scheme=".toList.isPrefixOf argument.toList then
    [String.ofList (argument.toList.drop "--guard-scheme=".length)]
  else []

/-- The values that arguments give for guarded schemes. -/
def schemeValues : List String → List String
  | [] => []
  | argument :: rest => valuesOf argument rest.head? ++ schemeValues rest

theorem valuesOf_attached {value : List Char}
    (h : argument.toList = "--guard-scheme=".toList ++ value) (next : Option String) :
    valuesOf argument next = [String.ofList value] := by
  have hne : argument ≠ "--guard-scheme" := by
    rintro rfl
    simp at h
  have hprefix : "--guard-scheme=".toList.isPrefixOf argument.toList = true :=
    List.isPrefixOf_iff_prefix.mpr ⟨value, h.symm⟩
  have hdrop : argument.toList.drop "--guard-scheme=".length = value := by
    rw [h]
    exact List.drop_left' rfl
  rw [valuesOf, if_neg hne, if_pos hprefix, hdrop]

theorem valuesOf_other (h : argument ≠ "--guard-scheme")
    (h' : ∀ value, argument.toList ≠ "--guard-scheme=".toList ++ value) (next : Option String) :
    valuesOf argument next = [] := by
  rw [valuesOf, if_neg h, if_neg]
  intro hprefix
  obtain ⟨value, heq⟩ := List.isPrefixOf_iff_prefix.mp hprefix
  exact h' value heq.symm

/-- An argument that does not start with two dashes gives no value. -/
theorem valuesOf_short (h : ∀ s, argument.toList ≠ '-' :: '-' :: s) (next : Option String) :
    valuesOf argument next = [] := by
  refine valuesOf_other ?_ (fun value => h _) next
  rintro rfl
  exact h _ rfl

/-- The name in an argument that starts with two dashes decides whether it gives a value. -/
theorem valuesOf_long {s name : List Char} {attached : Option String}
    (hargument : argument.toList = '-' :: '-' :: s)
    (hcut : Text.cutFirst? '=' s = none ∧ name = s ∧ attached = none ∨
      ∃ value, Text.cutFirst? '=' s = some (name, value) ∧ attached = some (String.ofList value))
    (next : Option String) :
    valuesOf argument next =
      if String.ofList name = "guard-scheme" then (attached.or next).toList else [] := by
  rcases hcut with ⟨hnone, rfl, rfl⟩ | ⟨value, hcut, rfl⟩
  · have hnot : '=' ∉ name := by
      intro hmem
      obtain ⟨before, after, heq⟩ := Text.exists_cutFirst?_of_mem hmem
      rw [hnone] at heq
      cases heq
    split
    next hname =>
      have heq : argument = "--guard-scheme" := by
        apply String.ext
        rw [hargument, ← String.toList_ofList (l := name), hname]
        rfl
      rw [heq, valuesOf, if_pos rfl, Option.none_or]
    next hname =>
      refine valuesOf_other ?_ ?_ next
      · rintro rfl
        obtain ⟨-, -, rfl⟩ : '-' = '-' ∧ '-' = '-' ∧ "guard-scheme".toList = name := by
          simpa using hargument
        exact hname rfl
      · intro value heq
        have hname : name = "guard-scheme=".toList ++ value := by
          simpa using hargument.symm.trans heq
        exact hnot (by simp [hname])
  · obtain ⟨rfl, hnot⟩ := Text.cutFirst?_eq_some_iff.mp hcut
    split
    next hname =>
      have heq : argument.toList = "--guard-scheme=".toList ++ value := by
        rw [hargument, ← String.toList_ofList (l := name), hname]
        rfl
      rw [valuesOf_attached heq, Option.some_or, Option.toList_some]
    next hname =>
      refine valuesOf_other ?_ ?_ next
      · rintro rfl
        have hmem : '=' ∈ "--guard-scheme".toList := hargument ▸ by simp
        exact absurd hmem (by decide)
      · intro value' heq
        have hsame : name ++ '=' :: value = "guard-scheme".toList ++ '=' :: value' := by
          simpa using hargument.symm.trans heq
        have hcut' : Text.cutFirst? '=' (name ++ '=' :: value) =
            some ("guard-scheme".toList, value') :=
          Text.cutFirst?_eq_some_iff.mpr ⟨hsame, by decide⟩
        obtain ⟨rfl, -⟩ := Prod.mk.inj (Option.some.inj (hcut.symm.trans hcut'))
        exact hname rfl

theorem readLong_cases {s : List Char} (h : l.readLong s = .ok l') :
    ∃ name attached flag,
      (Text.cutFirst? '=' s = none ∧ name = s ∧ attached = none ∨
        ∃ value, Text.cutFirst? '=' s = some (name, value) ∧
          attached = some (String.ofList value)) ∧
      Flag.ofName? (String.ofList name) = some flag ∧ l.readFlag flag attached = .ok l' := by
  unfold readLong at h
  cases hcut : Text.cutFirst? '=' s with
  | none =>
    simp only [hcut] at h
    split at h
    next flag hflag => exact ⟨s, none, flag, .inl ⟨rfl, rfl, rfl⟩, hflag, h⟩
    next => cases h
  | some parts =>
    obtain ⟨name, value⟩ := parts
    simp only [hcut] at h
    split at h
    next flag hflag => exact ⟨name, _, flag, .inr ⟨value, rfl, rfl⟩, hflag, h⟩
    next => cases h

theorem readLetter_cases {letter : Char} {s : List Char} (h : l.readLetter letter s = .ok l') :
    ∃ flag attached, flag ≠ .valued .guardScheme ∧ l.readFlag flag attached = .ok l' := by
  unfold readLetter at h
  split at h
  next => cases h
  next f hflag =>
    refine ⟨.valued f, _, ?_, h⟩
    rintro heq
    exact Flag.ofLetter?_ne_guardScheme letter (heq ▸ hflag)
  next flag hother _ => exact ⟨flag, none, fun heq => hother .guardScheme heq, h⟩

theorem readPlain_cases {s : List Char} (h : l.readPlain s = .ok l') :
    ∃ f, l.pending = some (f, none) ∧
      l' = { l with pending := some (f, some (String.ofList s)) } := by
  unfold readPlain at h
  split at h
  next f heq => exact ⟨f, heq, (Except.ok.inj h).symm⟩
  next => cases h

/-- A step of reading, unless it ends the flags: what was due has been taken or is due still, and so
is what the argument gives. -/
theorem step_adds (h : l.step argument = .ok l') (hflags : argument ≠ "--")
    (hnext : Adds l'.arguments (l'.due rest.head? ++ schemeValues rest) a) :
    Adds l.arguments (l.due (some argument) ++ schemeValues (argument :: rest)) a := by
  unfold step at h
  split at h
  next => cases h
  next =>
    split at h
    next heq => exact absurd (String.ext heq) hflags
    next s _ hargument =>
      obtain ⟨name, attached, flag, hcut, hflag, hread⟩ := readLong_cases h
      have hvalues := valuesOf_long hargument hcut rest.head?
      have hguards : flag = .valued .guardScheme ↔ String.ofList name = "guard-scheme" := by
        rw [← Flag.ofName?_eq_guardScheme_iff, hflag, Option.some.injEq]
      have hadds := readFlag_adds hread (some argument) rest.head? hnext
      simp only [hguards] at hadds
      rw [schemeValues, hvalues]
      exact hadds
    next letter s _ hletter hargument =>
      obtain ⟨flag, attached, hflag, hread⟩ := readLetter_cases h
      have hvalues : valuesOf argument rest.head? = [] := by
        refine valuesOf_short (fun s' heq => hletter ?_) _
        have hsame : letter = '-' ∧ s = s' := by simpa using hargument.symm.trans heq
        exact hsame.1
      have hadds := readFlag_adds hread (some argument) rest.head? hnext
      rw [if_neg hflag] at hadds
      rw [schemeValues, hvalues]
      exact hadds
    next hlong _ =>
      obtain ⟨f, hpending, rfl⟩ := readPlain_cases h
      rw [schemeValues, valuesOf_short hlong]
      simpa [due, hpending] using hnext

/-- Nothing follows where the flags have ended. -/
theorem eq_nil_of_escaped (hescaped : l.escaped = true) (h : rest.foldlM step l = .ok l') :
    rest = [] ∧ l' = l := by
  cases rest with
  | nil =>
    cases h
    exact ⟨rfl, rfl⟩
  | cons argument rest =>
    rw [List.foldlM_cons, step, if_pos hescaped] at h
    cases h

theorem adds_of_run (h : rest.foldlM step l = .ok l') (hresolve : l'.resolve = .ok a) :
    Adds l.arguments (l.due rest.head? ++ schemeValues rest) a := by
  induction rest generalizing l with
  | nil =>
    cases h
    simpa [schemeValues] using resolve_adds hresolve none
  | cons argument rest ih =>
    rw [List.foldlM_cons] at h
    cases hstep : l.step argument with
    | error cause =>
      rw [hstep] at h
      cases h
    | ok l₁ =>
      rw [hstep] at h
      by_cases hflags : argument = "--"
      · -- The flags have ended, so this was the last argument, and no flag waits for a value.
        subst hflags
        have hescaped : l₁ = { l with escaped := true } := by
          unfold step at hstep
          split at hstep
          · cases hstep
          · exact (Except.ok.inj hstep).symm
        subst hescaped
        obtain ⟨rfl, rfl⟩ := eq_nil_of_escaped rfl h
        have hnone : schemeValues ["--"] = [] := by decide
        rw [hnone, List.append_nil]
        exact resolve_adds hresolve (some "--")
      · exact step_adds hstep hflags (ih h)

/-- The guarded schemes that a command line asks for are the values that are given for them. -/
theorem parse_adds {arguments : List String} (h : parse arguments = .ok a) :
    a.guardSchemes = (schemeValues arguments).map trimmed ∧
      ∀ scheme ∈ a.guardSchemes, Uri.isValidScheme scheme = true := by
  unfold parse at h
  cases hrun : arguments.foldlM step ⟨.empty, none, false⟩ with
  | error cause =>
    rw [hrun] at h
    cases h
  | ok l =>
    rw [hrun] at h
    have hadds := adds_of_run hrun h
    have hschemes : a.guardSchemes = (schemeValues arguments).map trimmed := hadds.schemes
    refine ⟨hschemes, fun scheme hscheme => ?_⟩
    rw [hschemes] at hscheme
    obtain ⟨value, hvalue, rfl⟩ := List.mem_map.mp hscheme
    exact hadds.valid value hvalue

end CommandLine

end FileBridge
