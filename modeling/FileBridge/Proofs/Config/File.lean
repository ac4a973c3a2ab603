import FileBridge.Config.File
import FileBridge.Proofs.Net.Address
import FileBridge.Proofs.Yaml.Document

/-!
Settings that are written to a file and loaded again are the same settings, whatever texts they
hold. A text is quoted where it could be taken for something else, and what is written without
quotes is taken for nothing else.
-/
namespace FileBridge

namespace Yaml

/-- The decimal digits of a number denote it. -/
theorem natural?_digits (n : Nat) : natural? (Text.digits n) = some n := by
  by_cases hn : n = 0
  · have hzero : Text.digits n = ['0'] := by
      rw [hn, Text.digits, if_pos (by decide)]
      rfl
    rw [hzero, hn]
    rfl
  · obtain ⟨c, s, hdigits, hc⟩ := Text.exists_digits_eq_cons n
    have hzero : c ≠ '0' := fun h => hn (Text.eq_zero_of_head?_digits (by simp [hdigits, h]))
    have hplus : c ≠ '+' := by
      rintro rfl
      exact absurd hc (by decide)
    have hminus : c ≠ '-' := by
      rintro rfl
      exact absurd hc (by decide)
    have hvalue := Text.natural?_digits n
    rw [hdigits] at hvalue ⊢
    simp [natural?, hplus, magnitude?, hzero, isPadded, dropSign, hminus, hvalue]

end Yaml

namespace Config

open Yaml

/-- The settings as pairs of a mapping. -/
def fields (c : Config) : List (String × Content) :=
  [("bind-address", .scalar c.bindAddress.text), ("port", .number c.port),
    ("guarded-schemes", .list c.guardedSchemes), ("backend", .scalar c.backend.name)] ++
    (c.root.map fun root => ("root", Content.scalar root)).toList ++
    [("error-codes", .scalar c.errorCodes.name), ("max-message-size", .number c.maxMessageSize)]

theorem yaml_eq_flatMap (c : Config) : c.yaml = c.fields.flatMap pairText := by
  have hscalar (name s : String) : scalarPair name s = pairText (name, .scalar s) := rfl
  have hnumber (name : String) (n : Nat) : numberPair name n = pairText (name, .number n) := by
    simp [numberPair, pairText, Content.text]
  have hlist (name : String) (items : List String) :
      listPair name items = pairText (name, .list items) := by
    cases items <;> rfl
  rw [yaml, fields]
  cases c.root <;> simp [hscalar, hnumber, hlist]

theorem forall_mem_fields {c : Config} {P : String × Content → Prop}
    (haddress : P ("bind-address", .scalar c.bindAddress.text)) (hport : P ("port", .number c.port))
    (hschemes : P ("guarded-schemes", .list c.guardedSchemes))
    (hbackend : P ("backend", .scalar c.backend.name))
    (hroot : ∀ root ∈ c.root, P ("root", .scalar root))
    (hcodes : P ("error-codes", .scalar c.errorCodes.name))
    (hsize : P ("max-message-size", .number c.maxMessageSize)) : ∀ x ∈ c.fields, P x := by
  intro x hx
  simp only [fields, List.mem_append, List.mem_cons, List.not_mem_nil, or_false,
    Option.mem_toList, Option.map_eq_some_iff] at hx
  rcases hx with ((rfl | rfl | rfl | rfl) | ⟨root, hmem, rfl⟩) | rfl | rfl
  · exact haddress
  · exact hport
  · exact hschemes
  · exact hbackend
  · exact hroot root hmem
  · exact hcodes
  · exact hsize

theorem isName_of_mem_fields (c : Config) : ∀ x ∈ c.fields, Lexer.IsName x.1.toList := by
  apply forall_mem_fields <;> intros <;> dsimp only
  all_goals exact Lexer.isName_of_plainAllowed (by decide) (by decide) (by decide)

theorem not_mem_of_isValidScheme {s : String} (h : Uri.isValidScheme s = true) :
    '\n' ∉ s.toList := by
  intro hmem
  rw [Uri.isValidScheme] at h
  cases hs : s.toList with
  | nil => simp [hs] at hmem
  | cons c cs =>
    rw [hs] at h hmem
    obtain ⟨hc, hcs⟩ := Bool.and_eq_true_iff.mp h
    rcases List.mem_cons.mp hmem with rfl | hmem
    · exact absurd hc (by decide)
    · exact absurd (List.all_eq_true.mp hcs _ hmem) (by decide)

theorem isValidScheme_of_validate {c : Config} (h : c.validate = .ok ()) :
    ∀ s ∈ c.guardedSchemes, Uri.isValidScheme s = true := by
  unfold validate at h
  split at h
  next => contradiction
  next hnone => simpa using hnone

theorem isSingleLine_of_mem_fields {c : Config} (hvalid : c.validate = .ok ())
    (hroot : ∀ root ∈ c.root, '\n' ∉ root.toList) : ∀ x ∈ c.fields, x.2.IsSingleLine := by
  apply forall_mem_fields
  case haddress => exact fun h => absurd (Net.Address.isTextChar_of_mem_text h) (by decide)
  case hschemes =>
    intro s hs
    exact not_mem_of_isValidScheme (isValidScheme_of_validate hvalid s hs)
  case hbackend =>
    have hall : ∀ b : Backend, '\n' ∉ b.name.toList := by
      intro b
      cases b <;> decide
    exact hall c.backend
  case hroot => exact hroot
  case hcodes =>
    have hall : ∀ m : CodeMode, '\n' ∉ m.name.toList := by
      intro m
      cases m <;> decide
    exact hall c.errorCodes
  case hport => trivial
  case hsize => trivial

theorem natural?_decimal {bits n : Nat} (h : n < Nat.pow 2 bits) :
    natural? bits ⟨Text.decimal n, .plain, none⟩ = some n := by
  have hplain : mayBeNumber ⟨Text.decimal n, .plain, none⟩ = true := rfl
  have hdigits : (Text.decimal n).toList = Text.digits n := String.toList_ofList
  rw [natural?, if_pos hplain, hdigits, natural?_digits, Option.filter_some,
    if_pos (by simpa using h)]

theorem choice?_name {α : Type} {values : List α} {name : α → String} {a : α}
    (h : values.find? (fun b => name b = name a) = some a) :
    choice? values name (scalarOf (name a)) = some a :=
  h

theorem root?_scalarOf {root : String} (h : '\n' ∉ root.toList) :
    root? (scalarOf root) = some (some root) := by
  rcases styleOf_cases h with ⟨hstyle, htext, -⟩ | ⟨hstyle, -⟩ | hstyle
  · have hnull : isNull root = false := by
      simp only [isTextOnly, Bool.not_eq_true', Bool.or_eq_false_iff] at htext
      exact htext.1.1.1.1
    simp [root?, scalarOf, hstyle, hnull]
  · simp [root?, scalarOf, hstyle]
  · simp [root?, scalarOf, hstyle]

theorem ofPairs?_fields {c : Config} (hport : c.port < Nat.pow 2 16)
    (hsize : c.maxMessageSize < Nat.pow 2 64) (hroot : ∀ root ∈ c.root, '\n' ∉ root.toList) :
    ofPairs? (c.fields.map fun x => (x.1, x.2.value)) = some c := by
  obtain ⟨address, port, schemes, backend, root, codes, size⟩ := c
  have haddress := Net.Address.read?_text address
  have hport := natural?_decimal hport
  have hsize := natural?_decimal hsize
  have hbackend : choice? Backend.all Backend.name (scalarOf backend.name) = some backend :=
    choice?_name (by cases backend <;> decide)
  have hcodes : choice? CodeMode.all CodeMode.name (scalarOf codes.name) = some codes :=
    choice?_name (by cases codes <;> decide)
  have hdefault : default.root = none := rfl
  cases root with
  | none =>
    simp [ofPairs?, fields, Content.value, assign?, haddress, hport, hbackend, hcodes, hsize,
      hdefault]
  | some root =>
    have hroot := root?_scalarOf (hroot root rfl)
    simp [ofPairs?, fields, Content.value, assign?, haddress, hport, hbackend, hcodes, hsize, hroot]

/-- Acceptable settings, with numbers that fit and a root on one line, are loaded from the text that
is written for them. -/
theorem load_yaml {c : Config} (hvalid : c.validate = .ok ()) (hport : c.port < Nat.pow 2 16)
    (hsize : c.maxMessageSize < Nat.pow 2 64)
    (hroot : ∀ root ∈ c.root, '\n' ∉ root.toList) (file : String) :
    load file (.ok (Text.bytes (String.ofList c.yaml))) = .ok c := by
  have hne : c.fields ≠ [] := by simp [fields]
  have hpairs := pairs?_flatMap_pairText hne (isName_of_mem_fields c)
    (isSingleLine_of_mem_fields hvalid hroot)
  have hread : ofYaml? c.yaml = some c := by
    rw [ofYaml?, yaml_eq_flatMap, hpairs, Option.bind_some, ofPairs?_fields hport hsize hroot]
  have hchecked : c.checked = .ok c := by
    rw [checked, hvalid]
    rfl
  unfold load
  simp only [Text.ofBytes?_bytes, String.toList_ofList, hread, hchecked]

/-- Settings whose texts could all be taken for something else. -/
def ambiguous : Config where
  bindAddress := .v6 [0x2001, 0xdb8, 0, 0, 0, 0, 0, 1] rfl
  port := 65535
  guardedSchemes := ["null", "true", "e1", "NO"]
  backend := .disk
  root := some " - it's: #1, \"~\" "
  errorCodes := .detailed
  maxMessageSize := 18446744073709551615

theorem load_yaml_ambiguous :
    ambiguous.validate = .ok () ∧ ambiguous.port < Nat.pow 2 16 ∧
      ambiguous.maxMessageSize < Nat.pow 2 64 ∧ (∀ root ∈ ambiguous.root, '\n' ∉ root.toList) ∧
      load "bridge.yaml" (.ok (Text.bytes (String.ofList ambiguous.yaml))) = .ok ambiguous := by
  have hvalid : ambiguous.validate = .ok () := rfl
  have hport : ambiguous.port < Nat.pow 2 16 := by decide
  have hsize : ambiguous.maxMessageSize < Nat.pow 2 64 := by decide
  have hroot : ∀ root ∈ ambiguous.root, '\n' ∉ root.toList := by decide
  exact ⟨hvalid, hport, hsize, hroot, load_yaml hvalid hport hsize hroot "bridge.yaml"⟩

end Config

end FileBridge
