import Mathlib.Data.List.TakeWhile
import FileBridge.Proofs.Guard
import FileBridge.Proofs.Tree.Addressed

/-!
The parts of a URI. A text that is appended to a URI is appended to the part of it that addresses an
entry, unless the URI breaks off inside its authority: the authority is read up to the next slash,
wherever that stands.
-/
namespace FileBridge

theorem Text.dropTrailing_eq_nil_iff {c : Char} {s : List Char} :
    dropTrailing c s = [] ↔ ∀ d ∈ s, d = c := by
  simp [dropTrailing, List.dropWhile_eq_nil_iff]

namespace Path

section Parts

variable {u r : List Char}

theorem afterScheme_colon {scheme : List Char} (h : ':' ∉ scheme) (rest : List Char) :
    afterScheme (scheme ++ ':' :: rest) = rest := by
  rw [afterScheme, Text.cutFirst?_eq_some_iff.mpr ⟨rfl, h⟩]

theorem afterScheme_of_not_mem (h : ':' ∉ u) : afterScheme u = u := by
  unfold afterScheme
  split
  next before rest hcut =>
    obtain ⟨rfl, -⟩ := Text.cutFirst?_eq_some_iff.mp hcut
    simp at h
  · rfl

theorem afterScheme_append (h : ':' ∈ u) (v : List Char) :
    afterScheme (u ++ v) = afterScheme u ++ v := by
  obtain ⟨scheme, rest, rfl, hnot⟩ := List.eq_append_cons_of_mem h
  rw [List.append_assoc, List.cons_append, afterScheme_colon hnot, afterScheme_colon hnot]

theorem afterScheme_suffix (u : List Char) : afterScheme u <:+ u := by
  by_cases h : ':' ∈ u
  · obtain ⟨scheme, rest, rfl, hnot⟩ := List.eq_append_cons_of_mem h
    rw [afterScheme_colon hnot]
    exact (List.suffix_cons ':' rest).trans (List.suffix_append scheme _)
  · exact ⟨[], by rw [afterScheme_of_not_mem h, List.nil_append]⟩

/-- A rest of a URI that breaks off inside its authority. -/
def IsOpen (rest : List Char) : Prop :=
  ∃ host, rest = '/' :: '/' :: host ∧ '/' ∉ host

theorem afterAuthority_eq_self (h : ¬['/', '/'] <+: r) : afterAuthority r = r := by
  unfold afterAuthority
  split
  next rest => exact absurd ⟨rest, rfl⟩ h
  · rfl

theorem afterAuthority_append_of_isOpen (h : IsOpen r) (v : List Char) :
    afterAuthority (r ++ v) = v.dropWhile (· ≠ '/') := by
  obtain ⟨host, rfl, hnot⟩ := h
  have hall : ∀ c ∈ host, decide (c ≠ '/') = true := by
    intro c hc
    simpa using fun heq : c = '/' => hnot (heq ▸ hc)
  exact List.dropWhile_append_of_pos hall

theorem afterAuthority_eq_nil_iff : afterAuthority r = [] ↔ r = [] ∨ IsOpen r := by
  unfold afterAuthority
  split
  next rest =>
    rw [List.dropWhile_eq_nil_iff]
    constructor
    · intro h
      exact .inr ⟨rest, rfl, fun hmem => by simpa using h '/' hmem⟩
    · rintro (h | ⟨host, hrest, hnot⟩) c hc
      · cases h
      · obtain rfl : rest = host := by simpa using hrest
        simpa using fun heq : c = '/' => hnot (heq ▸ hc)
  next hnot =>
    constructor
    · exact .inl
    · rintro (h | ⟨host, rfl, -⟩)
      · exact h
      · exact absurd rfl (hnot host)

theorem afterAuthority_append (hne : afterAuthority r ≠ []) (hslash : r ≠ ['/'])
    (v : List Char) : afterAuthority (r ++ v) = afterAuthority r ++ v := by
  by_cases hdouble : ['/', '/'] <+: r
  · obtain ⟨rest, rfl⟩ := hdouble
    have hdrop : rest.dropWhile (fun c => decide (c ≠ '/')) ≠ [] := hne
    show (rest ++ v).dropWhile (fun c => decide (c ≠ '/')) =
      rest.dropWhile (fun c => decide (c ≠ '/')) ++ v
    rw [List.dropWhile_append, if_neg (by simpa using hdrop)]
  · have hlonger : ¬['/', '/'] <+: r ++ v := by
      intro hprefix
      cases r with
      | nil => exact hne rfl
      | cons a rest =>
        obtain ⟨ha, hrest⟩ := List.cons_prefix_cons.mp hprefix
        cases rest with
        | nil => exact hslash (by rw [ha])
        | cons b rest =>
          obtain ⟨hb, -⟩ := List.cons_prefix_cons.mp hrest
          exact hdouble ⟨rest, by rw [← ha, ← hb]; rfl⟩
    rw [afterAuthority_eq_self hdouble, afterAuthority_eq_self hlonger]

theorem afterAuthority_suffix (r : List Char) : afterAuthority r <:+ r := by
  unfold afterAuthority
  split
  next rest =>
    exact (List.dropWhile_suffix _).trans
      ((List.suffix_cons '/' rest).trans (List.suffix_cons '/' _))
  · exact List.suffix_rfl

end Parts

/-- The part of a URI that its address is cut from: all but the scheme and the authority. -/
def place (uri : List Char) : List Char :=
  afterAuthority (afterScheme uri)

/-- A character that starts neither a query nor a fragment. -/
def isBare (c : Char) : Bool :=
  c ≠ '?' && c ≠ '#'

theorem isBare_iff {c : Char} : isBare c = true ↔ c ≠ '?' ∧ c ≠ '#' := by
  simp [isBare]

theorem address_eq (uri : List Char) :
    address uri = Text.dropTrailing '/' ((place uri).takeWhile isBare) :=
  rfl

theorem place_suffix (uri : List Char) : place uri <:+ uri :=
  (afterAuthority_suffix _).trans (afterScheme_suffix uri)

variable {uri uri' : String}

/-- An address with a slash at its front. -/
def rooted (address : List Char) : List Char :=
  if address.head? = some '/' then address else '/' :: address

/-- A URI addresses the path that its address makes, unless that has dot segments. -/
theorem ofUri_eq_ok_iff {path : String} :
    ofUri uri = .ok path ↔
      (∀ segment ∈ Text.splitAt '/' (address uri.toList), isDotSegment segment = false) ∧
        path.toList = rooted (address uri.toList) := by
  have hpath {s : List Char} :
      (.ok (String.ofList s) : Except HostError String) = .ok path ↔ path.toList = s := by
    rw [Except.ok.injEq, ← String.toList_inj, String.toList_ofList, eq_comm]
  unfold ofUri
  simp only [List.any_eq_true]
  by_cases hnil : address uri.toList = []
  · rw [if_pos hnil, hnil]
    exact hpath.trans ⟨fun h => ⟨by decide, h⟩, fun h => h.2⟩
  rw [if_neg hnil]
  by_cases hdots : ∃ segment ∈ Text.splitAt '/' (address uri.toList), isDotSegment segment = true
  · rw [if_pos hdots]
    obtain ⟨segment, hmem, hdot⟩ := hdots
    refine ⟨fun h => (by cases h), fun h => ?_⟩
    rw [h.1 segment hmem] at hdot
    cases hdot
  · rw [if_neg hdots, rooted]
    have hall : ∀ segment ∈ Text.splitAt '/' (address uri.toList), isDotSegment segment = false :=
      fun segment hmem => by simpa using fun hdot => hdots ⟨segment, hmem, hdot⟩
    split
    · exact hpath.trans ⟨fun h => ⟨hall, h⟩, fun h => h.2⟩
    · exact hpath.trans ⟨fun h => ⟨hall, h⟩, fun h => h.2⟩

theorem toOption_ofUri_eq_some_iff {path : String} :
    (ofUri uri).toOption = some path ↔ ofUri uri = .ok path := by
  cases ofUri uri <;> simp [Except.toOption]

/-- URIs with one address are taken for the same path, or both refused. -/
theorem toOption_ofUri_congr (h : address uri'.toList = address uri.toList) :
    (ofUri uri').toOption = (ofUri uri).toOption := by
  ext path
  rw [toOption_ofUri_eq_some_iff, toOption_ofUri_eq_some_iff, ofUri_eq_ok_iff, ofUri_eq_ok_iff, h]

theorem ofUri_eq_root_iff : ofUri uri = .ok root ↔ address uri.toList = [] := by
  have hlast : (address uri.toList).getLast? ≠ some '/' := Text.dropTrailing_getLast? '/' _
  rw [ofUri_eq_ok_iff]
  constructor
  · rintro ⟨-, hroot⟩
    rw [root_toList, rooted] at hroot
    split at hroot
    · rw [← hroot] at hlast
      exact absurd rfl hlast
    · exact (List.cons.inj hroot).2.symm
  · intro hnil
    rw [hnil]
    exact ⟨by decide, rfl⟩

end Path

end FileBridge
