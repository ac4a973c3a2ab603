import FileBridge.Proofs.Bridge.Relay
import FileBridge.Proofs.Tree.Parts

/-!
The URIs that watchers are told. A change below a watched path is spelled by continuing the URI that
the watch was opened with, less one slash at its end. Main statement: which URIs can be continued in
that way, so that the entry that changed is the one that the spelling addresses.
-/
namespace FileBridge

theorem Text.dropTrailing_append_self (c : Char) (s : List Char) :
    dropTrailing c (s ++ [c]) = dropTrailing c s := by
  simp [dropTrailing]

theorem Text.dropTrailing_prefix_self (c : Char) (s : List Char) : dropTrailing c s <+: s := by
  rw [← List.reverse_suffix, dropTrailing, List.reverse_reverse]
  exact List.dropWhile_suffix _

namespace Path

section Lists

variable {b u v : List Char}

theorem afterScheme_append_of_or (h : ':' ∈ b ∨ ':' ∉ v) :
    afterScheme (b ++ v) = afterScheme b ++ v := by
  by_cases hb : ':' ∈ b
  · exact afterScheme_append hb v
  · have hboth : ':' ∉ b ++ v := by simpa [hb] using h
    rw [afterScheme_of_not_mem hboth, afterScheme_of_not_mem hb]

/-- What can stand between the scheme of a URI and a text that follows it. -/
theorem afterScheme_cases (b : List Char) :
    afterScheme b = [] ∨ IsOpen (afterScheme b) ∨ afterScheme b = ['/'] ∨
      place b ≠ [] ∧ afterScheme b ≠ ['/'] := by
  by_cases hslash : afterScheme b = ['/']
  · exact .inr (.inr (.inl hslash))
  by_cases hplace : place b = []
  · rcases afterAuthority_eq_nil_iff.mp hplace with hnil | hopen
    · exact .inl hnil
    · exact .inr (.inl hopen)
  · exact .inr (.inr (.inr ⟨hplace, hslash⟩))

theorem place_append (h : ':' ∈ b ∨ ':' ∉ v) (hne : place b ≠ [])
    (hslash : afterScheme b ≠ ['/']) : place (b ++ v) = place b ++ v := by
  rw [place, afterScheme_append_of_or h]
  exact afterAuthority_append hne hslash v

theorem address_prefix_place (u : List Char) : address u <+: place u := by
  have hbare : (place u).takeWhile isBare <+: place u := List.takeWhile_prefix isBare
  exact (Text.dropTrailing_prefix_self '/' _).trans hbare

/-- In a place with a query, what follows is cut off. -/
theorem takeWhile_append_of_not_bare (h : ¬∀ c ∈ u, isBare c = true) (v : List Char) :
    (u ++ v).takeWhile isBare = u.takeWhile isBare := by
  rw [List.takeWhile_append, if_neg]
  intro hlength
  apply h
  rw [← List.takeWhile_eq_self_iff]
  have hbare : u.takeWhile isBare <+: u := List.takeWhile_prefix isBare
  exact hbare.eq_of_length hlength

/-- A slash at the end of a URI does not matter. -/
theorem address_append_slash (b : List Char) : address (b ++ ['/']) = address b := by
  have hscheme : ':' ∈ b ∨ ':' ∉ ['/'] := .inr (by decide)
  rcases afterScheme_cases b with hnil | hopen | hslash | ⟨hne, hslash⟩
  · rw [address, address, afterScheme_append_of_or hscheme, hnil]
    rfl
  · rw [address_eq, address_eq, place, place, afterScheme_append_of_or hscheme,
      afterAuthority_append_of_isOpen hopen, afterAuthority_eq_nil_iff.mpr (.inr hopen)]
    rfl
  · rw [address, address, afterScheme_append_of_or hscheme, hslash]
    rfl
  · rw [address_eq, address_eq, place_append hscheme hne hslash]
    by_cases hbare : ∀ c ∈ place b, isBare c = true
    · rw [List.takeWhile_append_of_pos hbare, List.takeWhile_eq_self_iff.mpr hbare]
      exact Text.dropTrailing_append_self '/' _
    · rw [takeWhile_append_of_not_bare hbare]

/-- A URI without the slash at its end, if it has one. -/
def base (uri : List Char) : List Char :=
  if uri.getLast? = some '/' then uri.dropLast else uri

theorem base_cases (u : List Char) : u = base u ∨ u = base u ++ ['/'] := by
  unfold base
  split
  next hlast =>
    obtain ⟨front, rfl⟩ := List.getLast?_eq_some_iff.mp hlast
    exact .inr (by rw [List.dropLast_concat])
  · exact .inl rfl

theorem address_base (u : List Char) : address (base u) = address u := by
  rcases base_cases u with h | h
  · exact congrArg address h.symm
  · rw [h, address_append_slash, ← h]

/-- What follows a path in a path below it: it starts with a slash, does not end in one, and holds
no query. -/
structure IsSequel (v : List Char) : Prop where
  head : v.head? = some '/'
  last : v.getLast? ≠ some '/'
  bare : ∀ c ∈ v, isBare c = true

theorem IsSequel.exists_cons (h : IsSequel v) : ∃ rest, v = '/' :: rest ∧ rest ≠ [] := by
  obtain ⟨rest, rfl⟩ := List.head?_eq_some_iff.mp h.head
  refine ⟨rest, rfl, ?_⟩
  rintro rfl
  exact h.last rfl

theorem IsSequel.takeWhile_append (h : IsSequel v) (hb : ∀ c ∈ b, isBare c = true) :
    (b ++ v).takeWhile isBare = b ++ v :=
  List.takeWhile_eq_self_iff.mpr (List.forall_mem_append.mpr ⟨hb, h.bare⟩)

theorem IsSequel.getLast?_append (h : IsSequel v) (b : List Char) :
    (b ++ v).getLast? = v.getLast? := by
  obtain ⟨rest, rfl, -⟩ := h.exists_cons
  rw [List.getLast?_append, List.getLast?_cons]
  rfl

theorem IsSequel.dropTrailing_append (h : IsSequel v) (b : List Char) :
    Text.dropTrailing '/' (b ++ v) = b ++ v := by
  apply Text.dropTrailing_eq_self
  rw [h.getLast?_append]
  exact h.last

/-- A path can be spelled by continuing a URI: nothing of it is read as a scheme, the URI has no
query and no slash at its end, and the path does not make an authority out of a mere scheme. -/
structure Continues (base path : List Char) : Prop where
  scheme : ':' ∈ base ∨ ':' ∉ path
  bare : ∀ c ∈ place base, isBare c = true
  last : (place base).getLast? ≠ some '/'
  apart : afterScheme base = [] → ¬['/', '/'] <+: path

instance (base path : List Char) : Decidable (Continues base path) :=
  decidable_of_iff ((':' ∈ base ∨ ':' ∉ path) ∧ (place base).all isBare = true ∧
      (place base).getLast? ≠ some '/' ∧ (afterScheme base = [] → ¬['/', '/'] <+: path))
    ⟨fun h => ⟨h.1, List.all_eq_true.mp h.2.1, h.2.2.1, h.2.2.2⟩,
      fun h => ⟨h.scheme, List.all_eq_true.mpr h.bare, h.last, h.apart⟩⟩

theorem rooted_of_head? {s : List Char} (h : s.head? = some '/') : rooted s = s :=
  if_pos h

theorem rooted_append {s : List Char} (hs : s ≠ []) (v : List Char) :
    rooted (s ++ v) = rooted s ++ v := by
  obtain ⟨c, rest, rfl⟩ := List.exists_cons_of_ne_nil hs
  unfold rooted
  rw [List.cons_append, List.head?_cons, List.head?_cons]
  split <;> rfl

theorem length_rooted_le (s : List Char) : (rooted s).length ≤ s.length + 1 := by
  unfold rooted
  split
  · exact Nat.le_succ _
  · exact Nat.le_refl _

theorem le_length_rooted (s : List Char) : s.length ≤ (rooted s).length := by
  unfold rooted
  split
  · exact Nat.le_refl _
  · exact Nat.le_succ _

theorem length_rooted_address_le (u : List Char) :
    (rooted (address u)).length ≤ (place u).length + 1 := by
  have hlength := (address_prefix_place u).length_le
  have hrooted := length_rooted_le (address u)
  omega

/-- A colon that the URI does not have cuts off more than the URI. -/
theorem length_lt_of_colon (hb : ':' ∉ b) (hv : IsSequel v) (hcolon : ':' ∈ v) :
    (rooted (address (b ++ v))).length < v.length := by
  obtain ⟨front, rest, heq, hnot⟩ := List.eq_append_cons_of_mem hcolon
  have hfront : front ≠ [] := by
    rintro rfl
    have hhead := hv.head
    rw [heq] at hhead
    cases hhead
  have hscheme : afterScheme (b ++ v) = rest := by
    have hlonger : ':' ∉ b ++ front := by simp [hb, hnot]
    rw [heq, ← List.append_assoc, afterScheme_colon hlonger]
  have hplace := (afterAuthority_suffix rest).length_le
  have hrooted := length_rooted_address_le (b ++ v)
  rw [place, hscheme] at hrooted
  have hlength := congrArg List.length heq
  have hpos := List.length_pos_iff.mpr hfront
  simp only [List.length_append, List.length_cons] at hlength
  omega

/-- Two slashes right after the scheme are read as those before an authority. -/
theorem length_lt_of_double (hscheme : ':' ∈ b ∨ ':' ∉ v) (hb : afterScheme b = [])
    (hv : ['/', '/'] <+: v) : (rooted (address (b ++ v))).length < v.length := by
  obtain ⟨rest, rfl⟩ := hv
  have hplace : place (b ++ (['/', '/'] ++ rest)) = rest.dropWhile (· ≠ '/') := by
    rw [place, afterScheme_append_of_or hscheme, hb]
    rfl
  have hrooted := length_rooted_address_le (b ++ (['/', '/'] ++ rest))
  have hdrop := (List.dropWhile_suffix (fun c => decide (c ≠ '/')) (l := rest)).length_le
  rw [hplace] at hrooted
  simp only [List.length_append, List.length_cons, List.length_nil]
  omega

/-- A slash right after the scheme makes two with that of the path. -/
theorem length_lt_of_slash (hscheme : ':' ∈ b ∨ ':' ∉ v) (hb : afterScheme b = ['/'])
    (hv : IsSequel v) : (rooted (address (b ++ v))).length < v.length := by
  obtain ⟨rest, rfl, hne⟩ := hv.exists_cons
  have hpos := List.length_pos_iff.mpr hne
  have hplace : place (b ++ '/' :: rest) = rest.dropWhile (· ≠ '/') := by
    rw [place, afterScheme_append_of_or hscheme, hb]
    rfl
  have hdrop := (List.dropWhile_suffix (fun c => decide (c ≠ '/')) (l := rest)).length_le
  have hfront := address_prefix_place (b ++ '/' :: rest)
  rw [hplace] at hfront
  have hlength := hfront.length_le
  rw [List.length_cons]
  by_cases hnil : address (b ++ '/' :: rest) = []
  · rw [hnil]
    have hone : (rooted []).length = 1 := rfl
    omega
  · have hhead : (address (b ++ '/' :: rest)).head? = some '/' := by
      obtain ⟨c, tail, hcons⟩ := List.exists_cons_of_ne_nil hnil
      rw [hcons] at hfront ⊢
      obtain ⟨more, hmore⟩ := hfront
      have hnot := List.head?_dropWhile_not (fun c => decide (c ≠ '/')) rest
      rw [← hmore] at hnot
      simpa using hnot
    rw [rooted_of_head? hhead]
    omega

theorem IsSequel.length_rooted_lt (h : IsSequel v) (s : List Char) :
    (rooted s).length < (rooted (s ++ v)).length := by
  obtain ⟨rest, rfl, hne⟩ := h.exists_cons
  have hpos := List.length_pos_iff.mpr hne
  by_cases hs : s = []
  · have hone : (rooted []).length = 1 := rfl
    rw [hs, List.nil_append, rooted_of_head? h.head, List.length_cons]
    omega
  · rw [rooted_append hs, List.length_append, List.length_cons]
    omega

theorem length_rooted_append_lt {s more : List Char} (hmore : more ≠ []) (hv : IsSequel v) :
    (rooted (s ++ v)).length < (rooted (s ++ more ++ v)).length := by
  have hpos := List.length_pos_iff.mpr hmore
  by_cases hs : s = []
  · have hlength := le_length_rooted (more ++ v)
    rw [hs, List.nil_append, List.nil_append, rooted_of_head? hv.head]
    rw [List.length_append] at hlength
    omega
  · rw [List.append_assoc, rooted_append hs, rooted_append hs]
    simp only [List.length_append]
    omega

/-- After anything else the path is appended to the place. -/
theorem rooted_address_append_of_place (hscheme : ':' ∈ b ∨ ':' ∉ v) (hne : place b ≠ [])
    (hslash : afterScheme b ≠ ['/']) (hv : IsSequel v) :
    rooted (address (b ++ v)) = rooted (address b ++ v) ↔
      (∀ c ∈ place b, isBare c = true) ∧ (place b).getLast? ≠ some '/' := by
  rw [address_eq, address_eq, place_append hscheme hne hslash]
  by_cases hbare : ∀ c ∈ place b, isBare c = true
  · rw [hv.takeWhile_append hbare, hv.dropTrailing_append, List.takeWhile_eq_self_iff.mpr hbare]
    by_cases hlast : (place b).getLast? = some '/'
    · obtain ⟨more, hmore⟩ := Text.dropTrailing_prefix_self '/' (place b)
      have hne : more ≠ [] := by
        rintro rfl
        apply Text.dropTrailing_getLast? '/' (place b)
        rw [List.append_nil] at hmore
        rw [hmore]
        exact hlast
      refine iff_of_false (fun heq => ?_) fun h => h.2 hlast
      have hlength := length_rooted_append_lt (s := Text.dropTrailing '/' (place b)) hne hv
      rw [hmore, heq] at hlength
      omega
    · rw [Text.dropTrailing_eq_self hlast]
      exact iff_of_true rfl ⟨hbare, hlast⟩
  · rw [takeWhile_append_of_not_bare hbare]
    refine iff_of_false (fun heq => ?_) fun h => hbare h.1
    have hlength := hv.length_rooted_lt (Text.dropTrailing '/' ((place b).takeWhile isBare))
    rw [← heq] at hlength
    omega

/-- A path after a URI is addressed exactly if the URI can be continued by it. -/
theorem rooted_address_append_iff (hv : IsSequel v) :
    rooted (address (b ++ v)) = rooted (address b ++ v) ↔ Continues b v := by
  have hshort (h : (rooted (address (b ++ v))).length < v.length) :
      rooted (address (b ++ v)) ≠ rooted (address b ++ v) := by
    intro heq
    have hlength := le_length_rooted (address b ++ v)
    rw [heq] at h
    rw [List.length_append] at hlength
    omega
  have hwhole (hb : place b = []) (h : place (b ++ v) = v) :
      rooted (address (b ++ v)) = rooted (address b ++ v) := by
    have hnil : address b = [] := List.prefix_nil.mp (hb ▸ address_prefix_place b)
    have htake := hv.takeWhile_append (b := []) (by simp)
    have hdrop := hv.dropTrailing_append []
    rw [List.nil_append] at htake hdrop
    rw [address_eq, h, htake, hdrop, hnil, List.nil_append]
  by_cases hscheme : ':' ∈ b ∨ ':' ∉ v
  · rcases afterScheme_cases b with hnil | hopen | hslash | ⟨hne, hslash⟩
    · have hplace : place b = [] := afterAuthority_eq_nil_iff.mpr (.inl hnil)
      by_cases hdouble : ['/', '/'] <+: v
      · refine iff_of_false (hshort (length_lt_of_double hscheme hnil hdouble)) fun h => ?_
        exact h.apart hnil hdouble
      · refine iff_of_true (hwhole hplace ?_) ⟨hscheme, by simp [hplace], by simp [hplace], ?_⟩
        · rw [place, afterScheme_append_of_or hscheme, hnil, List.nil_append,
            afterAuthority_eq_self hdouble]
        · exact fun _ => hdouble
    · have hplace : place b = [] := afterAuthority_eq_nil_iff.mpr (.inr hopen)
      refine iff_of_true (hwhole hplace ?_) ⟨hscheme, by simp [hplace], by simp [hplace], ?_⟩
      · obtain ⟨rest, rfl, -⟩ := hv.exists_cons
        rw [place, afterScheme_append_of_or hscheme, afterAuthority_append_of_isOpen hopen]
        rfl
      · intro hnil
        obtain ⟨host, hhost, -⟩ := hopen
        rw [hnil] at hhost
        cases hhost
    · refine iff_of_false (hshort (length_lt_of_slash hscheme hslash hv)) fun h => h.last ?_
      rw [place, hslash]
      rfl
    · refine (rooted_address_append_of_place hscheme hne hslash hv).trans ?_
      refine ⟨fun h => ⟨hscheme, h.1, h.2, fun hnil => ?_⟩, fun h => ⟨h.bare, h.last⟩⟩
      exact absurd (afterAuthority_eq_nil_iff.mpr (.inl hnil)) hne
  · obtain ⟨hb, hcolon⟩ := not_or.mp hscheme
    refine iff_of_false (hshort (length_lt_of_colon hb hv (by simpa using hcolon))) fun h => ?_
    exact hscheme h.scheme

end Lists

variable {uri path : String}

/-- Of a path without dot segments only the text has to be right. -/
theorem ofUri_eq_ok_iff_of_isPlain (h : IsPlain path) :
    ofUri uri = .ok path ↔ rooted (address uri.toList) = path.toList := by
  rw [ofUri_eq_ok_iff, eq_comm, and_iff_right_iff_imp]
  intro hpath segment hmem
  apply h.2
  rw [← hpath, rooted]
  split
  · exact hmem
  · rw [Text.splitAt_cons_self]
    exact List.mem_cons_of_mem _ hmem

theorem colon_mem_rooted_iff {s : List Char} : ':' ∈ rooted s ↔ ':' ∈ s := by
  unfold rooted
  split
  · exact Iff.rfl
  · simp

theorem mem_of_mem_address {u : List Char} {c : Char} (h : c ∈ address u) : c ∈ u :=
  (place_suffix u).subset ((address_prefix_place u).subset h)

end Path

namespace Watcher

variable {w : Watcher} {path : String}

theorem uriFor_toList (w : Watcher) (path : String) :
    (w.uriFor path).toList = Path.base w.uri.toList ++
      if w.path = Path.root then path.toList else (Path.below path w.path).toList := by
  unfold uriFor Path.base
  simp only
  split <;> split <;> simp

/-- Below the path that is watched, the URI is continued by what makes the path. -/
theorem exists_sequel (hw : Path.ofUri w.uri = .ok w.path) (hproper : Path.IsProper path)
    (hplain : Path.IsPlain path) (hcovers : w.covers path = true) (hne : path ≠ w.path) :
    ∃ v, Path.IsSequel v ∧ (w.uriFor path).toList = Path.base w.uri.toList ++ v ∧
      path.toList = Path.rooted (Path.address w.uri.toList ++ v) ∧
      (Path.address w.uri.toList = [] → v = path.toList) := by
  have hbare : ∀ c ∈ path.toList, Path.isBare c = true := fun c hc =>
    Path.isBare_iff.mpr (hplain.1 c hc)
  by_cases hroot : w.path = Path.root
  · have hnil : Path.address w.uri.toList = [] := Path.ofUri_eq_root_iff.mp (hroot ▸ hw)
    refine ⟨path.toList, ⟨hproper.1, hproper.2, hbare⟩, ?_, ?_, fun _ => rfl⟩
    · rw [uriFor_toList, if_pos hroot]
    · rw [hnil, List.nil_append, Path.rooted_of_head? hproper.1]
  · have hnonempty : Path.address w.uri.toList ≠ [] := by
      intro hnil
      rw [← Path.ofUri_eq_root_iff, hw] at hnil
      exact hroot (Except.ok.inj hnil)
    obtain ⟨tail, htail, rfl⟩ := (Path.isWithin_iff hroot).mp hcovers
    have hhead : tail.toList.head? = some '/' := by
      rcases htail with rfl | hhead
      · exact absurd String.append_empty hne
      · exact hhead
    obtain ⟨rest, hrest⟩ := List.head?_eq_some_iff.mp hhead
    refine ⟨tail.toList, ⟨hhead, ?_, ?_⟩, ?_, ?_, fun hnil => absurd hnil hnonempty⟩
    · have hlast := hproper.2
      rw [String.toList_append, hrest, List.getLast?_append, List.getLast?_cons] at hlast
      rw [hrest, List.getLast?_cons]
      exact hlast
    · intro c hc
      exact hbare c (by rw [String.toList_append]; exact List.mem_append_right _ hc)
    · rw [uriFor_toList, if_neg hroot, Path.below_append]
    · rw [Path.rooted_append hnonempty, String.toList_append, (Path.ofUri_eq_ok_iff.mp hw).2]

/-- The path that is watched is addressed by its URI in any case. -/
theorem ofUri_uriFor_self (hw : Path.ofUri w.uri = .ok w.path) :
    Path.ofUri (w.uriFor w.path) = .ok w.path := by
  have haddress : Path.address (w.uriFor w.path).toList = Path.address w.uri.toList := by
    rw [uriFor_toList]
    by_cases hroot : w.path = Path.root
    · rw [if_pos hroot, hroot, Path.root_toList, Path.address_append_slash, Path.address_base]
    · have hbelow : Path.below w.path w.path = "" := by
        simpa using Path.below_append w.path ""
      rw [if_neg hroot, hbelow, String.toList_empty, List.append_nil, Path.address_base]
  rw [← Path.toOption_ofUri_eq_some_iff, Path.toOption_ofUri_congr haddress,
    Path.toOption_ofUri_eq_some_iff]
  exact hw

/-- A path at or below the one that is watched is addressed by what the watcher is told exactly if
it is the watched one, or continues the watched URI. -/
theorem ofUri_uriFor_iff (hw : Path.ofUri w.uri = .ok w.path) {other : String}
    (hpath : Path.ofUri other = .ok path) (hcovers : w.covers path = true) :
    Path.ofUri (w.uriFor path) = .ok path ↔
      path = w.path ∨ Path.Continues (Path.base w.uri.toList) path.toList := by
  by_cases hself : path = w.path
  · subst hself
    exact iff_of_true (ofUri_uriFor_self hw) (.inl rfl)
  have hplain := Path.ofUri_isPlain hpath
  have hproper : Path.IsProper path := by
    refine (Path.ofUri_proper hpath).resolve_left ?_
    rintro rfl
    -- Only the root covers the root.
    by_cases hroot : w.path = Path.root
    · exact hself hroot.symm
    · have hwatched := (Path.ofUri_proper hw).resolve_left hroot
      rw [covers, Path.not_isWithin_root hwatched] at hcovers
      cases hcovers
  obtain ⟨v, hv, huri, htext, hwhole⟩ := exists_sequel hw hproper hplain hcovers hself
  rw [Path.ofUri_eq_ok_iff_of_isPlain hplain, huri, htext, ← Path.address_base w.uri.toList,
    Path.rooted_address_append_iff hv, Path.address_base, ← htext, or_iff_right hself]
  -- What stands before the tail has no colon of its own, and is empty after a mere scheme.
  have hcolon (hbase : ':' ∉ Path.base w.uri.toList) : ':' ∈ path.toList ↔ ':' ∈ v := by
    have haddress : ':' ∉ Path.address w.uri.toList := by
      rw [← Path.address_base]
      exact fun hmem => hbase (Path.mem_of_mem_address hmem)
    rw [htext, Path.colon_mem_rooted_iff, List.mem_append, or_iff_right haddress]
  have hempty (hscheme : Path.afterScheme (Path.base w.uri.toList) = []) : v = path.toList := by
    apply hwhole
    rw [← Path.address_base]
    have hplace : Path.place (Path.base w.uri.toList) = [] :=
      Path.afterAuthority_eq_nil_iff.mpr (.inl hscheme)
    exact List.prefix_nil.mp (hplace ▸ Path.address_prefix_place _)
  constructor
  · intro h
    refine ⟨?_, h.bare, h.last, fun hscheme => hempty hscheme ▸ h.apart hscheme⟩
    by_cases hbase : ':' ∈ Path.base w.uri.toList
    · exact .inl hbase
    · exact .inr fun hmem => (h.scheme.resolve_left hbase) ((hcolon hbase).mp hmem)
  · intro h
    refine ⟨?_, h.bare, h.last, fun hscheme => (hempty hscheme).symm ▸ h.apart hscheme⟩
    by_cases hbase : ':' ∈ Path.base w.uri.toList
    · exact .inl hbase
    · exact .inr fun hmem => (h.scheme.resolve_left hbase) ((hcolon hbase).mpr hmem)

end Watcher

namespace Tree

/-- A watch that is opened by a URI, and a path that some URI addresses, at or below the watched
one: the watcher is told of a change there by a URI that addresses the path exactly if the path is
the watched one or continues the URI of the watch. Then the peer is told that location, and for an
entry that was created the tree is asked for that entry. -/
theorem location_names_change_iff {t t' : Tree} {uri : String} {number : Nat}
    (hwatch : t.watch uri = (.ok number, t')) {other path : String}
    (hpath : Path.ofUri other = .ok path) :
    ∃ w ∈ t'.watchers, w.id = number ∧ w.uri = uri ∧ Path.ofUri uri = .ok w.path ∧
      (w.covers path = true →
        (∀ kind, (w.tell kind path).pending = [⟨kind, w.uriFor path⟩]) ∧
        (Path.ofUri (w.uriFor path) = .ok path ↔
          path = w.path ∨ Path.Continues (Path.base uri.toList) path.toList) ∧
        ∀ (s : Subscription) (kind : ChangeKind) (host : Tree),
          let event := (s.event ⟨kind, w.uriFor path⟩ host).1
          event.location = w.uriFor path ∧
            (kind = .created → Path.ofUri event.location = .ok path →
              (event.entryType = .directory ↔ host.entries.hasDirectory path = true))) := by
  unfold watch at hwatch
  cases hroot : Path.ofUri uri with
  | error cause =>
    rw [hroot] at hwatch
    cases hwatch
  | ok root =>
    rw [hroot] at hwatch
    obtain ⟨hnumber, rfl⟩ := Prod.mk.inj hwatch
    obtain rfl := Except.ok.inj hnumber
    refine ⟨⟨t.nextWatcher, root, uri, [], true⟩, List.mem_append_right _ List.mem_cons_self, rfl,
      rfl, rfl, fun hcovers => ⟨fun kind => ?_, ?_, fun s kind host => ?_⟩⟩
    · simp [Watcher.tell, hcovers]
    · exact Watcher.ofUri_uriFor_iff hroot hpath hcovers
    · rw [Subscription.event_fst]
      refine ⟨rfl, ?_⟩
      rintro rfl hlocation
      simp only [Change.entryTypeIn, hlocation]
      cases host.entries.hasDirectory path <;> simp

/-- A file with a colon in its name, below a directory that is watched with a slash at its end. -/
theorem location_names_change_iff_colon :
    let r := (empty 0).watch "mem://host/a/"
    ∃ w ∈ r.2.watchers, w.uriFor "/a/b:c" = "mem://host/a/b:c" ∧
      Path.ofUri (w.uriFor "/a/b:c") = .ok "/a/b:c" := by
  intro r
  have hwatch : (empty 0).watch "mem://host/a/" = (.ok 0, r.2) := rfl
  have hpath : Path.ofUri "file:/a/b:c" = .ok "/a/b:c" := rfl
  obtain ⟨w, hw, -, huri, hroot, h⟩ := location_names_change_iff hwatch hpath
  have hwatched : w.path = "/a" := (Except.ok.inj hroot).symm
  have hcovers : w.covers "/a/b:c" = true := by
    rw [Watcher.covers, hwatched]
    decide
  refine ⟨w, hw, ?_, (h hcovers).2.1.mpr (.inr (by decide))⟩
  rw [Watcher.uriFor, huri, hwatched]
  decide

/-- The directory `/a/b` is made while `/a` is watched with two slashes at its end: the peer is told
that a file was created, at a location where nothing is. -/
theorem location_misses_change :
    let t := run [.perform (.createDirectory "mem:/a"), .perform (.watch "mem:/a//"),
      .perform (.createDirectory "mem:/a/b")] (empty 0)
    let location := "mem:/a//b"
    Path.ofUri "mem:/a//" = .ok "/a" ∧ Path.isWithin "/a/b" "/a" = true ∧
      t.entries.hasDirectory "/a/b" = true ∧
      t.watchers.map Watcher.pending = [[⟨.created, location⟩]] ∧
      Path.ofUri location = .ok "/a//b" ∧ t.entries.has "/a//b" = false ∧
      ((⟨"w", 0⟩ : Subscription).event ⟨.created, location⟩ t).1 =
        ⟨"w", location, .created, .file⟩ :=
  ⟨rfl, rfl, rfl, rfl, rfl, rfl, rfl⟩

end Tree

end FileBridge
