import Mathlib.Data.Nat.Init
import FileBridge.Net.Address
import FileBridge.Proofs.Text.Decimal

/-!
Addresses read back. Main statement: the canonical text of an address of either version is read as
that address. In version six the groups are read up to the run of zeros that was left out, and again
from there on; what is missing to eight groups is that run.
-/
namespace FileBridge

namespace Text

theorem hexValue?_digitChar {d : Nat} (h : d < 16) : hexValue? d.digitChar = some d := by
  have hall : ∀ d < 16, hexValue? d.digitChar = some d := by decide
  exact hall d h

theorem hexValueOf_append (ds : List Char) (d : Char) :
    hexValueOf (ds ++ [d]) = 16 * hexValueOf ds + (hexValue? d).getD 0 := by
  simp [hexValueOf]

/-- The hexadecimal digits of a number denote it. -/
theorem hexValueOf_toDigits (n : Nat) : hexValueOf (Nat.toDigits 16 n) = n := by
  induction n using Nat.strongRecOn with
  | ind n ih =>
    rw [Nat.toDigits_eq_if (by decide)]
    split
    next hn => simp [hexValueOf, hexValue?_digitChar hn]
    next hn =>
      rw [hexValueOf_append, ih (n / 16) (by omega),
        hexValue?_digitChar (Nat.mod_lt n (by decide)), Option.getD_some]
      omega

theorem isSome_of_mem_toDigits {n : Nat} {c : Char} (h : c ∈ Nat.toDigits 16 n) :
    (hexValue? c).isSome = true := by
  induction n using Nat.strongRecOn with
  | ind n ih =>
    rw [Nat.toDigits_eq_if (by decide)] at h
    split at h
    next hn => rw [List.mem_singleton.mp h, hexValue?_digitChar hn, Option.isSome_some]
    next hn =>
      rcases List.mem_append.mp h with h | h
      · exact ih (n / 16) (by omega) h
      · rw [List.mem_singleton.mp h, hexValue?_digitChar (Nat.mod_lt n (by decide)),
          Option.isSome_some]

end Text

namespace Net.Address

theorem readOctet?_digits {n : Nat} (hn : n < 256) {rest : List Char}
    (hrest : ∀ c ∈ rest.head?, c.isDigit = false) :
    readOctet? (Text.digits n ++ rest) = some (n, rest) := by
  have hdigit : ∀ c ∈ Text.digits n, c.isDigit = true := fun c hc => Text.isDigit_of_mem_digits hc
  have htake : (Text.digits n ++ rest).takeWhile Char.isDigit = Text.digits n := by
    rw [List.takeWhile_append_of_pos hdigit]
    cases rest with
    | nil => simp
    | cons c rest => simp [hrest c rfl]
  have hdrop : (Text.digits n ++ rest).dropWhile Char.isDigit = rest := by
    rw [List.dropWhile_append_of_pos hdigit]
    cases rest with
    | nil => rfl
    | cons c rest => simp [hrest c rfl]
  have hlength : (Text.digits n).length ≤ 3 :=
    Text.length_digits_le (k := 2) (Nat.lt_trans hn (by decide))
  have hzero : ¬((Text.digits n).head? = some '0' ∧ (Text.digits n).length ≠ 1) := by
    rintro ⟨hhead, hne⟩
    rw [Text.eq_zero_of_head?_digits hhead] at hne
    exact hne (by simp [Text.digits])
  have hvalue := Text.valueOf_digits n
  simp only [readOctet?, htake, hdrop, Text.digits_ne_nil, hvalue, false_or]
  rw [if_neg (not_or.mpr ⟨by omega, hzero⟩), if_neg (by omega)]

theorem toList_dotted (a b c d : Nat) :
    (dotted a b c d).toList = Text.digits a ++ '.' :: (Text.digits b ++ '.' :: (Text.digits c ++
      '.' :: Text.digits d)) := by
  simp [dotted, Text.decimal]

theorem readFour?_dotted {a b c d : Nat} (ha : a < 256) (hb : b < 256) (hc : c < 256)
    (hd : d < 256) : readFour? (dotted a b c d).toList = some ((a, b, c, d), []) := by
  have hpoint (rest : List Char) : ∀ x ∈ ('.' :: rest).head?, x.isDigit = false := by
    rintro x hx
    obtain rfl := Option.some.inj hx
    rfl
  have hlast : readOctet? (Text.digits d) = some (d, []) := by
    simpa using readOctet?_digits hd (show ∀ x ∈ ([] : List Char).head?, x.isDigit = false by simp)
  simp only [readFour?, toList_dotted, readOctet?_digits ha (hpoint _), readChar?, if_pos,
    readOctet?_digits hb (hpoint _), readOctet?_digits hc (hpoint _), hlast, Option.bind_eq_bind,
    Option.bind_some]

/-- Where no point follows the first digits, no address of version four starts. -/
theorem readFour?_eq_none {s : List Char} (h : (s.dropWhile Char.isDigit).head? ≠ some '.') :
    readFour? s = none := by
  unfold readFour? readOctet?
  simp only
  split
  · rfl
  · split
    · rfl
    · cases hdrop : s.dropWhile Char.isDigit with
      | nil => rfl
      | cons c rest =>
        have hc : c ≠ '.' := by simpa [hdrop] using h
        simp [readChar?, hc]

theorem readFour?_of_not_mem {s : List Char} (h : '.' ∉ s) : readFour? s = none := by
  refine readFour?_eq_none fun hhead => h ?_
  exact (List.dropWhile_sublist _).subset (List.mem_of_head? hhead)

/-- The digits of a group. -/
def groupDigits (g : UInt16) : List Char :=
  Nat.toDigits 16 g.toNat

/-- Groups, each with a colon in front. -/
def laterGroups (gs : List UInt16) : List Char :=
  gs.flatMap fun g => ':' :: groupDigits g

theorem toList_colons_cons (g : UInt16) (gs : List UInt16) :
    (colons (g :: gs)).toList = groupDigits g ++ laterGroups gs := by
  have hjoin (first : List Char) (later : List (List Char)) :
      [':'].intercalate (first :: later) = first ++ later.flatMap (':' :: ·) := by
    induction later generalizing first with
    | nil => simp
    | cons second later ih => simp [ih]
  simp [colons, String.toList_intercalate, hjoin, laterGroups, groupDigits, List.flatMap_map,
    Function.comp_def]

theorem eq_colon_or_isSome_of_mem_colons {gs : List UInt16} {c : Char}
    (h : c ∈ (colons gs).toList) : c = ':' ∨ (Text.hexValue? c).isSome = true := by
  cases gs with
  | nil => simp [colons] at h
  | cons g gs =>
    simp only [toList_colons_cons, List.mem_append, laterGroups, List.mem_flatMap,
      List.mem_cons] at h
    rcases h with h | ⟨g, -, h | h⟩
    · exact .inr (Text.isSome_of_mem_toDigits h)
    · exact .inl h
    · exact .inr (Text.isSome_of_mem_toDigits h)

theorem not_mem_colons (gs : List UInt16) : '.' ∉ (colons gs).toList :=
  fun h => absurd (eq_colon_or_isSome_of_mem_colons h) (by decide)

/-- A group ends before a colon and at the end. -/
def EndsGroup (rest : List Char) : Prop :=
  ∀ c ∈ rest.head?, c = ':'

theorem readGroup?_groupDigits (g : UInt16) {rest : List Char} (hrest : EndsGroup rest) :
    readGroup? (groupDigits g ++ rest) = some (g.toNat, rest) := by
  have hlength : (groupDigits g).length ≤ 4 :=
    (Nat.length_toDigits_le_iff (by decide) (by decide)).mpr g.toNat_lt
  have htake : (groupDigits g ++ rest).takeWhile (fun c => (Text.hexValue? c).isSome) =
      groupDigits g := by
    have hhex : ∀ c ∈ groupDigits g, (Text.hexValue? c).isSome = true :=
      fun c hc => Text.isSome_of_mem_toDigits hc
    rw [List.takeWhile_append_of_pos hhex]
    cases rest with
    | nil => simp
    | cons c rest =>
      obtain rfl := hrest c rfl
      simp [Text.hexValue?]
  have hne : groupDigits g ≠ [] := Nat.toDigits_ne_nil
  have hvalue : Text.hexValueOf (groupDigits g) = g.toNat := Text.hexValueOf_toDigits g.toNat
  simp only [readGroup?, htake, List.drop_left, hvalue]
  rw [if_neg (not_or.mpr ⟨hne, by omega⟩)]

theorem readGroup?_colon (s : List Char) : readGroup? (':' :: s) = none := by
  simp [readGroup?, Text.hexValue?]

/-- What follows groups that are not the last ones: nothing, or the mark of the zeros. -/
def EndsGroups (rest : List Char) : Prop :=
  '.' ∉ rest ∧ (rest = [] ∨ ∃ s, rest = ':' :: ':' :: s)

theorem endsGroups_nil : EndsGroups [] :=
  ⟨by simp, .inl rfl⟩

theorem EndsGroups.endsGroup {rest : List Char} (h : EndsGroups rest) : EndsGroup rest := by
  rcases h.2 with rfl | ⟨s, rfl⟩ <;> simp [EndsGroup]

theorem endsGroup_laterGroups (gs : List UInt16) {rest : List Char} (h : EndsGroups rest) :
    EndsGroup (laterGroups gs ++ rest) := by
  cases gs with
  | nil => exact h.endsGroup
  | cons g gs => simp [laterGroups, EndsGroup]

theorem readGroups_laterGroups {gs : List UInt16} {n : Nat} (hn : gs.length ≤ n)
    {rest : List Char} (hrest : EndsGroups rest) :
    readGroups n false (laterGroups gs ++ rest) = ⟨gs.map UInt16.toNat, false, rest⟩ := by
  induction gs generalizing n with
  | nil =>
    cases n with
    | zero => rfl
    | succ n =>
      obtain ⟨hpoint, rfl | ⟨s, rfl⟩⟩ := hrest
      · simp [readGroups, laterGroups, readChar?]
      · have hfour : readFour? (':' :: s) = none :=
          readFour?_of_not_mem fun h => hpoint (List.mem_cons_of_mem _ h)
        simp [readGroups, laterGroups, readChar?, hfour, readGroup?_colon]
  | cons g gs ih =>
    cases n with
    | zero => simp at hn
    | succ n =>
      have hfour : readFour? (groupDigits g ++ (laterGroups gs ++ rest)) = none := by
        have hpoint := not_mem_colons (g :: gs)
        rw [toList_colons_cons] at hpoint
        rw [← List.append_assoc]
        exact readFour?_of_not_mem (List.not_mem_append hpoint hrest.1)
      have htext : laterGroups (g :: gs) ++ rest =
          ':' :: (groupDigits g ++ (laterGroups gs ++ rest)) := by
        simp [laterGroups]
      rw [htext]
      simp [readGroups, readChar?, hfour, readGroup?_groupDigits g (endsGroup_laterGroups gs hrest),
        ih (Nat.le_of_succ_le_succ hn)]

/-- Groups between colons are read up to the end or the mark of the zeros. -/
theorem readGroups_colons {gs : List UInt16} {n : Nat} (hn : gs.length ≤ n) {rest : List Char}
    (hrest : EndsGroups rest) :
    readGroups n true ((colons gs).toList ++ rest) = ⟨gs.map UInt16.toNat, false, rest⟩ := by
  cases n with
  | zero =>
    obtain rfl := List.length_eq_zero_iff.mp (Nat.le_zero.mp hn)
    rfl
  | succ n =>
    have hfour : readFour? ((colons gs).toList ++ rest) = none :=
      readFour?_of_not_mem (by simp [not_mem_colons, hrest.1])
    cases gs with
    | nil =>
      have hgroup : readGroup? rest = none := by
        rcases hrest.2 with rfl | ⟨s, rfl⟩
        · rfl
        · exact readGroup?_colon _
      have hempty : (colons []).toList ++ rest = rest := rfl
      rw [hempty] at hfour ⊢
      simp [readGroups, hfour, hgroup]
    | cons g gs =>
      rw [toList_colons_cons, List.append_assoc] at hfour ⊢
      simp [readGroups, hfour, readGroup?_groupDigits g (endsGroup_laterGroups gs hrest),
        readGroups_laterGroups (Nat.le_of_succ_le_succ hn) hrest]

/-- The run that is left out consists of zeros. -/
theorem zerosAt_longestZeros (groups : List UInt16) :
    (longestZeros groups).2 = 0 ∨
      zerosAt (groups.drop (longestZeros groups).1) = (longestZeros groups).2 := by
  -- The invariant of the search holds of the pair that it starts with, and of each candidate.
  have hfold (places : List Nat) (best : Nat × Nat)
      (hbest : best.2 = 0 ∨ zerosAt (groups.drop best.1) = best.2) :
      let found := places.foldl (fun best i =>
        let n := zerosAt (groups.drop i)
        if best.2 < n then (i, n) else best) best
      found.2 = 0 ∨ zerosAt (groups.drop found.1) = found.2 := by
    induction places generalizing best with
    | nil => exact hbest
    | cons i places ih =>
      refine ih _ ?_
      simp only
      split
      · exact .inr rfl
      · exact hbest
  exact hfold (List.range groups.length) (0, 0) (.inl rfl)

theorem eq_append_zeros {groups : List UInt16} {start n : Nat}
    (h : zerosAt (groups.drop start) = n) :
    groups = groups.take start ++ List.replicate n 0 ++ groups.drop (start + n) := by
  have hzeros : (groups.drop start).takeWhile (· = 0) = List.replicate n 0 := by
    refine List.eq_replicate_iff.mpr ⟨h, fun g hg => ?_⟩
    simpa using List.all_eq_true.mp List.all_takeWhile g hg
  have hrest : (groups.drop start).dropWhile (· = 0) = groups.drop (start + n) := by
    have hdrop := congrArg (List.drop n)
      (List.takeWhile_append_dropWhile (p := (· = 0)) (l := groups.drop start))
    rw [hzeros, List.drop_left' List.length_replicate, List.drop_drop] at hdrop
    exact hdrop
  calc
    groups = groups.take start ++ groups.drop start := (List.take_append_drop start groups).symm
    _ = groups.take start ++ (List.replicate n 0 ++ groups.drop (start + n)) := by
      rw [← hzeros, ← hrest, List.takeWhile_append_dropWhile]
    _ = _ := (List.append_assoc ..).symm

theorem readEight?_colons {groups : List UInt16} (h : groups.length = 8) :
    readEight? (colons groups).toList = some (groups.map UInt16.toNat, []) := by
  have hread : readGroups 8 true (colons groups).toList = ⟨groups.map UInt16.toNat, false, []⟩ := by
    simpa using readGroups_colons (Nat.le_of_eq h) endsGroups_nil
  simp [readEight?, hread, h]

/-- The zeros that were left out are found again from the number of groups that are missing. -/
theorem readEight?_zeros {front back : List UInt16} {n : Nat} (hn : 0 < n)
    (h : front.length + n + back.length = 8) :
    readEight? ((colons front).toList ++ ':' :: ':' :: (colons back).toList) =
      some ((front ++ List.replicate n 0 ++ back).map UInt16.toNat, []) := by
  have hfront : readGroups 8 true ((colons front).toList ++ ':' :: ':' :: (colons back).toList) =
      ⟨front.map UInt16.toNat, false, ':' :: ':' :: (colons back).toList⟩ :=
    readGroups_colons (by omega) ⟨by simp [not_mem_colons], .inr ⟨_, rfl⟩⟩
  have hback : readGroups (8 - (front.length + 1)) true (colons back).toList =
      ⟨back.map UInt16.toNat, false, []⟩ := by
    have hlength : back.length ≤ 8 - (front.length + 1) := by omega
    simpa using readGroups_colons hlength endsGroups_nil
  have hmissing : 8 - front.length - back.length = n := by omega
  have hshort : front.length ≠ 8 := by omega
  simp only [readEight?, hfront, List.length_map, hshort, readChar?, if_false, if_pos, hback,
    hmissing, Option.bind_eq_bind, Option.bind_some, Bool.false_eq_true, List.map_append,
    List.map_replicate]
  rfl

theorem ofGroups?_map {groups : List UInt16} (h : groups.length = 8) :
    ofGroups? (groups.map UInt16.toNat) = some (.v6 groups h) := by
  have hmap : (groups.map UInt16.toNat).map UInt16.ofNat = groups := by
    simp [Function.comp_def]
  simp only [ofGroups?, List.length_map, h, hmap, dif_pos]

theorem read?_of_readEight? {s : List Char} {groups : List UInt16} (hfour : readFour? s = none)
    (hsize : groups.length = 8) (h : readEight? s = some (groups.map UInt16.toNat, [])) :
    read? s = some (.v6 groups hsize) := by
  simp only [read?, hfour, h, if_pos, ofGroups?_map hsize]

/-- The last two groups after `::ffff:` are spelled as an address of version four. -/
theorem readEight?_embedded (g h : UInt16) :
    readEight? ("::ffff:" ++
        dotted (g.toNat / 256) (g.toNat % 256) (h.toNat / 256) (h.toNat % 256)).toList =
      some ([0, 0, 0, 0, 0, 0xffff, g, h].map UInt16.toNat, []) := by
  have hg := g.toNat_lt
  have hh := h.toNat_lt
  have hfour := readFour?_dotted (show g.toNat / 256 < 256 by omega)
    (show g.toNat % 256 < 256 by omega) (show h.toNat / 256 < 256 by omega)
    (show h.toNat % 256 < 256 by omega)
  rw [String.toList_append]
  generalize (dotted (g.toNat / 256) (g.toNat % 256) (h.toNat / 256) (h.toNat % 256)).toList = four
    at hfour
  have hlast : readGroups 6 false (':' :: four) = ⟨[g.toNat, h.toNat], true, []⟩ := by
    simp [readGroups, readChar?, hfour, Nat.div_add_mod]
  have hmark : readGroup? ('f' :: 'f' :: 'f' :: 'f' :: ':' :: four) = some (0xffff, ':' :: four) :=
    readGroup?_groupDigits 0xffff (show EndsGroup (':' :: four) by simp [EndsGroup])
  have hback : readGroups 7 true ('f' :: 'f' :: 'f' :: 'f' :: ':' :: four) =
      ⟨[0xffff, g.toNat, h.toNat], true, []⟩ := by
    have hletter : readFour? ('f' :: 'f' :: 'f' :: 'f' :: ':' :: four) = none :=
      readFour?_eq_none (by simp)
    rw [readGroups]
    simp [hletter, hmark, hlast]
  have hfront (s : List Char) : readGroups 8 true (':' :: s) = ⟨[], false, ':' :: s⟩ := by
    have hcolon : readFour? (':' :: s) = none := readFour?_eq_none (by simp)
    rw [readGroups]
    simp [hcolon, readGroup?_colon]
  have htext : "::ffff:".toList ++ four =
      ':' :: ':' :: 'f' :: 'f' :: 'f' :: 'f' :: ':' :: four := rfl
  rw [htext]
  simp [readEight?, hfront, readChar?, hback]

theorem read?_shortened {groups : List UInt16} (size : groups.length = 8) {start n : Nat}
    (hn : 0 < n) (hzeros : zerosAt (groups.drop start) = n) :
    read? (colons (groups.take start) ++ "::" ++ colons (groups.drop (start + n))).toList =
      some (.v6 groups size) := by
  have hgroups := eq_append_zeros hzeros
  have hlength : (groups.take start).length + n + (groups.drop (start + n)).length = 8 := by
    have := congrArg List.length hgroups
    simp only [List.length_append, List.length_replicate] at this
    omega
  have htext : (colons (groups.take start) ++ "::" ++ colons (groups.drop (start + n))).toList =
      (colons (groups.take start)).toList ++
        ':' :: ':' :: (colons (groups.drop (start + n))).toList := by
    simp
  rw [htext]
  refine read?_of_readEight? (readFour?_of_not_mem (by simp [not_mem_colons])) size ?_
  rw [readEight?_zeros hn hlength, ← hgroups]

/-- The canonical text of an address is read as that address. -/
theorem read?_text (a : Address) : read? a.text.toList = some a := by
  cases a with
  | v4 a b c d =>
    simp only [text, read?, readFour?_dotted a.toNat_lt b.toNat_lt c.toNat_lt d.toNat_lt, if_pos,
      UInt8.ofNat_toNat]
  | v6 groups size =>
    unfold text
    simp only
    split
    next g h size =>
      exact read?_of_readEight? (readFour?_eq_none (by simp)) size (readEight?_embedded g h)
    · split
      next hn =>
        have hzeros := (zerosAt_longestZeros groups).resolve_left (by omega)
        exact read?_shortened size (by omega) hzeros
      · exact read?_of_readEight? (readFour?_of_not_mem (not_mem_colons groups)) size
          (readEight?_colons size)

/-- A character of the text of an address. -/
def isTextChar (c : Char) : Bool :=
  (Text.hexValue? c).isSome || c = ':' || c = '.'

theorem isTextChar_of_mem_dotted {a b c d : Nat} {x : Char} (h : x ∈ (dotted a b c d).toList) :
    isTextChar x = true := by
  have hdigit {n : Nat} (hx : x ∈ Text.digits n) : isTextChar x = true := by
    simp [isTextChar, Text.hexValue?, Text.isDigit_of_mem_digits hx]
  simp only [toList_dotted, List.mem_append, List.mem_cons] at h
  rcases h with h | rfl | h | rfl | h | rfl | h
  all_goals first | exact hdigit h | rfl

theorem isTextChar_of_mem_colons {gs : List UInt16} {x : Char} (h : x ∈ (colons gs).toList) :
    isTextChar x = true := by
  rcases eq_colon_or_isSome_of_mem_colons h with rfl | h
  · rfl
  · simp [isTextChar, h]

theorem isTextChar_of_mem_text {a : Address} {x : Char} (h : x ∈ a.text.toList) :
    isTextChar x = true := by
  cases a with
  | v4 a b c d => exact isTextChar_of_mem_dotted h
  | v6 groups size =>
    unfold text at h
    simp only at h
    split at h
    · rw [String.toList_append, List.mem_append] at h
      rcases h with h | h
      · have hall : "::ffff:".toList.all isTextChar = true := by decide
        exact List.all_eq_true.mp hall x h
      · exact isTextChar_of_mem_dotted h
    · split at h
      · simp only [String.toList_append, List.mem_append] at h
        rcases h with (h | h) | h
        · exact isTextChar_of_mem_colons h
        · have hall : "::".toList.all isTextChar = true := by decide
          exact List.all_eq_true.mp hall x h
        · exact isTextChar_of_mem_colons h
      · exact isTextChar_of_mem_colons h

end Net.Address

end FileBridge
