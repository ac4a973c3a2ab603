import Mathlib.Data.List.TakeDrop
import FileBridge.Guard
import FileBridge.Proofs.OrderedMap

/-!
What it means that a URI is guarded: the text before its first colon is not empty, and in lower case
it is one of the guarded schemes.
-/
namespace FileBridge

namespace Text

/-- A text is cut where the character stands first. -/
theorem cutFirst?_eq_some_iff {c : Char} {s before after : List Char} :
    cutFirst? c s = some (before, after) ↔ s = before ++ c :: after ∧ c ∉ before := by
  unfold cutFirst?
  rw [List.span_eq_takeWhile_dropWhile]
  constructor
  · intro h
    split at h
    · cases h
    next front d back heq =>
      obtain ⟨hfront, hback⟩ := Prod.mk.inj heq
      obtain ⟨rfl, rfl⟩ := Prod.mk.inj (Option.some.inj h)
      have hd : d = c := by
        have hnot := List.head?_dropWhile_not (fun e => decide (e ≠ c)) s
        rw [hback] at hnot
        simpa using hnot
      refine ⟨?_, fun hmem => ?_⟩
      · rw [← hd, ← hfront, ← hback, List.takeWhile_append_dropWhile]
      · rw [← hfront] at hmem
        simpa using List.all_eq_true.mp List.all_takeWhile c hmem
  · rintro ⟨rfl, hnot⟩
    have hall : ∀ d ∈ before, decide (d ≠ c) = true := by
      rintro d hd
      have : d ≠ c := fun heq => hnot (heq ▸ hd)
      simpa using this
    have hfront : (before ++ c :: after).takeWhile (fun d => decide (d ≠ c)) = before := by
      rw [List.takeWhile_append_of_pos hall]
      simp
    have hback : (before ++ c :: after).dropWhile (fun d => decide (d ≠ c)) = c :: after := by
      rw [List.dropWhile_append_of_pos hall]
      simp
    rw [hfront, hback]

theorem isUpper_iff {c : Char} : c.isUpper = true ↔ 65 ≤ c.toNat ∧ c.toNat ≤ 90 := by
  have heq : c.isUpper = decide (c.val ≥ 'A'.val ∧ c.val ≤ 'Z'.val) := rfl
  rw [heq, decide_eq_true_iff, ge_iff_le, UInt32.le_iff_toNat_le, UInt32.le_iff_toNat_le]
  rfl

theorem toLower_of_not_isUpper {c : Char} (h : c.isUpper = false) : c.toLower = c :=
  dif_neg (of_decide_eq_false h)

/-- A capital letter stands 32 before the small one. -/
theorem toNat_toLower_of_isUpper {c : Char} (h : c.isUpper = true) :
    65 ≤ c.toNat ∧ c.toNat ≤ 90 ∧ c.toLower.toNat = c.toNat + 32 := by
  obtain ⟨hlow, hhigh⟩ := isUpper_iff.mp h
  refine ⟨hlow, hhigh, ?_⟩
  have hval : c.toLower.val = c.val + 32 := congrArg Char.val (dif_pos (of_decide_eq_true h))
  have hstep : (32 : UInt32).toNat = 32 := rfl
  have hsum : c.toLower.toNat = (c.toNat + 32) % 4294967296 := by
    rw [Char.toNat, hval, UInt32.toNat_add, hstep]
    rfl
  rw [hsum]
  omega

/-- A text without capital letters is in lower case. -/
theorem lower_eq_self {s : String} (h : s.toList.any Char.isUpper = false) : lower s = s := by
  have hmap : s.toList.map Char.toLower = s.toList.map id :=
    List.map_congr_left fun c hc =>
      toLower_of_not_isUpper (by simpa using List.any_eq_false.mp h c hc)
  rw [lower, hmap, List.map_id, String.ofList_toList]

end Text

theorem Uri.scheme?_eq_some_iff {uri scheme : String} :
    scheme? uri = some scheme ↔
      scheme ≠ "" ∧ ':' ∉ scheme.toList ∧ ∃ rest, uri = scheme ++ ":" ++ rest := by
  unfold scheme?
  constructor
  · intro h
    split at h
    next before after hcut =>
      obtain ⟨huri, hnot⟩ := Text.cutFirst?_eq_some_iff.mp hcut
      split at h
      · cases h
      next hne =>
        obtain rfl := Option.some.inj h
        refine ⟨by simpa using hne, by simpa using hnot, String.ofList after, ?_⟩
        apply String.ext
        simpa using huri
    · cases h
  · rintro ⟨hne, hnot, rest, rfl⟩
    have hcut : Text.cutFirst? ':' (scheme ++ ":" ++ rest).toList =
        some (scheme.toList, rest.toList) :=
      Text.cutFirst?_eq_some_iff.mpr ⟨by simp, hnot⟩
    have hscheme : scheme.toList ≠ [] := by simpa using hne
    simp only [hcut, if_neg hscheme, String.ofList_toList]

namespace Guard

/-- Both ways to look up a scheme find the same. -/
theorem holds_eq (g : Guard) (scheme : String) :
    g.holds scheme = g.table.contains (Text.lower scheme) := by
  unfold holds
  split
  next => rfl
  next hplain => rw [Text.lower_eq_self (by simpa using hplain)]

/-- A URI has this scheme as it is spelled there, and the scheme is guarded. -/
def Guards (g : Guard) (uri scheme : String) : Prop :=
  scheme ≠ "" ∧ ':' ∉ scheme.toList ∧ (∃ rest, uri = scheme ++ ":" ++ rest) ∧
    Text.lower scheme ∈ g.schemes

theorem guardedScheme?_eq_some_iff {g : Guard} {uri scheme : String} :
    g.guardedScheme? uri = some scheme ↔ g.Guards uri scheme := by
  have hmem : Text.lower scheme ∈ g.schemes ↔ g.holds scheme = true :=
    g.holds_eq scheme ▸ OrderedMap.mem_keys_iff
  unfold guardedScheme? Guards
  rw [hmem]
  cases hscheme : Uri.scheme? uri with
  | none =>
    constructor
    · intro h
      cases h
    · rintro ⟨hne, hnot, hrest, -⟩
      rw [Uri.scheme?_eq_some_iff.mpr ⟨hne, hnot, hrest⟩] at hscheme
      cases hscheme
  | some found =>
    constructor
    · intro h
      simp only at h
      split at h
      next hguarded =>
        obtain rfl := Option.some.inj h
        obtain ⟨hne, hnot, hrest⟩ := Uri.scheme?_eq_some_iff.mp hscheme
        exact ⟨hne, hnot, hrest, hguarded⟩
      · cases h
    · rintro ⟨hne, hnot, hrest, hguarded⟩
      rw [Uri.scheme?_eq_some_iff.mpr ⟨hne, hnot, hrest⟩] at hscheme
      obtain rfl := Option.some.inj hscheme
      exact if_pos hguarded

theorem guardedScheme?_eq_none_iff {g : Guard} {uri : String} :
    g.guardedScheme? uri = none ↔ ∀ scheme, ¬g.Guards uri scheme := by
  simp [Option.eq_none_iff_forall_ne_some, guardedScheme?_eq_some_iff]

@[simp] theorem guardedScheme?_empty (uri : String) : empty.guardedScheme? uri = none := by
  unfold guardedScheme?
  split
  next scheme _ =>
    rw [holds_eq]
    rfl
  next => rfl

end Guard

end FileBridge
