import Mathlib.Data.List.Permutation
import FileBridge.Local
import FileBridge.Proofs.Guard.History
import FileBridge.Proofs.Service.Guarded

/-!
The guard before the disk. The guard takes the text before the first colon of a URI as it is; a URL
may have control characters and spaces before its scheme and tabs and line ends in it. Main
statement: a guard for local files refuses a URI of a local path exactly if none of these stand
before its first colon, and otherwise lets it through to the path that its plain spelling names.
-/
namespace FileBridge

namespace Url

theorem dropWhile_append_colon (before after : List Char) :
    (before ++ ':' :: after).dropWhile isOuter = before.dropWhile isOuter ++ ':' :: after := by
  rw [List.dropWhile_append]
  split
  next hempty =>
    rw [List.isEmpty_iff.mp hempty, List.dropWhile_cons_of_neg (by decide), List.nil_append]
  next => rfl

/-- Trimming a text with a colon does not get past it from either end. -/
theorem trim_append_colon (before after : List Char) :
    trim (before ++ ':' :: after) =
      before.dropWhile isOuter ++ ':' :: (after.reverse.dropWhile isOuter).reverse := by
  rw [trim, dropWhile_append_colon, List.reverse_append, List.reverse_cons, List.append_assoc,
    List.singleton_append, dropWhile_append_colon, List.reverse_append, List.reverse_cons,
    List.reverse_reverse, List.append_assoc, List.singleton_append]

/-- The scheme of a URL, out of the text before its first colon. -/
def schemeOf (before : List Char) : List Char :=
  counted (before.dropWhile isOuter)

theorem splitScheme?_trim {before : List Char} (hbefore : ':' ∉ before) (after : List Char) :
    splitScheme? (trim (before ++ ':' :: after)) =
      if (schemeOf before).head?.any Char.isAlpha && (schemeOf before).all isSchemeChar then
        some (Text.lower (String.ofList (schemeOf before)),
          (after.reverse.dropWhile isOuter).reverse)
      else none := by
  have hnot : ':' ∉ before.dropWhile isOuter := fun hmem =>
    hbefore (List.dropWhile_suffix isOuter |>.subset hmem)
  rw [trim_append_colon, splitScheme?, Text.cutFirst?_eq_some_iff.mpr ⟨rfl, hnot⟩]
  rfl

theorem mem_of_mem_trim {c : Char} {s : List Char} (h : c ∈ trim s) : c ∈ s := by
  rw [trim, List.mem_reverse] at h
  have hback := List.dropWhile_suffix isOuter |>.subset h
  exact List.dropWhile_suffix isOuter |>.subset (List.mem_reverse.mp hback)

/-- A URL has a colon, and the text before the first one tells its scheme. -/
theorem exists_of_splitScheme? {s : List Char} {scheme : String} {rest : List Char}
    (h : splitScheme? (trim s) = some (scheme, rest)) :
    ∃ before after, s = before ++ ':' :: after ∧ ':' ∉ before ∧
      Text.lower (String.ofList (schemeOf before)) = scheme ∧
      (after.reverse.dropWhile isOuter).reverse = rest := by
  have hmem : ':' ∈ s := by
    cases hcut : Text.cutFirst? ':' (trim s) with
    | none =>
      rw [splitScheme?, hcut] at h
      cases h
    | some parts =>
      obtain ⟨before, after⟩ := parts
      obtain ⟨heq, -⟩ := Text.cutFirst?_eq_some_iff.mp hcut
      exact mem_of_mem_trim (heq ▸ by simp)
  obtain ⟨before, after, rfl, hbefore⟩ := List.eq_append_cons_of_mem hmem
  rw [splitScheme?_trim hbefore] at h
  split at h
  next =>
    obtain ⟨hscheme, hrest⟩ := Prod.mk.inj (Option.some.inj h)
    exact ⟨before, after, rfl, hbefore, hscheme, hrest⟩
  next => cases h

/-- What is parsed as a file, and how. -/
theorem parse_of_splitScheme? {s : String} {rest : List Char}
    (h : splitScheme? (trim s.toList) = some ("file", rest)) : parse s = parseFile rest := by
  rw [parse, h]
  rfl

theorem splitScheme?_of_parse {s : String} {remote : Bool} {path : List Char}
    (h : parse s = .ok (.file remote path)) :
    ∃ rest, splitScheme? (trim s.toList) = some ("file", rest) := by
  have hother {α : Type} {outcome : Except UrlError α} {scheme : String} :
      (outcome.map fun _ => Url.other scheme) ≠ .ok (.file remote path) := by
    intro hmap
    obtain ⟨_, -, heq⟩ := exists_of_map_eq_ok hmap
    cases heq
  unfold parse at h
  split at h
  next => cases h
  next scheme rest hsplit =>
    split at h
    next hscheme => exact ⟨rest, hscheme ▸ hsplit⟩
    next =>
      dsimp only at h
      split at h
      · exact absurd h hother
      · split at h
        · exact absurd h hother
        · cases h

/-- A file is parsed the same if its scheme is spelled plainly. -/
theorem exists_plain_of_parse {s : String} {remote : Bool} {path : List Char}
    (h : parse s = .ok (.file remote path)) :
    ∃ scheme rest, s = scheme ++ ":" ++ rest ∧ ':' ∉ scheme.toList ∧
      Text.lower (String.ofList (schemeOf scheme.toList)) = "file" ∧
      parse ("file:" ++ rest) = .ok (.file remote path) := by
  obtain ⟨rest, hsplit⟩ := splitScheme?_of_parse h
  obtain ⟨before, after, hs, hbefore, hscheme, hrest⟩ := exists_of_splitScheme? hsplit
  have hplain :
      splitScheme? (trim ("file:" ++ String.ofList after).toList) = some ("file", rest) := by
    have heq : ("file:" ++ String.ofList after).toList = "file".toList ++ ':' :: after := by simp
    rw [heq, splitScheme?_trim (by decide), hrest]
    rfl
  refine ⟨String.ofList before, String.ofList after, ?_, by simpa using hbefore,
    by simpa using hscheme,
    ?_⟩
  · apply String.ext
    simpa using hs
  · rw [parse_of_splitScheme? hplain, ← parse_of_splitScheme? hsplit, h]

/-- A text without control characters and spaces. -/
def isTight (s : String) : Bool :=
  s.toList.all fun c => !isOuter c

theorem isOuter_toLower (c : Char) : isOuter c.toLower = isOuter c := by
  by_cases hupper : c.isUpper = true
  · obtain ⟨hlow, -, hlower⟩ := Text.toNat_toLower_of_isUpper hupper
    have hletter : isOuter c = false := decide_eq_false (by omega)
    have hsmall : isOuter c.toLower = false := decide_eq_false (by omega)
    rw [hsmall, hletter]
  · rw [Text.toLower_of_not_isUpper (by simpa using hupper)]

theorem isTight_lower (s : String) : isTight (Text.lower s) = isTight s := by
  simp [isTight, Text.lower, Function.comp_def, isOuter_toLower]

/-- A text without blanks is its own scheme. -/
theorem schemeOf_of_isTight {s : String} (h : isTight s = true) : schemeOf s.toList = s.toList := by
  have htight : ∀ c ∈ s.toList, isOuter c = false := by simpa [isTight] using h
  have hfront : s.toList.dropWhile isOuter = s.toList := by
    cases hs : s.toList with
    | nil => rfl
    | cons c cs =>
      have hc : isOuter c = false := htight c (by simp [hs])
      exact List.dropWhile_cons_of_neg (by simp [hc])
  rw [schemeOf, hfront, counted, List.filter_eq_self]
  intro c hc
  have hignored : isIgnored c = false := by
    cases hcase : isIgnored c with
    | false => rfl
    | true =>
      simp only [isIgnored, Bool.or_eq_true, decide_eq_true_eq] at hcase
      have houter := htight c hc
      rcases hcase with (rfl | rfl) | rfl <;> exact absurd houter (by decide)
  simp [hignored]

/-- The scheme in a text before a colon is the text itself exactly if there are no blanks in it. -/
theorem lower_eq_file_iff {s : String}
    (h : Text.lower (String.ofList (schemeOf s.toList)) = "file") :
    Text.lower s = "file" ↔ isTight s = true := by
  constructor
  · intro hlower
    rw [← isTight_lower, hlower]
    decide
  · intro htight
    rwa [schemeOf_of_isTight htight, String.ofList_toList] at h

theorem isTight_of_isValidScheme {s : String} (h : Uri.isValidScheme s = true) :
    isTight s = true := by
  obtain ⟨c, cs, heq, hc, hcs⟩ := Uri.isValidScheme_iff.mp h
  have hletter {d : Char} (hd : d.isAlphanum = true) : isOuter d = false := by
    refine decide_eq_false ?_
    have heq : d.isAlphanum =
        (d.isUpper || (decide (d.val ≥ 'a'.val) && decide (d.val ≤ 'z'.val)) ||
          (decide (d.val ≥ '0'.val) && decide (d.val ≤ '9'.val))) := rfl
    simp only [heq, Bool.or_eq_true, Text.isUpper_iff, Bool.and_eq_true, decide_eq_true_iff,
      ge_iff_le, UInt32.le_iff_toNat_le] at hd
    have hbounds : ((65 ≤ d.toNat ∧ d.toNat ≤ 90) ∨ (97 ≤ d.toNat ∧ d.toNat ≤ 122)) ∨
        (48 ≤ d.toNat ∧ d.toNat ≤ 57) := hd
    omega
  have hall : ∀ d ∈ s.toList, isOuter d = false := by
    intro d hd
    rw [heq] at hd
    rcases List.mem_cons.mp hd with rfl | hd
    · exact hletter (Bool.or_eq_true_iff.mpr (.inl hc))
    · rcases hcs d hd with hd | rfl | rfl | rfl
      · exact hletter hd
      all_goals decide
  simpa [isTight] using hall

end Url

theorem LocalHost.exists_plain_of_localPath {uri : String} {path : List UInt8}
    (h : localPath uri = .ok path) :
    ∃ scheme rest, uri = scheme ++ ":" ++ rest ∧ ':' ∉ scheme.toList ∧
      Text.lower (String.ofList (Url.schemeOf scheme.toList)) = "file" ∧
      localPath ("file:" ++ rest) = .ok path := by
  unfold localPath at h
  split at h
  next => cases h
  next => cases h
  next => cases h
  next text hparse =>
    obtain ⟨scheme, rest, huri, hcolon, hscheme, hplain⟩ := Url.exists_plain_of_parse hparse
    refine ⟨scheme, rest, huri, hcolon, hscheme, ?_⟩
    rw [localPath, hplain]
    exact h

namespace Call

variable {σ : Type} [Host σ]

/-- A call with a guarded URI is refused, and nothing changes. -/
theorem run_of_guards (call : Call) {c : Context σ} (hopen : c.closing = false)
    {uri scheme : String}
    (huri : uri ∈ call.uris) (hguards : c.policy.guard.Guards uri scheme) :
    ∃ s, call.RefusedFor c.policy.guard s ∧
      call.run c = ((Failure.general (refusalText call.operation s)).json, c) := by
  obtain ⟨s, hrefused, hrefusal⟩ := exists_refusedFor ⟨uri, huri, scheme, hguards⟩
  refine ⟨s, hrefused, ?_⟩
  rw [call.run_eq_guarded hopen, Context.guarded, hrefusal]

/-- A call without guarded URIs runs as if no scheme were guarded. -/
theorem run_of_not_guards (call : Call) {c : Context σ} (hopen : c.closing = false)
    (hguards : ∀ uri ∈ call.uris, ∀ scheme, ¬c.policy.guard.Guards uri scheme) :
    call.run c =
      ((call.run c.unguarded).1, { (call.run c.unguarded).2 with policy := c.policy }) := by
  have hnone : call.uris.findSome? (c.policy.refusal? call.operation) = none :=
    List.findSome?_eq_none_iff.mpr fun uri huri =>
      Policy.refusal?_of_not_guards (hguards uri huri) call.operation
  rw [call.run_eq_guarded hopen, Context.guarded, hnone]

end Call

namespace Guard

theorem guards_iff_of_scheme {g : Guard} {scheme rest s : String} (hcolon : ':' ∉ scheme.toList)
    (hne : scheme ≠ "") :
    g.Guards (scheme ++ ":" ++ rest) s ↔ s = scheme ∧ Text.lower scheme ∈ g.schemes := by
  have hscheme : Uri.scheme? (scheme ++ ":" ++ rest) = some scheme :=
    Uri.scheme?_eq_some_iff.mpr ⟨hne, hcolon, rest, rfl⟩
  constructor
  · rintro ⟨hne', hcolon', hrest, hmem⟩
    rw [Uri.scheme?_eq_some_iff.mpr ⟨hne', hcolon', hrest⟩] at hscheme
    obtain rfl := Option.some.inj hscheme
    exact ⟨rfl, hmem⟩
  · rintro ⟨rfl, hmem⟩
    exact ⟨hne, hcolon, ⟨rest, rfl⟩, hmem⟩

/-- A URI that names a local path, before a guard for local files. Its plain spelling names the same
path. If nothing but the scheme stands before its first colon, it is guarded, and every call with it
is refused before the disk is asked; if there is a blank, and all guarded schemes are valid ones, it
is not guarded, and calls with it reach the disk. -/
theorem refuses_local_iff {g : Guard} (hfile : "file" ∈ g.schemes) {uri : String}
    {path : List UInt8} (hpath : LocalHost.localPath uri = .ok path) :
    ∃ scheme rest, uri = scheme ++ ":" ++ rest ∧ ':' ∉ scheme.toList ∧
      LocalHost.localPath ("file:" ++ rest) = .ok path ∧
      (Url.isTight scheme = true → g.guardedScheme? uri = some scheme ∧
        ∀ (call : Call) (c : Context LocalHost), c.policy.guard = g → c.closing = false →
          uri ∈ call.uris → ∃ s, call.RefusedFor g s ∧
            call.run c = ((Failure.general (refusalText call.operation s)).json, c)) ∧
      ((∀ s ∈ g.schemes, Uri.isValidScheme s = true) → Url.isTight scheme = false →
        g.guardedScheme? uri = none ∧
        ∀ (call : Call) (c : Context LocalHost), c.policy.guard = g → c.closing = false →
          (∀ u ∈ call.uris, u = uri) →
            call.run c =
              ((call.run c.unguarded).1,
                { (call.run c.unguarded).2 with policy := c.policy })) := by
  obtain ⟨scheme, rest, rfl, hcolon, hscheme, hplain⟩ := LocalHost.exists_plain_of_localPath hpath
  have hne : scheme ≠ "" := by
    rintro rfl
    exact absurd hscheme (by decide)
  refine ⟨scheme, rest, rfl, hcolon, hplain, fun htight => ?_, fun hvalid hblank => ?_⟩
  · have hlower : Text.lower scheme = "file" := (Url.lower_eq_file_iff hscheme).mpr htight
    have hguards : g.Guards (scheme ++ ":" ++ rest) scheme :=
      (guards_iff_of_scheme hcolon hne).mpr ⟨rfl, hlower ▸ hfile⟩
    refine ⟨guardedScheme?_eq_some_iff.mpr hguards, ?_⟩
    rintro call c rfl hopen huri
    exact call.run_of_guards hopen huri hguards
  · have hnot (s : String) : ¬g.Guards (scheme ++ ":" ++ rest) s := by
      intro hguards
      obtain ⟨-, hmem⟩ := (guards_iff_of_scheme hcolon hne).mp hguards
      have htight := Url.isTight_of_isValidScheme (hvalid _ hmem)
      rw [Url.isTight_lower, hblank] at htight
      cases htight
    refine ⟨guardedScheme?_eq_none_iff.mpr hnot, ?_⟩
    rintro call c rfl hopen huris
    exact call.run_of_not_guards hopen fun u hu => huris u hu ▸ hnot

/-- A disk with one file, `/a`. -/
def oneFile : LocalHost :=
  .whole (Disk.put ⟨[], [], 0⟩ [[97]] (.file [1]))

/-- The disk behind a guard for local files. -/
def guardedDisk : Context LocalHost :=
  ⟨⟨.ofList ["file"], .compact⟩, oneFile, .empty, false⟩

/-- A space before the scheme is enough to get past the guard to the file. -/
theorem spaced_local_passes :
    "file" ∈ guardedDisk.policy.guard.schemes ∧
      LocalHost.localPath " file:///a" = .ok [47, 97] ∧
      guardedDisk.policy.guard.guardedScheme? " file:///a" = none ∧
      (guardedDisk.readFile ⟨" file:///a"⟩).1 = .ofOutcome (.ok "AQ==") ∧
      (guardedDisk.readFile ⟨"file:///a"⟩).1 =
        .ofOutcome (.error (.general (refusalText "readFile" "file"))) := by
  have hpath : LocalHost.localPath " file:///a" = .ok [47, 97] := by decide +kernel
  have hread : oneFile.read " file:///a" = (.ok [1], oneFile) := by
    simp only [LocalHost.read, LocalHost.look, LocalHost.resolve, hpath]
    cbv
  have hrefusal : guardedDisk.policy.refusal? "readFile" " file:///a" = none := by decide
  refine ⟨by decide, hpath, by decide, ?_, by decide⟩
  rw [Context.readFile, Context.ask, hrefusal]
  show ValueResult.ofOutcome (((oneFile.read " file:///a").1.map _).mapError _) = _
  rw [hread]
  decide

/-- The letters of the scheme may be in any case. -/
theorem refuses_local_iff_capitals :
    let call : Call := .remove ⟨"FiLe:///a", true⟩
    "file" ∈ guardedDisk.policy.guard.schemes ∧ LocalHost.localPath "FiLe:///a" = .ok [47, 97] ∧
      (∀ s ∈ guardedDisk.policy.guard.schemes, Uri.isValidScheme s = true) ∧
      ∃ s, call.RefusedFor guardedDisk.policy.guard s ∧
        call.run guardedDisk =
          ((Failure.general (refusalText call.operation s)).json, guardedDisk) := by
  intro call
  have hfile : "file" ∈ guardedDisk.policy.guard.schemes := by decide
  have hpath : LocalHost.localPath "FiLe:///a" = .ok [47, 97] := by decide +kernel
  refine ⟨hfile, hpath, by decide, ?_⟩
  obtain ⟨scheme, rest, huri, hcolon, -, htight, -⟩ := refuses_local_iff hfile hpath
  have hscheme : scheme = "FiLe" := by
    have hcut : Text.cutFirst? ':' "FiLe:///a".toList = some (scheme.toList, rest.toList) :=
      Text.cutFirst?_eq_some_iff.mpr ⟨by simp [huri], hcolon⟩
    have hfirst : Text.cutFirst? ':' "FiLe:///a".toList = some ("FiLe".toList, "///a".toList) := by
      decide
    exact String.ext (Prod.mk.inj (Option.some.inj (hcut.symm.trans hfirst))).1
  exact (htight (hscheme ▸ by decide)).2 call guardedDisk rfl rfl List.mem_cons_self

end Guard

end FileBridge
