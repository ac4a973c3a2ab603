import Mathlib.Data.List.Induction
import FileBridge.Proofs.CommandLine
import FileBridge.Proofs.Config.File

/-!
A guard over time. Main statement: a guard refuses the schemes that it was given last and those that
were added since, in any spelling, and no others; and a scheme that the settings or the command line
accept is never given in vain.
-/
namespace FileBridge

namespace Text

theorem toLower_eq_colon_iff {c : Char} : c.toLower = ':' ↔ c = ':' := by
  constructor
  · intro h
    by_cases hupper : c.isUpper = true
    · -- A capital letter becomes a small one, which is no colon.
      obtain ⟨hlow, -, hlower⟩ := toNat_toLower_of_isUpper hupper
      rw [h] at hlower
      have hcolon : (':' : Char).toNat = 58 := rfl
      omega
    · rwa [toLower_of_not_isUpper (by simpa using hupper)] at h
  · rintro rfl
    rfl

theorem colon_mem_lower_iff {s : String} : ':' ∈ (lower s).toList ↔ ':' ∈ s.toList := by
  simp [lower, toLower_eq_colon_iff]

theorem lower_eq_empty_iff {s : String} : lower s = "" ↔ s = "" := by
  simp [lower]

end Text

theorem Uri.isValidScheme_iff {s : String} :
    isValidScheme s = true ↔ ∃ c cs, s.toList = c :: cs ∧ c.isAlpha = true ∧
      ∀ d ∈ cs, d.isAlphanum = true ∨ d = '+' ∨ d = '-' ∨ d = '.' := by
  unfold isValidScheme
  split
  next heq => simp [heq]
  next c cs heq => simp [heq, or_assoc]

/-- A scheme is not empty and has no colon. -/
theorem Uri.colon_not_mem_of_isValidScheme {s : String} (h : isValidScheme s = true) :
    s ≠ "" ∧ ':' ∉ s.toList := by
  obtain ⟨c, cs, heq, hc, hcs⟩ := isValidScheme_iff.mp h
  constructor
  · rintro rfl
    cases heq
  · rw [heq]
    intro hmem
    rcases List.mem_cons.mp hmem with rfl | hmem
    · exact absurd hc (by decide)
    · exact absurd (hcs ':' hmem) (by decide)

namespace Guard

/-- A call that changes which schemes are guarded. -/
inductive Update where
  /-- These schemes are guarded from now on, and no others. -/
  | register (schemes : List String)
  | insert (scheme : String)
deriving DecidableEq, Repr

/-- The guard after a call. -/
def update (g : Guard) : Update → Guard
  | .register schemes => .ofList schemes
  | .insert scheme => (g.insert scheme).2

/-- The guard after some calls. At first no scheme is guarded. -/
def after (updates : List Update) : Guard :=
  updates.foldl update empty

/-- A call is given a scheme. -/
def Update.Gives (scheme : String) : Update → Prop
  | .register schemes => scheme ∈ schemes
  | .insert given => scheme = given

/-- A call was given the scheme, and those after it only inserted more. -/
def Given (updates : List Update) (scheme : String) : Prop :=
  ∃ before u since, updates = before ++ u :: since ∧ u.Gives scheme ∧
    ∀ v ∈ since, ∀ schemes, v ≠ .register schemes

theorem not_given_nil (scheme : String) : ¬Given [] scheme := by
  rintro ⟨before, u, since, heq, -⟩
  simp at heq

/-- Of the calls up to the last one, that one gives a scheme, or it leaves what the others gave. -/
theorem given_concat_iff {updates : List Update} {u : Update} {scheme : String} :
    Given (updates ++ [u]) scheme ↔
      u.Gives scheme ∨ (∀ schemes, u ≠ .register schemes) ∧ Given updates scheme := by
  constructor
  · rintro ⟨before, v, since, heq, hgives, hsince⟩
    rcases List.eq_nil_or_concat since with rfl | ⟨since, last, rfl⟩
    · obtain ⟨-, rfl⟩ := List.append_singleton_inj.mp heq
      exact .inl hgives
    · rw [List.concat_eq_append] at heq hsince
      rw [← List.cons_append, ← List.append_assoc] at heq
      obtain ⟨rfl, rfl⟩ := List.append_singleton_inj.mp heq
      refine .inr ⟨hsince u (by simp), before, v, since, rfl, hgives, fun w hw => ?_⟩
      exact hsince w (List.mem_append_left _ hw)
  · rintro (hgives | ⟨hinsert, before, v, since, rfl, hgives, hsince⟩)
    · exact ⟨updates, u, [], rfl, hgives, by simp⟩
    · refine ⟨before, v, since ++ [u], by simp, hgives, fun w hw => ?_⟩
      rcases List.mem_append.mp hw with hw | hw
      · exact hsince w hw
      · exact List.mem_singleton.mp hw ▸ hinsert

theorem mem_schemes_add {g : Guard} {scheme name : String} :
    name ∈ (g.add scheme).schemes ↔ name = Text.lower scheme ∨ name ∈ g.schemes := by
  simp only [schemes, add, OrderedMap.mem_keys_iff, OrderedMap.contains, OrderedMap.get?_insert]
  split
  next heq => simp [heq]
  next hne => simp [hne]

theorem mem_schemes_ofList {given : List String} {name : String} :
    name ∈ (ofList given).schemes ↔ ∃ scheme ∈ given, name = Text.lower scheme := by
  have hadd (g : Guard) : name ∈ (given.foldl add g).schemes ↔
      (∃ scheme ∈ given, name = Text.lower scheme) ∨ name ∈ g.schemes := by
    induction given generalizing g with
    | nil => simp
    | cons scheme given ih =>
      rw [List.foldl_cons, ih, mem_schemes_add]
      simp only [List.mem_cons, exists_eq_or_imp]
      rw [or_left_comm, or_assoc]
  have hempty : name ∉ empty.schemes := List.not_mem_nil
  rw [ofList, hadd]
  simp [hempty]

/-- After any calls, the guarded schemes are those that have been given, in lower case. -/
theorem mem_schemes_after {updates : List Update} {name : String} :
    name ∈ (after updates).schemes ↔
      ∃ scheme, Given updates scheme ∧ name = Text.lower scheme := by
  induction updates using List.reverseRecOn with
  | nil =>
    have hempty : name ∉ (after []).schemes := List.not_mem_nil
    simp [hempty, not_given_nil]
  | append_singleton updates u ih =>
    have hstep : after (updates ++ [u]) = (after updates).update u := by
      simp only [after, List.foldl_append, List.foldl_cons, List.foldl_nil]
    rw [hstep]
    simp only [given_concat_iff]
    cases u with
    | register schemes =>
      simp [update, mem_schemes_ofList, Update.Gives]
    | insert scheme =>
      simp [update, insert, mem_schemes_add, Update.Gives, ih, or_and_right, exists_or]

theorem insert_eq_false_iff {g : Guard} {scheme : String} :
    (g.insert scheme).1 = false ↔ Text.lower scheme ∈ g.schemes := by
  simp [insert, schemes, OrderedMap.mem_keys_iff]

/-- Wherever the scheme has been given, every URI that starts with it is guarded, in whatever case
its letters are. -/
def Effective (scheme : String) : Prop :=
  ∀ updates, Given updates scheme → ∀ variant rest, Text.lower variant = Text.lower scheme →
    (after updates).isGuarded (variant ++ ":" ++ rest) = true

theorem effective_of_isValidScheme {scheme : String} (h : Uri.isValidScheme scheme = true) :
    Effective scheme := by
  intro updates hgiven variant rest hvariant
  obtain ⟨hne, hcolon⟩ := Uri.colon_not_mem_of_isValidScheme h
  have hguards : (after updates).Guards (variant ++ ":" ++ rest) variant := by
    refine ⟨?_, ?_, ⟨rest, rfl⟩, mem_schemes_after.mpr ⟨scheme, hgiven, hvariant⟩⟩
    · rintro rfl
      exact hne (Text.lower_eq_empty_iff.mp hvariant.symm)
    · rw [← Text.colon_mem_lower_iff, hvariant, Text.colon_mem_lower_iff]
      exact hcolon
  rw [isGuarded, guardedScheme?_eq_some_iff.mpr hguards]
  rfl

/-- After any calls, a URI is guarded exactly if the text before its first colon is a scheme that
has been given, but for the case of letters, and exactly such a scheme is not new if it is inserted.
The schemes that settings or a command line are accepted with are all effective. -/
theorem after_guards_given (updates : List Update) (uri scheme : String) :
    ((after updates).guardedScheme? uri = some scheme ↔
      scheme ≠ "" ∧ ':' ∉ scheme.toList ∧ (∃ rest, uri = scheme ++ ":" ++ rest) ∧
        ∃ given, Given updates given ∧ Text.lower scheme = Text.lower given) ∧
    (((after updates).insert scheme).1 = false ↔
      ∃ given, Given updates given ∧ Text.lower scheme = Text.lower given) ∧
    (∀ c : Config, c.validate = .ok () → ∀ s ∈ c.guardedSchemes, Effective s) ∧
    ∀ arguments a, CommandLine.parse arguments = .ok a →
      a.guardSchemes = (CommandLine.schemeValues arguments).map Arguments.trimmed ∧
        ∀ s ∈ a.guardSchemes, Effective s := by
  refine ⟨?_, ?_, ?_, ?_⟩
  · rw [guardedScheme?_eq_some_iff, Guards, mem_schemes_after]
  · rw [insert_eq_false_iff, mem_schemes_after]
  · intro c hvalidate s hs
    exact effective_of_isValidScheme (Config.isValidScheme_of_validate hvalidate s hs)
  · intro arguments a hparse
    obtain ⟨hschemes, hvalid⟩ := CommandLine.parse_adds hparse
    exact ⟨hschemes, fun s hs => effective_of_isValidScheme (hvalid s hs)⟩

/-- The schemes have been replaced once and one was added since. A value on the command line stands
among white space. -/
theorem after_guards_given_renewed :
    let updates : List Update := [.register ["old"], .register ["Project"], .insert "LIB"]
    let c : Config := { Config.default with guardedSchemes := ["svn+SSH"] }
    let a : Arguments := { Arguments.empty with guardSchemes := ["Std"] }
    Given updates "Project" ∧ Given updates "LIB" ∧ c.validate = .ok () ∧
      CommandLine.parse ["--guard-scheme", " Std\t"] = .ok a ∧
      (after updates).guardedScheme? "PROJECT://x" = some "PROJECT" ∧
      ((after updates).insert "lib").1 = false ∧
      (after [.register c.guardedSchemes]).isGuarded "SVN+ssh:/a" = true ∧
      (after [.register a.guardSchemes]).isGuarded "sTD:" = true := by
  intro updates c a
  have hproject : Given updates "Project" :=
    ⟨[.register ["old"]], .register ["Project"], [.insert "LIB"], rfl, by simp [Update.Gives],
      by simp⟩
  have hlib : Given updates "LIB" :=
    ⟨[.register ["old"], .register ["Project"]], .insert "LIB", [], rfl, rfl, by simp⟩
  have hregistered (scheme : String) : Given [.register [scheme]] scheme :=
    ⟨[], .register [scheme], [], rfl, by simp [Update.Gives], by simp⟩
  have hvalidate : c.validate = .ok () := by decide
  have hparse : CommandLine.parse ["--guard-scheme", " Std\t"] = .ok a := by decide +kernel
  obtain ⟨hguards, -, hconfig, hcommand⟩ := after_guards_given updates "PROJECT://x" "PROJECT"
  obtain ⟨-, hinsert, -, -⟩ := after_guards_given updates "" "lib"
  refine ⟨hproject, hlib, hvalidate, hparse, ?_, ?_, ?_, ?_⟩
  · exact hguards.mpr ⟨by decide, by decide, ⟨"//x", by decide⟩, "Project", hproject, by decide⟩
  · exact hinsert.mpr ⟨"LIB", hlib, by decide⟩
  · exact hconfig c hvalidate "svn+SSH" List.mem_cons_self _ (hregistered _) "SVN+ssh" "/a"
      (by decide)
  · exact (hcommand _ a hparse).2 "Std" List.mem_cons_self _ (hregistered _) "sTD" "" (by decide)

end Guard

end FileBridge
