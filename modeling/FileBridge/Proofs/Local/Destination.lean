import FileBridge.Proofs.Local.Confined
import FileBridge.Proofs.Local.Points

/-!
What is at the destination of a move. A move that must not overwrite asks first whether anything is
there, which follows a link at the end of the path; the move itself does not. Main statement: what
is at the destination stays there and the move fails, unless it is a link that leads nowhere and no
directory is moved.
-/
namespace FileBridge

namespace Disk

variable {d d' : Disk} {source target : List UInt8} {place old new : Location} {node : DiskNode}

theorem attempt_eq_ok_iff {r : Except DiskError Disk} :
    d.attempt r = (.ok (), d') ↔ r = .ok d' := by
  cases r with
  | error cause => simp [attempt]
  | ok d₁ => simp [attempt]

/-- What fails changes nothing. -/
theorem attempt_cases (r : Except DiskError Disk) :
    (∃ cause, d.attempt r = (.error cause, d)) ∨ ∃ d', d.attempt r = (.ok (), d') := by
  cases r with
  | error cause => exact .inl ⟨cause, rfl⟩
  | ok d' => exact .inr ⟨d', rfl⟩

/-- When a move succeeds, and what it leaves behind. -/
theorem rename_eq_ok_iff :
    d.rename source target = (.ok (), d') ↔
      ∃ p q old new node, d.Points source p old ∧ d.Points target q new ∧
        d.node? old = some node ∧ (node = .directory ∨ p.slashed = false ∧ q.slashed = false) ∧
        (old = new ∧ d' = d ∨
          ¬old <+: new ∧ ¬new <+: old ∧ d.checkReplace node new = .ok () ∧
            d' = (d.prune new).transfer old new) := by
  rw [rename, attempt_eq_ok_iff]
  constructor
  · intro h
    obtain ⟨p, hp, h⟩ := exists_of_bind_eq_ok h
    obtain ⟨q, hq, h⟩ := exists_of_bind_eq_ok h
    obtain ⟨⟨l, first⟩, henter, h⟩ := exists_of_bind_eq_ok h
    obtain ⟨⟨k, second⟩, henter', h⟩ := exists_of_bind_eq_ok h
    cases first with
    | top | here | above => cases h
    | name m =>
      cases second with
      | top | here | above => cases h
      | name n =>
        obtain ⟨o, hlook, h⟩ := exists_of_bind_eq_ok h
        obtain ⟨hshort, rfl⟩ := lookUp_eq_ok_iff.mp hlook
        cases hnode : d.node? (l ++ [m]) with
        | none =>
          rw [hnode] at h
          cases h
        | some node =>
          rw [hnode] at h
          obtain ⟨o, hlook', h⟩ := exists_of_bind_eq_ok h
          obtain ⟨hshort', -⟩ := lookUp_eq_ok_iff.mp hlook'
          refine ⟨p, q, l ++ [m], k ++ [n], node, ⟨hp, l, m, henter, hshort, rfl⟩,
            ⟨hq, k, n, henter', hshort', rfl⟩, hnode, ?_⟩
          split at h
          · cases h
          next hslashed =>
          split at h
          · cases h
          next hinto =>
          split at h
          · cases h
          next honto =>
          refine ⟨by simpa [Decidable.imp_iff_not_or] using hslashed, ?_⟩
          split at h
          next hsame =>
            cases h
            exact .inl ⟨hsame, rfl⟩
          next hne =>
            obtain ⟨_, hreplace, h⟩ := exists_of_bind_eq_ok h
            cases h
            simp only [isPrefixOf_eq_decide, ne_eq, hne, not_false_eq_true, decide_true,
              Bool.and_true, decide_eq_true_eq] at hinto honto
            exact .inr ⟨hinto, honto, hreplace, rfl⟩
  · rintro ⟨p, q, old, new, node, hp, hq, hnode, hslashed, hplaces⟩
    obtain ⟨l, m, henter, hshort, rfl⟩ := hp.enter
    obtain ⟨k, n, henter', hshort', rfl⟩ := hq.enter
    have hlook := lookUp_eq_ok_iff.mpr ⟨hshort, hnode.symm⟩
    have hlook' : d.lookUp k n = .ok (d.node? (k ++ [n])) := lookUp_eq_ok_iff.mpr ⟨hshort', rfl⟩
    simp only [hp.check, hq.check, henter, henter', hlook, hlook', ok_bind]
    rw [if_neg (by simpa [Decidable.imp_iff_not_or] using hslashed)]
    rcases hplaces with ⟨hsame, rfl⟩ | ⟨hinto, honto, hreplace, rfl⟩
    · simp [hsame]
    · have hne : l ++ [m] ≠ k ++ [n] := by
        intro heq
        exact hinto (heq ▸ List.prefix_rfl)
      simp only [isPrefixOf_eq_decide, hinto, honto, decide_false, Bool.false_and,
        Bool.false_eq_true, if_false, hne, hreplace, ok_bind]

/-- Nothing is below an entry that is no directory. -/
theorem WellFormed.node?_below (hdisk : d.WellFormed) (hnode : d.node? place = some node)
    (hleaf : node ≠ .directory) {x : Location} (hbelow : place <+: x) (hne : x ≠ place) :
    d.node? x = none := by
  obtain ⟨rest, rfl⟩ := hbelow
  have hrest : rest ≠ [] := by
    rintro rfl
    exact hne (List.append_nil place)
  cases hx : d.node? (place ++ rest) with
  | none => rfl
  | some node' =>
    have hdirectory := isDirectory_iff.mp (hdisk.directory_above hrest hx)
    exact absurd (Option.some.inj (hnode.symm.trans hdirectory)) hleaf

/-- A move of one entry in place of another, neither of which is a directory. -/
theorem node?_replace (hdisk : d.WellFormed) {node' : DiskNode} (hold : d.node? old = some node)
    (hleaf : node ≠ .directory) (hnew : d.node? new = some node') (hleaf' : node' ≠ .directory)
    (hinto : ¬old <+: new) (honto : ¬new <+: old) (x : Location) :
    ((d.prune new).transfer old new).node? x =
      if x = new then some node else if x = old then none else d.node? x := by
  have hold_ne : old ≠ [] := by
    rintro rfl
    exact hinto List.nil_prefix
  have hnew_ne : new ≠ [] := by
    rintro rfl
    exact honto List.nil_prefix
  have hfree (y : Location) (hy : new <+: y) : (d.prune new).node? y = none := by
    rw [node?_prune, if_pos]
    refine ⟨?_, hy⟩
    rintro rfl
    exact hnew_ne (List.prefix_nil.mp hy)
  rw [node?_transfer hold_ne hnew_ne hfree]
  by_cases habove : new <+: x
  · obtain ⟨rest, rfl⟩ := habove
    have hnotOld : new ++ rest ≠ old := by
      rintro rfl
      exact honto (List.prefix_append new rest)
    rw [if_pos (List.prefix_append new rest), List.drop_left, if_neg hnotOld, node?_prune]
    cases rest with
    | nil =>
      rw [List.append_nil, List.append_nil, if_neg fun h => honto h.2, if_pos rfl, hold]
    | cons name rest =>
      have hbelow : d.node? (old ++ name :: rest) = none :=
        hdisk.node?_below hold hleaf (List.prefix_append old _) (by simp)
      have hbelow' : d.node? (new ++ name :: rest) = none :=
        hdisk.node?_below hnew hleaf' (List.prefix_append new _) (by simp)
      have hne : new ++ name :: rest ≠ new := by simp
      rw [hbelow, hbelow', ite_self, if_neg hne]
  · have hnotNew : x ≠ new := by
      rintro rfl
      exact habove List.prefix_rfl
    have hkept : (d.prune new).node? x = d.node? x := by
      rw [node?_prune, if_neg fun h => habove h.2]
    rw [if_neg habove, if_neg hnotNew, hkept]
    by_cases hbelow : old <+: x
    · rw [if_pos hbelow]
      split
      next => rfl
      next hne => rw [hdisk.node?_below hold hleaf hbelow hne]
    · have hnotOld : x ≠ old := by
        rintro rfl
        exact hbelow List.prefix_rfl
      rw [if_neg hbelow, if_neg hnotOld]

end Disk

open Disk

namespace LocalHost

variable {h : LocalHost} {source target : String} {place : Location} {node : DiskNode}

/-- The path that is used for a URL, with a link at its end left alone, names an entry. -/
def Finds (h : LocalHost) (uri : String) (place : Location) (node : DiskNode) : Prop :=
  ∃ path, h.resolve uri false = .ok path ∧ h.disk.Names path place ∧
    h.disk.node? place = some node

/-- At the target is a link that leads nowhere, and at the source something that is no directory. -/
def Overlooks (h : LocalHost) (source target : String) : Prop :=
  ∃ old new moved link, h.resolve source false = .ok old ∧ h.resolve target false = .ok new ∧
    h.disk.linkStat old = .ok moved ∧ moved ≠ .directory ∧
    h.disk.linkStat new = .ok (.link link) ∧ h.disk.stat new = .error .notFound

/-- If nothing is found at its target, a move without leave to overwrite is left to the disk. -/
theorem rename_of_stat {old new : List UInt8} (hold : h.resolve source false = .ok old)
    (hnew : h.resolve target false = .ok new) (hstat : h.disk.stat new = .error .notFound) :
    h.rename source target false = h.perform source (h.disk.rename old new) := by
  have hexists : h.disk.exists? new = .ok false := by
    rw [exists?, hstat]
  simp only [LocalHost.rename, hold, hnew, hexists]
  rfl

/-- A move without leave to overwrite fails and changes nothing, or nothing was found at its target
and the disk has moved the entry. -/
theorem rename_cases (h : LocalHost) (source target : String) :
    (∃ e, h.rename source target false = (.error e, h)) ∨
      ∃ old new d', h.resolve source false = .ok old ∧ h.resolve target false = .ok new ∧
        h.disk.stat new = .error .notFound ∧ h.disk.rename old new = (.ok (), d') := by
  cases hold : h.resolve source false with
  | error e =>
    refine .inl ⟨e, ?_⟩
    rw [LocalHost.rename, hold]
  | ok old =>
    cases hnew : h.resolve target false with
    | error e =>
      refine .inl ⟨e, ?_⟩
      rw [LocalHost.rename, hold, hnew]
    | ok new =>
      cases hstat : h.disk.stat new with
      | ok node =>
        refine .inl ⟨.alreadyExists target, ?_⟩
        have hexists : h.disk.exists? new = .ok true := by
          rw [exists?, hstat]
        simp only [LocalHost.rename, hold, hnew, hexists]
        rfl
      | error cause =>
        by_cases hcause : cause = .notFound
        · subst hcause
          rcases h.disk.attempt_cases _ with ⟨cause, hrename⟩ | ⟨d', hrename⟩
          · refine .inl ⟨.systemAt cause.system source, ?_⟩
            rw [rename_of_stat hold hnew hstat, Disk.rename, hrename]
            rfl
          · exact .inr ⟨old, new, d', rfl, rfl, hstat, hrename⟩
        · refine .inl ⟨.systemAt cause.system target, ?_⟩
          have hexists : h.disk.exists? new = .error cause := by
            rw [exists?, hstat]
            split
            next heq => cases heq
            next heq =>
              cases heq
              exact absurd rfl hcause
            next heq =>
              cases heq
              rfl
          simp only [LocalHost.rename, hold, hnew, hexists]
          rfl

/-- What the disk has moved without leave to overwrite, if anything was at the target, was no
directory and was put in place of a link that leads nowhere. -/
theorem overlooks_of_rename {old new : List UInt8} {d' : Disk} (htarget : h.Finds target place node)
    (hold : h.resolve source false = .ok old) (hnew : h.resolve target false = .ok new)
    (hstat : h.disk.stat new = .error .notFound) (hrename : h.disk.rename old new = (.ok (), d')) :
    h.Overlooks source target := by
  obtain ⟨p, q, o, n, moved, hp, hq, hmoved, hslashed, hplaces⟩ := rename_eq_ok_iff.mp hrename
  obtain ⟨path, hpath, hnames, hnode⟩ := htarget
  obtain rfl := Except.ok.inj (hpath.symm.trans hnew)
  obtain rfl := hnames.eq_of_points hq
  -- Anything but a link would have been found.
  have hlink : ∃ link, node = .link link := by
    by_contra hno
    exact hq.stat_ne_notFound hnode (fun link heq => hno ⟨link, heq⟩) hstat
  obtain ⟨link, rfl⟩ := hlink
  have hleaf : moved ≠ .directory := by
    rintro rfl
    rcases hplaces with ⟨rfl, -⟩ | ⟨-, -, hreplace, -⟩
    · cases hmoved.symm.trans hnode
    · simp [checkReplace, hnode] at hreplace
  obtain ⟨hp', hq'⟩ := hslashed.resolve_left hleaf
  exact ⟨old, path, moved, link, hold, hnew, hp.linkStat_eq hp' hmoved, hleaf,
    hq.linkStat_eq hq' hnode, hstat⟩

/-- What is moved to a link that leads nowhere is put in its place. -/
theorem Overlooks.rename (ho : h.Overlooks source target) (hdisk : h.disk.WellFormed)
    (htarget : h.Finds target place node) :
    ∃ d' origin moved, h.Finds source origin moved ∧ moved ≠ .directory ∧
      h.rename source target false = (.ok (), { h with disk := d' }) ∧
      ∀ x, d'.node? x =
        if x = place then some moved else if x = origin then none else h.disk.node? x := by
  obtain ⟨old, new, moved, link, hold, hnew, hlook, hleaf, hlook', hstat⟩ := ho
  obtain ⟨p, o, hp, hslashed, hmoved⟩ := points_of_linkStat hdisk hlook hleaf
  obtain ⟨q, n, hq, hslashed', hlink⟩ := points_of_linkStat hdisk hlook' (by simp)
  obtain ⟨path, hpath, hnames, hnode⟩ := htarget
  obtain rfl := Except.ok.inj (hpath.symm.trans hnew)
  obtain rfl := hnames.eq_of_points hq
  have hfound : h.Finds source o moved := ⟨old, hold, hp.names, hmoved⟩
  have hrun {d' : Disk} (hrename : h.disk.rename old path = (.ok (), d')) :
      h.rename source target false = (.ok (), { h with disk := d' }) := by
    rw [rename_of_stat hold hnew hstat, hrename]
    rfl
  by_cases hsame : o = place
  · have hrename : h.disk.rename old path = (.ok (), h.disk) :=
      rename_eq_ok_iff.mpr ⟨p, q, o, place, moved, hp, hq, hmoved, .inr ⟨hslashed, hslashed'⟩,
        .inl ⟨hsame, rfl⟩⟩
    refine ⟨h.disk, o, moved, hfound, hleaf, hrun hrename, fun x => ?_⟩
    subst hsame
    split
    next heq => rw [heq, hmoved]
    next => rfl
  · have hinto : ¬o <+: place := by
      intro hbelow
      cases (hdisk.node?_below hmoved hleaf hbelow (Ne.symm hsame)).symm.trans hlink
    have honto : ¬place <+: o := by
      intro hbelow
      cases (hdisk.node?_below hlink (by simp) hbelow hsame).symm.trans hmoved
    have hreplace : h.disk.checkReplace moved place = .ok () := by
      unfold checkReplace
      rw [hlink]
      cases moved with
      | directory => exact absurd rfl hleaf
      | file content => rfl
      | link target => rfl
    have hrename : h.disk.rename old path =
        (.ok (), (h.disk.prune place).transfer o place) :=
      rename_eq_ok_iff.mpr ⟨p, q, o, place, moved, hp, hq, hmoved, .inr ⟨hslashed, hslashed'⟩,
        .inr ⟨hinto, honto, hreplace, rfl⟩⟩
    exact ⟨_, o, moved, hfound, hleaf, hrun hrename,
      node?_replace hdisk hmoved hleaf hlink (by simp) hinto honto⟩

/-- What is at the destination of a move without leave to overwrite stays there, and the move fails
and changes nothing, unless a link that leads nowhere is there and what is moved is no directory:
then the link is replaced, and nothing else has changed but for the place that the entry came
from. -/
theorem rename_keeps_destination (hdisk : h.disk.WellFormed) (source : String)
    (htarget : h.Finds target place node) :
    (¬h.Overlooks source target → ∃ e, h.rename source target false = (.error e, h)) ∧
      (h.Overlooks source target →
        ∃ d' origin moved, h.Finds source origin moved ∧ moved ≠ .directory ∧
          h.rename source target false = (.ok (), { h with disk := d' }) ∧
          ∀ x, d'.node? x =
            if x = place then some moved else if x = origin then none else h.disk.node? x) := by
  refine ⟨fun hno => ?_, fun ho => ho.rename hdisk htarget⟩
  rcases h.rename_cases source target with hfails | ⟨old, new, d', hold, hnew, hstat, hrename⟩
  · exact hfails
  · exact absurd (overlooks_of_rename htarget hold hnew hstat hrename) hno

theorem resolve_beyond_link : beyond.resolve "file:///r/g" false = .ok [47, 114, 47, 103] := by
  have hpath : localPath "file:///r/g" = .ok [47, 114, 47, 103] := by decide +kernel
  rw [resolve, hpath]
  cbv

theorem resolve_beyond_file : beyond.resolve "file:///r/a" false = .ok [47, 114, 47, 97] := by
  have hpath : localPath "file:///r/a" = .ok [47, 114, 47, 97] := by decide +kernel
  rw [resolve, hpath]
  cbv

theorem finds_beyond_link :
    beyond.Finds "file:///r/g" [[114], [103]] (.link [47, 111, 47, 103]) := by
  refine ⟨_, resolve_beyond_link,
    ⟨⟨true, [[114], [103]], false⟩, ([[114]], .name [103]), ?_, ?_, rfl⟩, rfl⟩ <;> cbv

/-- The file takes the place of the link, which was there and is gone. -/
theorem rename_replaces_dangling_link :
    beyond.disk.WellFormed ∧
      beyond.Finds "file:///r/g" [[114], [103]] (.link [47, 111, 47, 103]) ∧
      (beyond.rename "file:///r/a" "file:///r/g" false).1 = .ok () ∧
      (beyond.rename "file:///r/a" "file:///r/g" false).2.disk.node? [[114], [103]] =
        some (.file [1]) := by
  have hrename : beyond.rename "file:///r/a" "file:///r/g" false =
      (.ok (), { beyond with
        disk := (beyond.disk.prune [[114], [103]]).transfer [[114], [97]] [[114], [103]] }) := by
    simp only [LocalHost.rename, resolve_beyond_file, resolve_beyond_link]
    cbv
  refine ⟨wellFormed_beyond, finds_beyond_link, ?_, ?_⟩ <;> rw [hrename]
  rfl

/-- A directory does not take the place of the link, and a file does. -/
theorem rename_keeps_destination_beyond :
    beyond.disk.WellFormed ∧
      beyond.Finds "file:///r/g" [[114], [103]] (.link [47, 111, 47, 103]) ∧
      ¬beyond.Overlooks "file:///r" "file:///r/g" ∧
      (∃ e, beyond.rename "file:///r" "file:///r/g" false = (.error e, beyond)) ∧
      beyond.Overlooks "file:///r/a" "file:///r/g" ∧
      ∃ d' origin moved, beyond.Finds "file:///r/a" origin moved ∧ moved ≠ .directory ∧
        beyond.rename "file:///r/a" "file:///r/g" false = (.ok (), { beyond with disk := d' }) ∧
        ∀ x, d'.node? x = if x = [[114], [103]] then some moved
          else if x = origin then none else beyond.disk.node? x := by
  have hpath : localPath "file:///r" = .ok [47, 114] := by decide +kernel
  have hdirectory : beyond.resolve "file:///r" false = .ok [47, 114] := by
    rw [resolve, hpath]
    cbv
  have hno : ¬beyond.Overlooks "file:///r" "file:///r/g" := by
    rintro ⟨old, new, moved, link, hold, -, hlook, hleaf, -⟩
    obtain rfl := Except.ok.inj (hold.symm.trans hdirectory)
    have hseen : beyond.disk.linkStat [47, 114] = .ok .directory := by cbv
    exact hleaf (Except.ok.inj (hlook.symm.trans hseen))
  have ho : beyond.Overlooks "file:///r/a" "file:///r/g" := by
    refine ⟨_, _, .file [1], [47, 111, 47, 103], resolve_beyond_file, resolve_beyond_link, ?_,
      by simp, ?_, ?_⟩ <;> cbv
  exact ⟨wellFormed_beyond, finds_beyond_link, hno,
    (rename_keeps_destination wellFormed_beyond _ finds_beyond_link).1 hno, ho,
    (rename_keeps_destination wellFormed_beyond _ finds_beyond_link).2 ho⟩

end LocalHost

end FileBridge
