import FileBridge.Proofs.Disk.Leads

/-!
Resolving names entry by entry, each asked for by the path of its own location. Main statements:
what is resolved is where the names lead, names that lead somewhere are not said to be missing, and
if something is missing, a walk gets as far as the directory that it is missing from.
-/
namespace FileBridge.Disk

variable {d : Disk} {slashed : Bool} {links : Nat} {here l : Location} {names rest : List Name}
  {name : Name} {node : DiskNode} {target : List UInt8}

/-- The path of a location is not too long, with a slash after it or without. -/
def Fits (place : Location) (slashed : Bool) : Prop :=
  (DiskPath.bytesOf place).length + slashed.toNat ≤ pathLimit

instance (place : Location) (slashed : Bool) : Decidable (Fits place slashed) :=
  inferInstanceAs (Decidable (_ ≤ _))

theorem Fits.unslashed {place : Location} (h : Fits place slashed) : Fits place false :=
  Nat.le_trans (Nat.le_add_right _ _) h

/-- A name can be looked up at a location: the path is not too long, a directory is there, and the
name is not too long. -/
structure Askable (d : Disk) (here : Location) (name : Name) (slashed : Bool) : Prop where
  fits : Fits (here ++ [name]) slashed
  directory : d.isDirectory here = true
  short : name.length ≤ nameLimit

theorem Askable.unslashed (h : d.Askable here name slashed) : d.Askable here name false :=
  ⟨h.fits.unslashed, h.directory, h.short⟩

/-- A walk goes on past the name of something that is no link. -/
theorem Askable.walk_cons (h : d.Askable here name false) (hdot : name ≠ dot) (hup : name ≠ dotDot)
    (hnode : d.node? (here ++ [name]) = some node) (hlink : ∀ target, node ≠ .link target)
    (links : Nat) (rest : List Name) (slashed : Bool) :
    d.walk false links here (name :: rest) slashed =
      d.walk false links (here ++ [name]) rest slashed := by
  rw [walk]
  simp only [h.directory, Bool.not_true, Bool.false_eq_true, if_false, hdot, hup, Bool.false_and,
    Nat.not_lt.mpr h.short, hnode]

theorem Askable.walk_link (h : d.Askable here name false) (hdot : name ≠ dot) (hup : name ≠ dotDot)
    (hnode : d.node? (here ++ [name]) = some (.link target)) (htarget : target ≠ []) (links : Nat)
    (rest : List Name) (slashed : Bool) :
    d.walk false (links + 1) here (name :: rest) slashed =
      d.walk false links (if (DiskPath.ofBytes target).absolute then [] else here)
        ((DiskPath.ofBytes target).names ++ rest)
        (slashed || (rest = [] && (DiskPath.ofBytes target).slashed)) := by
  rw [walk]
  simp only [h.directory, Bool.not_true, Bool.false_eq_true, if_false, hdot, hup, Bool.false_and,
    Nat.not_lt.mpr h.short, hnode, htarget]

theorem ask_eq_ok_iff {o : Option DiskNode} :
    d.ask here name slashed = .ok o ↔
      d.Askable here name slashed ∧ d.node? (here ++ [name]) = o := by
  constructor
  · intro h
    unfold ask lookUp at h
    split at h
    · cases h
    next hfits =>
      split at h
      · cases h
      next hdirectory =>
        split at h
        · cases h
        next hshort =>
          exact ⟨⟨Nat.le_of_not_lt hfits, by simpa using hdirectory, Nat.le_of_not_lt hshort⟩,
            Except.ok.inj h⟩
  · rintro ⟨⟨hfits, hdirectory, hshort⟩, rfl⟩
    rw [ask, if_neg (Nat.not_lt.mpr hfits), if_neg (by simp [hdirectory]), lookUp,
      if_neg (Nat.not_lt.mpr hshort)]

theorem ne_notFound_of_ask {cause : DiskError} (h : d.ask here name slashed = .error cause) :
    cause ≠ .notFound := by
  unfold ask lookUp at h
  split at h
  · cases h
    decide
  · split at h
    · cases h
      decide
    · split at h <;> cases h
      decide

section Step

variable (links : Nat) (rest : List Name) (slashed : Bool) (hdot : name ≠ dot) (hup : name ≠ dotDot)
include hdot hup

/-- At a name that is no link's. -/
theorem locate_step (hlink : ∀ target, d.node? (here ++ [name]) ≠ some (.link target)) :
    d.locate links here (name :: rest) slashed =
      d.ask here name (wantsDirectory rest slashed) >>= fun node =>
        if node.isSome then d.locate links (here ++ [name]) rest slashed else .error .notFound := by
  rw [locate, if_neg hdot, if_neg hup]
  split
  next target hask => exact absurd (ask_eq_ok_iff.mp hask).2 (hlink target)
  next =>
    cases d.ask here name (wantsDirectory rest slashed) with
    | error cause => rfl
    | ok node => cases node <;> rfl

/-- At the name of something that is no link. -/
theorem locate_of_node? (hnode : d.node? (here ++ [name]) = some node)
    (hlink : ∀ target, node ≠ .link target) :
    (∃ cause, cause ≠ .notFound ∧ d.ask here name (wantsDirectory rest slashed) = .error cause ∧
        d.locate links here (name :: rest) slashed = .error cause) ∨
      d.Askable here name (wantsDirectory rest slashed) ∧
        d.locate links here (name :: rest) slashed =
          d.locate links (here ++ [name]) rest slashed := by
  rw [locate_step links rest slashed hdot hup fun target heq =>
    hlink target (Option.some.inj (hnode.symm.trans heq))]
  cases hask : d.ask here name (wantsDirectory rest slashed) with
  | error cause => exact .inl ⟨cause, ne_notFound_of_ask hask, rfl, rfl⟩
  | ok o =>
    obtain ⟨haskable, rfl⟩ := ask_eq_ok_iff.mp hask
    exact .inr ⟨haskable, by rw [hnode]; rfl⟩

/-- At a name that cannot be looked up. A slash after it does not help. -/
theorem locate_of_not_askable (h : ¬d.Askable here name false) :
    ∃ cause, cause ≠ .notFound ∧ d.locate links here (name :: rest) slashed = .error cause := by
  rw [locate, if_neg hdot, if_neg hup]
  cases hask : d.ask here name (wantsDirectory rest slashed) with
  | ok o => exact absurd (ask_eq_ok_iff.mp hask).1.unslashed h
  | error cause =>
    refine ⟨cause, ne_notFound_of_ask hask, ?_⟩
    split
    next hread => exact absurd (ask_eq_ok_iff.mp hread).1 h
    next => rfl

/-- At the name of a link. -/
theorem locate_of_link (hnode : d.node? (here ++ [name]) = some (.link target))
    (htarget : target ≠ []) :
    (∃ cause, cause ≠ .notFound ∧ d.locate links here (name :: rest) slashed = .error cause) ∨
      d.Askable here name false ∧ ∃ left, links = left + 1 ∧
        d.locate links here (name :: rest) slashed =
          d.locate left (if (DiskPath.ofBytes target).absolute then [] else here)
            ((DiskPath.ofBytes target).names ++ rest)
            (slashed || (rest = [] && (DiskPath.ofBytes target).slashed)) := by
  by_cases haskable : d.Askable here name false
  · rw [locate, if_neg hdot, if_neg hup, ask_eq_ok_iff.mpr ⟨haskable, hnode⟩]
    cases links with
    | zero => exact .inl ⟨.tooManyLinks, by decide, rfl⟩
    | succ left => exact .inr ⟨haskable, left, rfl, if_neg htarget⟩
  · exact .inl (locate_of_not_askable links rest slashed hdot hup haskable)

end Step

/-- Where names are resolved to is where they lead. -/
theorem leads_of_locate (h : d.locate links here names slashed = .ok l) : d.Leads here names l := by
  fun_induction d.locate links here names slashed with
  | case1 | case4 | case6 | case7 | case9 | case10 => cases h
  | case2 =>
    cases h
    exact .here l
  | case3 links here slashed rest ih => exact .dot (ih h)
  | case5 links here slashed rest _ _ ih => exact .up (ih h)
  | case8 here slashed name rest hdot hup target hask links path htarget ih =>
    exact .link hdot hup (ask_eq_ok_iff.mp hask).2 htarget (ih h)
  | case11 links here slashed name rest hdot hup node hask hlink ih =>
    obtain ⟨haskable, hnode⟩ := ask_eq_ok_iff.mp hask
    refine .enter hdot hup hnode ?_ (ih h)
    rintro target rfl
    exact hlink target (ask_eq_ok_iff.mpr ⟨haskable.unslashed, hnode⟩)

/-- Names that lead somewhere are not refused because nothing is there. -/
theorem Leads.locate_ne_notFound (h : d.Leads here names l) (links : Nat) (slashed : Bool) :
    d.locate links here names slashed ≠ .error .notFound := by
  have hother {cause : DiskError} (hne : cause ≠ .notFound) :
      (.error cause : Except DiskError Location) ≠ .error .notFound :=
    fun heq => hne (Except.error.inj heq)
  induction h generalizing links slashed with
  | here l =>
    rw [locate]
    split <;> simp
  | dot _ ih =>
    rw [locate, if_pos rfl]
    exact ih links _
  | up _ ih =>
    rw [locate, if_neg dotDot_ne_dot, if_pos rfl]
    split
    · exact hother (by decide)
    · exact ih links slashed
  | enter hdot hup hnode hlink _ ih =>
    rcases locate_of_node? links _ slashed hdot hup hnode hlink with
      ⟨cause, hne, -, heq⟩ | ⟨-, heq⟩
    · rw [heq]
      exact hother hne
    · rw [heq]
      exact ih links slashed
  | link hdot hup hnode htarget _ ih =>
    rcases locate_of_link links _ slashed hdot hup hnode htarget with
      ⟨cause, hne, heq⟩ | ⟨-, left, -, heq⟩
    · rw [heq]
      exact hother hne
    · rw [heq]
      exact ih left _

/-- Only in a directory can something be missing. -/
theorem isDirectory_of_locate (h : d.locate links here names slashed = .error .notFound) :
    d.isDirectory here = true := by
  fun_induction d.locate links here names slashed with
  | case1 | case2 | case4 | case6 => cases h
  | case3 links here slashed rest ih => exact ih h
  | case5 links here slashed rest hdirectory => simpa using hdirectory
  | case7 here slashed name rest _ _ links hask => exact (ask_eq_ok_iff.mp hask).1.directory
  | case8 here slashed name rest _ _ target hask => exact (ask_eq_ok_iff.mp hask).1.directory
  | case9 links here slashed name rest _ _ cause hask =>
    cases h
    exact absurd rfl (ne_notFound_of_ask hask)
  | case10 links here slashed name rest _ _ hask => exact (ask_eq_ok_iff.mp hask).1.directory
  | case11 links here slashed name rest _ _ node hask => exact (ask_eq_ok_iff.mp hask).1.directory

/-- If nothing is at the end of some names, a walk gets to the directory that the names before any
of them lead to: what stops it earlier would have been told instead. -/
theorem walk_above {base : Location} {before after : List Name} (hdot : name ≠ dot)
    (hup : name ≠ dotDot) (hbase : d.Leads here before base)
    (h : d.locate links here (before ++ name :: after) slashed = .error .notFound) :
    d.walk false links here before true = .ok (.found base) ∧ d.Askable base name false := by
  have hother {cause : DiskError} (hne : cause ≠ .notFound)
      (heq : (.error .notFound : Except DiskError Location) = .error cause) : False :=
    hne (Except.error.inj heq).symm
  have hdirectory := isDirectory_of_locate h
  induction hbase generalizing links slashed with
  | here base =>
    rw [walk]
    refine ⟨if_neg (by simp [hdirectory]), Classical.byContradiction fun hnot => ?_⟩
    obtain ⟨cause, hne, heq⟩ := locate_of_not_askable links after slashed hdot hup hnot
    exact hother hne (h.symm.trans heq)
  | dot _ ih =>
    rw [List.cons_append, locate, if_pos rfl] at h
    rw [walk, if_neg (by simp [hdirectory]), if_pos rfl]
    exact ih h hdirectory
  | up _ ih =>
    rw [List.cons_append, locate, if_neg dotDot_ne_dot, if_pos rfl,
      if_neg (by simp [hdirectory])] at h
    rw [walk, if_neg (by simp [hdirectory]), if_neg dotDot_ne_dot, if_pos rfl]
    exact ih h (isDirectory_of_locate h)
  | enter hdot' hup' hnode hlink _ ih =>
    rw [List.cons_append] at h
    rcases locate_of_node? links _ slashed hdot' hup' hnode hlink with
      ⟨cause, hne, -, heq⟩ | ⟨haskable, heq⟩
    · exact (hother hne (h.symm.trans heq)).elim
    · rw [heq] at h
      rw [haskable.unslashed.walk_cons hdot' hup' hnode hlink]
      exact ih h (isDirectory_of_locate h)
  | link hdot' hup' hnode htarget _ ih =>
    rw [List.cons_append] at h
    rcases locate_of_link links _ slashed hdot' hup' hnode htarget with
      ⟨cause, hne, heq⟩ | ⟨haskable, left, rfl, heq⟩
    · exact (hother hne (h.symm.trans heq)).elim
    · rw [heq, ← List.append_assoc] at h
      rw [haskable.walk_link hdot' hup' hnode htarget, Bool.true_or]
      exact ih h (isDirectory_of_locate h)

end FileBridge.Disk
