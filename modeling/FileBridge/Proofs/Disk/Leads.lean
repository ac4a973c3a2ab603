import FileBridge.Disk.Path

/-!
Where paths lead. The relation follows names and links, and counts neither them nor their bytes.
Main statements: what a walk finds is where its names lead, and a walk along names that lead
somewhere does not end for want of an entry.
-/
namespace FileBridge.Disk

/-- From a location, names lead to another one if every link on the way is followed. -/
inductive Leads (d : Disk) : Location → List Name → Location → Prop where
  | here (l : Location) : Leads d l [] l
  | dot {l l' : Location} {rest : List Name} : Leads d l rest l' → Leads d l (dot :: rest) l'
  | up {l l' : Location} {rest : List Name} :
    Leads d l.dropLast rest l' → Leads d l (dotDot :: rest) l'
  | enter {l l' : Location} {name : Name} {rest : List Name} {node : DiskNode} :
    name ≠ FileBridge.dot → name ≠ dotDot → d.node? (l ++ [name]) = some node →
    (∀ target, node ≠ .link target) → Leads d (l ++ [name]) rest l' → Leads d l (name :: rest) l'
  | link {l l' : Location} {name : Name} {rest : List Name} {target : List UInt8} :
    name ≠ FileBridge.dot → name ≠ dotDot → d.node? (l ++ [name]) = some (.link target) →
    target ≠ [] →
    Leads d (if (DiskPath.ofBytes target).absolute then [] else l)
      ((DiskPath.ofBytes target).names ++ rest) l' →
    Leads d l (name :: rest) l'

variable {d : Disk} {creates slashed : Bool} {links : Nat} {here l : Location} {names : List Name}

theorem dotDot_ne_dot : dotDot ≠ dot := by
  decide

/-- What a walk finds is where its names lead. -/
theorem leads_of_walk (h : d.walk creates links here names slashed = .ok (.found l)) :
    d.Leads here names l := by
  fun_induction d.walk creates links here names slashed with
  | case1 | case3 | case6 | case7 | case8 | case9 | case10 | case11 => cases h
  | case2 links here slashed =>
    cases h
    exact .here l
  | case4 links here slashed rest _ ih => exact .dot (ih h)
  | case5 links here slashed rest _ _ ih => exact .up (ih h)
  | case12 here slashed name rest _ hdot hup _ _ target hnode links path htarget ih =>
    exact .link hdot hup hnode htarget (ih h)
  | case13 links here slashed name rest _ hdot hup _ _ node hlink hnode ih =>
    exact .enter hdot hup hnode hlink (ih h)

/-- What becomes of a walk at a name that an entry can have. -/
theorem walk_name (d : Disk) (creates : Bool) (links : Nat) (here : Location) {name : Name}
    (rest : List Name) (slashed : Bool) (hdot : name ≠ dot) (hup : name ≠ dotDot) :
    (∃ cause, cause ≠ .notFound ∧
        d.walk creates links here (name :: rest) slashed = .error cause) ∨
      d.isDirectory here = true ∧ name.length ≤ nameLimit ∧
        d.walk creates links here (name :: rest) slashed =
          match d.node? (here ++ [name]) with
          | none => if rest = [] then .ok (.free here name) else .error .notFound
          | some (.link target) =>
            match links with
            | 0 => .error .tooManyLinks
            | links + 1 =>
              if target = [] then .error .notFound
              else
                d.walk creates links (if (DiskPath.ofBytes target).absolute then [] else here)
                  ((DiskPath.ofBytes target).names ++ rest)
                  (slashed || (rest = [] && (DiskPath.ofBytes target).slashed))
          | some _ => d.walk creates links (here ++ [name]) rest slashed := by
  by_cases hdirectory : d.isDirectory here = true
  · by_cases hcreates : (creates && slashed && decide (rest = [])) = true
    · refine .inl ⟨.isADirectory, by decide, ?_⟩
      rw [walk]
      simp [hdirectory, hdot, hup, hcreates]
    · by_cases hlong : nameLimit < name.length
      · refine .inl ⟨.nameTooLong, by decide, ?_⟩
        rw [walk]
        simp [hdirectory, hdot, hup, hcreates, hlong]
      · refine .inr ⟨hdirectory, Nat.le_of_not_lt hlong, ?_⟩
        rw [walk.eq_def]
        exact (if_neg (by simp [hdirectory])).trans <| (if_neg hdot).trans <| (if_neg hup).trans <|
          (if_neg hcreates).trans (if_neg hlong)
  · refine .inl ⟨.notADirectory, by decide, ?_⟩
    rw [walk]
    simp [hdirectory]

/-- A walk along names that lead somewhere ends there, or fails for another cause than that there
is nothing. -/
theorem Leads.walk (h : d.Leads here names l) (creates : Bool) (links : Nat) (slashed : Bool) :
    d.walk creates links here names slashed = .ok (.found l) ∨
      ∃ cause, cause ≠ .notFound ∧ d.walk creates links here names slashed = .error cause := by
  induction h generalizing links slashed with
  | here l =>
    rw [Disk.walk]
    split
    · exact .inr ⟨_, by decide, rfl⟩
    · exact .inl rfl
  | dot _ ih =>
    rw [Disk.walk]
    split
    · exact .inr ⟨_, by decide, rfl⟩
    · exact ih links slashed
  | up _ ih =>
    rw [Disk.walk]
    split
    · exact .inr ⟨_, by decide, rfl⟩
    · exact ih links slashed
  | enter hdot hup hnode hlink _ ih =>
    rcases d.walk_name creates links _ _ slashed hdot hup with hfail | ⟨-, -, heq⟩
    · exact .inr hfail
    · rw [heq, hnode]
      split
      next heq => cases heq
      next target heq => exact absurd (Option.some.inj heq) (hlink target)
      next => exact ih links slashed
  | link hdot hup hnode htarget _ ih =>
    rcases d.walk_name creates links _ _ slashed hdot hup with hfail | ⟨-, -, heq⟩
    · exact .inr hfail
    · rw [heq, hnode]
      cases links with
      | zero => exact .inr ⟨.tooManyLinks, by decide, rfl⟩
      | succ links =>
        simp only [htarget, if_false]
        exact ih links _

namespace Leads

theorem dots {dots : List Name} (hdots : ∀ name ∈ dots, name = FileBridge.dot)
    (h : d.Leads here names l) : d.Leads here (dots ++ names) l := by
  induction dots with
  | nil => exact h
  | cons name rest ih =>
    obtain ⟨rfl, hrest⟩ := List.forall_mem_cons.mp hdots
    exact .dot (ih hrest)

/-- Names that stay in place do not matter. -/
theorem of_filter (h : d.Leads here names l) {names' : List Name}
    (hfilter : names'.filter (· ≠ FileBridge.dot) = names.filter (· ≠ FileBridge.dot)) :
    d.Leads here names' l := by
  -- The next name that matters stands in both lists, after some that do not.
  have hsplit {names' rest : List Name} {name : Name} (hdot : name ≠ FileBridge.dot)
      (h : names'.filter (· ≠ FileBridge.dot) = (name :: rest).filter (· ≠ FileBridge.dot)) :
      ∃ dots rest', names' = dots ++ name :: rest' ∧ (∀ n ∈ dots, n = FileBridge.dot) ∧
        rest'.filter (· ≠ FileBridge.dot) = rest.filter (· ≠ FileBridge.dot) := by
    rw [List.filter_cons_of_pos (by simpa using hdot)] at h
    obtain ⟨dots, rest', heq, hdots, -, hrest⟩ := List.filter_eq_cons_iff.mp h
    exact ⟨dots, rest', heq, by simpa using hdots, hrest⟩
  induction h generalizing names' with
  | here l =>
    have hdots : ∀ name ∈ names', name = FileBridge.dot := by simpa using hfilter
    simpa using dots hdots (.here l)
  | dot _ ih => exact ih (by simpa using hfilter)
  | up _ ih =>
    obtain ⟨dots', rest', rfl, hdots, hrest⟩ := hsplit dotDot_ne_dot hfilter
    exact dots hdots (.up (ih hrest))
  | enter hdot hup hnode hlink _ ih =>
    obtain ⟨dots', rest', rfl, hdots, hrest⟩ := hsplit hdot hfilter
    exact dots hdots (.enter hdot hup hnode hlink (ih hrest))
  | link hdot hup hnode htarget _ ih =>
    obtain ⟨dots', rest', rfl, hdots, hrest⟩ := hsplit hdot hfilter
    refine dots hdots (.link hdot hup hnode htarget (ih ?_))
    rw [List.filter_append, List.filter_append, hrest]

theorem append {b : Location} {more : List Name} (h : d.Leads here names b)
    (hmore : d.Leads b more l) : d.Leads here (names ++ more) l := by
  induction h with
  | here _ => exact hmore
  | dot _ ih => exact .dot (ih hmore)
  | up _ ih => exact .up (ih hmore)
  | enter hdot hup hnode hlink _ ih => exact .enter hdot hup hnode hlink (ih hmore)
  | link hdot hup hnode htarget _ ih =>
    have hrest := ih hmore
    rw [List.append_assoc] at hrest
    exact .link hdot hup hnode htarget hrest

theorem split {more : List Name} (h : d.Leads here (names ++ more) l) :
    ∃ b, d.Leads here names b ∧ d.Leads b more l := by
  generalize hall : names ++ more = all at h
  induction h generalizing names with
  | here l =>
    obtain ⟨rfl, rfl⟩ := List.append_eq_nil_iff.mp hall
    exact ⟨l, .here l, .here l⟩
  | dot h ih =>
    rcases List.append_eq_cons_iff.mp hall with ⟨rfl, rfl⟩ | ⟨rest, rfl, rfl⟩
    · exact ⟨_, .here _, .dot h⟩
    · obtain ⟨b, hfirst, hmore⟩ := ih rfl
      exact ⟨b, .dot hfirst, hmore⟩
  | up h ih =>
    rcases List.append_eq_cons_iff.mp hall with ⟨rfl, rfl⟩ | ⟨rest, rfl, rfl⟩
    · exact ⟨_, .here _, .up h⟩
    · obtain ⟨b, hfirst, hmore⟩ := ih rfl
      exact ⟨b, .up hfirst, hmore⟩
  | enter hdot hup hnode hlink h ih =>
    rcases List.append_eq_cons_iff.mp hall with ⟨rfl, rfl⟩ | ⟨rest, rfl, rfl⟩
    · exact ⟨_, .here _, .enter hdot hup hnode hlink h⟩
    · obtain ⟨b, hfirst, hmore⟩ := ih rfl
      exact ⟨b, .enter hdot hup hnode hlink hfirst, hmore⟩
  | link hdot hup hnode htarget h ih =>
    rcases List.append_eq_cons_iff.mp hall with ⟨rfl, rfl⟩ | ⟨rest, rfl, rfl⟩
    · exact ⟨_, .here _, .link hdot hup hnode htarget h⟩
    · obtain ⟨b, hfirst, hmore⟩ := ih (List.append_assoc _ _ _)
      exact ⟨b, .link hdot hup hnode htarget hfirst, hmore⟩

theorem unique {l' : Location} (h : d.Leads here names l) (h' : d.Leads here names l') :
    l' = l := by
  induction h with
  | here _ =>
    cases h'
    rfl
  | dot _ ih =>
    cases h' with
    | dot h' => exact ih h'
    | enter hdot => exact absurd rfl hdot
    | link hdot => exact absurd rfl hdot
  | up _ ih =>
    cases h' with
    | up h' => exact ih h'
    | enter _ hup => exact absurd rfl hup
    | link _ hup => exact absurd rfl hup
  | enter hdot hup hnode hlink _ ih =>
    cases h' with
    | dot _ => exact absurd rfl hdot
    | up _ => exact absurd rfl hup
    | enter _ _ _ _ h' => exact ih h'
    | link _ _ hnode' => exact absurd (Option.some.inj (hnode.symm.trans hnode')) (hlink _)
  | link hdot hup hnode htarget _ ih =>
    cases h' with
    | dot _ => exact absurd rfl hdot
    | up _ => exact absurd rfl hup
    | enter _ _ hnode' hlink' =>
      exact absurd (Option.some.inj (hnode'.symm.trans hnode)) (hlink' _)
    | link _ _ hnode' _ h' =>
      obtain rfl := DiskNode.link.inj (Option.some.inj (hnode.symm.trans hnode'))
      exact ih h'

end Leads

/-- A walk goes on after the directory that the first names lead to. What keeps it from getting
there keeps it from going on. -/
theorem walk_append (d : Disk) (links : Nat) (here : Location) (names : List Name)
    {more : List Name} (hmore : more ≠ []) (ended : Bool) (hslashed : slashed = true) :
    match d.walk false links here names slashed with
    | .error cause => d.walk false links here (names ++ more) ended = .error cause
    | .ok (.free ..) => d.walk false links here (names ++ more) ended = .error .notFound
    | .ok (.found b) => d.isDirectory b = true ∧
      ∃ left, d.walk false links here (names ++ more) ended = d.walk false left b more ended := by
  fun_induction d.walk false links here names slashed with
  | case1 links here slashed hnot =>
    obtain ⟨name, rest, rfl⟩ := List.exists_cons_of_ne_nil hmore
    rw [List.nil_append, walk, if_pos (by simpa [hslashed] using hnot)]
  | case2 links here slashed hdirectory =>
    exact ⟨by simpa [hslashed] using hdirectory, links, rfl⟩
  | case3 links here slashed name rest hnot => rw [List.cons_append, walk, if_pos hnot]
  | case4 links here slashed rest hdirectory ih =>
    rw [List.cons_append, walk, if_neg hdirectory, if_pos rfl]
    exact ih hslashed
  | case5 links here slashed rest hdirectory hdot ih =>
    rw [List.cons_append, walk, if_neg hdirectory, if_neg hdot, if_pos rfl]
    exact ih hslashed
  | case6 links here slashed name rest _ _ _ hcreates => cases hcreates
  | case7 links here slashed name rest hdirectory hdot hup _ hlong =>
    rw [List.cons_append, walk]
    simp [hdirectory, hdot, hup, hlong]
  | case8 links here slashed name hdirectory hdot hup hlong hnode =>
    rw [List.cons_append, walk]
    simp [hdirectory, hdot, hup, hlong, hnode, hmore]
  | case9 links here slashed name rest hdirectory hdot hup _ hlong hnode hrest =>
    rw [List.cons_append, walk]
    simp [hdirectory, hdot, hup, hlong, hnode, hmore]
  | case10 here slashed name rest hdirectory hdot hup _ hlong target hnode =>
    rw [List.cons_append, walk]
    simp [hdirectory, hdot, hup, hlong, hnode, hmore]
  | case11 here slashed name rest hdirectory hdot hup _ hlong links hnode =>
    rw [List.cons_append, walk]
    simp [hdirectory, hdot, hup, hlong, hnode, hmore]
  | case12 here slashed name rest hdirectory hdot hup _ hlong target hnode links path htarget ih =>
    have hstep : d.walk false (links + 1) here (name :: (rest ++ more)) ended =
        d.walk false links (if path.absolute then [] else here) (path.names ++ rest ++ more)
          ended := by
      rw [walk]
      simp [hdirectory, hdot, hup, hlong, hnode, hmore, htarget, path]
    rw [List.cons_append, hstep]
    exact ih (by simp [hslashed])
  | case13 links here slashed name rest hdirectory hdot hup _ hlong node hlink hnode ih =>
    have hstep : d.walk false links here (name :: (rest ++ more)) ended =
        d.walk false links (here ++ [name]) (rest ++ more) ended := by
      rw [walk]
      simp [hdirectory, hdot, hup, hlong, hnode]
    rw [List.cons_append, hstep]
    exact ih hslashed

end FileBridge.Disk
