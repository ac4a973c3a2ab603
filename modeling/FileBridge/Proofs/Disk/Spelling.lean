import FileBridge.Local
import FileBridge.Proofs.Text.Utf8

/-!
Paths as bytes. Cutting the path of a location at its slashes gives the location back, and the path
that is left after names were dropped is no longer than the one they were dropped from.
-/
namespace FileBridge

/-- A name that can stand between the slashes of a path. -/
def Spelled (name : Name) : Prop :=
  name ≠ [] ∧ slash ∉ name

/-- A name that an entry can have. -/
structure Plain (name : Name) : Prop where
  spelled : Spelled name
  ne_dot : name ≠ dot
  ne_dotDot : name ≠ dotDot

namespace DiskPath

theorem pieces_slash (b : List UInt8) : pieces (slash :: b) = [] :: pieces b :=
  rfl

theorem exists_pieces (b : List UInt8) : ∃ piece rest, pieces b = piece :: rest := by
  cases b with
  | nil => exact ⟨[], [], rfl⟩
  | cons c b =>
    simp only [pieces, List.foldr_cons]
    split
    · exact ⟨_, _, rfl⟩
    · split <;> exact ⟨_, _, rfl⟩

theorem pieces_cons {c : UInt8} (h : c ≠ slash) (b : List UInt8) :
    ∃ piece rest, pieces b = piece :: rest ∧ pieces (c :: b) = (c :: piece) :: rest := by
  obtain ⟨piece, rest, heq⟩ := exists_pieces b
  refine ⟨piece, rest, heq, ?_⟩
  simp only [pieces, List.foldr_cons, if_neg h] at heq ⊢
  rw [heq]

theorem slash_not_mem_of_mem_pieces {b : List UInt8} {piece : Name} (h : piece ∈ pieces b) :
    slash ∉ piece := by
  induction b generalizing piece with
  | nil =>
    rw [List.mem_singleton.mp h]
    exact List.not_mem_nil
  | cons c b ih =>
    by_cases hc : c = slash
    · subst hc
      rw [pieces_slash] at h
      rcases List.mem_cons.mp h with rfl | h
      · exact List.not_mem_nil
      · exact ih h
    · obtain ⟨first, rest, heq, hcons⟩ := pieces_cons hc b
      rw [hcons] at h
      rcases List.mem_cons.mp h with rfl | h
      · have hfirst : slash ∉ first := ih (heq ▸ List.mem_cons_self)
        simp [Ne.symm hc, hfirst]
      · exact ih (heq ▸ List.mem_cons_of_mem _ h)

theorem mem_of_mem_pieces {b : List UInt8} {piece : Name} {c : UInt8} (h : piece ∈ pieces b)
    (hc : c ∈ piece) : c ∈ b := by
  induction b generalizing piece with
  | nil =>
    rw [List.mem_singleton.mp h] at hc
    exact hc
  | cons first b ih =>
    by_cases hfirst : first = slash
    · subst hfirst
      rw [pieces_slash] at h
      rcases List.mem_cons.mp h with rfl | h
      · cases hc
      · exact List.mem_cons_of_mem _ (ih h hc)
    · obtain ⟨start, rest, heq, hcons⟩ := pieces_cons hfirst b
      rw [hcons] at h
      rcases List.mem_cons.mp h with rfl | h
      · rcases List.mem_cons.mp hc with rfl | hc
        · exact List.mem_cons_self
        · exact List.mem_cons_of_mem _ (ih (heq ▸ List.mem_cons_self) hc)
      · exact List.mem_cons_of_mem _ (ih (heq ▸ List.mem_cons_of_mem _ h) hc)

theorem spelled_of_mem {b : List UInt8} {name : Name} (h : name ∈ (ofBytes b).names) :
    Spelled name := by
  obtain ⟨hmem, hne⟩ := List.mem_filter.mp h
  exact ⟨by simpa using hne, slash_not_mem_of_mem_pieces hmem⟩

theorem pieces_name {name : Name} (h : slash ∉ name) (b : List UInt8) :
    pieces (name ++ slash :: b) = name :: pieces b := by
  induction name with
  | nil => exact pieces_slash b
  | cons c name ih =>
    rw [List.mem_cons, not_or] at h
    obtain ⟨first, rest, heq, hcons⟩ := pieces_cons (Ne.symm h.1) (name ++ slash :: b)
    rw [ih h.2] at heq
    obtain ⟨rfl, rfl⟩ := List.cons.inj heq
    exact hcons

theorem pieces_last {name : Name} (h : slash ∉ name) : pieces name = [name] := by
  induction name with
  | nil => rfl
  | cons c name ih =>
    rw [List.mem_cons, not_or] at h
    obtain ⟨first, rest, heq, hcons⟩ := pieces_cons (Ne.symm h.1) name
    rw [ih h.2] at heq
    obtain ⟨rfl, rfl⟩ := List.cons.inj heq
    exact hcons

theorem pieces_concat_slash (b : List UInt8) : pieces (b ++ [slash]) = pieces b ++ [[]] := by
  induction b with
  | nil => rfl
  | cons c b ih =>
    by_cases hc : c = slash
    · subst hc
      rw [List.cons_append, pieces_slash, ih, pieces_slash, List.cons_append]
    · obtain ⟨first, rest, heq, hcons⟩ := pieces_cons hc b
      obtain ⟨first', rest', heq', hcons'⟩ := pieces_cons hc (b ++ [slash])
      rw [ih, heq, List.cons_append] at heq'
      obtain ⟨rfl, rfl⟩ := List.cons.inj heq'
      rw [List.cons_append, hcons', hcons, List.cons_append]

/-- A path that ends with a slash has nothing after its last slash. -/
theorem slashed_eq_false {b : List UInt8} {kept : List Name} {last : Name}
    (h : pieces b = kept ++ [last]) (hlast : last ≠ []) : (ofBytes b).slashed = false := by
  have hend : b.getLast? ≠ some slash := by
    intro hslash
    obtain ⟨before, rfl⟩ := List.getLast?_eq_some_iff.mp hslash
    rw [pieces_concat_slash] at h
    exact hlast (List.append_singleton_inj.mp h).2.symm
  simp [ofBytes, hend]

/-- Before the first slash of a path there is nothing, and between its slashes are the names. -/
theorem pieces_flatMap {place : Location} (h : ∀ name ∈ place, slash ∉ name) :
    pieces (place.flatMap (slash :: ·)) = [] :: place := by
  induction place with
  | nil => rfl
  | cons name rest ih =>
    obtain ⟨hname, hrest⟩ := List.forall_mem_cons.mp h
    rw [List.flatMap_cons, List.cons_append, pieces_slash]
    cases rest with
    | nil => rw [List.flatMap_nil, List.append_nil, pieces_last hname]
    | cons next rest =>
      have hnext := ih hrest
      rw [List.flatMap_cons, List.cons_append, pieces_slash] at hnext
      rw [List.flatMap_cons, List.cons_append, pieces_name hname, List.cons.inj hnext |>.2]

/-- The path of a location has its names, starts at the top and ends without a slash. -/
theorem ofBytes_bytesOf {place : Location} (h : ∀ name ∈ place, Spelled name) :
    ofBytes (bytesOf place) = ofLocation place := by
  rcases List.eq_nil_or_concat place with rfl | ⟨before, name, heq⟩
  · rfl
  · rw [List.concat_eq_append] at heq
    subst heq
    have hbytes : bytesOf (before ++ [name]) = (before ++ [name]).flatMap (slash :: ·) :=
      if_neg (by simp)
    have hnames : (pieces (bytesOf (before ++ [name]))).filter (· ≠ []) = before ++ [name] := by
      rw [hbytes, pieces_flatMap fun n hn => (h n hn).2]
      rw [List.filter_cons_of_neg (by simp), List.filter_eq_self]
      exact fun n hn => by simpa using (h n hn).1
    have hlast : (bytesOf (before ++ [name])).getLast? ≠ some slash := by
      obtain ⟨hne, hslash⟩ := h name (by simp)
      obtain ⟨start, last, rfl⟩ : ∃ start last, name = start ++ [last] :=
        ⟨_, _, (List.dropLast_concat_getLast hne).symm⟩
      rw [hbytes, List.flatMap_append, List.flatMap_singleton, ← List.cons_append,
        ← List.append_assoc, List.getLast?_concat]
      intro heq
      exact hslash (Option.some.inj heq ▸ by simp)
    have hhead : (bytesOf (before ++ [name])).head? = some slash := by
      rw [hbytes]
      cases before <;> rfl
    rw [ofBytes, hnames, hhead, decide_eq_false hlast]
    simp [ofLocation]

theorem head?_bytesOf (place : Location) : (bytesOf place).head? = some slash := by
  cases place <;> rfl

section Length

/-- How many bytes some names have, each with the slash before it. -/
def weight (names : List Name) : Nat :=
  (names.flatMap (slash :: ·)).length

theorem weight_cons (name : Name) (rest : List Name) :
    weight (name :: rest) = name.length + 1 + weight rest := by
  rw [weight, List.flatMap_cons, List.length_append, List.length_cons, ← weight]

theorem weight_pieces (b : List UInt8) : weight (pieces b) = b.length + 1 := by
  induction b with
  | nil => rfl
  | cons c b ih =>
    by_cases hc : c = slash
    · subst hc
      rw [pieces_slash, weight_cons, ih, List.length_cons, List.length_nil]
      omega
    · obtain ⟨first, rest, heq, hcons⟩ := pieces_cons hc b
      rw [heq, weight_cons] at ih
      rw [hcons, weight_cons, List.length_cons, List.length_cons]
      omega

theorem weight_le_of_sublist {names names' : List Name} (h : names.Sublist names') :
    weight names ≤ weight names' := by
  induction h with
  | slnil => exact Nat.le_refl _
  | cons name _ ih =>
    rw [weight_cons]
    omega
  | cons_cons name _ ih =>
    rw [weight_cons, weight_cons]
    omega

end Length

section Parent

variable {path : List UInt8} {above : List Name} {name : Name}

theorem filter_dropWhile (p : Name → Bool) (l : List Name) :
    (l.dropWhile p).filter (fun a => !p a) = l.filter (fun a => !p a) := by
  induction l with
  | nil => rfl
  | cons a l ih =>
    cases h : p a with
    | true => rw [List.dropWhile_cons_of_pos h, ih, List.filter_cons_of_neg (by simp [h])]
    | false => rw [List.dropWhile_cons_of_neg (by simp [h])]

/-- The pieces up to the last name that is left make the path above the last name. -/
theorem parent_cases
    (h : (pieces path).filter (fun p => !isIdle p) = above ++ [name]) :
    above = [] ∧ parent path = [slash] ∨
      ∃ kept last, kept ++ [last] <+: pieces path ∧ isIdle last = false ∧
        (kept ++ [last]).filter (fun p => !isIdle p) = above ∧
        parent path = joined (kept ++ [last]) := by
  have hnames := filter_dropWhile isIdle (pieces path).reverse
  rw [List.filter_reverse, h, List.reverse_concat] at hnames
  cases hstart : (pieces path).reverse.dropWhile isIdle with
  | nil =>
    rw [hstart] at hnames
    cases hnames
  | cons first rest =>
    have hfirst := List.head?_dropWhile_not isIdle (pieces path).reverse
    rw [hstart] at hfirst hnames
    rw [List.filter_cons_of_pos (by simpa using hfirst)] at hnames
    have habove := (filter_dropWhile isIdle rest).trans (List.cons.inj hnames).2
    cases hrest : rest.dropWhile isIdle with
    | nil =>
      rw [hrest] at habove
      refine .inl ⟨List.reverse_eq_nil_iff.mp habove.symm, ?_⟩
      simp [parent, hstart, hrest]
    | cons last before =>
      have hlast := List.head?_dropWhile_not isIdle rest
      rw [hrest] at habove hlast
      refine .inr ⟨before.reverse, last, ?_, by simpa using hlast, ?_, ?_⟩
      · rw [← List.reverse_cons, ← hrest, ← List.reverse_suffix, List.reverse_reverse]
        refine (List.dropWhile_suffix _).trans ((List.suffix_cons first rest).trans ?_)
        rw [← hstart]
        exact List.dropWhile_suffix _
      · rw [← List.reverse_cons, List.filter_reverse, habove, List.reverse_reverse]
      · simp [parent, hstart, hrest]

/-- The path above the last name is made of the first pieces of the path, up to a name. -/
theorem exists_parent (hpath : path.head? = some slash)
    (h : (pieces path).filter (fun p => !isIdle p) = above ++ [name]) :
    ∃ kept, parent path = bytesOf kept ∧ [] :: kept <+: pieces path ∧
      kept.filter (fun p => !isIdle p) = above ∧ ∀ last ∈ kept.getLast?, isIdle last = false := by
  obtain ⟨rest, rfl⟩ := List.head?_eq_some_iff.mp hpath
  rcases parent_cases h with ⟨rfl, hparent⟩ | ⟨kept, last, hkept, hlast, hfilter, hparent⟩
  · refine ⟨[], hparent, ?_, rfl, by simp⟩
    rw [pieces_slash]
    exact ⟨_, rfl⟩
  · rw [pieces_slash] at hkept
    cases kept with
    | nil =>
      obtain ⟨rfl, -⟩ := List.cons_prefix_cons.mp hkept
      cases hlast
    | cons first kept =>
      obtain ⟨rfl, hrest⟩ := List.cons_prefix_cons.mp hkept
      refine ⟨kept ++ [last], ?_, hkept, hfilter, by simpa using hlast⟩
      rw [hparent, bytesOf, if_neg (by simp)]
      rfl

/-- The path above the last name of a location's path is the path of the location above. -/
theorem parent_bytesOf {names : List Name} (hnames : ∀ n ∈ names ++ [name], Spelled n ∧ n ≠ dot) :
    parent (bytesOf (names ++ [name])) = bytesOf names := by
  have hidle : ∀ n ∈ names ++ [name], (!isIdle n) = true := fun n hn => by
    simp [isIdle, (hnames n hn).1.1, (hnames n hn).2]
  have hpieces : pieces (bytesOf (names ++ [name])) = [] :: (names ++ [name]) := by
    rw [bytesOf, if_neg (by simp), pieces_flatMap fun n hn => (hnames n hn).1.2]
  have hall :
      (pieces (bytesOf (names ++ [name]))).filter (fun p => !isIdle p) = names ++ [name] := by
    rw [hpieces, List.filter_cons_of_neg (by decide), List.filter_eq_self.mpr hidle]
  obtain ⟨kept, hparent, hkept, hfilter, -⟩ := exists_parent (head?_bytesOf _) hall
  rw [hpieces, List.cons_prefix_cons] at hkept
  rw [List.filter_eq_self.mpr fun n hn => hidle n (hkept.2.subset hn)] at hfilter
  rw [hparent, hfilter]

end Parent

end DiskPath

namespace LocalHost

variable {path : List UInt8} {above : List Name} {name : Name}

theorem lexicalNames_eq (path : List UInt8) :
    lexicalNames path = (DiskPath.pieces path).filter fun p => !DiskPath.isIdle p := by
  rw [lexicalNames, DiskPath.ofBytes, List.filter_filter]
  refine List.filter_congr fun p _ => ?_
  by_cases h : p = [] <;> by_cases h' : p = dot <;> simp [DiskPath.isIdle, h, h']

section Parent

variable (hpath : path.head? = some slash) (hnames : lexicalNames path = above ++ [name])
include hpath hnames

/-- What the path above the last name is made of. -/
theorem pieces_parent :
    ∃ kept, DiskPath.parent path = DiskPath.bytesOf kept ∧ [] :: kept <+: DiskPath.pieces path ∧
      (DiskPath.pieces (DiskPath.parent path)).filter (· ≠ []) = kept.filter (· ≠ []) ∧
      kept.filter (fun p => !DiskPath.isIdle p) = above ∧
      ∀ last ∈ kept.getLast?, DiskPath.isIdle last = false := by
  rw [lexicalNames_eq] at hnames
  obtain ⟨kept, hparent, hkept, hfilter, hlast⟩ := DiskPath.exists_parent hpath hnames
  refine ⟨kept, hparent, hkept, ?_, hfilter, hlast⟩
  rw [hparent, DiskPath.bytesOf]
  split
  next hnil =>
    rw [hnil]
    rfl
  next =>
    rw [DiskPath.pieces_flatMap fun piece hpiece => DiskPath.slash_not_mem_of_mem_pieces
      (hkept.subset (List.mem_cons_of_mem _ hpiece)), List.filter_cons_of_neg (by simp)]

theorem head?_parent : (DiskPath.parent path).head? = some slash := by
  obtain ⟨kept, hparent, -⟩ := pieces_parent hpath hnames
  rw [hparent]
  exact DiskPath.head?_bytesOf kept

theorem lexicalNames_parent : lexicalNames (DiskPath.parent path) = above := by
  obtain ⟨kept, -, -, hpieces, hfilter, -⟩ := pieces_parent hpath hnames
  rw [lexicalNames, DiskPath.ofBytes, hpieces, List.filter_filter, ← hfilter]
  refine List.filter_congr fun p _ => ?_
  by_cases h : p = [] <;> by_cases h' : p = dot <;> simp [DiskPath.isIdle, h, h']

theorem length_parent_le : (DiskPath.parent path).length ≤ path.length := by
  obtain ⟨kept, hparent, hkept, -⟩ := pieces_parent hpath hnames
  have hweight := DiskPath.weight_le_of_sublist hkept.sublist
  rw [DiskPath.weight_cons, DiskPath.weight_pieces, List.length_nil, DiskPath.weight] at hweight
  rw [hparent, DiskPath.bytesOf]
  split
  · obtain ⟨rest, rfl⟩ := List.head?_eq_some_iff.mp hpath
    simp
  · omega

/-- No byte comes in but the slash. -/
theorem mem_of_mem_parent {c : UInt8} (hc : c ∈ DiskPath.parent path) (hslash : c ≠ slash) :
    c ∈ path := by
  obtain ⟨kept, hparent, hkept, -⟩ := pieces_parent hpath hnames
  rw [hparent, DiskPath.bytesOf] at hc
  split at hc
  · exact absurd (List.mem_singleton.mp hc) hslash
  · obtain ⟨piece, hpiece, hc⟩ := List.mem_flatMap.mp hc
    have hc := (List.mem_cons.mp hc).resolve_left hslash
    exact DiskPath.mem_of_mem_pieces (hkept.subset (List.mem_cons_of_mem _ hpiece)) hc

theorem isPrefix_names_parent :
    (DiskPath.ofBytes (DiskPath.parent path)).names <+: (DiskPath.ofBytes path).names := by
  obtain ⟨kept, -, hkept, hpieces, -⟩ := pieces_parent hpath hnames
  have hfilter := hkept.filter (· ≠ [])
  rw [List.filter_cons_of_neg (by simp), ← hpieces] at hfilter
  exact hfilter

/-- Neither a slash nor a dot is at the end of the path above. -/
theorem parent_shows_last :
    (DiskPath.ofBytes (DiskPath.parent path)).slashed = false ∧
      (DiskPath.ofBytes (DiskPath.parent path)).names.getLast? ≠ some dot := by
  obtain ⟨kept, hparent, hkept, hpieces, -, hlast⟩ := pieces_parent hpath hnames
  rcases List.eq_nil_or_concat kept with rfl | ⟨before, last, heq⟩
  · rw [hparent]
    exact ⟨rfl, by decide⟩
  · rw [List.concat_eq_append] at heq
    subst heq
    have hidle : DiskPath.isIdle last = false := hlast last (by simp)
    obtain ⟨hne, hdot⟩ : last ≠ [] ∧ last ≠ dot := by simpa [DiskPath.isIdle] using hidle
    constructor
    · have hslash : ∀ piece ∈ before ++ [last], slash ∉ piece := fun piece hpiece =>
        DiskPath.slash_not_mem_of_mem_pieces (hkept.subset (List.mem_cons_of_mem _ hpiece))
      have hall : DiskPath.pieces (DiskPath.parent path) = ([] :: before) ++ [last] := by
        rw [hparent, DiskPath.bytesOf, if_neg (by simp), DiskPath.pieces_flatMap hslash]
        rfl
      exact DiskPath.slashed_eq_false hall hne
    · rw [DiskPath.ofBytes, hpieces, List.filter_append,
        List.filter_cons_of_pos (by simpa using hne), List.filter_nil, List.getLast?_concat]
      exact fun heq => hdot (Option.some.inj heq)

end Parent

end LocalHost

namespace Url

theorem head?_pathBytes (rest : List Char) : (pathBytes ('/' :: rest)).head? = some slash := by
  have hbytes : Text.bytes (String.ofList ('/' :: rest)) =
      slash :: rest.flatMap String.utf8EncodeChar := by
    rw [Text.bytes_eq_flatMap, String.toList_ofList, List.flatMap_cons]
    rfl
  have hdecode (b : List UInt8) :
      Text.percentDecode (slash :: b) = slash :: Text.percentDecode b := by
    rw [Text.percentDecode]
    exact fun _ _ _ h => absurd h (by decide)
  simp only [pathBytes, hbytes, hdecode]
  split
  · split <;> rfl
  · rfl

/-- The path of a file starts with a slash. -/
def Rooted : Url → Prop
  | .file _ path => ∃ rest, path = '/' :: rest
  | .other _ => True

theorem rooted_ofPath (remote : Bool) (start s : List Char) :
    (ofPath remote (.parse start s)).Rooted :=
  ⟨_, rfl⟩

theorem rooted_of_parseFileHost {s : List Char} {u : Url} (h : parseFileHost s = .ok u) :
    u.Rooted := by
  simp only [parseFileHost] at h
  split at h
  · cases h
    exact rooted_ofPath _ _ _
  · split at h
    · cases h
      exact rooted_ofPath _ _ _
    · cases hhost : checkHost (counted (s.span fun c => !endsHost true c).1) with
      | error cause =>
        rw [hhost] at h
        cases h
      | ok domain =>
        rw [hhost] at h
        cases h
        dsimp only
        split <;> exact rooted_ofPath _ _ _

theorem rooted_of_parseFile {s : List Char} {u : Url} (h : parseFile s = .ok u) : u.Rooted := by
  unfold parseFile at h
  split at h
  · cases h
    exact rooted_ofPath _ _ _
  · split at h
    · cases h
      exact rooted_ofPath _ _ _
    · exact rooted_of_parseFileHost h

theorem rooted_of_parse {s : String} {u : Url} (h : parse s = .ok u) : u.Rooted := by
  have hother {α : Type} {outcome : Except UrlError α} {scheme : String}
      (h : (outcome.map fun _ => Url.other scheme) = .ok u) : u.Rooted := by
    cases outcome with
    | error cause => cases h
    | ok a =>
      cases h
      trivial
  unfold parse at h
  split at h
  · cases h
  · split at h
    · exact rooted_of_parseFile h
    · dsimp only at h
      split at h
      · exact hother h
      · split at h
        · exact hother h
        · cases h
          trivial

end Url

/-- The path that a URL names starts with a slash. -/
theorem LocalHost.head?_of_localPath {uri : String} {path : List UInt8}
    (h : localPath uri = .ok path) : path.head? = some slash := by
  unfold localPath at h
  split at h
  next => cases h
  next => cases h
  next => cases h
  next text heq =>
    obtain ⟨rest, rfl⟩ := Url.rooted_of_parse heq
    cases h
    exact Url.head?_pathBytes rest

end FileBridge
