import FileBridge.Proofs.Tree.Exchange
import FileBridge.Proofs.Tree.Parts

/-!
Queries and fragments of URIs. Main statement: they decide neither which path a URI addresses nor
what an operation does, unless the URI breaks off inside its authority.
-/
namespace FileBridge

namespace Path

/-- What is appended to a URI stands at the end of its place. -/
theorem place_append_query {u query : List Char} (hscheme : ':' ∈ u)
    (hopen : ¬IsOpen (afterScheme u)) (hquery : query.head? ≠ some '/') :
    place (u ++ query) = place u ++ query := by
  have hstart {front : List Char} (hfront : front = [] ∨ front = ['/']) :
      ¬['/', '/'] <+: front ++ query := by
    rintro ⟨rest, hrest⟩
    rcases hfront with rfl | rfl
    · exact hquery (by rw [← List.nil_append query, ← hrest]; rfl)
    · obtain rfl : '/' :: rest = query := (List.cons.inj hrest).2
      exact hquery rfl
  unfold place
  rw [afterScheme_append hscheme]
  by_cases hshort : afterScheme u = [] ∨ afterScheme u = ['/']
  · rw [afterAuthority_eq_self (hstart hshort)]
    rcases hshort with h | h <;> rw [h] <;> rfl
  · obtain ⟨hne, hslash⟩ := not_or.mp hshort
    refine afterAuthority_append ?_ hslash query
    rw [ne_eq, afterAuthority_eq_nil_iff]
    exact not_or.mpr ⟨hne, hopen⟩

variable {uri query : String}

/-- A query or a fragment does not belong to the address. -/
theorem address_append_query (hscheme : ':' ∈ uri.toList)
    (hbare : ∀ c ∈ uri.toList, isBare c = true) (hopen : ¬IsOpen (afterScheme uri.toList))
    (hquery : ∃ c ∈ query.toList.head?, isBare c = false) :
    address (uri ++ query).toList = address uri.toList := by
  obtain ⟨c, hc, hnot⟩ := hquery
  obtain ⟨rest, hrest⟩ := List.head?_eq_some_iff.mp hc
  have hslash : query.toList.head? ≠ some '/' := by
    intro heq
    rw [heq] at hc
    obtain rfl := Option.some.inj hc
    cases hnot
  have hplace : ∀ c ∈ place uri.toList, isBare c = true := fun c hc =>
    hbare c ((place_suffix _).subset hc)
  rw [address_eq, address_eq, String.toList_append, place_append_query hscheme hopen hslash,
    List.takeWhile_append_of_pos hplace, hrest, List.takeWhile_cons_of_neg (by simp [hnot]),
    List.append_nil, List.takeWhile_eq_self_iff.mpr hplace]

/-- After an authority that is open, the address is looked for behind the next slash. -/
theorem address_append_of_isOpen (hscheme : ':' ∈ uri.toList)
    (hopen : IsOpen (afterScheme uri.toList)) (query : String) :
    address (uri ++ query).toList =
      Text.dropTrailing '/' ((query.toList.dropWhile (· ≠ '/')).takeWhile isBare) := by
  rw [address_eq, String.toList_append, place, afterScheme_append hscheme,
    afterAuthority_append_of_isOpen hopen]

/-- The URI breaks off inside its authority. -/
def EndsInAuthority (uri : String) : Prop :=
  ∃ scheme host, uri = scheme ++ "://" ++ host ∧ ':' ∉ scheme.toList ∧ '/' ∉ host.toList

theorem endsInAuthority_iff (hscheme : ':' ∈ uri.toList) :
    EndsInAuthority uri ↔ IsOpen (afterScheme uri.toList) := by
  constructor
  · rintro ⟨scheme, host, rfl, hcolon, hslash⟩
    refine ⟨host.toList, ?_, hslash⟩
    have hlist : (scheme ++ "://" ++ host).toList =
        scheme.toList ++ ':' :: '/' :: '/' :: host.toList := by simp
    rw [hlist, afterScheme_colon hcolon]
  · rintro ⟨host, hrest, hslash⟩
    obtain ⟨scheme, rest, huri, hcolon⟩ := List.eq_append_cons_of_mem hscheme
    rw [huri, afterScheme_colon hcolon] at hrest
    refine ⟨String.ofList scheme, String.ofList host, ?_, by simpa using hcolon,
      by simpa using hslash⟩
    rw [← String.toList_inj, huri, hrest]
    simp

/-- From its first slash up to the next query or fragment in it, a query has slashes only. -/
def IsNameless (query : String) : Prop :=
  ∀ c ∈ (query.toList.dropWhile (· ≠ '/')).takeWhile isBare, c = '/'

theorem toOption_ofUri_append_iff (hscheme : ':' ∈ uri.toList)
    (hbare : ∀ c ∈ uri.toList, c ≠ '?' ∧ c ≠ '#')
    (hquery : query.toList.head? = some '?' ∨ query.toList.head? = some '#') :
    (ofUri (uri ++ query)).toOption = (ofUri uri).toOption ↔
      (EndsInAuthority uri → IsNameless query) := by
  rw [endsInAuthority_iff hscheme]
  by_cases hopen : IsOpen (afterScheme uri.toList)
  · have hroot : ofUri uri = .ok root := by
      rw [ofUri_eq_root_iff, ← String.append_empty (s := uri),
        address_append_of_isOpen hscheme hopen]
      rfl
    rw [toOption_ofUri_eq_some_iff.mpr hroot, toOption_ofUri_eq_some_iff, ofUri_eq_root_iff,
      address_append_of_isOpen hscheme hopen, Text.dropTrailing_eq_nil_iff]
    exact ⟨fun h _ => h, fun h => h hopen⟩
  · have hstart : ∃ c ∈ query.toList.head?, isBare c = false := by
      rcases hquery with h | h
      · exact ⟨'?', h, rfl⟩
      · exact ⟨'#', h, rfl⟩
    have hall : ∀ c ∈ uri.toList, isBare c = true := fun c hc => isBare_iff.mpr (hbare c hc)
    exact ⟨fun _ h => absurd h hopen,
      fun _ => toOption_ofUri_congr (address_append_query hscheme hall hopen hstart)⟩

end Path

namespace Edit

/-- Edits that do the same. If both are refused, the wording may differ. -/
structure Same (edit edit' : Edit) : Prop where
  result : edit.result.toOption = edit'.result.toOption
  entries : edit.entries = edit'.entries
  changes : edit.changes = edit'.changes

variable {e : Entries} {path : String}

theorem Same.refl (edit : Edit) : Same edit edit :=
  ⟨rfl, rfl, rfl⟩

theorem same_refused (e : Entries) (cause cause' : HostError) :
    Same (refused e cause) (refused e cause') :=
  ⟨rfl, rfl, rfl⟩

/-- Whether an entry has a directory to lie in does not hang on the URI. -/
theorem checkParent_cases (e : Entries) (path uri uri' : String) :
    (e.checkParent path uri' = .ok () ∧ e.checkParent path uri = .ok ()) ∨
      ∃ cause' cause, e.checkParent path uri' = .error cause' ∧
        e.checkParent path uri = .error cause := by
  unfold Entries.checkParent
  split
  · exact .inl ⟨rfl, rfl⟩
  split
  · exact .inr ⟨_, _, rfl, rfl⟩
  · exact .inr ⟨_, _, rfl, rfl⟩

theorem same_create (uri uri' : String) (entry : Entry) :
    Same (create e path uri' entry) (create e path uri entry) := by
  unfold create
  rcases checkParent_cases e path uri uri' with ⟨h', h⟩ | ⟨cause', cause, h', h⟩ <;> rw [h', h]
  · exact .refl _
  · exact same_refused e cause' cause

theorem same_write (now : Int) (content : List UInt8) (mayCreate mayOverwrite : Bool)
    (uri uri' : String) :
    Same (write now content mayCreate mayOverwrite path uri' e)
      (write now content mayCreate mayOverwrite path uri e) := by
  unfold write
  split
  · exact same_refused e _ _
  cases e.get? path with
  | none =>
    simp only
    split
    · exact same_refused e _ _
    · exact same_create uri uri' _
  | some entry =>
    simp only
    split
    · exact same_refused e _ _
    split
    · exact same_refused e _ _
    · exact .refl _

theorem same_createDirectory (now : Int) (uri uri' : String) :
    Same (createDirectory now path uri' e) (createDirectory now path uri e) := by
  unfold createDirectory
  split
  · exact same_refused e _ _
  · exact same_create uri uri' _

theorem same_delete (recursive : Bool) (uri uri' : String) :
    Same (delete recursive path uri' e) (delete recursive path uri e) := by
  unfold delete
  split
  · exact same_refused e _ _
  split
  · exact same_refused e _ _
  simp only
  split
  · exact same_refused e _ _
  · exact .refl _

theorem same_rename (mayOverwrite : Bool) (source target : String)
    (sourceUri targetUri sourceUri' targetUri' : String) :
    Same (rename mayOverwrite source target sourceUri' targetUri' e)
      (rename mayOverwrite source target sourceUri targetUri e) := by
  unfold rename
  split
  · exact .refl _
  split
  · exact same_refused e _ _
  split
  · exact .refl _
  split
  · exact same_refused e _ _
  split
  · exact same_refused e _ _
  simp only
  generalize (if e.contains target = true then e.eraseAll (e.descendants target ++ [target])
    else e) = cleared
  rcases checkParent_cases cleared target targetUri targetUri' with
    ⟨h', h⟩ | ⟨cause', cause, h', h⟩ <;> rw [h', h]
  · exact .refl _
  · exact same_refused cleared cause' cause

end Edit

namespace Tree

/-- An operation with its URIs spelled in another way. -/
def Operation.respell (f : String → String) : Operation → Operation
  | .stat uri => .stat (f uri)
  | .read uri => .read (f uri)
  | .write uri content mayCreate mayOverwrite => .write (f uri) content mayCreate mayOverwrite
  | .createDirectory uri => .createDirectory (f uri)
  | .delete uri recursive => .delete (f uri) recursive
  | .rename source target mayOverwrite => .rename (f source) (f target) mayOverwrite
  | .list uri => .list (f uri)
  | .watch uri => .watch (f uri)

/-- Replies that say the same, with the same tree after them. If both are failures, the wording may
differ. -/
structure Same {α : Type} (r r' : Reply Tree α) : Prop where
  result : r.1.toOption = r'.1.toOption
  tree : r.2 = r'.2

variable {t : Tree} {uri uri' : String}

theorem Same.answer {α : Type} {r r' : Reply Tree α} (h : Same r r') (f : α → Answer) :
    Same (answer f r) (answer f r') := by
  obtain ⟨result, tree⟩ := r
  obtain ⟨result', tree'⟩ := r'
  obtain ⟨hresult, rfl⟩ := h
  refine ⟨?_, rfl⟩
  cases result <;> cases result' <;> simp_all [Except.toOption, Tree.answer, Except.map]

/-- URIs for the same path, or both refused. -/
theorem ofUri_cases (h : (Path.ofUri uri').toOption = (Path.ofUri uri).toOption) :
    (∃ path, Path.ofUri uri' = .ok path ∧ Path.ofUri uri = .ok path) ∨
      ∃ cause' cause, Path.ofUri uri' = .error cause' ∧ Path.ofUri uri = .error cause := by
  cases hleft : Path.ofUri uri' with
  | ok path =>
    rw [hleft] at h
    exact .inl ⟨path, rfl, Path.toOption_ofUri_eq_some_iff.mp h.symm⟩
  | error cause' =>
    cases hright : Path.ofUri uri with
    | ok path =>
      rw [hleft, hright] at h
      cases h
    | error cause => exact .inr ⟨cause', cause, rfl, rfl⟩

theorem same_look {α : Type} {f f' : String → Entries → Except HostError α}
    (huri : (Path.ofUri uri').toOption = (Path.ofUri uri).toOption)
    (hf : ∀ path, (f' path t.entries).toOption = (f path t.entries).toOption) :
    Same (t.look uri' f') (t.look uri f) := by
  unfold look
  rcases ofUri_cases huri with ⟨path, h', h⟩ | ⟨cause', cause, h', h⟩ <;> rw [h', h]
  · exact ⟨hf path, rfl⟩
  · exact ⟨rfl, rfl⟩

theorem same_commit {edit edit' : Edit} (h : Edit.Same edit' edit) :
    Same (t.commit edit') (t.commit edit) := by
  refine ⟨h.result, ?_⟩
  rw [commit, commit, h.entries, h.changes]

theorem same_edit {f f' : String → Entries → Edit}
    (huri : (Path.ofUri uri').toOption = (Path.ofUri uri).toOption)
    (hf : ∀ path, Edit.Same (f' path t.entries) (f path t.entries)) :
    Same (t.edit uri' f') (t.edit uri f) := by
  unfold edit
  rcases ofUri_cases huri with ⟨path, h', h⟩ | ⟨cause', cause, h', h⟩ <;> rw [h', h]
  · exact same_commit (hf path)
  · exact ⟨rfl, rfl⟩

theorem same_rename {source source' target target' : String} (mayOverwrite : Bool)
    (hsource : (Path.ofUri source').toOption = (Path.ofUri source).toOption)
    (htarget : (Path.ofUri target').toOption = (Path.ofUri target).toOption) :
    Same (t.rename source' target' mayOverwrite) (t.rename source target mayOverwrite) := by
  unfold rename
  rcases ofUri_cases hsource with ⟨old, h', h⟩ | ⟨cause', cause, h', h⟩ <;> rw [h', h]
  · rcases ofUri_cases htarget with ⟨new, h', h⟩ | ⟨cause', cause, h', h⟩ <;> rw [h', h]
    · exact same_commit (Edit.same_rename ..)
    · exact ⟨rfl, rfl⟩
  · exact ⟨rfl, rfl⟩

theorem same_stat (huri : (Path.ofUri uri').toOption = (Path.ofUri uri).toOption) :
    Same (t.stat uri') (t.stat uri) := by
  refine same_look huri fun path => ?_
  unfold metadataAt
  split
  · rfl
  split <;> rfl

theorem same_read (huri : (Path.ofUri uri').toOption = (Path.ofUri uri).toOption) :
    Same (t.read uri') (t.read uri) := by
  refine same_look huri fun path => ?_
  unfold contentAt
  split
  · rfl
  split <;> rfl

theorem same_list (huri : (Path.ofUri uri').toOption = (Path.ofUri uri).toOption) :
    Same (t.list uri') (t.list uri) := by
  refine same_look huri fun path => ?_
  unfold listingAt
  split
  · rfl
  split <;> rfl

/-- How its URIs are spelled does not matter for an operation. Only a watcher keeps the spelling. -/
theorem perform_respell {f : String → String} {o : Operation}
    (h : ∀ uri ∈ o.uris, (Path.ofUri (f uri)).toOption = (Path.ofUri uri).toOption) (t : Tree) :
    (t.perform (o.respell f)).1.toOption = (t.perform o).1.toOption ∧
      (t.perform (o.respell f)).2.entries = (t.perform o).2.entries ∧
      (o.isWatch = false → (t.perform (o.respell f)).2 = (t.perform o).2) := by
  have hsame {α : Type} {r r' : Reply Tree α} (hr : Same r' r) (g : α → Answer) :
      (answer g r').1.toOption = (answer g r).1.toOption ∧
        (answer g r').2.entries = (answer g r).2.entries ∧
        (o.isWatch = false → (answer g r').2 = (answer g r).2) := by
    have hanswer := hr.answer g
    exact ⟨hanswer.result, congrArg entries hanswer.tree, fun _ => hanswer.tree⟩
  cases o with
  | stat uri => exact hsame (same_stat (h uri List.mem_cons_self)) .metadata
  | read uri => exact hsame (same_read (h uri List.mem_cons_self)) .content
  | list uri => exact hsame (same_list (h uri List.mem_cons_self)) .listing
  | write uri content mayCreate mayOverwrite =>
    exact hsame (same_edit (h uri List.mem_cons_self) fun _ => Edit.same_write ..) _
  | createDirectory uri =>
    exact hsame (same_edit (h uri List.mem_cons_self) fun _ => Edit.same_createDirectory ..) _
  | delete uri recursive =>
    exact hsame (same_edit (h uri List.mem_cons_self) fun _ => Edit.same_delete ..) _
  | rename source target mayOverwrite =>
    exact hsame (same_rename mayOverwrite (h source List.mem_cons_self)
      (h target (List.mem_cons_of_mem _ List.mem_cons_self))) _
  | watch uri =>
    simp only [perform, Operation.respell, watch]
    rcases ofUri_cases (h uri List.mem_cons_self) with ⟨path, h', h⟩ | ⟨cause', cause, h', h⟩ <;>
      rw [h', h]
    · exact ⟨rfl, rfl, fun hwatch => by cases hwatch⟩
    · exact ⟨rfl, rfl, fun hwatch => by cases hwatch⟩

/-- What a query or a fragment is to the path that a URI addresses: nothing, unless the URI ends in
its authority. Then the authority is taken to go on up to the first slash of the query, and what
follows that slash is addressed, so it must not hold a name. Where the query is nothing to the path,
it is nothing to any operation: its answer and the tree after it are the same, but for the spelling
that a watcher keeps. -/
theorem query_is_ignored_iff {uri query : String} (hscheme : ':' ∈ uri.toList)
    (hbare : ∀ c ∈ uri.toList, c ≠ '?' ∧ c ≠ '#')
    (hquery : query.toList.head? = some '?' ∨ query.toList.head? = some '#') :
    ((Path.ofUri (uri ++ query)).toOption = (Path.ofUri uri).toOption ↔
        (Path.EndsInAuthority uri → Path.IsNameless query)) ∧
      ((Path.EndsInAuthority uri → Path.IsNameless query) → ∀ (t : Tree) (o : Operation),
        let o' := o.respell fun u => if u = uri then uri ++ query else u
        (t.perform o').1.toOption = (t.perform o).1.toOption ∧
          (t.perform o').2.entries = (t.perform o).2.entries ∧
          (o.isWatch = false → (t.perform o').2 = (t.perform o).2)) := by
  have hpath := Path.toOption_ofUri_append_iff hscheme hbare hquery
  refine ⟨hpath, fun hdetached t o => perform_respell (fun u _ => ?_) t⟩
  split
  next heq =>
    rw [heq]
    exact hpath.mpr hdetached
  · rfl

/-- The query is full of separators, and the authority has ended. -/
theorem query_is_ignored_iff_separators :
    let uri := "mem://host/a"
    let query := "?x=//y:/../z#/."
    (Path.ofUri (uri ++ query)).toOption = some "/a" ∧
      ∀ t : Tree, (t.perform (.createDirectory (uri ++ query))).2 =
        (t.perform (.createDirectory uri)).2 := by
  intro uri query
  have hscheme : ':' ∈ uri.toList := by decide
  have hclosed : ¬Path.EndsInAuthority uri := by
    rw [Path.endsInAuthority_iff hscheme]
    rintro ⟨host, hrest, hnot⟩
    have hafter : Path.afterScheme uri.toList = '/' :: '/' :: "host/a".toList := by decide
    obtain rfl : "host/a".toList = host := by simpa [hafter] using hrest
    exact hnot (by decide)
  have hall : uri.toList.all Path.isBare = true := by decide
  have hbare : ∀ c ∈ uri.toList, c ≠ '?' ∧ c ≠ '#' := fun c hc =>
    Path.isBare_iff.mp (List.all_eq_true.mp hall c hc)
  have hquery : query.toList.head? = some '?' ∨ query.toList.head? = some '#' := by decide
  obtain ⟨hpath, hperform⟩ := query_is_ignored_iff hscheme hbare hquery
  have hdetached (h : Path.EndsInAuthority uri) : Path.IsNameless query := absurd h hclosed
  refine ⟨(hpath.mpr hdetached).trans (by decide), fun t => ?_⟩
  have hsame := (hperform hdetached t (.createDirectory uri)).2.2 rfl
  rwa [Operation.respell, if_pos rfl] at hsame

/-- With `/x` a file: the URI of the whole tree with a query addresses the file. -/
theorem query_after_authority_is_read :
    let t := run [.perform (.write "mem:/x" [7] true false)] (empty 0)
    ':' ∈ "mem://host".toList ∧ (∀ c ∈ "mem://host".toList, c ≠ '?' ∧ c ≠ '#') ∧
      "?/x".toList.head? = some '?' ∧ Path.ofUri "mem://host" = .ok "/" ∧
      Path.ofUri ("mem://host" ++ "?/x") = .ok "/x" ∧
      (t.read "mem://host").1 = .error (.isADirectory "mem://host") ∧
      (t.read "mem://host?/x").1 = .ok [7] := by
  have hall : "mem://host".toList.all Path.isBare = true := by decide
  refine ⟨by decide, fun c hc => ?_, rfl, rfl, rfl, rfl, rfl⟩
  exact Path.isBare_iff.mp (List.all_eq_true.mp hall c hc)

end Tree

end FileBridge
