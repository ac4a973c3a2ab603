import FileBridge.Proofs.Guard
import FileBridge.Proofs.Service.Call
import FileBridge.Proofs.Text.Base64
import FileBridge.Proofs.Tree.Frame

/-!
What is written is read. After a file has been written, every URI of its path reads the text that
was given, until a call that succeeds writes, removes or moves something at that path or above it.
-/
namespace FileBridge

theorem Policy.hostFailure_code_ne_success (p : Policy) (cause : HostError) :
    (p.hostFailure cause).code ≠ .success := by
  obtain ⟨guard, mode⟩ := p
  cases mode with
  | compact => exact fun h => by cases h
  | detailed =>
    have hkind (kind : FailureKind) : ErrorCode.ofKind kind ≠ .success := by
      cases kind <;> exact fun h => by cases h
    exact hkind cause.kind

namespace Context

variable {σ α : Type} {c : Context σ} {operation uri : String} {f : σ → Reply σ α}

/-- An envelope tells of success exactly if the host was asked and succeeded. -/
theorem errorCode_answer {f : σ → Reply σ Unit} :
    (answer IoResult.ofOutcome (c.ask operation uri f)).1.errorCode = .success ↔
      (c.ask operation uri f).1 = .ok () := by
  rcases ask_cases c operation uri f with ⟨text, h⟩ | h
  · simp [answer, h, IoResult.ofOutcome, Failure.general]
  · rw [answer, h]
    cases (f c.host).1 with
    | ok a => simp [IoResult.ofOutcome, Except.mapError]
    | error cause =>
      simp [IoResult.ofOutcome, Except.mapError, c.policy.hostFailure_code_ne_success cause]

theorem ask_eq_ok {a : α} (h : (c.ask operation uri f).1 = .ok a) :
    (f c.host).1 = .ok a ∧ (c.ask operation uri f).2 = { c with host := (f c.host).2 } := by
  rcases ask_cases c operation uri f with ⟨text, heq⟩ | heq
  · rw [heq] at h
    cases h
  · rw [heq] at h ⊢
    cases hf : (f c.host).1 with
    | ok b =>
      rw [hf] at h
      obtain rfl := Except.ok.inj h
      exact ⟨rfl, rfl⟩
    | error cause =>
      rw [hf] at h
      cases h

/-- Asking the host keeps a path if what the host does keeps it, and a success of the host is one
of the call. -/
theorem keeps_ask {c : Context Tree} (h : c.host.WellFormed) {path : String}
    {f : Tree → Reply Tree α}
    (hf : (∀ a, (f c.host).1 = .ok a → (c.ask operation uri f).1 = .ok a) →
      Tree.Keeps path c.host (f c.host).2) :
    Tree.Keeps path c.host (c.ask operation uri f).2.host := by
  rcases ask_cases c operation uri f with ⟨text, heq⟩ | heq
  · rw [heq]
    exact .of_entries h rfl
  · rw [heq] at hf ⊢
    refine hf fun a ha => ?_
    rw [ha]
    rfl

end Context

namespace Call

/-- The call succeeds, and it writes a path, removes that path or one above it, or moves something
from or to that path or one above it. -/
def Spoils (path : String) (c : Context Tree) : Call → Prop
  | .writeFile p => (c.writeFile p).1.errorCode = .success ∧ Path.ofUri p.uri = .ok path
  | .remove p => (c.remove p).1.errorCode = .success ∧
      ∃ place, Path.ofUri p.uri = .ok place ∧ Path.isWithin path place = true
  | .rename p => (c.rename p).1.errorCode = .success ∧
      ∃ place, (Path.ofUri p.source = .ok place ∨ Path.ofUri p.target = .ok place) ∧
        Path.isWithin path place = true
  | _ => False

variable {c : Context Tree} {path : String}

/-- A call that does not spoil a path with an entry keeps that entry. -/
theorem keeps_run (h : c.host.WellFormed) {entry : Entry}
    (hget : c.host.entries.get? path = some entry) {call : Call} (hspoils : ¬call.Spoils path c) :
    Tree.Keeps path c.host (call.run c).2.host := by
  cases call with
  | readFile p | exists? p | lastModified p | created p | isDirectory p | isFile p | list p =>
    refine Context.keeps_ask h fun _ => ?_
    exact Tree.keeps_look h p.uri _
  | writeFile p =>
    refine Context.keeps_ask h fun hsuccess => ?_
    cases hdecode : Base64.decode? p.content.toList with
    | none => exact .of_entries h rfl
    | some content =>
      refine Tree.keeps_write h fun a ha hplace => hspoils ⟨?_, hplace⟩
      refine Context.errorCode_answer.mpr (hsuccess a ?_)
      rw [hdecode]
      exact ha
  | createDirectory p =>
    exact Context.keeps_ask h fun _ => Tree.keeps_createDirectory h hget
  | remove p =>
    refine Context.keeps_ask h fun hsuccess => Tree.keeps_delete h fun a ha place hplace => ?_
    rw [Bool.eq_false_iff]
    exact fun hwithin =>
      hspoils ⟨Context.errorCode_answer.mpr (hsuccess a ha), place, hplace, hwithin⟩
  | rename p =>
    simp only [run, Context.rename]
    cases hrefusal : c.policy.refusal? "rename" p.target with
    | some refusal => exact .of_entries h rfl
    | none =>
      refine Context.keeps_ask h fun hsuccess => Tree.keeps_rename h fun a ha place hplace => ?_
      rw [Bool.eq_false_iff]
      refine fun hwithin => hspoils ⟨?_, place, hplace, hwithin⟩
      rw [Context.rename, hrefusal]
      exact Context.errorCode_answer.mpr (hsuccess a ha)
  | watch p =>
    simp only [run, Context.watch, Registry.watch]
    split
    · exact .of_entries h rfl
    split
    · exact .of_entries h rfl
    split
    · exact .of_entries h rfl
    have hkeeps : Tree.Keeps path c.host (c.host.watch p.uri).2 := Tree.keeps_watch h p.uri
    split
    next cause host hreply =>
      rw [show c.host.watch p.uri = _ from hreply] at hkeeps
      exact hkeeps
    next watcher host hreply =>
      rw [show c.host.watch p.uri = _ from hreply] at hkeeps
      exact hkeeps
  | unwatch p =>
    simp only [run, Context.unwatch, Registry.unwatch]
    split
    · exact .of_entries h rfl
    split
    · exact .of_entries h rfl
    · exact Tree.keeps_after (a := .unwatch _) h rfl

end Call

/-- Somebody calls, in whatever session and under whatever policy, or something happens to the tree
that is no operation. -/
inductive Turn where
  | call (policy : Policy) (registry : Registry) (closing : Bool) (call : Call)
  | idle (a : Tree.Action) (h : a.isIdle = true)

namespace Turn

/-- The tree after a turn. -/
def after (t : Tree) : Turn → Tree
  | .call policy registry closing asked => (asked.run ⟨policy, t, registry, closing⟩).2.host
  | .idle a _ => t.after a

/-- The tree after some turns. -/
def run (turns : List Turn) (t : Tree) : Tree :=
  turns.foldl after t

/-- No call among some turns spoils a path. -/
def Spare (path : String) : List Turn → Tree → Prop
  | [], _ => True
  | .call policy registry closing asked :: rest, t =>
    ¬asked.Spoils path ⟨policy, t, registry, closing⟩ ∧
      Spare path rest (after t (.call policy registry closing asked))
  | .idle a h :: rest, t => Spare path rest (after t (.idle a h))

variable {path : String} {entry : Entry}

theorem get?_run {turns : List Turn} {t : Tree} (h : t.WellFormed)
    (hget : t.entries.get? path = some entry) (hspare : Spare path turns t) :
    (run turns t).entries.get? path = some entry := by
  induction turns generalizing t with
  | nil => exact hget
  | cons turn rest ih =>
    cases turn with
    | call policy registry closing asked =>
      have hkeeps := Call.keeps_run (c := ⟨policy, t, registry, closing⟩) h hget hspare.1
      exact ih hkeeps.wellFormed (hkeeps.get?.trans hget) hspare.2
    | idle a hidle =>
      have hkeeps : Tree.Keeps path t (t.after a) := Tree.keeps_after h hidle
      exact ih hkeeps.wellFormed (hkeeps.get?.trans hget) hspare

end Turn

namespace Context

variable {c : Context Tree} {path uri : String}

theorem readFile_of_get? {content : List UInt8} {created modified : Int}
    (hguard : ∀ scheme, ¬c.policy.guard.Guards uri scheme) (hpath : Path.ofUri uri = .ok path)
    (hroot : path ≠ Path.root)
    (hget : c.host.entries.get? path = some ⟨.file content, created, modified⟩) :
    (c.readFile ⟨uri⟩).1 = ⟨.success, none, some (String.ofList (Base64.encode content))⟩ := by
  have hrefusal : c.policy.refusal? "readFile" uri = none := by
    rw [Policy.refusal?, Guard.guardedScheme?_eq_none_iff.mpr hguard, Option.map_none]
  have hread : (Host.read uri c.host).1 = .ok content := by
    show (c.host.read uri).1 = .ok content
    simp [Tree.read, Tree.look, hpath, Tree.contentAt, hroot, Tree.count, hget]
  simp [readFile, answer, ask, hrefusal, hread, Except.mapError, Except.map,
    ValueResult.ofOutcome]

/-- What a file reads as depends on the guard and on what its path holds. -/
theorem readFile_congr {c c' : Context Tree} (hpolicy : c'.policy = c.policy)
    (hget : ∀ path, Path.ofUri uri = .ok path →
      c'.host.entries.get? path = c.host.entries.get? path) :
    (c'.readFile ⟨uri⟩).1 = (c.readFile ⟨uri⟩).1 := by
  have hread : (Host.read uri c'.host).1 = (Host.read uri c.host).1 := by
    show (c'.host.read uri).1 = (c.host.read uri).1
    unfold Tree.read Tree.look
    cases hpath : Path.ofUri uri with
    | error cause => rfl
    | ok path => simp only [Tree.contentAt, Tree.count, hget path hpath]
  simp only [readFile, answer, ask, hpolicy]
  cases c.policy.refusal? "readFile" uri with
  | some refusal => rfl
  | none => simp only [hread]

/-- What a write that succeeds has done. -/
theorem writeFile_eq_success (hwf : c.host.WellFormed) {p : WriteFileParams}
    (h : (c.writeFile p).1.errorCode = .success) :
    ∃ path content created modified, Path.ofUri p.uri = .ok path ∧ path ≠ Path.root ∧
      Base64.decode? p.content.toList = some content ∧
      (c.writeFile p).2.policy = c.policy ∧ (c.writeFile p).2.host.WellFormed ∧
      ∀ k, (c.writeFile p).2.host.entries.get? k =
        if k = path then some ⟨.file content, created, modified⟩ else c.host.entries.get? k := by
  obtain ⟨hwrite, hafter⟩ := ask_eq_ok (errorCode_answer.mp h)
  cases hdecode : Base64.decode? p.content.toList with
  | none =>
    rw [hdecode] at hwrite
    cases hwrite
  | some content =>
    simp only [hdecode] at hwrite hafter
    obtain ⟨path, hpath, hresult, hentries⟩ := Tree.edit_eq_ok hwrite
    obtain ⟨hroot, created, hget⟩ := Edit.get?_write hresult
    have hafter : (c.writeFile p).2 =
        { c with host := (c.host.write p.uri content p.create p.overwrite).2 } := by
      simp only [writeFile, answer, hdecode, hafter]
      rfl
    rw [hafter]
    refine ⟨path, content, created, c.host.now, hpath, hroot, rfl, rfl, ?_, fun k => ?_⟩
    · exact (Tree.lawful_write hwf p.uri content p.create p.overwrite).wellFormed
    · rw [← hget k, ← hentries]
      rfl

/-- After a write that succeeds, every unguarded URI of the same path reads the text that was given,
and it does so until a call spoils that path. All other paths read as before. The texts that can be
written are exactly the ones that bytes are encoded as. -/
theorem writeFile_then_readFile (h : c.host.Reachable) {p : WriteFileParams}
    (hwrite : (c.writeFile p).1.errorCode = .success) :
    ∃ path, Path.ofUri p.uri = .ok path ∧
      (∀ turns, Turn.Spare path turns (c.writeFile p).2.host →
        ∀ policy registry closing uri, (∀ scheme, ¬policy.guard.Guards uri scheme) →
          Path.ofUri uri = .ok path →
            (readFile ⟨uri⟩ ⟨policy, Turn.run turns (c.writeFile p).2.host, registry, closing⟩).1 =
              ⟨.success, none, some p.content⟩) ∧
      (∀ uri, Path.ofUri uri ≠ .ok path →
        ((c.writeFile p).2.readFile ⟨uri⟩).1 = (c.readFile ⟨uri⟩).1) ∧
      ∀ text bytes, Base64.decode? text = some bytes ↔ text = Base64.encode bytes := by
  obtain ⟨path, content, created, modified, hpath, hroot, hdecode, hpolicy, hwf, hget⟩ :=
    writeFile_eq_success h.wellFormed hwrite
  refine ⟨path, hpath, ?_, ?_, fun _ _ => Base64.decode?_eq_some_iff⟩
  · intro turns hspare policy registry closing uri hguard huri
    have hkept : (Turn.run turns (c.writeFile p).2.host).entries.get? path =
        some ⟨.file content, created, modified⟩ :=
      Turn.get?_run hwf ((hget path).trans (if_pos rfl)) hspare
    rw [readFile_of_get? hguard huri hroot hkept, Base64.encode_of_decode? hdecode,
      String.ofList_toList]
  · intro uri huri
    refine readFile_congr hpolicy fun k hk => ?_
    rw [hget, if_neg]
    rintro rfl
    exact huri hk

/-- A file is read under another scheme after a directory beside it has come and gone. -/
theorem writeFile_then_readFile_beside :
    let policy : Policy := ⟨.ofList ["rmt"], .compact⟩
    let c : Context Tree := ⟨policy, .empty 0, .empty, false⟩
    let p : WriteFileParams := ⟨"mem://host/f?x", "AAE=", true, false⟩
    let turns : List Turn := [.call policy .empty false (.createDirectory ⟨"mem:/d"⟩),
      .idle (.setClock 7) rfl, .call policy .empty true (.remove ⟨"mem:/d", true⟩)]
    (c.writeFile p).1.errorCode = .success ∧ Turn.Spare "/f" turns (c.writeFile p).2.host ∧
      (readFile ⟨"other:/f/"⟩ ⟨policy, Turn.run turns (c.writeFile p).2.host, .empty, true⟩).1 =
        ⟨.success, none, some "AAE="⟩ := by
  intro policy c p turns
  have hwrite : (c.writeFile p).1.errorCode = .success := by decide
  have hspare : Turn.Spare "/f" turns (c.writeFile p).2.host := by
    refine ⟨id, ?_, trivial⟩
    rintro ⟨-, place, hplace, hwithin⟩
    obtain rfl : "/d" = place := Except.ok.inj hplace
    cases hwithin
  obtain ⟨path, hpath, hread, -⟩ := writeFile_then_readFile ⟨0, [], rfl⟩ hwrite
  have hplace : Path.ofUri "mem://host/f?x" = .ok "/f" := rfl
  obtain rfl : "/f" = path := Except.ok.inj (hplace.symm.trans hpath)
  refine ⟨hwrite, hspare, hread turns hspare policy .empty true _ ?_ rfl⟩
  exact Guard.guardedScheme?_eq_none_iff.mp (by decide)

end Context

end FileBridge
