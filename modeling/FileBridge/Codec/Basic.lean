import FileBridge.Codec.Error

/-!
Two-way conversion between JSON values and typed values, and the conversions of scalars, lists and
enumerations.
-/
namespace FileBridge

/-- How a type is read from and written to JSON values. -/
structure Codec (α : Type) where
  read : Json → Except DecodeError α
  write : α → Json

namespace Codec

def json : Codec Json where
  read v := .ok v
  write v := v

/-- A text; a message calls what was wanted by the given words. -/
def textAs (wanted : String) : Codec String where
  read
    | .str s => .ok s
    | v => .error (.wrongType v wanted)
  write s := .str s

def text : Codec String :=
  textAs "a string"

def flag : Codec Bool where
  read
    | .bool b => .ok b
    | v => .error (.wrongType v "a boolean")
  write b := .bool b

def integer (wanted : String) (low high : Int) : Codec Int where
  read
    | .num (.int n) => if low ≤ n ∧ n ≤ high then .ok n else .error (.outOfRange n wanted)
    | v => .error (.wrongType v wanted)
  write n := .int n

def int64 : Codec Int :=
  integer "i64" minInt64 maxInt64

def natural (wanted : String) (bits : Nat) : Codec Nat where
  read v := (integer wanted 0 ((Nat.pow 2 bits : Int) - 1)).read v |>.map Int.toNat
  write n := .nat n

def unit : Codec Unit where
  read
    | .null => .ok ()
    | v => .error (.wrongType v "unit")
  write _ := .null

/-- Reads every item of a list; the first that fails decides. -/
def readAll {α : Type} (c : Codec α) : List Json → Except DecodeError (List α)
  | [] => .ok []
  | v :: vs => do
    let a ← c.read v
    let as ← readAll c vs
    .ok (a :: as)

def list {α : Type} (c : Codec α) : Codec (List α) where
  read
    | .arr items => readAll c items
    | v => .error (.wrongType v "a sequence")
  write as := .arr (as.map c.write)

/-- One of some values, spelled by its code of eight bits. -/
def coded {α : Type} (values : List α) (code : α → Nat) : Codec α where
  read v := do
    let n ← (natural "u8" 8).read v
    match values.find? fun a => code a == n with
    | some a => .ok a
    | none => .error (.unknownCode n (values.map code))
  write a := .nat (code a)

def byName {α : Type} (values : List α) (name : α → String) (s : String) : Except DecodeError α :=
  match values.find? fun a => name a == s with
  | some a => .ok a
  | none => .error (.unknownName s (values.map name))

/-- One of some values, spelled by its name. An object whose only member has that name and holds
null says the same. -/
def named {α : Type} (values : List α) (name : α → String) : Codec α where
  read
    | .str s => byName values name s
    | .obj [(s, v)] => do
      let a ← byName values name s
      unit.read v
      .ok a
    | .obj _ => .error .notSingleMember
    | v => .error (.wrongType v "string or map")
  write a := .str (name a)

end Codec

end FileBridge
