import FileBridge.Codec.Basic

/-!
Records: an object with named members, or an array that lists the same members in order.

Members of an object are examined in the order of the object, so the first one that does not fit
decides; after that the first missing member does. An array may end early where the members left
have a value when absent.
-/
namespace FileBridge

structure Member (α : Type) where
  name : String
  read : Json → Except DecodeError α
  /-- How it is written, if it is written at all. -/
  write : α → Option Json
  /-- Its value when it is left out, unless it has to be there. -/
  absent : Option α

namespace Member

variable {α : Type}

def required (name : String) (c : Codec α) : Member α where
  name := name
  read := c.read
  write a := some (c.write a)
  absent := none

def defaulted (name : String) (c : Codec α) (d : α) : Member α where
  name := name
  read := c.read
  write a := some (c.write a)
  absent := some d

/-- A member that may be left out, which null says too. -/
def optional (name : String) (c : Codec α) : Member (Option α) where
  name := name
  read
    | .null => .ok none
    | v => (c.read v).map some
  write a := a.map c.write
  absent := some none

end Member

/-- The members of a record in order. Their values together form a tuple. -/
inductive Members : Type → Type 1 where
  | nil : Members Unit
  | cons {α β : Type} (m : Member α) (rest : Members β) : Members (α × β)

namespace Members

def names : {α : Type} → Members α → List String
  | _, .nil => []
  | _, .cons m rest => m.name :: rest.names

/-- Whether a value fits the member of a name; nothing if there is no such member. -/
def examine : {α : Type} → Members α → String → Json → Option (Except DecodeError Unit)
  | _, .nil, _, _ => none
  | _, .cons m rest, name, v =>
    if name = m.name then some ((m.read v).map fun _ => ()) else rest.examine name v

/-- Examines the members of an object in order. A closed record refuses names that it does not
have. -/
def examineAll {α : Type} (ms : Members α) (closed : Bool) :
    List (String × Json) → Except DecodeError Unit
  | [] => .ok ()
  | (name, v) :: rest => do
    match ms.examine name v with
    | some outcome => outcome
    | none => if closed then .error (.unknownMember name ms.names) else .ok ()
    ms.examineAll closed rest

def collect : {α : Type} → Members α → List (String × Json) → Except DecodeError α
  | _, .nil, _ => .ok ()
  | _, .cons m rest, fields => do
    let a ← match Fields.get? m.name fields with
      | some v => m.read v
      | none =>
        match m.absent with
        | some a => .ok a
        | none => .error (.missingMember m.name)
    let b ← rest.collect fields
    .ok (a, b)

/-- The values of the members from an array, and the items after the last one. -/
def collectItems (short : DecodeError) :
    {α : Type} → Members α → List Json → Except DecodeError (α × List Json)
  | _, .nil, items => .ok ((), items)
  | _, .cons m rest, v :: items => do
    let a ← m.read v
    let (b, left) ← rest.collectItems short items
    .ok ((a, b), left)
  | _, .cons m rest, [] =>
    match m.absent with
    | some a => do
      let (b, left) ← rest.collectItems short []
      .ok ((a, b), left)
    | none => .error short

def write : {α : Type} → Members α → α → List (String × Json)
  | _, .nil, _ => []
  | _, .cons m rest, (a, b) =>
    match m.write a with
    | some v => (m.name, v) :: rest.write b
    | none => rest.write b

end Members

namespace Codec

/-- A record type: its name, whether it is closed, its members, and how the tuple of their values
and the record's own type correspond. -/
def record {α β : Type} (name : String) (closed : Bool) (ms : Members α) (make : α → β)
    (parts : β → α) : Codec β where
  read
    | .obj fields => do
      ms.examineAll closed fields
      let a ← ms.collect fields
      .ok (make a)
    | .arr items => do
      let (a, left) ← ms.collectItems (.tooFewItems items.length name ms.names.length) items
      if left = [] then .ok (make a) else .error (.tooManyItems items.length)
    | v => .error (.wrongType v ("struct " ++ name))
  write b := .ofMembers (ms.write (parts b))

end Codec

end FileBridge
