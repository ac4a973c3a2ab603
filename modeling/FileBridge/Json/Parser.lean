import FileBridge.Json.Token
import FileBridge.Text.Utf8

/-!
JSON values from text. The units of the text are put together one by one on a stack of the arrays
and objects that are still open; at most `depthLimit` of them may be open at once.
-/
namespace FileBridge.Json

def depthLimit : Nat := 127

/-- An array or object around the value that is being read. -/
inductive Open where
  /-- The items so far, last first. -/
  | array (items : List Json)
  /-- The members so far, and the name whose value comes next. -/
  | object (members : List (String × Json)) (name : String)

/-- What the unit that comes next must be, and the innermost open array or object if no value of
it is being read. -/
inductive Phase where
  /-- A value. -/
  | value
  /-- A value, or the end of an array that has just been opened. -/
  | firstItem
  /-- A member's name. -/
  | name (members : List (String × Json))
  /-- A member's name, or the end of an object that has just been opened. -/
  | firstName
  /-- The colon after a name. -/
  | colon (members : List (String × Json)) (name : String)
  /-- A comma, or the end of the innermost open array. -/
  | nextItem (items : List Json)
  /-- A comma, or the end of the innermost open object. -/
  | nextMember (members : List (String × Json))
  /-- Nothing: the text holds this value. -/
  | done (v : Json)

structure Builder where
  stack : List Open
  phase : Phase

namespace Builder

def start : Builder :=
  ⟨[], .value⟩

/-- Puts a finished value where it belongs. -/
def complete (stack : List Open) (v : Json) : Builder :=
  match stack with
  | [] => ⟨[], .done v⟩
  | .array items :: rest => ⟨rest, .nextItem (v :: items)⟩
  | .object members name :: rest => ⟨rest, .nextMember (Fields.insert name v members)⟩

def beginValue (stack : List Open) (t : Token) : Option Builder :=
  match t with
  | .null => some (complete stack .null)
  | .bool b => some (complete stack (.bool b))
  | .num n => some (complete stack (.num n))
  | .str s => some (complete stack (.str s))
  | .openArray =>
    if stack.length < depthLimit then some ⟨stack, .firstItem⟩ else none
  | .openObject =>
    if stack.length < depthLimit then some ⟨stack, .firstName⟩ else none
  | _ => none

def step (b : Builder) (t : Token) : Option Builder :=
  match b.phase with
  | .value => beginValue b.stack t
  | .firstItem =>
    match t with
    | .closeArray => some (complete b.stack (.arr []))
    | t => beginValue (.array [] :: b.stack) t
  | .name members =>
    match t with
    | .str s => some ⟨b.stack, .colon members s⟩
    | _ => none
  | .firstName =>
    match t with
    | .str s => some ⟨b.stack, .colon [] s⟩
    | .closeObject => some (complete b.stack (.obj []))
    | _ => none
  | .colon members name =>
    match t with
    | .colon => some ⟨.object members name :: b.stack, .value⟩
    | _ => none
  | .nextItem items =>
    match t with
    | .comma => some ⟨.array items :: b.stack, .value⟩
    | .closeArray => some (complete b.stack (.arr items.reverse))
    | _ => none
  | .nextMember members =>
    match t with
    | .comma => some ⟨b.stack, .name members⟩
    | .closeObject => some (complete b.stack (.obj members))
    | _ => none
  | .done _ => none

def result? (b : Builder) : Option Json :=
  match b.phase with
  | .done v => some v
  | _ => none

end Builder

def ofTokens? (ts : List Token) : Option Json :=
  (ts.foldlM Builder.step Builder.start).bind Builder.result?

def parse? (s : List Char) : Option Json :=
  (tokens? s).bind ofTokens?

def parseBytes? (b : List UInt8) : Option Json :=
  (Text.ofBytes? b).bind fun s => parse? s.toList

end FileBridge.Json
