import FileBridge.Json.Token

/-!
The compact text of a JSON value: its units in order, without white space.
-/
namespace FileBridge.Json

mutual

def units : Json → List Token
  | .null => [.null]
  | .bool b => [.bool b]
  | .num n => [.num n]
  | .str s => [.str s]
  | .arr items => .openArray :: itemUnits items
  | .obj members => .openObject :: memberUnits members

/-- The units of an array after its opening bracket. -/
def itemUnits : List Json → List Token
  | [] => [.closeArray]
  | v :: vs => units v ++ moreItemUnits vs

def moreItemUnits : List Json → List Token
  | [] => [.closeArray]
  | v :: vs => .comma :: units v ++ moreItemUnits vs

/-- The units of an object after its opening brace. -/
def memberUnits : List (String × Json) → List Token
  | [] => [.closeObject]
  | (name, v) :: ms => .str name :: .colon :: units v ++ moreMemberUnits ms

def moreMemberUnits : List (String × Json) → List Token
  | [] => [.closeObject]
  | (name, v) :: ms => .comma :: .str name :: .colon :: units v ++ moreMemberUnits ms

end

def text (v : Json) : String :=
  String.ofList ((units v).flatMap Token.text)

end FileBridge.Json
