import FileBridge.OrderedMap
import FileBridge.Json.Number

/-!
JSON values. The members of an object are listed in ascending order of their names, each name
once; objects built here and by the parser keep to that.
-/
namespace FileBridge

inductive Json where
  | null
  | bool (b : Bool)
  | num (n : Number)
  | str (s : String)
  | arr (items : List Json)
  | obj (members : List (String × Json))
deriving Inhabited

namespace Json

def nat (n : Nat) : Json :=
  .num (.int n)

def int (n : Int) : Json :=
  .num (.int n)

/-- The object with the given members; of members with one name the last counts. -/
def ofMembers (members : List (String × Json)) : Json :=
  .obj (members.foldl (fun l m => Fields.insert m.1 m.2 l) [])

def member? (v : Json) (name : String) : Option Json :=
  match v with
  | .obj members => Fields.get? name members
  | _ => none

def isNull : Json → Bool
  | .null => true
  | _ => false

end Json

end FileBridge
