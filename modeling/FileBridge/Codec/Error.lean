import FileBridge.Json.Basic
import FileBridge.Text.Quoted

/-!
Why a JSON value is not a value of a wire type, and how that is worded.
-/
namespace FileBridge

/-- Why a JSON value was not accepted. -/
inductive DecodeError where
  /-- The value has the wrong JSON type. -/
  | wrongType (found : Json) (wanted : String)
  /-- The integer does not fit. -/
  | outOfRange (found : Int) (wanted : String)
  /-- The number is none of the codes. -/
  | unknownCode (found : Nat) (codes : List Nat)
  /-- The text is none of the names. -/
  | unknownName (found : String) (names : List String)
  /-- A name was spelled as an object, but not one with a single member. -/
  | notSingleMember
  /-- A member that has to be there is not. -/
  | missingMember (name : String)
  /-- A member is there that the record does not have. -/
  | unknownMember (name : String) (known : List String)
  /-- The array ends before the record's required members do. -/
  | tooFewItems (given : Nat) (record : String) (size : Nat)
  /-- The array goes on after the record's last member. -/
  | tooManyItems (given : Nat)
  /-- The value is of none of the forms that the type has. -/
  | noForm (type : String)
  /-- The text is no address. -/
  | badAddress

namespace DecodeError

/-- A JSON value as a message names it: scalars with their value, arrays and objects by kind. -/
def describe : Json → String
  | .null => "null"
  | .bool true => "boolean `true`"
  | .bool false => "boolean `false`"
  | .num (.int n) => "integer `" ++ Text.signed n ++ "`"
  | .num (.real d) => "floating point `" ++ d.text ++ "`"
  | .str s => "string " ++ Text.quote s.toList
  | .arr _ => "sequence"
  | .obj _ => "map"

def oneOfCodes (codes : List Nat) : String :=
  match codes with
  | [a, b] => Text.decimal a ++ " or " ++ Text.decimal b
  | _ => "one of: " ++ ", ".intercalate (codes.map Text.decimal)

def oneOfNames (names : List String) : String :=
  let marked := names.map fun n => "`" ++ n ++ "`"
  match marked with
  | [a] => a
  | [a, b] => a ++ " or " ++ b
  | _ => "one of " ++ ", ".intercalate marked

def message : DecodeError → String
  | .wrongType found wanted => "invalid type: " ++ describe found ++ ", expected " ++ wanted
  | .outOfRange found wanted =>
    "invalid value: integer `" ++ Text.signed found ++ "`, expected " ++ wanted
  | .unknownCode found codes =>
    "invalid value: " ++ Text.decimal found ++ ", expected " ++ oneOfCodes codes
  | .unknownName found names =>
    "unknown variant `" ++ found ++ "`, expected " ++ oneOfNames names
  | .notSingleMember => "invalid value: map, expected map with a single key"
  | .missingMember name => "missing field `" ++ name ++ "`"
  | .unknownMember name known => "unknown field `" ++ name ++ "`, expected " ++ oneOfNames known
  | .tooFewItems given record size =>
    "invalid length " ++ Text.decimal given ++ ", expected struct " ++ record ++ " with " ++
      Text.decimal size ++ (if size = 1 then " element" else " elements")
  | .tooManyItems given =>
    "invalid length " ++ Text.decimal given ++ ", expected fewer elements in array"
  | .noForm type => "data did not match any variant of untagged enum " ++ type
  | .badAddress => "invalid IP address syntax"

end DecodeError

end FileBridge
