import FileBridge.Codec.Record
import FileBridge.Json.Printer

/-!
Messages of the remote procedure call protocol: requests, notifications and responses, and how
each is told from a JSON object and written as one.
-/
namespace FileBridge.Rpc

/-- What ties a response to its request. -/
inductive RequestId where
  | number (n : Int)
  | text (s : String)
deriving DecidableEq, Repr

namespace RequestId

def codec : Codec RequestId where
  read
    | .num (.int n) =>
      if minInt64 ≤ n ∧ n ≤ maxInt64 then .ok (.number n) else .error (.noForm "RequestId")
    | .str s => .ok (.text s)
    | _ => .error (.noForm "RequestId")
  write
    | .number n => .int n
    | .text s => .str s

def display : RequestId → String
  | .number n => Text.signed n
  | .text s => Text.quote s.toList

end RequestId

/-- Why a request failed, as its response says it. -/
structure Fault where
  code : Int
  message : String
  data : Option Json

namespace Fault

def parseErrorCode : Int := -32700

def invalidRequestCode : Int := -32600

def methodNotFoundCode : Int := -32601

def invalidParamsCode : Int := -32602

def internalErrorCode : Int := -32603

def parseError (message : String) : Fault :=
  ⟨parseErrorCode, message, none⟩

def invalidRequest (message : String) : Fault :=
  ⟨invalidRequestCode, message, none⟩

def methodNotFound (method : String) : Fault :=
  ⟨methodNotFoundCode, "method not found: " ++ method, none⟩

def invalidParams (message : String) : Fault :=
  ⟨invalidParamsCode, message, none⟩

def internalError (message : String) : Fault :=
  ⟨internalErrorCode, message, none⟩

def members : Members (Int × String × Option Json × Unit) :=
  .cons (.required "code" .int64) <| .cons (.required "message" .text) <|
    .cons (.optional "data" .json) .nil

def codec : Codec Fault :=
  .record "ResponseError" false members (fun (c, m, d, _) => ⟨c, m, d⟩)
    fun f => (f.code, f.message, f.data, ())

def display (f : Fault) : String :=
  f.message ++ " (code " ++ Text.signed f.code ++ ")"

end Fault

inductive Message where
  /-- Asks for an answer. -/
  | request (id : RequestId) (method : String) (params : Json)
  /-- Tells, and wants no answer. -/
  | notification (method : String) (params : Json)
  /-- Answers the request with that identifier, or says that something without one failed. -/
  | response (id : Option RequestId) (outcome : Except Fault Json)

inductive MessageError where
  | notObject
  | badId
  | badMethod
  | badFault (cause : DecodeError)
  | missingId
  | noContent

def MessageError.message : MessageError → String
  | .notObject => "expected a JSON object"
  | .badId => "id must be a number or a string"
  | .badMethod => "method must be a string"
  | .badFault cause => "malformed error object: " ++ cause.message
  | .missingId => "response is missing 'id'"
  | .noContent => "message has neither 'method', 'result' nor 'error'"

/-- A value that is not a message, with its identifier if that could be read. -/
structure Misfit where
  cause : MessageError
  id : Option RequestId

namespace Message

/-- The identifier in an object: absent, null, or one that can be read. -/
def readId (members : List (String × Json)) : Except Misfit (Option RequestId) :=
  match Fields.get? "id" members with
  | none => .ok none
  | some .null => .ok none
  | some v =>
    match RequestId.codec.read v with
    | .ok id => .ok (some id)
    | .error _ => .error ⟨.badId, none⟩

/-- Tells what an object with a given identifier is. A method makes it a request or a
notification, and an error goes before a result. -/
def classify (id : Option RequestId) (members : List (String × Json)) : Except Misfit Message :=
  match Fields.get? "method" members with
  | some (.str method) =>
    let params := (Fields.get? "params" members).getD .null
    match id with
    | some id => .ok (.request id method params)
    | none => .ok (.notification method params)
  | some _ => .error ⟨.badMethod, id⟩
  | none =>
    match Fields.get? "error" members with
    | some v =>
      match Fault.codec.read v with
      | .ok fault => .ok (.response id (.error fault))
      | .error cause => .error ⟨.badFault cause, id⟩
    | none =>
      match id, Fields.get? "result" members with
      | some id, some result => .ok (.response (some id) (.ok result))
      | none, some _ => .error ⟨.missingId, none⟩
      | id, none => .error ⟨.noContent, id⟩

def ofJson (v : Json) : Except Misfit Message :=
  match v with
  | .obj members => do
    let id ← readId members
    classify id members
  | _ => .error ⟨.notObject, none⟩

/-- The parameters as a member; null ones are left out. -/
def paramsMember (params : Json) : List (String × Json) :=
  if params.isNull then [] else [("params", params)]

def members : Message → List (String × Json)
  | .request id method params =>
    ("id", RequestId.codec.write id) :: ("method", .str method) :: paramsMember params
  | .notification method params => ("method", .str method) :: paramsMember params
  | .response id outcome =>
    let id := match id with
      | some id => RequestId.codec.write id
      | none => .null
    match outcome with
    | .ok result => [("id", id), ("result", result)]
    | .error fault => [("id", id), ("error", Fault.codec.write fault)]

def toJson (m : Message) : Json :=
  .ofMembers (("jsonrpc", .str "2.0") :: m.members)

def method? : Message → Option String
  | .request _ method _ => some method
  | .notification method _ => some method
  | .response .. => none

end Message

end FileBridge.Rpc
