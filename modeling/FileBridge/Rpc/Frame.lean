import FileBridge.Json.Parser
import FileBridge.Rpc.Message
import FileBridge.Text.Blank

/-!
Messages in a stream of bytes. A frame is a block of header lines, one of which gives the length
of the body, then a blank line, then the body.

Reading takes the bytes received so far and whether the stream has ended. It asks for more bytes
where the stream has not ended and the answer depends on what follows. A body that cannot be used
is passed over; any other fault leaves the stream unreadable.
-/
namespace FileBridge.Rpc

/-- The greatest length of a header line, its line end included. -/
def headerLineLimit : Nat := 8192

/-- The greatest length of a body, unless another one is set. -/
def defaultBodyLimit : Nat := 67108864

inductive HeaderError where
  | lineTooLong
  | noColon (line : List Char)
  | badLength (value : List Char)
  | noLength

def HeaderError.message : HeaderError → String
  | .lineTooLong => "header line longer than " ++ Text.decimal headerLineLimit ++ " bytes"
  | .noColon line => "malformed header line: " ++ Text.quote line
  | .badLength value => "invalid Content-Length: " ++ String.ofList value
  | .noLength => "missing Content-Length header"

inductive ReadError where
  /-- A header line is not UTF-8. -/
  | notText (line : List UInt8)
  | badHeader (cause : HeaderError)
  | tooLarge (length limit : Nat)
  /-- The stream ended inside a frame. -/
  | truncated
  /-- The body is not JSON. -/
  | notJson
  /-- The body is JSON but not a message. -/
  | notMessage (misfit : Misfit)

namespace ReadError

/-- Reading can go on after the frame: the fault is in its body. -/
def isRecoverable : ReadError → Bool
  | .notJson => true
  | .notMessage _ => true
  | _ => false

/-- The wording of the cause. What is wrong with JSON text is not told apart. -/
def message : ReadError → String
  | .notText line =>
    "I/O error: " ++ ((Text.utf8Fault? 0 line).getD ⟨0, none⟩).message
  | .badHeader cause => "invalid header: " ++ cause.message
  | .tooLarge length limit =>
    "message of " ++ Text.decimal length ++ " bytes exceeds limit of " ++ Text.decimal limit ++
      " bytes"
  | .truncated => "connection closed mid-frame"
  | .notJson => "JSON error: <json>"
  | .notMessage misfit => "invalid message: " ++ misfit.cause.message

end ReadError

/-- Takes at most `n` bytes, up to and including the first line feed. -/
def takeLine : Nat → List UInt8 → List UInt8 × List UInt8
  | 0, input => ([], input)
  | _ + 1, [] => ([], [])
  | n + 1, b :: input =>
    if b = 10 then ([b], input)
    else
      let (line, rest) := takeLine n input
      (b :: line, rest)

theorem takeLine_append (n : Nat) (input : List UInt8) :
    (takeLine n input).1 ++ (takeLine n input).2 = input := by
  fun_induction takeLine n input with
  | case1 => rfl
  | case2 => rfl
  | case3 => rfl
  | case4 n b input h line rest hline ih => simpa [hline] using ih

/-- The line at the front of the input, one byte past the limit at most. -/
def firstLine (input : List UInt8) : List UInt8 :=
  (takeLine (headerLineLimit + 1) input).1

def afterLine (input : List UInt8) : List UInt8 :=
  (takeLine (headerLineLimit + 1) input).2

theorem afterLine_lt {input : List UInt8} (h : firstLine input ≠ []) :
    (afterLine input).length < input.length := by
  have happend : firstLine input ++ afterLine input = input := takeLine_append _ input
  have hlength := congrArg List.length happend
  have := List.length_pos_iff.mpr h
  simp only [List.length_append] at hlength
  omega

/-- The input ran out before the line's end or its greatest length. -/
def isOpenLine (line : List UInt8) : Bool :=
  line.length ≤ headerLineLimit && line.getLast? != some 10

def isBlankLine (line : List Char) : Bool :=
  line = ['\r', '\n'] || line = ['\n']

/-- A length: an optional plus sign and digits, below `2 ^ 64`. -/
def readLength? (value : List Char) : Option Nat :=
  let ds := match value with
    | '+' :: r => r
    | _ => value
  match Text.natural? ds with
  | some n => if n < natBound64 then some n else none
  | none => none

def lengthHeader : List Char := "content-length".toList

/-- Reads a header line: the length if that is what the line gives, nothing for other names. -/
def readHeader (line : List Char) : Except HeaderError (Option Nat) :=
  match line.span (· ≠ ':') with
  | (_, []) => .error (.noColon (Text.trimEnd line))
  | (name, _ :: value) =>
    if (Text.trim name).map Char.toLower = lengthHeader then
      let value := Text.trim value
      match readLength? value with
      | some n => .ok (some n)
      | none => .error (.badLength value)
    else .ok none

/-- What the header lines at the front of the input say. -/
inductive Head where
  /-- A body of this length comes next. -/
  | length (n : Nat) (rest : List UInt8)
  /-- The stream has ended between frames. -/
  | finished
  | failed (cause : ReadError)
  /-- More bytes are needed. -/
  | starved

/-- Reads header lines up to the blank line after them. Blank lines before the first header are
passed over, and the last length given counts. -/
def readHead (ended seen : Bool) (length : Option Nat) (input : List UInt8) : Head :=
  if isOpenLine (firstLine input) && !ended then .starved
  else if _ : firstLine input = [] then if seen then .failed .truncated else .finished
  else
    match Text.ofBytes? (firstLine input) with
    | none => .failed (.notText (firstLine input))
    | some text =>
      if headerLineLimit < (firstLine input).length then .failed (.badHeader .lineTooLong)
      else if isBlankLine text.toList then
        if seen then
          match length with
          | some n => .length n (afterLine input)
          | none => .failed (.badHeader .noLength)
        else readHead ended seen length (afterLine input)
      else
        match readHeader text.toList with
        | .error cause => .failed (.badHeader cause)
        | .ok (some n) => readHead ended true (some n) (afterLine input)
        | .ok none => readHead ended true length (afterLine input)
termination_by input.length
decreasing_by all_goals exact afterLine_lt (by assumption)

theorem readHead_rest_lt {ended seen : Bool} {length : Option Nat} {input rest : List UInt8}
    {n : Nat} (h : readHead ended seen length input = .length n rest) :
    rest.length < input.length := by
  fun_induction readHead ended seen length input <;>
    grind [afterLine_lt]

inductive Reading where
  | message (m : Message) (rest : List UInt8)
  /-- A frame whose body cannot be used. -/
  | unusable (cause : ReadError) (rest : List UInt8)
  | finished
  | failed (cause : ReadError)
  | starved

def Reading.rest? : Reading → Option (List UInt8)
  | .message _ rest => some rest
  | .unusable _ rest => some rest
  | _ => none

def decode (body : List UInt8) : Except ReadError Message :=
  match Json.parseBytes? body with
  | none => .error .notJson
  | some v =>
    match Message.ofJson v with
    | .ok m => .ok m
    | .error misfit => .error (.notMessage misfit)

def read (limit : Nat) (ended : Bool) (input : List UInt8) : Reading :=
  match readHead ended false none input with
  | .finished => .finished
  | .failed cause => .failed cause
  | .starved => .starved
  | .length n rest =>
    if limit < n then .failed (.tooLarge n limit)
    else if rest.length < n then if ended then .failed .truncated else .starved
    else
      match decode (rest.take n) with
      | .ok m => .message m (rest.drop n)
      | .error cause => .unusable cause (rest.drop n)

theorem read_rest_lt {limit : Nat} {ended : Bool} {input rest : List UInt8} {r : Reading}
    (h : read limit ended input = r) (hrest : r.rest? = some rest) :
    rest.length < input.length := by
  subst h
  unfold read at hrest
  split at hrest <;> try cases hrest
  next n behind hhead =>
    have hbehind := readHead_rest_lt hhead
    have hdrop := List.length_drop (i := n) (l := behind)
    split at hrest
    · cases hrest
    · split at hrest
      · split at hrest <;> cases hrest
      · split at hrest <;> cases hrest <;> omega

inductive Arrival where
  | message (m : Message)
  | unusable (cause : ReadError)

inductive Stop where
  /-- More bytes are needed after these. -/
  | starved (unread : List UInt8)
  | finished
  | failed (cause : ReadError)

/-- Reads frames until the stream ends, fails or needs more bytes. -/
def readFrames (limit : Nat) (ended : Bool) (input : List UInt8) : List Arrival × Stop :=
  match _ : read limit ended input with
  | .message m rest =>
    let (later, stop) := readFrames limit ended rest
    (.message m :: later, stop)
  | .unusable cause rest =>
    let (later, stop) := readFrames limit ended rest
    (.unusable cause :: later, stop)
  | .finished => ([], .finished)
  | .failed cause => ([], .failed cause)
  | .starved => ([], .starved input)
termination_by input.length
decreasing_by
  all_goals exact read_rest_lt (by assumption) rfl

def frame (body : List UInt8) : List UInt8 :=
  Text.bytes ("Content-Length: " ++ Text.decimal body.length ++ "\r\n\r\n") ++ body

def Message.body (m : Message) : List UInt8 :=
  Text.bytes m.toJson.text

def Message.encode (m : Message) : List UInt8 :=
  frame m.body

end FileBridge.Rpc
