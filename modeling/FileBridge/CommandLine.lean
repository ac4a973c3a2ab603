import FileBridge.Config.File
import FileBridge.Text.Blank

/-!
The command line. Arguments are read from left to right. A value that stands apart from its flag is
looked at when the next flag is known, or at the end.
-/
namespace FileBridge

structure Arguments where
  config : Option String
  bind : Option Net.Address
  port : Option Nat
  guardSchemes : List String
  backend : Option Backend
  root : Option String
  detailedErrors : Bool
deriving DecidableEq, Repr

/-- Why the bridge is not started with these arguments. -/
inductive UsageError where
  | unknownArgument
  /-- A value is missing, empty, or not among those that there are. -/
  | invalidValue
  /-- A value is not of the right form. -/
  | malformedValue (detail : String)
  /-- A flag is given twice. -/
  | repeated
  /-- A flag that takes no value has one. -/
  | tooManyValues
  | help
  | version
deriving DecidableEq, Repr

/-- The wording of the cause. Help and the version are texts of their own. -/
def UsageError.message : UsageError → String
  | .unknownArgument => "unexpected argument"
  | .invalidValue => "invalid value"
  | .malformedValue detail => "invalid value: " ++ detail
  | .repeated => "the argument cannot be used multiple times"
  | .tooManyValues => "unexpected value"
  | .help => ""
  | .version => ""

/-- What the process ends with: help and the version are no failures. -/
def UsageError.exitCode : UsageError → Nat
  | .help => 0
  | .version => 0
  | _ => 2

inductive ValueFlag where
  | config
  | bind
  | port
  | guardScheme
  | backend
  | root
deriving DecidableEq, Repr

inductive Flag where
  | valued (f : ValueFlag)
  | detailedErrors
  | help
  | version
deriving DecidableEq, Repr

namespace Flag

def ofName? (name : String) : Option Flag :=
  match name with
  | "config" => some (.valued .config)
  | "bind" => some (.valued .bind)
  | "port" => some (.valued .port)
  | "guard-scheme" => some (.valued .guardScheme)
  | "backend" => some (.valued .backend)
  | "root" => some (.valued .root)
  | "detailed-errors" => some .detailedErrors
  | "help" => some .help
  | "version" => some .version
  | _ => none

def ofLetter? (letter : Char) : Option Flag :=
  match letter with
  | 'c' => some (.valued .config)
  | 'p' => some (.valued .port)
  | 'h' => some .help
  | 'V' => some .version
  | _ => none

end Flag

/-- Reads digits up to a limit; the first fault decides. -/
def digitsUpTo (limit : Nat) (tooFar : String) (n : Nat) : List Char → Except String Nat
  | [] => .ok n
  | c :: s =>
    if !c.isDigit then .error "invalid digit found in string"
    else
      let n := 10 * n + Text.digitValue c
      if limit < n then .error tooFar else digitsUpTo limit tooFar n s

def integer64 (s : List Char) : Except String Int :=
  let tooLarge := "number too large to fit in target type"
  let tooSmall := "number too small to fit in target type"
  match s with
  | [] => .error "cannot parse integer from empty string"
  | ['+'] => .error "invalid digit found in string"
  | ['-'] => .error "invalid digit found in string"
  | '+' :: s => (digitsUpTo maxInt64.toNat tooLarge 0 s).map Int.ofNat
  | '-' :: s => (digitsUpTo minInt64.natAbs tooSmall 0 s).map fun n => -(n : Int)
  | s => (digitsUpTo maxInt64.toNat tooLarge 0 s).map Int.ofNat

def readPort (s : String) : Except UsageError Nat :=
  match integer64 s.toList with
  | .error detail => .error (.malformedValue detail)
  | .ok n =>
    if 0 ≤ n ∧ n ≤ 65535 then .ok n.toNat
    else .error (.malformedValue (Text.signed n ++ " is not in 0..=65535"))

def readPath (s : String) : Except UsageError String :=
  if s = "" then .error .invalidValue else .ok s

def readScheme (s : String) : Except UsageError String :=
  let scheme := String.ofList (Text.trim s.toList)
  if Uri.isValidScheme scheme then .ok scheme
  else .error (.malformedValue ("'" ++ scheme ++ "' is not a valid URI scheme"))

def readAddress (s : String) : Except UsageError Net.Address :=
  match Net.Address.read? s.toList with
  | some a => .ok a
  | none => .error (.malformedValue "invalid IP address syntax")

def readBackend (s : String) : Except UsageError Backend :=
  match Backend.all.find? fun b => b.name = s with
  | some b => .ok b
  | none => .error .invalidValue

namespace Arguments

def empty : Arguments :=
  ⟨none, none, none, [], none, none, false⟩

def once {α : Type} (old : Option α) (value : Except UsageError α) : Except UsageError (Option α) :=
  if old.isSome then .error .repeated else value.map some

/-- Takes the value of a flag. Only guarded schemes may be given more than once. -/
def take (a : Arguments) (f : ValueFlag) (value : String) : Except UsageError Arguments :=
  match f with
  | .config => (once a.config (readPath value)).map fun v => { a with config := v }
  | .bind => (once a.bind (readAddress value)).map fun v => { a with bind := v }
  | .port => (once a.port (readPort value)).map fun v => { a with port := v }
  | .guardScheme =>
    (readScheme value).map fun v => { a with guardSchemes := a.guardSchemes ++ [v] }
  | .backend => (once a.backend (readBackend value)).map fun v => { a with backend := v }
  | .root => (once a.root (readPath value)).map fun v => { a with root := v }

def apply (a : Arguments) (c : Config) : Config where
  bindAddress := a.bind.getD c.bindAddress
  port := a.port.getD c.port
  guardedSchemes := if a.guardSchemes = [] then c.guardedSchemes else a.guardSchemes
  backend := a.backend.getD c.backend
  root := a.root.or c.root
  errorCodes := if a.detailedErrors then .detailed else c.errorCodes
  maxMessageSize := c.maxMessageSize

/-- The settings to start with: those of the file that is named, if one is, with those of the
command line in their place. -/
def settings (a : Arguments) (content : String → Except String (List UInt8)) :
    Except BridgeError Config := do
  let c ←
    match a.config with
    | some file => Config.load file (content file)
    | none => .ok Config.default
  (a.apply c).checked

end Arguments

/-- The arguments so far, a flag whose value has not been looked at, and whether only values may
follow. -/
structure CommandLine where
  arguments : Arguments
  pending : Option (ValueFlag × Option String)
  escaped : Bool

namespace CommandLine

def resolve (l : CommandLine) : Except UsageError Arguments :=
  match l.pending with
  | none => .ok l.arguments
  | some (_, none) => .error .invalidValue
  | some (f, some value) => l.arguments.take f value

def readFlag (l : CommandLine) (flag : Flag) (attached : Option String) :
    Except UsageError CommandLine :=
  match flag, attached with
  | .valued f, some value => do
    let a ← (← l.resolve).take f value
    .ok ⟨a, none, l.escaped⟩
  | .valued f, none => do
    let a ← l.resolve
    .ok ⟨a, some (f, none), l.escaped⟩
  | _, some _ => .error .tooManyValues
  | .detailedErrors, none => do
    let a ← l.resolve
    if a.detailedErrors then .error .repeated
    else .ok ⟨{ a with detailedErrors := true }, none, l.escaped⟩
  | .help, none => do
    let _ ← l.resolve
    .error .help
  | .version, none => do
    let _ ← l.resolve
    .error .version

def readLong (l : CommandLine) (s : List Char) : Except UsageError CommandLine :=
  let (name, attached) :=
    match Text.cutFirst? '=' s with
    | some (name, value) => (name, some (String.ofList value))
    | none => (s, none)
  match Flag.ofName? (String.ofList name) with
  | some flag => l.readFlag flag attached
  | none => .error .unknownArgument

/-- Reads a flag by its letter. A value may follow at once, also after an equals sign. -/
def readLetter (l : CommandLine) (letter : Char) (s : List Char) : Except UsageError CommandLine :=
  match Flag.ofLetter? letter with
  | none => .error .unknownArgument
  | some (.valued f) =>
    let attached :=
      match s with
      | [] => none
      | '=' :: value => some (String.ofList value)
      | value => some (String.ofList value)
    l.readFlag (.valued f) attached
  | some flag => l.readFlag flag none

def readPlain (l : CommandLine) (s : List Char) : Except UsageError CommandLine :=
  match l.pending with
  | some (f, none) => .ok { l with pending := some (f, some (String.ofList s)) }
  | _ => .error .unknownArgument

def step (l : CommandLine) (argument : String) : Except UsageError CommandLine :=
  if l.escaped then .error .unknownArgument
  else
    match argument.toList with
    | ['-', '-'] => .ok { l with escaped := true }
    | '-' :: '-' :: s => l.readLong s
    | '-' :: letter :: s => l.readLetter letter s
    | s => l.readPlain s

def parse (arguments : List String) : Except UsageError Arguments := do
  (← arguments.foldlM step ⟨.empty, none, false⟩).resolve

end CommandLine

end FileBridge
