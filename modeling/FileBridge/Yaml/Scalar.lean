import FileBridge.Text.Decimal
import FileBridge.Text.Hex
import FileBridge.Yaml.Tag

/-!
Scalars of a YAML text, and what a plain one may stand for besides text: nothing, a truth value, an
integer, or a floating-point number.
-/
namespace FileBridge.Yaml

inductive Style where
  | plain
  | single
  | double
  | literal
  | folded
deriving DecidableEq, Repr

structure Scalar where
  text : String
  style : Style
  tag : Option Tag
deriving DecidableEq, Repr

def Scalar.absent : Scalar :=
  ⟨"", .plain, none⟩

def nullWords : List String :=
  ["~", "null", "Null", "NULL"]

def flagWords : List String :=
  ["true", "True", "TRUE", "false", "False", "FALSE"]

def isNull (s : String) : Bool :=
  s = "" || nullWords.contains s

def dropSign : List Char → List Char
  | '-' :: s => s
  | '+' :: s => s
  | s => s

/-- Digits with a superfluous zero in front, which are no number. -/
def isPadded (s : List Char) : Bool :=
  match dropSign s with
  | '0' :: d :: ds => (d :: ds).all Char.isDigit
  | _ => false

def radixValue? (radix : Nat) (s : List Char) : Option Nat :=
  if s = [] then none
  else
    s.foldlM (fun n c => do
      let d ← Text.hexValue? c
      if d < radix then some (radix * n + d) else none) 0

/-- The number that digits denote, in the radix that their start tells. -/
def magnitude? : List Char → Option Nat
  | '0' :: 'x' :: s => radixValue? 16 s
  | '0' :: 'o' :: s => radixValue? 8 s
  | '0' :: 'b' :: s => radixValue? 2 s
  | s => if isPadded s then none else Text.natural? s

def natural? : List Char → Option Nat
  | '+' :: s => magnitude? s
  | s => magnitude? s

def isInteger (s : List Char) : Bool :=
  (natural? s).any (· < Nat.pow 2 128) ||
    match s with
    | '-' :: s => (magnitude? s).any (· ≤ Nat.pow 2 127)
    | _ => false

/-- Whether `mantissa * 10 ^ exponent` rounds to a finite number of double precision. -/
def isFinite (mantissa : Nat) (exponent : Int) : Bool :=
  let top : Int := (Text.digits mantissa).length + exponent
  if mantissa = 0 || top ≤ 308 then true
  else if 309 < top then false
  else
    mantissa * Nat.pow 10 exponent.toNat <
      (Nat.pow 2 54 - 1) * Nat.pow 2 970 * Nat.pow 10 (-exponent).toNat

def exponent? : List Char → Option Int
  | [] => some 0
  | c :: s =>
    if c = 'e' || c = 'E' then
      match s with
      | '-' :: s => (Text.natural? s).map fun n => -(n : Int)
      | '+' :: s => (Text.natural? s).map Int.ofNat
      | s => (Text.natural? s).map Int.ofNat
    else none

def isDecimal (s : List Char) : Bool :=
  let (whole, rest) := s.span Char.isDigit
  let (fraction, rest) :=
    match rest with
    | '.' :: rest => rest.span Char.isDigit
    | rest => ([], rest)
  if whole = [] && fraction = [] then false
  else
    (exponent? rest).any fun e => isFinite (Text.valueOf (whole ++ fraction)) (e - fraction.length)

/-- The words for numbers that are not finite; the first three may have a sign. -/
def infinityWords : List String :=
  [".inf", ".Inf", ".INF"]

def nanWords : List String :=
  [".nan", ".NaN", ".NAN"]

def isFloat (s : List Char) : Bool :=
  infinityWords.contains (String.ofList (dropSign s)) || nanWords.contains (String.ofList s) ||
    isDecimal (dropSign s)

/-- A text that a plain scalar would not be taken for something else with. -/
def isTextOnly (s : String) : Bool :=
  !(isNull s || flagWords.contains s || isPadded s.toList || isInteger s.toList ||
    isFloat s.toList)

end FileBridge.Yaml
