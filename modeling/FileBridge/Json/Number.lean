import FileBridge.Number.Shortest
import FileBridge.Number.Width

/-!
Numbers of a JSON text. A literal without fraction and exponent is an integer if it fits in 64
bits, signed or unsigned, and is not minus zero; every other literal is a floating-point number.
-/
namespace FileBridge

inductive Number where
  /-- An integer from `-2 ^ 63` to `2 ^ 64 - 1`. -/
  | int (n : Int)
  /-- A floating-point number. -/
  | real (d : Double)
deriving DecidableEq, Repr

namespace Number

/-- Appends digits to a significand as long as it fits in 64 bits. The second part is what
was not taken. -/
def takeDigits (significand : Nat) : List Char → Nat × List Char
  | [] => (significand, [])
  | d :: ds =>
    let next := 10 * significand + Text.digitValue d
    if next < natBound64 then takeDigits next ds else (significand, d :: ds)

/-- The floating-point number of a literal: the digits that fit in the significand, rounded, then
scaled by the power of ten. Digits of the integral part that do not fit count in the power. -/
def realOf? (negative : Bool) (whole fraction : List Char) (exponent : Int) : Option Double := do
  let (s, skipped) := takeDigits 0 whole
  let (s, ignored) := takeDigits s fraction
  let taken := fraction.length - ignored.length
  (← Double.ofQuotient? negative s 1).scaleTen? (exponent + skipped.length - taken)

structure Literal where
  negative : Bool
  whole : List Char
  fraction : Option (List Char)
  exponent : Option Int

def splitDigits (s : List Char) : List Char × List Char :=
  (s.takeWhile Char.isDigit, s.dropWhile Char.isDigit)

def readFraction? (s : List Char) : Option (Option (List Char) × List Char) :=
  match s with
  | '.' :: r =>
    let (ds, r) := splitDigits r
    if ds = [] then none else some (some ds, r)
  | _ => some (none, s)

def readPower? (s : List Char) : Option (Int × List Char) :=
  let (negative, s) := match s with
    | '-' :: r => (true, r)
    | '+' :: r => (false, r)
    | _ => (false, s)
  let (ds, r) := splitDigits s
  if ds = [] then none
  else
    let n : Int := Text.valueOf ds
    some (if negative then -n else n, r)

def readExponent? (s : List Char) : Option (Option Int × List Char) :=
  match s with
  | 'e' :: r => (readPower? r).map fun (n, r) => (some n, r)
  | 'E' :: r => (readPower? r).map fun (n, r) => (some n, r)
  | _ => some (none, s)

/-- Reads a literal: no plus sign, no leading zeros, digits on both sides of a point. -/
def readLiteral? (s : List Char) : Option Literal := do
  let (negative, s) := match s with
    | '-' :: r => (true, r)
    | _ => (false, s)
  let (whole, s) := splitDigits s
  if whole = [] ∨ (whole.head? = some '0' ∧ whole.length ≠ 1) then none
  else
    let (fraction, s) ← readFraction? s
    let (exponent, s) ← readExponent? s
    if s = [] then some ⟨negative, whole, fraction, exponent⟩ else none

def ofLiteral? (l : Literal) : Option Number :=
  let real := (realOf? l.negative l.whole (l.fraction.getD []) (l.exponent.getD 0)).map Number.real
  if l.fraction.isSome ∨ l.exponent.isSome then real
  else
    let n := Text.valueOf l.whole
    if l.negative then if 0 < n ∧ minInt64 ≤ -(n : Int) then some (.int (-n)) else real
    else if n < natBound64 then some (.int n)
    else real

def read? (s : List Char) : Option Number :=
  (readLiteral? s).bind ofLiteral?

def text : Number → String
  | .int n => Text.signed n
  | .real d => d.text

end Number

end FileBridge
