/-!
Binary floating-point numbers with 53 significant bits, held as a sign, a significand and a power
of two, and rounded from exact quotients: to nearest, a half going to the even significand.
-/
namespace FileBridge

/-- The finite number `± significand * 2 ^ exponent`. The significand is below `2 ^ 53`, and at
least `2 ^ 52` unless the exponent is the least one. -/
structure Double where
  negative : Bool
  significand : Nat
  exponent : Int
deriving DecidableEq, Repr

namespace Double

/-- The least exponent, which zero and the numbers near it have. -/
def minExponent : Int := -1074

def maxExponent : Int := 971

/-- The least significand of a number whose exponent is not the least one. -/
def leastNormal : Nat := 4503599627370496

def zero (negative : Bool) : Double :=
  ⟨negative, 0, minExponent⟩

def isZero (d : Double) : Bool :=
  d.significand == 0

/-- `num / den * 2 ^ (-e)` as a numerator and a denominator. -/
def scaled (num den : Nat) (e : Int) : Nat × Nat :=
  if e < 0 then (num * Nat.pow 2 (-e).toNat, den) else (num, den * Nat.pow 2 e.toNat)

def nearest (num den : Nat) : Nat :=
  let q := num / den
  let r := num % den
  if 2 * r < den then q
  else if den < 2 * r then q + 1
  else if q % 2 = 0 then q
  else q + 1

/-- The exponent at which the quotient's integral part has 53 bits, or the least exponent. -/
def exponentOf (num den : Nat) : Int :=
  let guess : Int := (Nat.log2 num : Int) - Nat.log2 den - 53
  let (n, d) := scaled num den guess
  let e := if n / d < 2 * leastNormal then guess else guess + 1
  max e minExponent

def ofQuotient? (negative : Bool) (num den : Nat) : Option Double :=
  if num = 0 then some (zero negative)
  else
    let e := exponentOf num den
    let (n, d) := scaled num den e
    let m := nearest n d
    let (m, e) := if m = 2 * leastNormal then (leastNormal, e + 1) else (m, e)
    if maxExponent < e then none else some ⟨negative, m, e⟩

def quotient (d : Double) : Nat × Nat :=
  if d.exponent < 0 then (d.significand, Nat.pow 2 (-d.exponent).toNat)
  else (d.significand * Nat.pow 2 d.exponent.toNat, 1)

def mul? (a b : Double) : Option Double :=
  let (na, da) := a.quotient
  let (nb, db) := b.quotient
  ofQuotient? (a.negative != b.negative) (na * nb) (da * db)

/-- The number nearest to the quotient, unless it is too large. The divisor is not zero. -/
def div? (a b : Double) : Option Double :=
  let (na, da) := a.quotient
  let (nb, db) := b.quotient
  ofQuotient? (a.negative != b.negative) (na * db) (da * nb)

def tenPow? (n : Nat) : Option Double :=
  ofQuotient? false (Nat.pow 10 n) 1

def tenPowLimit : Nat := 308

/-- A number times a power of ten: one multiplication, or divisions that each take at most
`10 ^ 308` off. It fails where the result is too large. -/
def scaleTen? (d : Double) (e : Int) : Option Double :=
  if e.natAbs ≤ tenPowLimit then do
    let p ← tenPow? e.natAbs
    if e < 0 then d.div? p else d.mul? p
  else if d.isZero then some d
  else if 0 ≤ e then none
  else do
    let p ← tenPow? tenPowLimit
    (← d.div? p).scaleTen? (e + tenPowLimit)
termination_by (-e).toNat
decreasing_by
  simp only [tenPowLimit] at *
  omega

end Double

end FileBridge
