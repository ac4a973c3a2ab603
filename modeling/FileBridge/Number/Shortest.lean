import FileBridge.Number.Double
import FileBridge.Text.Decimal

/-!
The shortest decimal that a floating-point number is the nearest one to, and its text.

Of the decimals that round to the number the ones with the fewest digits are taken, of these the
nearest, and of two equally near ones the even one.
-/
namespace FileBridge

/-- The decimal `digits * 10 ^ exponent`, without trailing zeros unless it is zero. -/
structure Decimal where
  digits : Nat
  exponent : Int
deriving DecidableEq, Repr

namespace Decimal

/-- The number `n` such that `10 ^ (n - 1) ≤ num / den < 10 ^ n`, for a positive quotient. -/
def magnitude (num den : Nat) : Int :=
  if den ≤ num then (Text.digits (num / den)).length
  else
    let zeros := (List.range 400).findIdx fun k => den ≤ num * Nat.pow 10 (k + 1)
    0 - (zeros : Int)

def strip : Nat → Decimal → Decimal
  | 0, d => d
  | fuel + 1, d =>
    if d.digits ≠ 0 ∧ d.digits % 10 = 0 then strip fuel ⟨d.digits / 10, d.exponent + 1⟩ else d

def timesTenPow (num den : Nat) (e : Int) : Nat × Nat :=
  if e < 0 then (num, den * Nat.pow 10 (-e).toNat) else (num * Nat.pow 10 e.toNat, den)

/-- The reals that round to a number, in quarters of a unit in its last place. -/
structure Interval where
  low : Nat
  value : Nat
  high : Nat
  closed : Bool
  exponent : Int

def interval (d : Double) : Interval where
  low := if d.significand = Double.leastNormal ∧ Double.minExponent < d.exponent
    then 4 * d.significand - 1 else 4 * d.significand - 2
  value := 4 * d.significand
  high := 4 * d.significand + 2
  closed := d.significand % 2 == 0
  exponent := d.exponent - 2

def Interval.holds (i : Interval) (c : Nat) (e : Int) : Bool :=
  let (num, den) := timesTenPow c 1 e
  let (n, d) := Double.scaled num den i.exponent
  if i.closed then i.low * d ≤ n && n ≤ i.high * d else i.low * d < n && n < i.high * d

/-- The decimal with exponent `e` nearest to the number, among its two neighbours on that grid that
lie in the interval. -/
def candidate? (i : Interval) (e : Int) : Option Nat :=
  -- The number over `10 ^ e`, as a quotient.
  let (num, den) := if i.exponent < 0 then (i.value, Nat.pow 2 (-i.exponent).toNat)
    else (i.value * Nat.pow 2 i.exponent.toNat, 1)
  let (n, d) := timesTenPow num den (-e)
  let below := n / d
  let twice := 2 * (n % d)
  match i.holds below e, i.holds (below + 1) e with
  | true, true =>
    if twice < d then some below
    else if d < twice then some (below + 1)
    else if below % 2 = 0 then some below
    else some (below + 1)
  | true, false => some below
  | false, true => some (below + 1)
  | false, false => none

def shortest (d : Double) : Decimal :=
  if d.isZero then ⟨0, 0⟩
  else
    let i := interval d
    let (num, den) := d.quotient
    let m := magnitude num den
    let found := (List.range 17).findSome? fun (k : Nat) =>
      let e := m - (k + 1 : Nat)
      (candidate? i e).map fun c => strip 20 ⟨c, e⟩
    found.getD ⟨0, 0⟩

end Decimal

/-- The text of a floating-point number: positional from `1e-5` up to below `1e16`, with an
exponent and its sign otherwise, and never without a point or an exponent. -/
def Double.text (d : Double) : String :=
  let s := Decimal.shortest d
  let ds := Text.digits s.digits
  let n := ds.length
  let sign := if d.negative then ['-'] else []
  -- The point stands after `point` digits.
  let point : Int := n + s.exponent
  let body :=
    if s.digits = 0 then ['0', '.', '0']
    else if 0 ≤ s.exponent ∧ point ≤ 16 then
      ds ++ List.replicate s.exponent.toNat '0' ++ ['.', '0']
    else if 0 < point ∧ point ≤ 16 then
      ds.take point.toNat ++ '.' :: ds.drop point.toNat
    else if -5 < point ∧ point ≤ 0 then
      ['0', '.'] ++ List.replicate (-point).toNat '0' ++ ds
    else
      let e := point - 1
      let mark := if e < 0 then ['e', '-'] else ['e', '+']
      let fraction := if n = 1 then [] else '.' :: ds.drop 1
      ds.take 1 ++ fraction ++ mark ++ Text.digits e.natAbs
  String.ofList (sign ++ body)

end FileBridge
