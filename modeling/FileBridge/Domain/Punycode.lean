/-!
Labels with other than basic characters, written in basic ones. The basic characters come first and
a hyphen after them. Then follow numbers, each of which says how far to move through all places and
code points to the next character. A number has a variable count of digits, and the digit at which
it ends adapts to the size of the numbers before.
-/
namespace FileBridge.Domain

/-- The value of a digit in base thirty-six: letters come before numerals. -/
def digit? (c : Char) : Option Nat :=
  if 'a' ≤ c && c ≤ 'z' then some (c.toNat - 97)
  else if '0' ≤ c && c ≤ '9' then some (c.toNat - 48 + 26)
  else none

/-- The least digit that is not the last one at a position. -/
def threshold (position bias : Nat) : Nat :=
  min (max (position - bias) 1) 26

def takeNumber (bias : Nat) : List Char → Nat → Nat → Nat → Option (Nat × List Char)
  | [], _, _, _ => none
  | c :: s, position, weight, sum => do
    let d ← digit? c
    let t := threshold position bias
    if d < t then some (sum + d * weight, s)
    else takeNumber bias s (position + 36) (weight * (36 - t)) (sum + d * weight)

def scaleDown (n steps : Nat) : Nat × Nat :=
  if 455 < n then scaleDown (n / 35) (steps + 36) else (n, steps)
termination_by n
decreasing_by omega

/-- The bias after a number, of which there are so many characters now. -/
def adapt (n count : Nat) (isFirst : Bool) : Nat :=
  let n := if isFirst then n / 700 else n / 2
  let (n, steps) := scaleDown (n + n / count) 0
  steps + 36 * n / (n + 38)

/-- Inserts the characters that numbers tell. There are no more of them than the first argument
says. -/
def insertAll : Nat → Nat → Nat → Nat → List Char → List Char → Option (List Char)
  | 0, _, _, _, _, _ => none
  | _ + 1, _, _, _, out, [] => some out
  | count + 1, bias, code, index, out, c :: s => do
    let (sum, rest) ← takeNumber bias (c :: s) 36 1 index
    -- The sum counts the places for each code point in turn, from the one that was inserted last.
    let places := out.length + 1
    let code := code + sum / places
    if code.isValidChar then
      let out := out.take (sum % places) ++ Char.ofNat code :: out.drop (sum % places)
      insertAll count (adapt (sum - index) places (index = 0)) code (sum % places + 1) out rest
    else none

def decode? (s : List Char) : Option (List Char) :=
  let code := (s.reverse.takeWhile (· ≠ '-')).reverse
  let basic := s.take (s.length - code.length - 1)
  let code := if basic = [] then s else code
  insertAll (code.length + 1) 72 128 0 basic code

end FileBridge.Domain
