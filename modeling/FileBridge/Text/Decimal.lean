/-!
Natural numbers in decimal digits: the digits without leading zeros, and the value of a list of
digits.
-/
namespace FileBridge.Text

def digitChar (d : Nat) : Char :=
  Char.ofNat (48 + d)

def digitValue (c : Char) : Nat :=
  c.toNat - 48

/-- The decimal digits of a number, most significant first. -/
def digits (n : Nat) : List Char :=
  if n < 10 then [digitChar n] else digits (n / 10) ++ [digitChar (n % 10)]

def valueOf (ds : List Char) : Nat :=
  ds.foldl (fun n d => 10 * n + digitValue d) 0

def natural? (s : List Char) : Option Nat :=
  if s ≠ [] ∧ s.all Char.isDigit then some (valueOf s) else none

def decimal (n : Nat) : String :=
  String.ofList (digits n)

def signed (n : Int) : String :=
  String.ofList (if n < 0 then '-' :: digits n.natAbs else digits n.natAbs)

end FileBridge.Text
