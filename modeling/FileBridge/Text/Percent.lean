import FileBridge.Text.Hex

/-!
Bytes that are written as a percent sign and two hexadecimal digits.
-/
namespace FileBridge.Text

def hexByte? (a b : UInt8) : Option UInt8 := do
  let high ← hexValue? (.ofNat a.toNat)
  let low ← hexValue? (.ofNat b.toNat)
  some (.ofNat (16 * high + low))

/-- Bytes with each percent sign and two hexadecimal digits replaced by the byte that they tell. -/
def percentDecode : List UInt8 → List UInt8
  | [] => []
  | 37 :: a :: b :: rest =>
    match hexByte? a b with
    | some c => c :: percentDecode rest
    | none => 37 :: percentDecode (a :: b :: rest)
  | c :: rest => c :: percentDecode rest
termination_by b => b.length

end FileBridge.Text
