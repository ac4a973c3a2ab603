/-!
The ranges of integers of 64 bits.
-/
namespace FileBridge

def minInt64 : Int := -9223372036854775808

def maxInt64 : Int := 9223372036854775807

/-- The first natural number that needs more than 64 bits. -/
def natBound64 : Nat := 18446744073709551616

end FileBridge
