import LatencyDesk.Lib.Word

/-!
# The 64-bit FNV-1a hash
-/

namespace LatencyDesk.Lib.Fnv

def offsetBasis : UInt64 := 0xcbf29ce484222325

def prime : UInt64 := 0x100000001b3

/-- Hash one byte into the state. -/
def absorb (h : UInt64) (byte : UInt8) : UInt64 := (h ^^^ byte.toUInt64) * prime

/-- Hash a byte string into the state. -/
def absorbAll (h : UInt64) (bytes : List UInt8) : UInt64 := bytes.foldl absorb h

end LatencyDesk.Lib.Fnv
