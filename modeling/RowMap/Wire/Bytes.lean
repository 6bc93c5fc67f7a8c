import RowMap.Decimal.Binary

/-!
# Numbers as bytes

Whole numbers in a fixed number of bytes, the most significant first, negative ones as two's
complement.
-/

namespace RowMap.Wire

open RowMap.Decimal (twoTo)

abbrev Bytes := List UInt8

/-- The last `width` bytes of a natural number. -/
def ofNat : Nat → Nat → Bytes
  | 0, _ => []
  | width + 1, n => ofNat width (n / 256) ++ [n.toUInt8]

/-- The number of the bytes. -/
def toNat (bytes : Bytes) : Nat := bytes.foldl (fun n b => 256 * n + b.toNat) 0

def ofInt (width : Nat) (i : Int) : Bytes := ofNat width (i % twoTo (8 * width)).toNat

/-- The bytes as two's complement. -/
def toInt (bytes : Bytes) : Int := (toNat bytes : Int).bmod (twoTo (8 * bytes.length))

/-- The signed number of exactly `width` bytes. -/
def int? (width : Nat) (bytes : Bytes) : Option Int :=
  if bytes.length = width then some (toInt bytes) else none

/-- The number of exactly `width` bytes. -/
def nat? (width : Nat) (bytes : Bytes) : Option Nat :=
  if bytes.length = width then some (toNat bytes) else none

end RowMap.Wire
