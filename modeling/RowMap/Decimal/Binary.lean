/-!
# Binary floating-point numbers

A number is kept as the bits of its interchange format, so that two numbers are equal when all
their bits are. `decode` reads the bits as a sign and a magnitude `m * 2 ^ q`, `nearest` finds the
bits of the number next to a fraction.
-/

namespace RowMap.Decimal

def twoTo (n : Nat) : Nat := Nat.pow 2 n

def tenTo (n : Nat) : Nat := Nat.pow 10 n

/-- A number is of 64 bits with a sign. -/
def isInt64 (i : Int) : Bool := Int64.minValue.toInt ≤ i && i ≤ Int64.maxValue.toInt

/-- The widths of a binary interchange format. -/
structure Format where
  /-- Bits of the significand that are stored. -/
  fractionBits : Nat
  /-- Bits of the exponent. -/
  exponentBits : Nat

/-- Single precision. -/
def single : Format := ⟨23, 8⟩

/-- Double precision. -/
def double : Format := ⟨52, 11⟩

namespace Format

/-- The largest exponent field, which marks infinities and what is not a number. -/
def topExponent (f : Format) : Nat := twoTo f.exponentBits - 1

/-- The exponent of the last place of the smallest numbers. -/
def lowestPlace (f : Format) : Int := 2 - (twoTo (f.exponentBits - 1) : Nat) - f.fractionBits

/-- The bits of positive infinity. -/
def infinityBits (f : Format) : Nat := f.topExponent * twoTo f.fractionBits

/-- The weight of the sign bit. -/
def signBit (f : Format) : Nat := twoTo (f.fractionBits + f.exponentBits)

end Format

/-- A number without its sign. `finite m q` is `m * 2 ^ q`. -/
inductive Magnitude
  | finite (m : Nat) (q : Int)
  | infinite
  | notANumber
deriving DecidableEq

/-- The sign and the magnitude that bits stand for. -/
def decode (f : Format) (bits : Nat) : Bool × Magnitude :=
  let fraction := bits % twoTo f.fractionBits
  let exponent := bits / twoTo f.fractionBits % twoTo f.exponentBits
  let magnitude :=
    if exponent = f.topExponent then if fraction = 0 then .infinite else .notANumber
    else if exponent = 0 then .finite fraction f.lowestPlace
    else .finite (twoTo f.fractionBits + fraction) (f.lowestPlace + exponent - 1)
  (f.signBit ≤ bits, magnitude)

/-- The quotient rounded to the nearest natural number, a half going to the even neighbour. -/
def roundDiv (n d : Nat) : Nat :=
  let q := n / d
  let r := n % d
  if 2 * r < d then q else if d < 2 * r then q + 1 else q + q % 2

/-- The largest `e` with `2 ^ e * d ≤ n`, for positive `n` and `d`. -/
def binaryExponent (n d : Nat) : Int :=
  let e : Int := n.log2 - d.log2
  if twoTo e.toNat * d ≤ n * twoTo (-e).toNat then e else e - 1

/-- The bits of the positive number nearest to `n / d`; what is too large becomes infinity. The
significand is added to the exponent field, so that one that rounds up to the next power of two
carries into it. -/
def nearest (f : Format) (n d : Nat) : Nat :=
  if n = 0 then 0
  else
    let q := max (binaryExponent n d - f.fractionBits) f.lowestPlace
    let m := roundDiv (n * twoTo (-q).toNat) (d * twoTo q.toNat)
    min f.infinityBits (m + (q - f.lowestPlace).toNat * twoTo f.fractionBits)

/-! ## Numbers of one format -/

/-- A single-precision number. -/
structure Single where
  bits : UInt32
deriving DecidableEq

/-- A double-precision number. -/
structure Double where
  bits : UInt64
deriving DecidableEq

def Single.zero : Single := ⟨0⟩
def Double.zero : Double := ⟨0⟩

end RowMap.Decimal
