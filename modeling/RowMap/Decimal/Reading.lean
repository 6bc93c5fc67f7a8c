import RowMap.Decimal.Layout

/-!
# Reading decimal digits

The value of digit strings, in the ranges that a reader admits.
-/

namespace RowMap.Decimal

def isDigit (c : Char) : Bool := '0' ≤ c && c ≤ '9'

/-- The value of a digit. -/
def digitValue (c : Char) : Nat := c.toNat - '0'.toNat

/-- The value of a string of digits, whatever else it holds. -/
def digitsValue (ds : List Char) : Nat := ds.foldl (fun n c => 10 * n + digitValue c) 0

/-- The value of a nonempty string of digits. -/
def natOf? (ds : List Char) : Option Nat :=
  if !ds.isEmpty && ds.all isDigit then some (digitsValue ds) else none

/-- The value of a nonempty string of digits after at most one sign. -/
def intOf? : List Char → Option Int
  | '-' :: ds => (natOf? ds).map fun n => -(n : Int)
  | '+' :: ds => (natOf? ds).map Int.ofNat
  | ds => (natOf? ds).map Int.ofNat

/-- A whole number of so many bits; a plus sign is allowed. -/
def word? (bits : Nat) (text : List Char) : Option Nat :=
  match (if text.head? = some '+' then natOf? text.tail else natOf? text) with
  | some n => if n < twoTo bits then some n else none
  | none => none

/-- A whole number of 64 bits with a sign. -/
def int64? (text : List Char) : Option Int :=
  match intOf? text with
  | some i => if isInt64 i then some i else none
  | none => none

/-- The leading digits of a text, and what follows them. -/
def spanDigits (text : List Char) : List Char × List Char :=
  (text.takeWhile isDigit, text.dropWhile isDigit)

/-- The bits of the double nearest to `digits * 10 ^ place`. A place beyond a thousand is far out
of range for the digits that are read with it. -/
def doubleOf (digits : Nat) (place : Int) : Nat :=
  if digits = 0 then 0
  else
    let top : Int := (natDigits digits).length + place
    if 400 < top then double.infinityBits
    else if top < -400 then 0
    else nearest double (digits * tenTo place.toNat) (tenTo (-place).toNat)

end RowMap.Decimal
