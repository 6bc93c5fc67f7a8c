import RowMap.Decimal.Binary

/-!
# The shortest decimal that reads back

Of the decimals that round to a given binary number, the ones with the fewest digits, and of those
the nearest to the number. Where two are equally near, a rule says which one counts.
-/

namespace RowMap.Decimal

/-- Where a half goes. -/
inductive Tie
  | toLarger
  /-- To the neighbour whose last digit is even. -/
  | toEven
deriving DecidableEq

/-- The neighbour above counts, by how twice the number compares with the sum of both. -/
def Tie.takesAbove (tie : Tie) (above : Nat) : Ordering → Bool
  | .lt => false
  | .gt => true
  | .eq => tie = .toLarger || above % 2 = 0

/-- A positive decimal `0.d₁d₂… * 10 ^ point`, as the number whose digits are `digits`. -/
structure Scientific where
  /-- The digits as one number, not divisible by ten. -/
  digits : Nat
  /-- The power of ten of the last digit. -/
  lastPlace : Int
deriving DecidableEq, Repr

/-- A multiple of a power of two as a fraction. -/
def fraction (m : Nat) (q : Int) : Nat × Nat := (m * twoTo q.toNat, twoTo (-q).toNat)

/-- The largest `k` with `10 ^ k ≤ n / d`, for positive `n` and `d`, within one of an estimate. -/
def decimalExponent (n d : Nat) : Int :=
  let e := binaryExponent n d
  let k := (e * 30103).fdiv 100000
  let reaches (k : Int) : Bool := tenTo k.toNat * d ≤ n * tenTo (-k).toNat
  if reaches (k + 1) then k + 1 else if reaches k then k else k - 1

/-- The numbers that round to `m * 2 ^ q` lie between the two fractions `low / 4` and `high / 4` of
`2 ^ q`, and reach them when `m` is even. Below a power of two the numbers are twice as dense. -/
structure Neighbourhood where
  low : Nat
  mid : Nat
  high : Nat
  closed : Bool

def Neighbourhood.of (f : Format) (m : Nat) (q : Int) : Neighbourhood where
  low := if m = twoTo f.fractionBits ∧ f.lowestPlace < q then 4 * m - 1 else 4 * m - 2
  mid := 4 * m
  high := 4 * m + 2
  closed := m % 2 = 0

/-- The neighbour on the grid of multiples of `10 ^ place`, of the one below and the one above,
that lies in the neighbourhood and is nearer. -/
def onGrid (tie : Tie) (b : Neighbourhood) (q place : Int) : Option Nat :=
  let (n, d) := fraction 1 (q - 2)
  let n := n * tenTo (-place).toNat
  let d := d * tenTo place.toNat
  let inside (x : Nat) : Bool :=
    if b.closed then b.low * n ≤ x * d && x * d ≤ b.high * n
    else b.low * n < x * d && x * d < b.high * n
  let below := b.mid * n / d
  let above := below + 1
  if inside below then
    if inside above && tie.takesAbove above (compare (2 * (b.mid * n)) ((below + above) * d)) then
      some above
    else some below
  else if inside above then some above
  else none

/-- The digits without the zeros at their end. -/
def dropZeros : Nat → Nat → Int → Scientific
  | 0, digits, place => ⟨digits, place⟩
  | fuel + 1, digits, place =>
    if digits % 10 = 0 && digits ≠ 0 then dropZeros fuel (digits / 10) (place + 1)
    else ⟨digits, place⟩

/-- Tries grids with more and more digits, `fuel` of them at most. -/
def search (tie : Tie) (b : Neighbourhood) (q : Int) : Nat → Int → Scientific
  | 0, place => ⟨b.mid, place⟩
  | fuel + 1, place =>
    match onGrid tie b q place with
    | some digits => dropZeros 20 digits place
    | none => search tie b q fuel (place - 1)

/-- The shortest decimal of the positive number `m * 2 ^ q` of a format. Seventeen digits always
tell two numbers apart. -/
def shortest (tie : Tie) (f : Format) (m : Nat) (q : Int) : Scientific :=
  let (n, d) := fraction m q
  search tie (.of f m q) q 18 (decimalExponent n d)

end RowMap.Decimal
