import RowMap.Decimal.Shortest

/-!
# How a decimal is laid out

A layout says where positional notation gives way to an exponent, whether a whole number in
positional notation keeps `.0`, what stands before an exponent above zero, and which of two equally
near decimals counts. Whole numbers have no point beside an exponent.
-/

namespace RowMap.Decimal

/-- The exponents of the first digit that are written in positional notation, what ends a whole
number there, the sign of the exponents above them, and where a half goes. -/
structure Layout where
  lowest : Int
  highest : Int
  wholeEnd : List Char
  largeSign : List Char
  tie : Tie

/-- Numbers in a described value are positional from `10 ^ -4` and below `10 ^ 16`. -/
def Layout.described : Layout := ⟨-4, 15, ['.', '0'], [], .toLarger⟩

/-- Numbers in a document are positional from `10 ^ -5` and below `10 ^ 16`. -/
def Layout.document : Layout := ⟨-5, 15, ['.', '0'], ['+'], .toEven⟩

/-- No number is large or small enough for an exponent. -/
def Layout.positional : Layout := ⟨-400, 400, [], [], .toLarger⟩

/-- The decimal digits of a natural number. -/
def natDigits (n : Nat) : List Char := Nat.toDigits 10 n

def intDigits (i : Int) : List Char :=
  if i < 0 then '-' :: natDigits i.natAbs else natDigits i.natAbs

/-- A positive decimal in a layout. -/
def Layout.render (l : Layout) (s : Scientific) : List Char :=
  let ds := natDigits s.digits
  let first := s.lastPlace + ds.length - 1
  if l.lowest ≤ first ∧ first ≤ l.highest then
    if 0 ≤ s.lastPlace then ds ++ List.replicate s.lastPlace.toNat '0' ++ l.wholeEnd
    else if 0 ≤ first then ds.take (first + 1).toNat ++ '.' :: ds.drop (first + 1).toNat
    else ['0', '.'] ++ List.replicate (-first - 1).toNat '0' ++ ds
  else
    let mantissa := match ds with
      | [] => []
      | [d] => [d]
      | d :: more => d :: '.' :: more
    mantissa ++ 'e' :: ((if 0 < first then l.largeSign else []) ++ intDigits first)

/-- The text of a binary number: its shortest decimal, `NaN` and `inf` for the rest. -/
def Layout.number (l : Layout) (f : Format) (bits : Nat) : List Char :=
  match decode f bits with
  | (_, .notANumber) => ['N', 'a', 'N']
  | (negative, magnitude) =>
    let body := match magnitude with
      | .finite 0 _ => '0' :: l.wholeEnd
      | .finite m q => l.render (shortest l.tie f m q)
      | _ => ['i', 'n', 'f']
    if negative then '-' :: body else body

end RowMap.Decimal
