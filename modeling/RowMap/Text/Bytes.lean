/-!
# Texts and bytes

The bytes of a text in UTF-8, numbers and bytes in base 16, and percent-encoded text. Hexadecimal
digits are written in lower case and read in either case.
-/

namespace RowMap.Text

def utf8 (s : String) : List UInt8 := s.toUTF8.toList

/-- The text of bytes, if they are UTF-8. -/
def ofUtf8? (bytes : List UInt8) : Option String := String.fromUTF8? ⟨bytes.toArray⟩

/-! ## Hexadecimal digits -/

/-- The digits of a number, without leading zeros. -/
def hexDigits (n : Nat) : List Char := Nat.toDigits 16 n

/-- The digits of a number, with zeros before them up to a width. -/
def hexPadded (width n : Nat) : List Char :=
  let ds := hexDigits n
  List.replicate (width - ds.length) '0' ++ ds

/-- The value of a digit. -/
def hexValue? (c : Char) : Option Nat :=
  if '0' ≤ c ∧ c ≤ '9' then some (c.toNat - '0'.toNat)
  else if 'a' ≤ c ∧ c ≤ 'f' then some (c.toNat - 'a'.toNat + 10)
  else if 'A' ≤ c ∧ c ≤ 'F' then some (c.toNat - 'A'.toNat + 10)
  else none

/-- The number that digits are read as, after the number `n`. -/
def hexNumberAfter? (n : Nat) : List Char → Option Nat
  | [] => some n
  | c :: rest => (hexValue? c).bind fun v => hexNumberAfter? (16 * n + v) rest

def hexNumber? (ds : List Char) : Option Nat := hexNumberAfter? 0 ds

/-- Bytes as two digits each. -/
def hexOfBytes (bytes : List UInt8) : List Char := bytes.flatMap fun b => hexPadded 2 b.toNat

/-- The bytes of pairs of digits. -/
def bytesOfHex? : List Char → Option (List UInt8)
  | [] => some []
  | [_] => none
  | a :: b :: rest => do
    let high ← hexValue? a
    let low ← hexValue? b
    return (16 * high + low).toUInt8 :: (← bytesOfHex? rest)

/-! ## Percent-encoded text -/

/-- The bytes that a text stands for: a percent sign and two hexadecimal digits stand for a byte,
everything else for itself, also a percent sign without two digits. -/
def percentDecoded : List Char → List UInt8
  | [] => []
  | '%' :: a :: b :: rest =>
    match hexNumber? [a, b] with
    | some byte => byte.toUInt8 :: percentDecoded rest
    | none => '%'.toNat.toUInt8 :: percentDecoded (a :: b :: rest)
  | c :: rest => utf8 c.toString ++ percentDecoded rest

/-- The text that a text stands for, if its bytes are UTF-8. -/
def percentText? (text : List Char) : Option String := ofUtf8? (percentDecoded text)

end RowMap.Text
