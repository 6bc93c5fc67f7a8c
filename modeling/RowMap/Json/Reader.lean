import RowMap.Json.Basic
import RowMap.Decimal.Reading
import RowMap.Text.Bytes

/-!
# Reading documents

The strict grammar: no comments, no trailing commas, numbers without leading zeros, strings
without control characters or lone surrogates. A number with a fraction or an exponent, or one
that 64 bits cannot hold, is a double.
-/

namespace RowMap.Json

open RowMap.Decimal
open RowMap.Text (hexValue?)

/-- The four characters that may stand between tokens. -/
def isSpace (c : Char) : Bool := c = ' ' || c = '\t' || c = '\n' || c = '\r'

def skipSpace (text : List Char) : List Char := text.dropWhile isSpace

/-! ## Strings -/

/-- The value of four hexadecimal digits. -/
def hexUnit? (a b c d : Char) : Option Nat := do
  return (((← hexValue? a) * 16 + (← hexValue? b)) * 16 + (← hexValue? c)) * 16 + (← hexValue? d)

/-- The character that a letter stands for after a backslash. -/
def shortEscape? : Char → Option Char
  | '"' => some '"'
  | '\\' => some '\\'
  | '/' => some '/'
  | 'b' => some '\x08'
  | 'f' => some '\x0c'
  | 'n' => some '\n'
  | 'r' => some '\r'
  | 't' => some '\t'
  | _ => none

/-- The rest of a string after its opening quote, added to what was read of it, backwards. -/
def stringAfter (read : List Char) : List Char → Option (String × List Char)
  | [] => none
  | '"' :: rest => some (String.ofList read.reverse, rest)
  | '\\' :: 'u' :: a :: b :: c :: d :: '\\' :: 'u' :: e :: f :: g :: h :: rest =>
    match hexUnit? a b c d with
    | none => none
    | some high =>
      if 0xD800 ≤ high ∧ high < 0xDC00 then
        match hexUnit? e f g h with
        | none => none
        | some low =>
          if 0xDC00 ≤ low ∧ low < 0xE000 then
            stringAfter (Char.ofNat (0x10000 + (high - 0xD800) * 0x400 + (low - 0xDC00)) :: read) rest
          else none
      else if 0xDC00 ≤ high ∧ high < 0xE000 then none
      else stringAfter (Char.ofNat high :: read) ('\\' :: 'u' :: e :: f :: g :: h :: rest)
  | '\\' :: 'u' :: a :: b :: c :: d :: rest =>
    match hexUnit? a b c d with
    | none => none
    | some unit =>
      if 0xD800 ≤ unit ∧ unit < 0xE000 then none else stringAfter (Char.ofNat unit :: read) rest
  | '\\' :: c :: rest =>
    match shortEscape? c with
    | some c => stringAfter (c :: read) rest
    | none => none
  | c :: rest => if c = '\\' || c.toNat < 0x20 then none else stringAfter (c :: read) rest

/-! ## Numbers -/

/-- A significand of 64 bits and the power of ten it is multiplied by. -/
structure Scaled where
  significand : Nat
  exponent : Int
  /-- No further digit fits. -/
  full : Bool

/-- One more digit, if it fits; `step` is what the exponent gains when it fits and `skip` when it
does not. -/
def Scaled.push (step skip : Int) (s : Scaled) (c : Char) : Scaled :=
  let wider := s.significand * 10 + digitValue c
  if s.full || UInt64.size ≤ wider then { s with exponent := s.exponent + skip, full := true }
  else { s with significand := wider, exponent := s.exponent + step }

/-- A finite double as a fraction. -/
def fractionOf (bits : Nat) : Nat × Nat :=
  match decode double bits with
  | (_, .finite m q) => fraction m q
  | _ => (0, 1)

def timesPower (bits power : Nat) : Nat :=
  let (n, d) := fractionOf bits
  let (n', d') := fractionOf (nearest double (tenTo power) 1)
  nearest double (n * n') (d * d')

def overPower (bits power : Nat) : Nat :=
  let (n, d) := fractionOf bits
  let (n', d') := fractionOf (nearest double (tenTo power) 1)
  nearest double (n * d') (d * n')

/-- A positive double times a power of ten, rounded after each step of at most 308 places. It is
none when it grows out of range. -/
def scale : Nat → Nat → Int → Option Nat
  | 0, bits, _ => some bits
  | fuel + 1, bits, exponent =>
    if bits = 0 then some 0
    else if 0 ≤ exponent then
      if 308 < exponent then none
      else
        let scaled := timesPower bits exponent.toNat
        if scaled = double.infinityBits then none else some scaled
    else if -308 ≤ exponent then some (overPower bits (-exponent).toNat)
    else scale fuel (overPower bits 308) (exponent + 308)

def signed (negative : Bool) (bits : Nat) : Json :=
  .float ⟨(if negative then bits + double.signBit else bits).toUInt64⟩

/-- An exponent: its sign and its digits, after the letter. -/
def exponentAfter (text : List Char) : Option (Int × List Char) :=
  let (negative, text) := match text with
    | '+' :: rest => (false, rest)
    | '-' :: rest => (true, rest)
    | _ => (false, text)
  let (ds, rest) := spanDigits text
  if ds.isEmpty then none
  else
    let n : Int := digitsValue ds
    some (if negative then -n else n, rest)

/-- A number without its sign. -/
def numberAfter (negative : Bool) (text : List Char) : Option (Json × List Char) := do
  let (whole, rest) := spanDigits text
  if whole.isEmpty || (whole.head? = some '0' && whole.length ≠ 1) then none
  let (places, rest, dotted) ← match rest with
    | '.' :: rest =>
      let (ds, rest) := spanDigits rest
      if ds.isEmpty then none else some (ds, rest, true)
    | _ => some ([], rest, false)
  let (exponent, rest, raised) ← match rest with
    | 'e' :: rest | 'E' :: rest => (exponentAfter rest).map fun (e, rest) => (e, rest, true)
    | _ => some (0, rest, false)
  let n := digitsValue whole
  if !dotted && !raised && n < UInt64.size && (!negative || (0 < n && isInt64 (-n))) then
    return (.int (if negative then -(n : Int) else n), rest)
  let s := whole.foldl (Scaled.push 0 1) ⟨0, 0, false⟩
  let s := places.foldl (Scaled.push (-1) 0) { s with full := false }
  let bits ← scale 8 (nearest double s.significand 1) (s.exponent + exponent)
  return (signed negative bits, rest)

/-! ## Values -/

/-- Names of the constants. -/
def constant? (text : List Char) : Option (Json × List Char) :=
  match text with
  | 'n' :: 'u' :: 'l' :: 'l' :: rest => some (.null, rest)
  | 't' :: 'r' :: 'u' :: 'e' :: rest => some (.bool true, rest)
  | 'f' :: 'a' :: 'l' :: 's' :: 'e' :: rest => some (.bool false, rest)
  | _ => none

mutual

/-- A document at the start of a text. Each step reads a character or leaves the value, so that
`fuel` never runs out when it exceeds twice the length of the text. -/
def value (depth : Nat) : Nat → List Char → Option (Json × List Char)
  | 0, _ => none
  | fuel + 1, text =>
    match skipSpace text with
    | '"' :: rest => (stringAfter [] rest).map fun (s, rest) => (.string s, rest)
    | '[' :: rest =>
      if depth ≤ 1 then none
      else match skipSpace rest with
        | ']' :: rest => some (.array [], rest)
        | _ => (items (depth - 1) fuel rest).map fun (xs, rest) => (.array xs, rest)
    | '\x7b' :: rest =>
      if depth ≤ 1 then none
      else match skipSpace rest with
        | '\x7d' :: rest => some (.object [], rest)
        | _ => (members (depth - 1) fuel rest).map fun (ms, rest) => (ofMembers ms, rest)
    | '-' :: rest => numberAfter true rest
    | c :: rest => if isDigit c then numberAfter false (c :: rest) else constant? (c :: rest)
    | [] => none

/-- The items of an array that is not empty, and its closing bracket. -/
def items (depth : Nat) : Nat → List Char → Option (List Json × List Char)
  | 0, _ => none
  | fuel + 1, text =>
    match value depth fuel text with
    | none => none
    | some (x, rest) =>
      match skipSpace rest with
      | ',' :: rest => (items depth fuel rest).map fun (xs, rest) => (x :: xs, rest)
      | ']' :: rest => some ([x], rest)
      | _ => none

/-- The members of an object that is not empty, and its closing brace. -/
def members (depth : Nat) : Nat → List Char → Option (List (String × Json) × List Char)
  | 0, _ => none
  | fuel + 1, text =>
    match skipSpace text with
    | '"' :: rest =>
      match stringAfter [] rest with
      | none => none
      | some (name, rest) =>
        match skipSpace rest with
        | ':' :: rest =>
          match value depth fuel rest with
          | none => none
          | some (x, rest) =>
            match skipSpace rest with
            | ',' :: rest => (members depth fuel rest).map fun (ms, rest) => ((name, x) :: ms, rest)
            | '\x7d' :: rest => some ([(name, x)], rest)
            | _ => none
        | _ => none
    | _ => none

end

/-- The document that a whole text holds, with fewer than `depth` arrays and objects inside each
other. -/
def readWithin? (depth : Nat) (text : List Char) : Option Json :=
  match value depth (2 * text.length + 2) text with
  | some (x, rest) => if (skipSpace rest).isEmpty then some x else none
  | none => none

/-- The document that a whole text holds, with at most 127 arrays and objects inside each other. -/
def read? (text : List Char) : Option Json := readWithin? 128 text

end RowMap.Json
