import RowMap.Calendar.Date
import RowMap.Decimal.Reading
import RowMap.Text.Bytes
import RowMap.Text.Scanner
import RowMap.Toml.Basic

/-!
# Numbers, dates and times

Integers have 64 bits with a sign. Digits may have underscores between them. The usual spelling of
a date and time has a `T` between them and no zeros at the end of a fraction.
-/

namespace RowMap.Toml

open RowMap.Decimal (isDigit digitsValue doubleOf double twoTo isInt64)
open RowMap.Text (Scanner hexValue?)
open RowMap.Text.Scanner

/-! ## Numbers -/

/-- Digits with single underscores between them. -/
def digitRun (isDigit : Char → Bool) : Scanner (List Char) := do
  let first ← char isDigit
  return first :: (← many (do let _ ← accepts ['_']; char isDigit))

/-- A sign, and whether it is a minus. -/
def sign : Scanner Bool := do
  if ← accepts ['-'] then return true
  let _ ← accepts ['+']
  return false

/-- Digits of a decimal number, of which only a zero alone starts with zero. -/
def wholeDigits : Scanner (List Char) := do
  if (← peek) = some '0' then return [← char isDigit]
  digitRun isDigit

/-- An integer of 64 bits. -/
def int64 (negative : Bool) (n : Nat) : Scanner Toml :=
  let i : Int := if negative then -(n : Int) else n
  if isInt64 i then return .integer i else failure

/-- Digits of a base after a zero and the base's letter. -/
def based (letter : Char) (base : Nat) : Scanner Toml := do
  literal ['0', letter]
  let ds ← digitRun fun c => (hexValue? c).any (· < base)
  int64 false (ds.foldl (fun n c => base * n + (hexValue? c).getD 0) 0)

def scanInteger : Scanner Toml :=
  based 'x' 16 <|> based 'o' 8 <|> based 'b' 2 <|> do
    let negative ← sign
    int64 negative (digitsValue (← wholeDigits))

/-- The digits after a point. -/
def places : Scanner (List Char) := do
  literal ['.']
  digitRun isDigit

/-- The power of ten after its letter. -/
def exponent : Scanner Int := do
  let _ ← char fun c => c = 'e' || c = 'E'
  let negative ← sign
  let n : Int := digitsValue (← digitRun isDigit)
  return if negative then -n else n

/-- A number of double precision with its sign. -/
def signedDouble (negative : Bool) (bits : Nat) : Toml :=
  .float ⟨(if negative then bits + double.signBit else bits).toUInt64⟩

/-- A number with places or a power of ten. A positive one must not be too large. -/
def finite : Scanner Toml := do
  let negative ← sign
  let whole ← wholeDigits
  let places ← option places
  let exponent ← option exponent
  if places.isNone && exponent.isNone then failure
  let places := places.getD []
  let bits := doubleOf (digitsValue (whole ++ places)) (exponent.getD 0 - places.length)
  if bits = double.infinityBits && !negative then failure
  return signedDouble negative bits

/-- Infinity and what is not a number. -/
def special : Scanner Toml := do
  let negative ← sign
  if ← accepts ['i', 'n', 'f'] then return signedDouble negative double.infinityBits
  literal ['n', 'a', 'n']
  return signedDouble negative (double.infinityBits + twoTo (double.fractionBits - 1))

def scanFloat : Scanner Toml := finite <|> special

/-! ## Dates and times -/

/-- So many digits. -/
def fixedDigits (width : Nat) : Scanner (List Char) := fun text =>
  let ds := text.take width
  if ds.length = width && ds.all isDigit then some (ds, text.drop width) else none

/-- Two digits of a number up to a limit. -/
def twoDigits (limit : Nat) : Scanner (List Char) := do
  let ds ← fixedDigits 2
  if limit < digitsValue ds then failure
  return ds

def date : Scanner (List Char) := do
  let year ← fixedDigits 4
  literal ['-']
  let month ← fixedDigits 2
  literal ['-']
  let day ← fixedDigits 2
  let _ ← Calendar.Date.ofCivil? (digitsValue year) (digitsValue month) (digitsValue day)
  return year ++ '-' :: month ++ '-' :: day

/-- A fraction of a second to the nanosecond. -/
def secondFraction : Scanner (List Char) := do
  literal ['.']
  let ds := ((← run1 isDigit).take 9).reverse.dropWhile (· = '0')
  return if ds.isEmpty then [] else '.' :: ds.reverse

def time : Scanner (List Char) := do
  let hour ← twoDigits 23
  literal [':']
  let minute ← twoDigits 59
  literal [':']
  let second ← twoDigits 60
  let places ← option secondFraction
  return hour ++ ':' :: minute ++ ':' :: second ++ places.getD []

/-- How far a time is from that of Greenwich. -/
def offset : Scanner (List Char) := do
  let mark ← char fun c => c = 'Z' || c = 'z' || c = '+' || c = '-'
  if mark.toUpper = 'Z' then return ['Z']
  let hour ← twoDigits 23
  literal [':']
  let minute ← twoDigits 59
  let isZero := digitsValue hour + digitsValue minute = 0
  return (if isZero then '+' else mark) :: hour ++ ':' :: minute

/-- A time after a date. -/
def timeOfDate : Scanner (List Char) := do
  let _ ← char fun c => c = 'T' || c = 't' || c = ' '
  let time ← time
  return 'T' :: time ++ (← option offset).getD []

def scanMoment : Scanner Toml := do
  let text ← (do let date ← date; return date ++ (← option timeOfDate).getD []) <|> time
  return .moment (String.ofList text)

end RowMap.Toml
