import RowMap.Calendar.Instant
import RowMap.Decimal.Reading
import RowMap.Text.Characters
import RowMap.Text.Scanner

/-!
# Written dates and times

Dates are written `2024-02-29`, with a sign before years outside 0 to 9999. Times are written
`09:30:05`, with three, six or nine digits of a fraction: the fewest that are exact. An instant
ends in `Z`. Reading allows any number of fraction digits, blanks around the numbers, and any
offset after an instant.
-/

namespace RowMap.Calendar

open RowMap.Decimal (natDigits natOf? digitsValue isDigit tenTo)
open RowMap.Text (trimStart isBlank Scanner)

/-! ## Writing -/

/-- A number with zeros before it up to a width. -/
def padded (width n : Nat) : List Char :=
  let ds := natDigits n
  List.replicate (width - ds.length) '0' ++ ds

def yearText (y : Int) : List Char :=
  if 0 ≤ y ∧ y ≤ 9999 then padded 4 y.toNat
  else (if y < 0 then '-' else '+') :: padded 4 y.natAbs

def Date.text (d : Date) : List Char :=
  let c := d.civil
  yearText c.year ++ '-' :: padded 2 c.month ++ '-' :: padded 2 c.day

/-- The fraction of a second, in the fewest groups of three digits. -/
def fractionText (nano : Nat) : List Char :=
  if nano = 0 then []
  else if nano % 1000000 = 0 then '.' :: padded 3 (nano / 1000000)
  else if nano % 1000 = 0 then '.' :: padded 6 (nano / 1000)
  else '.' :: padded 9 nano

def TimeOfDay.text (t : TimeOfDay) : List Char :=
  let s := t.second.val
  padded 2 (s / 3600) ++ ':' :: padded 2 (s / 60 % 60) ++
    ':' :: padded 2 (s % 60 + t.nano.val / 1000000000) ++ fractionText (t.nano.val % 1000000000)

def LocalDateTime.text (t : LocalDateTime) : List Char := t.date.text ++ 'T' :: t.time.text

def Instant.text (t : Instant) : List Char := t.utc.text ++ ['Z']

/-! ## Reading

Blanks may stand before every number and mark. -/

/-- The given character, after blanks. -/
def mark (c : Char) : Scanner Unit := fun text =>
  match trimStart text with
  | d :: rest => if c = d then some ((), rest) else none
  | [] => none

/-- One to `width` digits, after blanks. -/
def digits (width : Nat) : Scanner (List Char) := fun text =>
  let text := trimStart text
  let ds := (text.take width).takeWhile isDigit
  if ds.isEmpty then none else some (ds, text.drop ds.length)

def number (width : Nat) : Scanner Nat := return digitsValue (← digits width)

/-- A year of at most four digits, or of any number of them after a sign. -/
def year : Scanner Int := fun text =>
  match trimStart text with
  | '-' :: rest => (number rest.length rest).map fun (n, rest) => (-(n : Int), rest)
  | '+' :: rest => (number rest.length rest).map fun (n, rest) => ((n : Int), rest)
  | text => (number 4 text).map fun (n, rest) => ((n : Int), rest)

def scanDate : Scanner Date := do
  let y ← year
  mark '-'
  let m ← number 2
  mark '-'
  Date.ofCivil? y m (← number 2)

/-- The nanoseconds after a point; digits after the ninth are read and dropped. -/
def nanos : Scanner Nat := fun text =>
  match text with
  | '.' :: rest =>
    let ds := rest.takeWhile isDigit
    if ds.isEmpty then none
    else
      let nine := ds.take 9
      some (digitsValue nine * tenTo (9 - nine.length), rest.drop ds.length)
  | _ => some (0, text)

def scanTime : Scanner TimeOfDay := do
  let hour ← number 2
  mark ':'
  let minute ← number 2
  mark ':'
  let second ← number 2
  let nano ← nanos
  TimeOfDay.ofClock? hour minute second nano

/-- The mark between date and time. -/
def separator : Scanner Unit := fun text =>
  match text with
  | 'T' :: rest | 't' :: rest | ' ' :: rest => some ((), rest)
  | _ => none

def scanDateTime : Scanner LocalDateTime := do
  let date ← scanDate
  separator
  return ⟨date, ← scanTime⟩

/-- The offset east of UTC in seconds: `Z`, `UTC`, or hours and minutes after a sign. -/
def offset : Scanner Int := fun text =>
  match trimStart text with
  | 'Z' :: rest | 'z' :: rest => some (0, rest)
  | text =>
    if (text.take 3).map Char.toUpper = ['U', 'T', 'C'] then some (0, text.drop 3)
    else match text with
      | [] => none
      | sign :: rest =>
        if sign = '+' || sign = '-' || sign = '\u2212' then
          let hours := rest.take 2
          let rest := (rest.drop 2).dropWhile fun c => c = ':' || isBlank c
          let minutes := rest.take 2
          match natOf? hours, natOf? minutes with
          | some h, some m =>
            if hours.length = 2 ∧ minutes.length = 2 ∧ h ≤ 23 ∧ m ≤ 59 then
              let seconds : Int := h * 3600 + m * 60
              some (if sign = '+' then seconds else -seconds, rest.drop 2)
            else none
          | _, _ => none
        else none

def scanInstant : Scanner Instant := do
  let t ← scanDateTime
  let seconds ← offset
  return ⟨← t.shift (-seconds)⟩

/-- What a scanner reads from a whole text, blanks at its end apart. -/
def wholeText {α : Type} (s : Scanner α) (text : List Char) : Option α :=
  match s text with
  | some (a, rest) => if (trimStart rest).isEmpty then some a else none
  | none => none

def Date.read? (text : List Char) : Option Date := wholeText scanDate text
def TimeOfDay.read? (text : List Char) : Option TimeOfDay := wholeText scanTime text
def LocalDateTime.read? (text : List Char) : Option LocalDateTime := wholeText scanDateTime text
def Instant.read? (text : List Char) : Option Instant := wholeText scanInstant text

end RowMap.Calendar
