import RowMap.Decimal.Reading
import RowMap.Text.Bytes
import RowMap.Text.Split

/-!
# Network addresses

Addresses of four numbers below 256, and addresses of eight groups of hexadecimal digits. Two
colons stand for one or more groups of zeros, and the last two groups may be written as four
numbers.
-/

namespace RowMap.Connection

open RowMap.Decimal (isDigit natOf?)
open RowMap.Text (pieces hexNumber?)

/-- A number below 256 without leading zeros. -/
def isOctet (ds : List Char) : Bool :=
  (natOf? ds).any (· < 256) && ds.length ≤ 3 && (ds.length = 1 || ds.head? ≠ some '0')

/-- Four numbers with points between them. -/
def isFourOctets (text : List Char) : Bool :=
  let parts := pieces '.' text
  parts.length = 4 && parts.all isOctet

/-- One to four hexadecimal digits. -/
def isGroup (ds : List Char) : Bool :=
  !ds.isEmpty && ds.length ≤ 4 && (hexNumber? ds).isSome

/-- The number of groups that groups with colons between them make; the last of them may be four
numbers, which make two. -/
def groupCount? : List (List Char) → Option Nat
  | [] => some 0
  | [last] => if isGroup last then some 1 else if isFourOctets last then some 2 else none
  | group :: rest => if isGroup group then (groupCount? rest).map (· + 1) else none

/-- The groups of a text, of which an empty one has none. -/
def groups (text : List Char) : List (List Char) := if text.isEmpty then [] else pieces ':' text

/-- What stands before and after the first two colons. -/
def atGap? : List Char → Option (List Char × List Char)
  | ':' :: ':' :: rest => some ([], rest)
  | c :: rest => (atGap? rest).map fun (head, tail) => (c :: head, tail)
  | [] => none

/-- Eight groups, some of which may be left out at one place. -/
def isEightGroups (text : List Char) : Bool :=
  match atGap? text with
  | none => groupCount? (groups text) = some 8
  | some (head, tail) =>
    match (groups head).all isGroup, groupCount? (groups tail) with
    | true, some n => (groups head).length + n ≤ 7
    | _, _ => false

def isAddress (text : List Char) : Bool := isFourOctets text || isEightGroups text

end RowMap.Connection
