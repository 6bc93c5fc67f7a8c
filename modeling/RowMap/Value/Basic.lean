import RowMap.Calendar.Text
import RowMap.Json.Printer

/-!
# Values

A value is what a statement binds and what a row holds: a datum of some variant, or the null of a
variant. Variants that are neither bound nor scanned, such as times with an offset, are told apart
by their names, and their data by the texts that describe them.
-/

namespace RowMap

/-- The kinds of data. -/
inductive Variant
  | bool | tinyInt | smallInt | int | bigInt
  | tinyUnsigned | smallUnsigned | unsigned | bigUnsigned
  | float | double | string | char | bytes | json
  | date | time | localDateTime | instant
  /-- Any other variant. -/
  | other (name : String)
deriving DecidableEq

def Variant.name : Variant → String
  | .bool => "Bool"
  | .tinyInt => "TinyInt"
  | .smallInt => "SmallInt"
  | .int => "Int"
  | .bigInt => "BigInt"
  | .tinyUnsigned => "TinyUnsigned"
  | .smallUnsigned => "SmallUnsigned"
  | .unsigned => "Unsigned"
  | .bigUnsigned => "BigUnsigned"
  | .float => "Float"
  | .double => "Double"
  | .string => "String"
  | .char => "Char"
  | .bytes => "Bytes"
  | .json => "Json"
  | .date => "ChronoDate"
  | .time => "ChronoTime"
  | .localDateTime => "ChronoDateTime"
  | .instant => "ChronoDateTimeUtc"
  | .other name => name

/-- The variants that are named here. -/
def Variant.all : List Variant :=
  [.bool, .tinyInt, .smallInt, .int, .bigInt, .tinyUnsigned, .smallUnsigned, .unsigned,
    .bigUnsigned, .float, .double, .string, .char, .bytes, .json, .date, .time, .localDateTime,
    .instant]

inductive Datum
  | bool (b : Bool)
  | tinyInt (i : Int8)
  | smallInt (i : Int16)
  | int (i : Int32)
  | bigInt (i : Int64)
  | tinyUnsigned (n : UInt8)
  | smallUnsigned (n : UInt16)
  | unsigned (n : UInt32)
  | bigUnsigned (n : UInt64)
  | float (x : Decimal.Single)
  | double (x : Decimal.Double)
  | string (s : String)
  | char (c : Char)
  | bytes (bs : List UInt8)
  | json (j : Json)
  | date (d : Calendar.Date)
  | time (t : Calendar.TimeOfDay)
  | localDateTime (t : Calendar.LocalDateTime)
  | instant (t : Calendar.Instant)
  | other (variant : String) (text : List Char)

def Datum.variant : Datum → Variant
  | .bool _ => .bool
  | .tinyInt _ => .tinyInt
  | .smallInt _ => .smallInt
  | .int _ => .int
  | .bigInt _ => .bigInt
  | .tinyUnsigned _ => .tinyUnsigned
  | .smallUnsigned _ => .smallUnsigned
  | .unsigned _ => .unsigned
  | .bigUnsigned _ => .bigUnsigned
  | .float _ => .float
  | .double _ => .double
  | .string _ => .string
  | .char _ => .char
  | .bytes _ => .bytes
  | .json _ => .json
  | .date _ => .date
  | .time _ => .time
  | .localDateTime _ => .localDateTime
  | .instant _ => .instant
  | .other variant _ => .other variant

inductive Value
  | null (v : Variant)
  | of (d : Datum)

def Value.variant : Value → Variant
  | .null v => v
  | .of d => d.variant

/-! ## Description

A value is described by its variant and its datum, for messages. -/

/-- Texts with a separator between them. -/
def joined (separator : List Char) : List (List Char) → List Char
  | [] => []
  | [text] => text
  | text :: rest => text ++ separator ++ joined separator rest

open RowMap.Decimal in
def Datum.described : Datum → List Char
  | .bool b => (toString b).toList
  | .tinyInt i => intDigits i.toInt
  | .smallInt i => intDigits i.toInt
  | .int i => intDigits i.toInt
  | .bigInt i => intDigits i.toInt
  | .tinyUnsigned n => natDigits n.toNat
  | .smallUnsigned n => natDigits n.toNat
  | .unsigned n => natDigits n.toNat
  | .bigUnsigned n => natDigits n.toNat
  | .float x => Layout.described.number Decimal.single x.bits.toNat
  | .double x => Layout.described.number Decimal.double x.bits.toNat
  | .string s => Text.quoted s.toList
  | .char c => Text.quotedChar c
  | .bytes bs => '[' :: (joined [',', ' '] (bs.map fun b => natDigits b.toNat) ++ [']'])
  | .json j => j.described
  | .date d => d.text
  | .time t => t.text
  | .localDateTime t => t.text
  | .instant t => t.text
  | .other _ text => text

/-- The variant, and the datum or its absence. -/
def Value.described (v : Value) : String :=
  let content := match v with
    | .null _ => "None".toList
    | .of d => "Some(".toList ++ d.described ++ [')']
  v.variant.name ++ String.ofList ('(' :: (content ++ [')']))

end RowMap
