import RowMap.Json.Parts
import RowMap.Value.Scalar

/-!
# Values as documents

A value is written as the name of its variant and its datum, or null. Nothing is lost: binary
numbers are written as their bits and bytes as their digits, both in hexadecimal, and documents are
wrapped, so that the null document is told from a null.
-/

namespace RowMap

open RowMap.Text (hexPadded hexNumber? hexOfBytes bytesOfHex?)
open RowMap.Calendar (Date TimeOfDay LocalDateTime Instant)

/-! ## Data -/

/-- The bits of a binary number after `0x`. -/
def bitsText (digits bits : Nat) : Json :=
  .string (String.ofList ('0' :: 'x' :: hexPadded digits bits))

def bits? : List Char → Option Nat
  | '0' :: 'x' :: digits => hexNumber? digits
  | _ => none

def charsText (text : List Char) : Json := .string (String.ofList text)

def Datum.toJson : Datum → Json
  | .bool b => .bool b
  | .tinyInt i => .int i.toInt
  | .smallInt i => .int i.toInt
  | .int i => .int i.toInt
  | .bigInt i => .int i.toInt
  | .tinyUnsigned n => .int n.toNat
  | .smallUnsigned n => .int n.toNat
  | .unsigned n => .int n.toNat
  | .bigUnsigned n => .int n.toNat
  | .float x => bitsText 8 x.bits.toNat
  | .double x => bitsText 16 x.bits.toNat
  | .string s => .string s
  | .char c => charsText [c]
  | .bytes bs => charsText (hexOfBytes bs)
  | .json j => .ofMembers [("j", j)]
  | .date d => charsText d.text
  | .time t => charsText t.text
  | .localDateTime t => charsText t.text
  | .instant t => charsText t.text
  | .other _ text => charsText text

/-- The datum of a variant that a text spells. -/
def Datum.ofText? : Variant → List Char → Option Datum
  | .float, text => (bits? text).map fun n => .float ⟨n.toUInt32⟩
  | .double, text => (bits? text).map fun n => .double ⟨n.toUInt64⟩
  | .string, text => some (.string (String.ofList text))
  | .char, [c] => some (.char c)
  | .bytes, text => (bytesOfHex? text).map .bytes
  | .date, text => (Date.read? text).map .date
  | .time, text => (TimeOfDay.read? text).map .time
  | .localDateTime, text => (LocalDateTime.read? text).map .localDateTime
  | .instant, text => (Instant.read? text).map .instant
  | _, _ => none

/-- The datum of a variant in a document. -/
def Datum.ofJson? (v : Variant) (j : Json) : Option Datum :=
  match v, j with
  | .bool, .bool b => some (.bool b)
  | .tinyInt, j => (Json.int8? j).map .tinyInt
  | .smallInt, j => (Json.int16? j).map .smallInt
  | .int, j => (Json.int32? j).map .int
  | .bigInt, j => (Json.int64? j).map .bigInt
  | .tinyUnsigned, j => (Json.word? 8 j).map fun n => .tinyUnsigned n.toUInt8
  | .smallUnsigned, j => (Json.word? 16 j).map fun n => .smallUnsigned n.toUInt16
  | .unsigned, j => (Json.word? 32 j).map fun n => .unsigned n.toUInt32
  | .bigUnsigned, j => (Json.word? 64 j).map fun n => .bigUnsigned n.toUInt64
  | .json, j => (j.member? "j").map .json
  | v, .string s => Datum.ofText? v s.toList
  | _, _ => none

/-! ## Values -/

def Variant.ofName? (name : String) : Option Variant := Variant.all.find? fun v => v.name = name

def Value.toJson (v : Value) : Json :=
  .array [.string v.variant.name, match v with
    | .null _ => .null
    | .of d => d.toJson]

def Value.ofJson? : Json → Option Value
  | .array [.string name, .null] => (Variant.ofName? name).map .null
  | .array [.string name, j] =>
    (Variant.ofName? name).bind fun v => (Datum.ofJson? v j).map .of
  | _ => none

/-! ## Data of scalar types

Labels are written as they are, everything else as the datum that is bound. -/

namespace ScalarType

def toJson : (t : ScalarType) → t.Carrier → Json
  | .coded _, k => .string (Enumeration.Case.label k)
  | t, x => (t.datum x).toJson

def ofJson? : (t : ScalarType) → Json → Option t.Carrier
  | .coded e, .string s => e.ofLabel? s
  | .coded _, _ => none
  | t, j => (Datum.ofJson? t.variant j).bind t.ofDatum?

end ScalarType

end RowMap
