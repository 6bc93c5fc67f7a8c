import RowMap.Error
import RowMap.Json.Printer
import RowMap.Json.Reader
import RowMap.Text.Bytes
import RowMap.Wire.Bytes

/-!
# Values as a server sees them

A parameter is bytes of a binary format and fits the types that use the format. Columns are
decoded by the name of their type. Dates count days and timestamps microseconds from 2000-01-01.
-/

namespace RowMap.Wire

open RowMap.Calendar
open RowMap.Text (utf8 ofUtf8?)

/-! ## Formats -/

/-- The binary formats. -/
inductive Format
  | bool | int2 | int4 | int8 | float4 | float8 | text | bytea | json | date | timestamp
  | timestamptz
deriving DecidableEq

namespace Format

/-- The types whose values have a format, the usual one first. -/
def typeNames : Format → List String
  | .bool => ["bool"]
  | .int2 => ["int2"]
  | .int4 => ["int4"]
  | .int8 => ["int8"]
  | .float4 => ["float4"]
  | .float8 => ["float8"]
  | .text => ["text", "varchar", "bpchar", "name", "unknown", "citext"]
  | .bytea => ["bytea"]
  | .json => ["jsonb", "json"]
  | .date => ["date"]
  | .timestamp => ["timestamp"]
  | .timestamptz => ["timestamptz"]

/-- The type that a value of a format has when nothing else is asked for. -/
def usualType : Format → String
  | .bool => "bool"
  | .int2 => "int2"
  | .int4 => "int4"
  | .int8 => "int8"
  | .float4 => "float4"
  | .float8 => "float8"
  | .text => "text"
  | .bytea => "bytea"
  | .json => "jsonb"
  | .date => "date"
  | .timestamp => "timestamp"
  | .timestamptz => "timestamptz"

end Format

/-! ## Calendar -/

/-- The day number of 2000-01-01. -/
def epochDay : Int := 10957

/-- Microseconds since 2000-01-01, without what is left of one. -/
def microseconds (t : LocalDateTime) : Int :=
  (((t.date.day - epochDay) * 86400 + t.time.second) * 1000000000 + t.time.nano).tdiv 1000

/-- The time of a count of microseconds, if the calendar reaches it. -/
def ofMicroseconds? (n : Int) : Option LocalDateTime :=
  let seconds := n / 1000000
  have h : (seconds % 86400).toNat < 86400 := by omega
  have h' : (n % 1000000).toNat * 1000 < 2000000000 := by omega
  (Date.ofDay? (epochDay + seconds / 86400)).map fun date =>
    ⟨date, ⟨(seconds % 86400).toNat, h⟩, ⟨(n % 1000000).toNat * 1000, h'⟩⟩

/-! ## Parameters -/

structure Parameter where
  format : Format
  /-- The bytes, without what a type adds to them, or nothing for a null. -/
  content : Option Bytes
deriving DecidableEq

/-- The largest number that eight bytes with a sign can hold. -/
def maxInt8 : Nat := UInt64.size / 2 - 1

def unsupported (v : Value) : StoreError := .other ("Unsupported value type in query: " ++ v.described)

def tooLarge (n : UInt64) : StoreError :=
  .other ("BigUnsigned value " ++ toString n.toNat ++ " exceeds i64::MAX (" ++ toString maxInt8 ++
    "), cannot be safely cast to i64")

/-- The format of a variant; times of day and variants without a name here have none. -/
def format? : Variant → Option Format
  | .bool => some .bool
  | .tinyInt | .smallInt | .tinyUnsigned => some .int2
  | .int | .smallUnsigned => some .int4
  | .bigInt | .unsigned | .bigUnsigned => some .int8
  | .float => some .float4
  | .double => some .float8
  | .string | .char => some .text
  | .bytes => some .bytea
  | .json => some .json
  | .date => some .date
  | .localDateTime => some .timestamp
  | .instant => some .timestamptz
  | .time | .other _ => none

/-- The bytes of a datum. -/
def encode : Datum → Bytes
  | .bool b => [if b then 1 else 0]
  | .tinyInt i => ofInt 2 i.toInt
  | .smallInt i => ofInt 2 i.toInt
  | .int i => ofInt 4 i.toInt
  | .bigInt i => ofInt 8 i.toInt
  | .tinyUnsigned n => ofNat 2 n.toNat
  | .smallUnsigned n => ofNat 4 n.toNat
  | .unsigned n => ofNat 8 n.toNat
  | .bigUnsigned n => ofNat 8 n.toNat
  | .float x => ofNat 4 x.bits.toNat
  | .double x => ofNat 8 x.bits.toNat
  | .string s => utf8 s
  | .char c => utf8 c.toString
  | .bytes bs => bs
  | .json j => utf8 (String.ofList j.compact)
  | .date d => ofInt 4 (d.day - epochDay)
  | .time _ | .other .. => []
  | .localDateTime t => ofInt 8 (microseconds t)
  | .instant t => ofInt 8 (microseconds t.utc)

/-- The parameter of a value. -/
def parameter (v : Value) : Except StoreError Parameter :=
  match format? v.variant, v with
  | none, _ => .error (unsupported v)
  | some f, .null _ => .ok ⟨f, none⟩
  | some f, .of (.bigUnsigned n) =>
    if n.toNat ≤ maxInt8 then .ok ⟨f, some (encode (.bigUnsigned n))⟩ else .error (tooLarge n)
  | some f, .of d => .ok ⟨f, some (encode d)⟩

/-- The parameters of values; the first that has none is an error. -/
def parameters (vs : List Value) : Except StoreError (List Parameter) := vs.mapM parameter

/-- The bytes of a parameter of a type, if the type has its format. The type `jsonb` marks them with
its version. -/
def Parameter.bindTo? (p : Parameter) (typeName : String) : Option (Option Bytes) :=
  if p.format.typeNames.contains typeName then
    some (p.content.map fun bytes => if typeName = "jsonb" then 1 :: bytes else bytes)
  else none

/-! ## Columns -/

/-- The format and variant of a column's type. -/
def columnFormat? : String → Option (Format × Variant)
  | "bool" => some (.bool, .bool)
  | "int2" => some (.int2, .smallInt)
  | "int4" => some (.int4, .int)
  | "int8" => some (.int8, .bigInt)
  | "float4" => some (.float4, .float)
  | "float8" => some (.float8, .double)
  | "text" | "varchar" | "bpchar" | "name" | "citext" => some (.text, .string)
  | "bytea" => some (.bytea, .bytes)
  | "json" | "jsonb" => some (.json, .json)
  | "date" => some (.date, .date)
  | "timestamp" => some (.timestamp, .localDateTime)
  | "timestamptz" => some (.timestamptz, .instant)
  | _ => none

/-- The document of a column; `jsonb` starts with its version. -/
def document? (typeName : String) (bytes : Bytes) : Option Json :=
  let body? := if typeName = "jsonb" then
      match bytes with
      | 1 :: rest => some rest
      | _ => none
    else some bytes
  body?.bind fun body => (ofUtf8? body).bind fun s => Json.read? s.toList

/-- The datum of a column's bytes. -/
def decode? (f : Format) (typeName : String) (bytes : Bytes) : Option Datum :=
  match f with
  | .bool => (nat? 1 bytes).map fun n => .bool (n ≠ 0)
  | .int2 => (int? 2 bytes).map fun i => .smallInt (Int16.ofInt i)
  | .int4 => (int? 4 bytes).map fun i => .int (Int32.ofInt i)
  | .int8 => (int? 8 bytes).map fun i => .bigInt (Int64.ofInt i)
  | .float4 => (nat? 4 bytes).map fun n => .float ⟨n.toUInt32⟩
  | .float8 => (nat? 8 bytes).map fun n => .double ⟨n.toUInt64⟩
  | .text => (ofUtf8? bytes).map .string
  | .bytea => some (.bytes bytes)
  | .json => (document? typeName bytes).map .json
  | .date => (int? 4 bytes).bind fun i => (Date.ofDay? (epochDay + i)).map .date
  | .timestamp => (int? 8 bytes).bind fun i => (ofMicroseconds? i).map .localDateTime
  | .timestamptz => (int? 8 bytes).bind fun i => (ofMicroseconds? i).map fun t => .instant ⟨t⟩

/-- The value of a column. -/
def columnValue (index : Nat) (name typeName : String) (content : Option Bytes) :
    Except StoreError Value :=
  match columnFormat? typeName with
  | none => .error (.parse ("unsupported column type " ++ typeName ++ " for column " ++ name))
  | some (f, v) =>
    match content with
    | none => .ok (.null v)
    | some bytes =>
      match decode? f typeName bytes with
      | some d => .ok (.of d)
      | none => .error (.ofExchange (.unreadableColumn index))

end RowMap.Wire
