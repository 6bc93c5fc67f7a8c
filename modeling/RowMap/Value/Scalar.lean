import RowMap.Value.Basic
import RowMap.Value.Enumeration

/-!
# Scalar types

The types whose data a column can hold. Binding turns a datum of a type into a value; there are two
ways back, `fromValue?` for what a type admits and `extract` for why it does not.
-/

namespace RowMap

inductive ScalarType
  | int16 | int32 | int64 | single | double | bool | text | bytes | json
  | date | localDateTime | instant
  | coded (e : Enumeration)
deriving DecidableEq

namespace ScalarType

/-- The data of a scalar type. -/
def Carrier : ScalarType → Type
  | .int16 => Int16
  | .int32 => Int32
  | .int64 => Int64
  | .single => Decimal.Single
  | .double => Decimal.Double
  | .bool => Bool
  | .text => String
  | .bytes => List UInt8
  | .json => Json
  | .date => Calendar.Date
  | .localDateTime => Calendar.LocalDateTime
  | .instant => Calendar.Instant
  | .coded e => e.Case

/-- The name of a type in declarations. -/
def name : ScalarType → String
  | .int16 => "i16"
  | .int32 => "i32"
  | .int64 => "i64"
  | .single => "f32"
  | .double => "f64"
  | .bool => "bool"
  | .text => "String"
  | .bytes => "Vec<u8>"
  | .json => "serde_json::Value"
  | .date => "NaiveDate"
  | .localDateTime => "NaiveDateTime"
  | .instant => "DateTime<Utc>"
  | .coded e => e.name

/-- The variant that values of a type have. -/
def variant : ScalarType → Variant
  | .int16 => .smallInt
  | .int32 => .int
  | .int64 => .bigInt
  | .single => .float
  | .double => .double
  | .bool => .bool
  | .text => .string
  | .bytes => .bytes
  | .json => .json
  | .date => .date
  | .localDateTime => .localDateTime
  | .instant => .instant
  | .coded _ => .int

/-- The types that are not coded. -/
def plain : List ScalarType :=
  [.int16, .int32, .int64, .single, .double, .bool, .text, .bytes, .json, .date, .localDateTime,
    .instant]

/-- The datum of a record that was given none. -/
def initial : (t : ScalarType) → t.Carrier
  | .int16 => (0 : Int16)
  | .int32 => (0 : Int32)
  | .int64 => (0 : Int64)
  | .single => Decimal.Single.zero
  | .double => Decimal.Double.zero
  | .bool => false
  | .text => ""
  | .bytes => ([] : List UInt8)
  | .json => Json.null
  | .date => Calendar.Date.epoch
  | .localDateTime => Calendar.LocalDateTime.epoch
  | .instant => Calendar.Instant.epoch
  | .coded e => e.initial

/-! ## Binding -/

def datum : (t : ScalarType) → t.Carrier → Datum
  | .int16, i => .smallInt i
  | .int32, i => .int i
  | .int64, i => .bigInt i
  | .single, x => .float x
  | .double, x => .double x
  | .bool, b => .bool b
  | .text, s => .string s
  | .bytes, bs => .bytes bs
  | .json, j => .json j
  | .date, d => .date d
  | .localDateTime, t => .localDateTime t
  | .instant, t => .instant t
  | .coded _, k => .int (Enumeration.Case.code k)

/-- The null of a type. -/
def null (t : ScalarType) : Value := .null t.variant

def bind (t : ScalarType) (x : t.Carrier) : Value := .of (t.datum x)

/-- Absence is bound as the null of the type. -/
def bindOption (t : ScalarType) : Option t.Carrier → Value
  | some x => t.bind x
  | none => t.null

/-! ## What a type admits -/

/-- The datum as one of the type, if the type admits it. -/
def ofDatum? : (t : ScalarType) → Datum → Option t.Carrier
  | .int16, .smallInt i => some i
  | .int32, .int i => some i
  | .int64, .bigInt i => some i
  | .single, .float x => some x
  | .double, .double x => some x
  | .bool, .bool b => some b
  | .text, .string s => some s
  | .bytes, .bytes bs => some bs
  | .json, .json j => some j
  | .date, .date d => some d
  | .localDateTime, .localDateTime t => some t
  | .instant, .instant t => some t
  | .coded e, .int c => e.ofCode? c
  | _, _ => none

def fromValue? (t : ScalarType) : Value → Option t.Carrier
  | .of d => t.ofDatum? d
  | .null _ => none

/-- An optional datum also admits the null of its type. -/
def fromValueOption? (t : ScalarType) (v : Value) : Option (Option t.Carrier) :=
  match t.fromValue? v, v with
  | some x, _ => some (some x)
  | none, .null u => if u = t.variant then some none else none
  | none, .of _ => none

end ScalarType

/-! ## Why a value is refused -/

inductive ExtractionError
  | nullValue
  | typeMismatch (expected actual : String)
  | missingColumn (position : Nat)
  | conversion (message : String)
deriving DecidableEq

def ExtractionError.message : ExtractionError → String
  | .nullValue => "Value is null"
  | .typeMismatch expected actual => "Type mismatch: expected " ++ expected ++ ", got " ++ actual
  | .missingColumn position => "Row has no column at position " ++ toString position
  | .conversion message => "Conversion error: " ++ message

namespace ScalarType

def mismatch (t : ScalarType) (v : Value) : ExtractionError :=
  .typeMismatch t.variant.name v.described

/-- The datum of a value of exactly this type. -/
def extract : (t : ScalarType) → Value → Except ExtractionError t.Carrier
  | .coded e, .of (.int c) =>
    match e.ofCode? c with
    | some k => .ok k
    | none => .error (.conversion ("unknown " ++ e.noun ++ " code " ++ toString c.toInt))
  | t, .of d =>
    match t.ofDatum? d with
    | some x => .ok x
    | none => .error (t.mismatch (.of d))
  | t, .null u => .error (if u = t.variant then .nullValue else t.mismatch (.null u))

/-- The datum of a value of exactly this type, or its absence. -/
def extractOption (t : ScalarType) (v : Value) : Except ExtractionError (Option t.Carrier) :=
  match t.extract v with
  | .ok x => .ok (some x)
  | .error .nullValue => .ok none
  | .error e => .error e

end ScalarType

/-! ## Borrowed texts

A text that is only borrowed is bound like any other text. -/

namespace BorrowedText

def null : Value := ScalarType.text.null
def bind (s : String) : Value := ScalarType.text.bind s

/-- Nothing is borrowed from a value, which need not live long enough. -/
def fromValue? (_ : Value) : Option String := none

end BorrowedText

end RowMap
