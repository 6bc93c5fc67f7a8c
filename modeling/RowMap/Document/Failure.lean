import RowMap.Error
import RowMap.Json.Parts
import RowMap.Record.Convert

/-!
# Errors and reports as documents

An error is written as its kind and its message, and what else is known of it.
-/

namespace RowMap

/-- An object of messages by field. -/
def ValidationErrors.toJson (errors : ValidationErrors) : Json :=
  .ofMembers (errors.entries.map fun (field, message) => (field, .string message))

namespace ExtractionError

def kind : ExtractionError → String
  | .nullValue => "NullValue"
  | .typeMismatch .. => "TypeMismatch"
  | .missingColumn _ => "MissingColumn"
  | .conversion _ => "ConversionError"

def toJson (e : ExtractionError) : Json :=
  .ofMembers [("error", .string e.kind), ("message", .string e.message)]

def ofJson? (j : Json) : Option ExtractionError := do
  let text (name : String) : Option String := Json.text? (j.memberOrNull name)
  match ← text "kind" with
  | "NullValue" => return .nullValue
  | "TypeMismatch" => return .typeMismatch (← text "expected") (← text "actual")
  | "MissingColumn" => return .missingColumn (← Json.word? 64 (j.memberOrNull "index"))
  | "ConversionError" => return .conversion (← text "message")
  | _ => none

end ExtractionError

namespace StoreError

def kind : StoreError → String
  | .exchange _ => "PostgresError"
  | .missingParameter _ => "MissingParameter"
  | .validation _ => "Validation"
  | .notFound => "NotFound"
  | .editConflict => "EditConflict"
  | .constraintViolation .. => "ConstraintViolation"
  | .timeout => "Timeout"
  | .rollback .. => "Rollback"
  | .query _ => "QueryError"
  | .parse _ => "ParseError"
  | .other _ => "Other"
  | .calendarOverflow => "CalendarOverflow"

/-- What is known of an error beside its message. -/
def details : StoreError → List (String × Json)
  | .validation errors => [("fields", errors.toJson)]
  | .exchange (.refused report) =>
    [("source", .bool true), ("db", .array [.string report.code, .string report.message,
      Json.ofOption .string report.constraint])]
  | .exchange _ => [("source", .bool true)]
  | _ => []

def toJson (e : StoreError) : Json :=
  .ofMembers (("error", .string e.kind) :: ("message", .string e.message) :: e.details)

/-- Errors inside each other up to a depth. Failed exchanges and overflows cannot be read. -/
def ofJsonWithin? : Nat → Json → Option StoreError
  | 0, _ => none
  | depth + 1, j => do
    let text (name : String) : Option String := Json.text? (j.memberOrNull name)
    match ← text "kind" with
    | "MissingParameter" => return .missingParameter (← text "message")
    | "Validation" =>
      let entries ← (← Json.items? (j.memberOrNull "errors")).mapM (Json.pair? Json.text? Json.text?)
      return .validation (.ofList entries)
    | "NotFound" => return .notFound
    | "EditConflict" => return .editConflict
    | "ConstraintViolation" =>
      return .constraintViolation (← text "constraint") (← text "message")
    | "Timeout" => return .timeout
    | "Rollback" =>
      return .rollback (← ofJsonWithin? depth (j.memberOrNull "error"))
        (← ofJsonWithin? depth (j.memberOrNull "rollback"))
    | "QueryError" => return .query (← text "message")
    | "ParseError" => return .parse (← text "message")
    | "Other" => return .other (← text "message")
    | _ => none

def ofJson? (j : Json) : Option StoreError := ofJsonWithin? j.depth j

end StoreError

namespace Conversion

def Cause.toJson : Cause → Json
  | .unmatched => .array [.string "Unmatched"]
  | .typeMismatch source destination =>
    .array [.string "TypeMismatch", .string source, .string destination]
  | .shapeMismatch source destination =>
    .array [.string "ShapeMismatch", .string source.name, .string destination.name]

def Issue.toJson (i : Issue) : Json :=
  .ofMembers [("path", .string i.path), ("kind", i.cause.toJson), ("text", .string i.message)]

end Conversion

end RowMap
