import RowMap.Validation
import RowMap.Value.Scalar

/-!
# What can go wrong

Errors are the causes; `message` has the words. A failed rollback keeps the error that led to it.
-/

namespace RowMap

/-- What a server says of a statement that it refused. -/
structure ServerReport where
  code : String
  message : String
  /-- The constraint that the statement violated. -/
  constraint : Option String
deriving DecidableEq

/-- Why the exchange with a server failed. -/
inductive ExchangeError
  | refused (report : ServerReport)
  | unreadableColumn (index : Nat)
  | unwritableParameter (index : Nat)
  | parameterCount (expected given : Nat)
deriving DecidableEq

def ExchangeError.message : ExchangeError → String
  | .refused _ => "db error"
  | .unreadableColumn index => "error deserializing column " ++ toString index
  | .unwritableParameter index => "error serializing parameter " ++ toString index
  | .parameterCount expected given =>
    "expected " ++ toString expected ++ " parameters but got " ++ toString given

inductive StoreError
  | exchange (cause : ExchangeError)
  | missingParameter (name : String)
  | validation (errors : ValidationErrors)
  | notFound
  /-- The record has changed since it was read. -/
  | editConflict
  | constraintViolation (constraint message : String)
  | timeout
  /-- An error, and the failure of the rollback that followed it. -/
  | rollback (cause failure : StoreError)
  | query (message : String)
  | parse (message : String)
  | other (message : String)
  /-- An instant lies beyond the calendar. -/
  | calendarOverflow
deriving DecidableEq

namespace StoreError

def message : StoreError → String
  | .exchange cause => "PostgreSQL error: " ++ cause.message
  | .missingParameter name => "missing query parameter: " ++ name
  | .validation errors => "validation failed: " ++ errors.message
  | .notFound => "record not found"
  | .editConflict => "edit conflict"
  | .constraintViolation constraint message => "constraint " ++ constraint ++ " violated: " ++ message
  | .timeout => "statement timed out"
  | .rollback cause failure => cause.message ++ "; rollback failed: " ++ failure.message
  | .query message => "Query error: " ++ message
  | .parse message => "Parse error: " ++ message
  | .other message => "Execution error: " ++ message
  | .calendarOverflow => "`DateTime + TimeDelta` overflowed"

/-- The messages of the errors that led to an error, the nearest first. -/
def causes : StoreError → List String
  | .exchange cause => [cause.message]
  | .rollback cause _ => cause.message :: cause.causes
  | _ => []

/-- The code of a statement that was cancelled because it took too long. -/
def queryCancelled : String := "57014"

/-- A failed exchange, with timeouts and violated constraints told apart. -/
def ofExchange : ExchangeError → StoreError
  | .refused report =>
    if report.code = queryCancelled then .timeout
    else match report.constraint with
      | some constraint => .constraintViolation constraint report.message
      | none => .exchange (.refused report)
  | cause => .exchange cause

def ofExtraction (e : ExtractionError) : StoreError := .parse e.message

end StoreError

end RowMap
