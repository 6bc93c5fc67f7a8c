import RowMap.Record.Convert
import RowMap.Statement.Basic
import RowMap.Text.Truncated

/-!
# What a run leaves behind

The events of a run in order: statements that were handed over, lines of the log, and spans that
were opened.
-/

namespace RowMap

inductive Level
  | debug | info | warn
deriving DecidableEq

def Level.name : Level → String
  | .debug => "DEBUG"
  | .info => "INFO"
  | .warn => "WARN"

inductive Event
  | statement (s : Statement)
  | log (level : Level) (target text : String)
  | span (name : String) (fields : List (String × String))

namespace Event

def statement? : Event → Option Statement
  | .statement s => some s
  | _ => none

/-- The line that shows a log line or a span. -/
def line? : Event → Option String
  | .statement _ => none
  | .log level target text => some (level.name ++ " " ++ target ++ ": " ++ text)
  | .span name fields =>
    some (" ".intercalate ("SPAN" :: name :: fields.map fun (field, v) => field ++ "=" ++ v))

/-! ## Log lines -/

/-- A statement is logged on one line. -/
def ofStatement (s : Statement) : Event := .log .info "shelfmap::sql" s.minified

def ofIssue (i : Conversion.Issue) : Event :=
  .log .debug "shelfmap::convert" ("conversion skipped " ++ i.message)

def connected (user : String) : Event := .log .debug "shelfmap::connection" ("connected as " ++ user)

def droppedOpen (depth : Nat) : Event :=
  .log .warn "shelfmap::transaction"
    ("transaction dropped while open (depth " ++ toString depth ++ "), rolling back")

def dropFailed (message : String) : Event :=
  .log .warn "shelfmap::transaction" ("rollback on drop failed: " ++ message)

/-! ## Spans -/

/-- Spans show this many bytes of a statement at most. -/
def statementLimit : Nat := 256

def queryText (sql : String) : String := String.ofList (Text.truncated statementLimit sql.toList)

def querySpan (sql : String) : Event :=
  .span "shelfmap.execute_query" [("db.system", "postgresql"), ("db.statement", queryText sql)]

def connectSpan : Event := .span "shelfmap.connect" [("db.system", "postgresql")]

def depthSpan (step : String) (depth : Nat) : Event :=
  .span ("shelfmap.transaction." ++ step) [("depth", toString depth)]

def beginSpan (depth : Nat) : Event := depthSpan "begin" depth
def commitSpan (depth : Nat) : Event := depthSpan "commit" depth
def rollbackSpan (depth : Nat) : Event := depthSpan "rollback" depth

end Event

end RowMap
