import RowMap.Session
import RowMap.Wire.Format

/-!
# Servers behind a wire

A statement is prepared first: the server names the types of its parameters and columns. Then it
is run with the bytes of the parameters, and answers with the bytes of rows and a tag, whose last
word counts the rows.
-/

namespace RowMap.Wire

/-- What a server says of a prepared statement. -/
structure Description where
  parameters : List String
  /-- Names and types. -/
  columns : List (String × String)

structure Answer where
  rows : List (List (Option Bytes))
  tag : String

class Backend (β : Type) where
  prepare : String → β → Except ServerReport Description × β
  run : String → List (Option Bytes) → β → Except ServerReport Answer × β
  /-- Runs a text without preparing it, and drops what it returns. -/
  simple : String → β → Except ServerReport Unit × β

/-- The server of a backend. -/
structure Wired (β : Type) where
  backend : β

/-- The bytes of parameters of types. -/
def bindAll : Nat → List Parameter → List String → Except ExchangeError (List (Option Bytes))
  | index, p :: ps, t :: ts =>
    match p.bindTo? t with
    | none => .error (.unwritableParameter index)
    | some bytes => (bindAll (index + 1) ps ts).map fun more => bytes :: more
  | _, _, _ => .ok []

/-- The bytes of just as many parameters as a statement has. -/
def bound (d : Description) (ps : List Parameter) : Except ExchangeError (List (Option Bytes)) :=
  if ps.length = d.parameters.length then bindAll 0 ps d.parameters
  else .error (.parameterCount d.parameters.length ps.length)

/-- The number at the end of a tag, and 0 when there is none or 64 bits cannot hold it. -/
def tagCount (tag : String) : Nat :=
  let word := (tag.toList.reverse.takeWhile (· ≠ ' ')).reverse
  match Decimal.natOf? (if word.head? = some '+' then word.tail else word) with
  | some n => if n < UInt64.size then n else 0
  | none => 0

/-- The values of a row, column by column. -/
def rowValues : Nat → List (String × String) → List (Option Bytes) →
    Except StoreError (List Value)
  | index, (name, typeName) :: columns, content :: rest => do
    let v ← columnValue index name typeName content
    return v :: (← rowValues (index + 1) columns rest)
  | _, _, _ => .ok []

def row (d : Description) (contents : List (Option Bytes)) : Except StoreError Row :=
  (rowValues 0 d.columns contents).map fun values => ⟨d.columns.map Prod.fst, values⟩

variable {β α : Type} [Backend β]

/-- Prepares, binds and runs a statement. Values without a parameter never reach the server. -/
def exchange (s : Statement) (read : Description → Answer → Except StoreError α) (w : Wired β) :
    Except StoreError α × Wired β :=
  match parameters s.values with
  | .error e => (.error e, w)
  | .ok ps =>
    match Backend.prepare s.sql w.backend with
    | (.error report, backend) => (.error (.ofExchange (.refused report)), ⟨backend⟩)
    | (.ok d, backend) =>
      match bound d ps with
      | .error e => (.error (.ofExchange e), ⟨backend⟩)
      | .ok contents =>
        match Backend.run s.sql contents backend with
        | (.error report, backend) => (.error (.ofExchange (.refused report)), ⟨backend⟩)
        | (.ok answer, backend) => (read d answer, ⟨backend⟩)

instance : Server (Wired β) where
  announce s := [.querySpan s.sql]
  execute s := exchange s fun _ answer => .ok (tagCount answer.tag)
  query s := exchange s fun d answer => answer.rows.mapM (row d)

/-- Asks the server for anything at all, to see whether it answers. -/
def isHealthy {μ : Type} : Action (Wired β) μ Bool := fun s =>
  let (answer, backend) := Backend.simple "SELECT 1" s.server.backend
  (.ok answer.toBool, ⟨⟨backend⟩, s.memory, s.events⟩)

end RowMap.Wire
