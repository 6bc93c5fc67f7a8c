import RowMap.Error

/-!
# Rows

A row is what a query returns: values, and the names of their columns where these are known. A
cursor reads its values from left to right.
-/

namespace RowMap

structure Row where
  columns : List String
  values : List Value

namespace Row

/-- A row whose columns have no names. -/
def ofValues (values : List Value) : Row := ⟨[], values⟩

def get? (r : Row) (index : Nat) : Option Value := r.values[index]?

/-- The value of the first column of a name. -/
def getByName? (r : Row) (name : String) : Option Value :=
  (r.columns.findIdx? fun c => c = name).bind r.get?

def extract (r : Row) (index : Nat) (t : ScalarType) : Except ExtractionError t.Carrier :=
  match r.get? index with
  | some v => t.extract v
  | none => .error (.missingColumn index)

end Row

/-! ## Cursors -/

structure Cursor where
  row : Row
  position : Nat := 0

namespace Cursor

/-- The values that are left. -/
def remaining (c : Cursor) : Nat := c.row.values.length - c.position

/-- The next value, and the cursor after it. At the end the cursor stays. -/
def next (c : Cursor) : Except ExtractionError Value × Cursor :=
  match c.row.get? c.position with
  | some v => (.ok v, { c with position := c.position + 1 })
  | none => (.error (.missingColumn c.position), c)

/-- The next value as a datum. The cursor passes a value that is refused. -/
def nextAs (c : Cursor) (t : ScalarType) : Except ExtractionError t.Carrier × Cursor :=
  match c.next with
  | (.ok v, c) => (t.extract v, c)
  | (.error e, c) => (.error e, c)

def skip (c : Cursor) (count : Nat) : Cursor := { c with position := c.position + count }

end Cursor

def Row.cursor (r : Row) : Cursor := { row := r }

end RowMap
