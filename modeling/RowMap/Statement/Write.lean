import RowMap.Record.Columns
import RowMap.Statement.Condition
import RowMap.Statement.Marker

/-!
# Building insertions and updates

Both start from a record, whose writable columns they set, or from nothing.
-/

namespace RowMap

/-! ## Insertions -/

structure Insert where
  table : String
  columns : List String := []
  values : List Value := []
  returning : List String := []

namespace Insert

/-- Sets the writable columns of a record. -/
def ofRecord {s : Shape} (r : Record s) : Insert :=
  let (columns, values) := r.writableValues.unzip
  { table := s.table, columns, values }

def value (q : Insert) (column : String) (v : Value) : Insert :=
  { q with columns := q.columns ++ [column], values := q.values ++ [v] }

def withReturning (q : Insert) (columns : List String) : Insert :=
  { q with returning := q.returning ++ columns }

/-- The text with anonymous markers, one for each column. -/
def text (q : Insert) : String :=
  (if q.columns.isEmpty then "INSERT INTO " ++ q.table ++ " DEFAULT VALUES"
    else "INSERT INTO " ++ q.table ++ " (" ++ commaList q.columns ++ ") VALUES (" ++
      commaList (q.columns.map fun _ => "?") ++ ")") ++
    returningClause q.returning

def build (q : Insert) : Statement := .ofMarked q.text q.values

end Insert

/-! ## Updates -/

structure Update where
  table : String
  setters : List String := []
  /-- The values of the markers in the setters. -/
  values : List Value := []
  conditions : List Condition := []
  returning : List String := []

namespace Update

def ofTable (table : String) : Update := { table }

def set (q : Update) (column : String) (v : Value) : Update :=
  { q with setters := q.setters ++ [column ++ " = ?"], values := q.values ++ [v] }

/-- Sets the writable columns of a record. -/
def ofRecord {s : Shape} (r : Record s) : Update :=
  r.writableValues.foldl (fun q (c, v) => q.set c v) (ofTable s.table)

def setRaw (q : Update) (setter : String) : Update := { q with setters := q.setters ++ [setter] }

def filter (q : Update) (c : Condition) : Update := { q with conditions := q.conditions ++ [c] }

def withReturning (q : Update) (columns : List String) : Update :=
  { q with returning := q.returning ++ columns }

/-- The text with anonymous markers, those of the setters first. -/
def text (q : Update) : String :=
  "UPDATE " ++ q.table ++ " SET " ++ commaList q.setters ++ whereClause q.conditions ++
    returningClause q.returning

def build (q : Update) : Statement := .ofMarked q.text (q.values ++ conditionValues q.conditions)

end Update

end RowMap
