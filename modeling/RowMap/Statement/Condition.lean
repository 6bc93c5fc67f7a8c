import RowMap.Error
import RowMap.Record.Meta

/-!
# Columns and conditions

A condition is a text with anonymous markers and the values of these markers.
-/

namespace RowMap

/-- A column, and the table or alias it belongs to, which may be empty. -/
structure Column where
  table : String
  name : String
deriving DecidableEq

structure Condition where
  text : String
  values : List Value

inductive Comparison
  | eq | ne | gt | gte | lt | lte
deriving DecidableEq

def Comparison.sign : Comparison → String
  | .eq => "="
  | .ne => "<>"
  | .gt => ">"
  | .gte => ">="
  | .lt => "<"
  | .lte => "<="

namespace Column

def bare (name : String) : Column := ⟨"", name⟩

/-- The column of a declared field. -/
def ofField (s : Shape) (field : String) : Except StoreError Column :=
  match (s.index? field).bind fun i => s.metas[i]? with
  | none => .error (.other (s.typeName ++ " has no field " ++ field))
  | some m =>
    match m.column with
    | none => .error (.other ("field " ++ field ++ " of " ++ s.typeName ++ " has no db column"))
    | some c => .ok ⟨s.table, c⟩

def aliased (c : Column) (name : String) : Column := { c with table := name }

def qualified (c : Column) : String := if c.table.isEmpty then c.name else c.table ++ "." ++ c.name

def compare (c : Column) (k : Comparison) (v : Value) : Condition :=
  ⟨c.qualified ++ " " ++ k.sign ++ " ?", [v]⟩

def isNull (c : Column) : Condition := ⟨c.qualified ++ " IS NULL", []⟩

def isNotNull (c : Column) : Condition := ⟨c.qualified ++ " IS NOT NULL", []⟩

end Column

/-! ## Clauses -/

/-- The texts with commas between them. -/
def commaList (texts : List String) : String := ", ".intercalate texts

/-- The clause that keeps the rows for which all conditions hold. -/
def whereClause (conditions : List Condition) : String :=
  if conditions.isEmpty then ""
  else " WHERE " ++ " AND ".intercalate (conditions.map Condition.text)

def conditionValues (conditions : List Condition) : List Value := conditions.flatMap Condition.values

def returningClause (columns : List String) : String :=
  if columns.isEmpty then "" else " RETURNING " ++ commaList columns

end RowMap
