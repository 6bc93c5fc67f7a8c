import RowMap.Statement.Condition
import RowMap.Statement.Marker

/-!
# Building queries

The parts of a query are collected in any order; the text has them in the order of SQL.
-/

namespace RowMap

inductive SortDirection
  | ascending | descending
deriving DecidableEq

def SortDirection.keyword : SortDirection → String
  | .ascending => "ASC"
  | .descending => "DESC"

structure Select where
  table : String
  tableAlias : Option String := none
  columns : List String := []
  joins : List String := []
  conditions : List Condition := []
  order : List (String × SortDirection) := []
  limit : Option Int64 := none
  offset : Option Int64 := none

namespace Select

def ofTable (table : String) : Select := { table }

/-- The name that stands for the table in the query. -/
def qualifier (q : Select) : String := q.tableAlias.getD q.table

def withAlias (q : Select) (name : String) : Select := { q with tableAlias := some name }

def withColumns (q : Select) (columns : List String) : Select :=
  { q with columns := q.columns ++ columns }

/-- Adds the columns of a shape under an alias. -/
def aliasedColumnsOf (q : Select) (s : Shape) (name : String) : Select :=
  q.withColumns (s.qualifiedColumns name)

/-- Adds the columns of a shape under the name that the table has by now. -/
def columnsOf (q : Select) (s : Shape) : Select := q.aliasedColumnsOf s q.qualifier

def selectAll (q : Select) : Select := q.withColumns ["*"]

def join (q : Select) (clause : String) : Select := { q with joins := q.joins ++ [clause] }

def filter (q : Select) (c : Condition) : Select := { q with conditions := q.conditions ++ [c] }

def orderBy (q : Select) (expression : String) (d : SortDirection) : Select :=
  { q with order := q.order ++ [(expression, d)] }

def withLimit (q : Select) (limit : Int64) : Select := { q with limit := some limit }

def withOffset (q : Select) (offset : Int64) : Select := { q with offset := some offset }

def orderClause (order : List (String × SortDirection)) : String :=
  if order.isEmpty then ""
  else " ORDER BY " ++ commaList (order.map fun (e, d) => e ++ " " ++ d.keyword)

/-- The text with anonymous markers. -/
def text (q : Select) : String :=
  "SELECT " ++ (if q.columns.isEmpty then "*" else commaList q.columns) ++ " FROM " ++ q.table ++
    (match q.tableAlias with
      | some name => " " ++ name
      | none => "") ++
    String.join (q.joins.map fun clause => " " ++ clause) ++
    whereClause q.conditions ++ orderClause q.order ++
    (if q.limit.isSome then " LIMIT ?" else "") ++ (if q.offset.isSome then " OFFSET ?" else "")

def values (q : Select) : List Value :=
  conditionValues q.conditions ++ q.limit.toList.map ScalarType.int64.bind ++
    q.offset.toList.map ScalarType.int64.bind

def build (q : Select) : Statement := .ofMarked q.text q.values

end Select

end RowMap
