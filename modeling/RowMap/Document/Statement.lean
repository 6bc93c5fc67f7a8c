import RowMap.Document.Vocabulary
import RowMap.Statement.Select
import RowMap.Statement.Write

/-!
# Statements as documents

A statement is described by a list of steps, each of which adds a part to it. A step that names a
column of a shape fails when the shape has none.
-/

namespace RowMap

def malformed : StoreError := .parse "document not understood"

/-- A part of a document. -/
def understood {α : Type} : Option α → Except StoreError α
  | some a => .ok a
  | none => .error malformed

def textAt (j : Json) (name : String) : Except StoreError String :=
  understood (Json.text? (j.memberOrNull name))

def textsAt (j : Json) (name : String) : Except StoreError (List String) :=
  understood do (← Json.items? (j.memberOrNull name)).mapM Json.text?

def int64At (j : Json) (name : String) : Except StoreError Int64 :=
  understood (Json.int64? (j.memberOrNull name))

def valuesAt (j : Json) (name : String) : Except StoreError (List Value) :=
  understood do (← Json.items? (j.memberOrNull name)).mapM Value.ofJson?

/-- What the steps of an object make of a statement. -/
def extended {α : Type} (step : α → Json → Except StoreError α) (start : α) (j : Json) :
    Except StoreError α := do
  (← understood (Json.items? (j.memberOrNull "steps"))).foldlM step start

namespace Vocabulary

variable (v : Vocabulary)

def boundAt (j : Json) (name : String) : Except StoreError Value :=
  understood (v.bound? (j.memberOrNull name))

def shapeAt (j : Json) (name : String) : Except StoreError Shape :=
  understood (v.shape? (j.memberOrNull name))

/-! ## Columns and conditions -/

def column (j : Json) : Except StoreError Column := do
  let c ← match j.given? "of", j.given? "bare" with
    | some s, _ => Column.ofField (← understood (v.shape? s)) (← textAt j "field")
    | none, some name => .bare <$> understood (Json.text? name)
    | none, none => pure ⟨← textAt j "table", ← textAt j "name"⟩
  match j.memberOrNull "alias" with
  | .null => return c
  | name => return c.aliased (← understood (Json.text? name))

def comparison? : String → Option Comparison
  | "eq" => some .eq
  | "ne" => some .ne
  | "gt" => some .gt
  | "gte" => some .gte
  | "lt" => some .lt
  | "lte" => some .lte
  | _ => none

/-- A column compared with a value, or with null. -/
def compared (j : Json) : Except StoreError Condition := do
  let c ← v.column (j.memberOrNull "col")
  match ← textAt j "cmp" with
  | "is_null" => return c.isNull
  | "is_not_null" => return c.isNotNull
  | sign => return c.compare (← understood (comparison? sign)) (← v.boundAt j "value")

def condition (j : Json) : Except StoreError Condition := do
  match j.given? "raw" with
  | some text => return ⟨← understood (Json.text? text), ← valuesAt j "values"⟩
  | none => v.compared j

/-! ## Steps -/

def selectStep (q : Select) (j : Json) : Except StoreError Select := do
  match ← textAt j "do" with
  | "alias" => return q.withAlias (← textAt j "v")
  | "columns_of" => return q.columnsOf (← v.shapeAt j "rec")
  | "aliased_columns_of" => return q.aliasedColumnsOf (← v.shapeAt j "rec") (← textAt j "v")
  | "columns" => return q.withColumns (← textsAt j "v")
  | "select_all" => return q.selectAll
  | "join" => return q.join (← textAt j "v")
  | "filter" => return q.filter (← v.condition (j.memberOrNull "cond"))
  | "order_by" =>
    let direction := if (← textAt j "dir") = "desc" then SortDirection.descending else .ascending
    return q.orderBy (← textAt j "v") direction
  | "limit" => return q.withLimit (← int64At j "v")
  | "offset" => return q.withOffset (← int64At j "v")
  | _ => .error malformed

def insertStep (q : Insert) (j : Json) : Except StoreError Insert := do
  match ← textAt j "do" with
  | "value" => return q.value (← textAt j "column") (← v.boundAt j "value")
  | "returning" => return q.withReturning (← textsAt j "v")
  | _ => .error malformed

def updateStep (q : Update) (j : Json) : Except StoreError Update := do
  match ← textAt j "do" with
  | "set" => return q.set (← textAt j "column") (← v.boundAt j "value")
  | "set_raw" => return q.setRaw (← textAt j "v")
  | "filter" => return q.filter (← v.condition (j.memberOrNull "cond"))
  | "returning" => return q.withReturning (← textsAt j "v")
  | _ => .error malformed

end Vocabulary

end RowMap
