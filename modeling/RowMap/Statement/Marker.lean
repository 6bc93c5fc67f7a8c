import RowMap.Statement.Basic

/-!
# Anonymous markers

While a statement is put together, a question mark stands for a value. Two of them are one question
mark of the text. The markers are numbered at the end, from left to right.
-/

namespace RowMap

/-- The text with its markers numbered from a number on. -/
def renumberFrom : Nat → List Char → List Char
  | _, [] => []
  | n, '?' :: '?' :: rest => '?' :: renumberFrom n rest
  | n, '?' :: rest => marker n ++ renumberFrom (n + 1) rest
  | n, c :: rest => c :: renumberFrom n rest

def renumber (sql : List Char) : List Char := renumberFrom 1 sql

/-- The statement of a text with anonymous markers. -/
def Statement.ofMarked (sql : String) (values : List Value) : Statement :=
  ⟨String.ofList (renumber sql.toList), values⟩

end RowMap
