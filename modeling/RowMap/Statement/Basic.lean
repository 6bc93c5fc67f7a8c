import RowMap.Text.Characters
import RowMap.Value.Basic

/-!
# Statements

A statement is a text of SQL with numbered markers `$1`, `$2`, …, and the values bound to them.
-/

namespace RowMap

structure Statement where
  sql : String
  values : List Value

/-- The words of a text with single blanks between them. -/
def minify (sql : List Char) : List Char := joined [' '] (Text.words sql)

/-- The text of a statement on one line, for logs. -/
def Statement.minified (s : Statement) : String := String.ofList (minify s.sql.toList)

/-- The text of the marker of a number. -/
def marker (number : Nat) : List Char := '$' :: Decimal.natDigits number

end RowMap
