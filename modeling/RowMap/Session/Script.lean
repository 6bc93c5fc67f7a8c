import RowMap.Session
import RowMap.Text.Characters

/-!
# Scripted servers

A scripted server stands in for a real one: it answers from a list of replies, one for each
statement. Statements that control a transaction succeed without a reply, and statements with a
chosen beginning fail.
-/

namespace RowMap

inductive Script.Reply
  | rows (rows : List (List Value))
  | affected (count : Nat)
  | failure (e : StoreError)

/-- The replies that are left, and what fails by its beginning; the first rule counts. -/
structure Script where
  replies : List Script.Reply := []
  failures : List (String × StoreError) := []

namespace Script

/-- A text starts with another one, blanks at its start apart. -/
def startsWith (sql start : String) : Bool := start.toList.isPrefixOf (Text.trimStart sql.toList)

/-- The beginnings of statements that control a transaction. -/
def controlWords : List String := ["BEGIN", "COMMIT", "ROLLBACK", "SAVEPOINT", "RELEASE"]

/-- The statement controls a transaction. -/
def isControl (sql : String) : Bool := controlWords.any (startsWith sql)

def exhausted : StoreError := .query "no scripted reply"

/-- The reply to a statement, and the script after it. -/
def reply (s : Statement) (script : Script) : Except StoreError Reply × Script :=
  match script.failures.find? fun (start, _) => startsWith s.sql start with
  | some (_, e) => (.error e, script)
  | none =>
    if isControl s.sql || startsWith s.sql "SET " then (.ok (.affected 0), script)
    else match script.replies with
      | [] => (.error exhausted, script)
      | .failure e :: rest => (.error e, { script with replies := rest })
      | r :: rest => (.ok r, { script with replies := rest })

def Reply.count : Reply → Nat
  | .rows content => content.length
  | .affected n => n
  | .failure _ => 0

def Reply.toRows : Reply → List Row
  | .rows content => content.map Row.ofValues
  | _ => []

instance : Server Script where
  execute s script :=
    let (answer, script) := script.reply s
    (answer.map Reply.count, script)
  query s script :=
    let (answer, script) := script.reply s
    (answer.map Reply.toRows, script)

end Script

end RowMap
