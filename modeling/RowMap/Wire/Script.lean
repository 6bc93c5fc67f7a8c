import RowMap.Session.Script
import RowMap.Wire.Server

/-!
# Scripted backends

A scripted backend answers from a list of replies, one for each statement that is prepared and one
for each simple text. When none is left it answers with nothing. It keeps what it has seen.
-/

namespace RowMap.Wire

structure Reply where
  description : Description := ⟨[], []⟩
  answer : Answer := ⟨[], "SELECT 0"⟩
  /-- Why the statement cannot be prepared. -/
  parseError : Option ServerReport := none
  /-- Why it cannot be run. -/
  runError : Option ServerReport := none

/-- A text that the backend was sent. -/
inductive Seen
  | prepared (sql : String)
  | run (sql : String) (parameters : List (Option Bytes))
  | simple (sql : String)

structure Script where
  replies : List Reply := []
  /-- The reply to the statement that was prepared last. -/
  current : Reply := {}
  /-- What was seen, the last first. -/
  seen : List Seen := []

namespace Script

def take (s : Script) : Script :=
  match s.replies with
  | [] => { s with current := {} }
  | r :: rest => { s with current := r, replies := rest }

/-- The answer of the current reply, unless it has an error. -/
def answered {α : Type} (s : Script) (error : Option ServerReport) (a : α) :
    Except ServerReport α × Script :=
  match error with
  | some report => (.error report, s)
  | none => (.ok a, s)

instance : Backend Script where
  prepare sql s :=
    let s := if RowMap.Script.isControl sql then { s with current := {} } else s.take
    { s with seen := .prepared sql :: s.seen }.answered s.current.parseError s.current.description
  run sql parameters s :=
    { s with seen := .run sql parameters :: s.seen.tail }.answered s.current.runError
      s.current.answer
  simple sql s :=
    let s := s.take
    { s with seen := .simple sql :: s.seen }.answered
      (s.current.parseError <|> s.current.runError) ()

end Script

end RowMap.Wire
