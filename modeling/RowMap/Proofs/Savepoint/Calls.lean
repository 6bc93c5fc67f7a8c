import RowMap.Proofs.Savepoint.Database
import RowMap.Proofs.Session.Transcript

/-!
# Calls on a database

What opening, using and closing a transaction makes of a database. A call is one statement, apart
from a commit that fails, which sends the rollback as well.
-/

namespace RowMap.Savepoint

/-- A statement that controls nothing, sent for the number of its rows or for the rows. -/
structure Request where
  statement : Statement
  isQuery : Bool := false
  plain : Control.ofText statement.sql = none

namespace Request

/-- A failure is seen, but the next call is made all the same. -/
def send {σ μ : Type} [Server σ] (r : Request) : Action σ μ Unit := do
  if r.isQuery then
    let _ ← (Action.query r.statement).attempt
  else
    let _ ← (Action.execute r.statement).attempt

end Request

/-- Every statement succeeds. -/
def Responder.willing : Responder := fun _ _ => .affected 1

def Request.insertBook : Request where
  statement := ⟨"INSERT INTO books DEFAULT VALUES", []⟩
  plain := by decide

def Request.deletePlans : Request where
  statement := ⟨"DELETE FROM reading_plans", []⟩
  plain := by decide

variable {respond : Responder} {μ : Type}

namespace Database

def command (db : Database respond) (sql : String) :
    Except StoreError Script.Reply × Database respond := db.answer ⟨sql, []⟩

section
variable {db : Database respond} {sql : String} {w : Work} {c : Control}

theorem command_control (h : Control.ofText sql = some c) :
    db.command sql = ((db.control c).1, { (db.control c).2 with clock := db.clock + 1 }) :=
  answer_control (s := ⟨sql, []⟩) h

theorem command_followed (hwork : db.work? = some w) (h : Control.ofText sql = some c)
    (hinner : c.closes = false) {w' : Work} (hw' : w.control db.clock c = some w') :
    db.command sql = (done, { db with work? := some w', clock := db.clock + 1 }) :=
  answer_followed (s := ⟨sql, []⟩) hwork h hinner hw'

theorem command_refused (hwork : db.work? = some w) (h : Control.ofText sql = some c)
    (hinner : c.closes = false) (hw : w.control db.clock c = none) :
    db.command sql = (.error Work.aborted, db.refusing w) :=
  answer_refused (s := ⟨sql, []⟩) hwork h hinner hw

end

/-- The database in which an outermost transaction starts. -/
def begun (db : Database respond) : Database respond :=
  { db with work? := some {}, clock := db.clock + 1 }

theorem command_begin {level : Option Isolation} {db : Database respond} (hwork : db.work? = none) :
    db.command (Transaction.beginSql level) = (done, db.begun) :=
  answer_begin hwork (ofText_beginSql level)

/-- The database in which a nested transaction starts. -/
def marked (depth : Nat) (w : Work) (db : Database respond) : Database respond :=
  { db with
    work? := some (w.marked (Transaction.savepoint (depth + 1)) db.clock)
    clock := db.clock + 1 }

theorem command_savepoint (depth : Nat) {db : Database respond} {w : Work}
    (hwork : db.work? = some w) (hfailed : w.failed = false) :
    db.command (Transaction.savepointSql (depth + 1)) = (done, db.marked depth w) :=
  command_followed hwork (ofText_savepointSql (depth + 1)) rfl
    (if_neg (by simp [hfailed]))

theorem command_savepoint_cases (depth : Nat) (db : Database respond) :
    (∃ w, db.work? = some w ∧
        db.command (Transaction.savepointSql (depth + 1)) = (done, db.marked depth w)) ∨
      db.command (Transaction.savepointSql (depth + 1)) =
        (db.refuse.1, { db.refuse.2 with clock := db.clock + 1 }) := by
  have hcontrol := ofText_savepointSql (depth + 1)
  cases hwork : db.work? with
  | none =>
    refine .inr ?_
    simp only [command_control hcontrol, control, hwork]
  | some w =>
    cases hfailed : w.failed with
    | false => exact .inl ⟨w, rfl, command_savepoint depth hwork hfailed⟩
    | true =>
      refine .inr ?_
      rw [command_refused hwork hcontrol rfl (if_pos hfailed), refuse, hwork]
      rfl

/-- What closing a transaction makes of a database. -/
def closed (depth : Nat) (db : Database respond) : Transaction.Ending → Database respond
  | .commit =>
    match db.command (Transaction.commitSql depth) with
    | (.ok _, db') => db'
    | (.error _, db') => (db'.command (Transaction.rollbackSql depth)).2
  | .rollback | .drop => (db.command (Transaction.rollbackSql depth)).2

theorem closed_keeps {P : Database respond → Prop} {depth : Nat}
    (hcommit : ∀ db, P db → P (db.command (Transaction.commitSql depth)).2)
    (hrollback : ∀ db, P db → P (db.command (Transaction.rollbackSql depth)).2)
    {db : Database respond} (h : P db) (ending : Transaction.Ending) :
    P (db.closed depth ending) := by
  cases ending with
  | rollback | drop => exact hrollback db h
  | commit =>
    have hdb := hcommit db h
    rw [closed]
    split
    · next hr =>
      rw [hr] at hdb
      exact hdb
    · next hr =>
      rw [hr] at hdb
      exact hrollback _ hdb

theorem command_commit {db : Database respond} {w : Work} (hwork : db.work? = some w) :
    db.command (Transaction.commitSql 0) = (done, { db.commit w with clock := db.clock + 1 }) :=
  answer_commit hwork ofText_commitSql_zero

theorem command_rollback {db : Database respond} {w : Work} (hwork : db.work? = some w) :
    db.command (Transaction.rollbackSql 0) =
      (done, { db with work? := none, clock := db.clock + 1 }) :=
  answer_rollback hwork ofText_rollbackSql_zero

end Database

theorem Request.send_apply (r : Request) (s : Session (Database respond) μ) :
    r.send s = (.ok (), s.asked r.statement (s.server.answer r.statement).2) := by
  cases hquery : r.isQuery <;> simp only [send, hquery] <;> rfl

theorem map_map_const {ε α β γ : Type} (x : Except ε α) (f : α → β) (c : γ) :
    (x.map f).map (fun _ => c) = x.map fun _ => c := by
  cases x <;> rfl

theorem Database.execute_command (db : Database respond) (sql : String) :
    Server.execute ⟨sql, []⟩ db =
      ((db.command sql).1.map Script.Reply.count, (db.command sql).2) := rfl

theorem command_database (sql : String) (s : Session (Database respond) μ) :
    Action.command sql s = ((s.server.command sql).1.map fun _ => (),
      s.asked ⟨sql, []⟩ (s.server.command sql).2) := by
  rw [Action.command_apply, Database.execute_command, map_map_const]

open Transaction

variable (s : Session (Database respond) μ) (tx : Transaction)

theorem start_database (level : Option Isolation) :
    start level s = ((s.server.command (beginSql level)).1.map fun _ => { depth := 0 },
      (s.logged (.beginSpan 0)).asked ⟨beginSql level, []⟩
        (s.server.command (beginSql level)).2) := by
  rw [start_apply, Database.execute_command, map_map_const]

theorem nest_database :
    nest tx s = ((s.server.command (savepointSql (tx.depth + 1))).1.map fun _ =>
        { depth := tx.depth + 1 },
      (s.logged (.beginSpan (tx.depth + 1))).asked ⟨savepointSql (tx.depth + 1), []⟩
        (s.server.command (savepointSql (tx.depth + 1))).2) := by
  rw [nest_apply, Database.execute_command, map_map_const]

theorem sendRollback_database :
    sendRollback tx s = ((s.server.command (rollbackSql tx.depth)).1.map fun _ => (),
      (s.logged (.rollbackSpan tx.depth)).asked ⟨rollbackSql tx.depth, []⟩
        (s.server.command (rollbackSql tx.depth)).2) := by
  rw [sendRollback_apply, Database.execute_command, map_map_const]

theorem dropped_server :
    (dropped tx s).server = (s.server.command (rollbackSql tx.depth)).2 := by
  rw [dropped, sendRollback_database, Session.logged_server]
  rcases s.server.command (rollbackSql tx.depth) with ⟨_ | _, db⟩ <;> rfl

theorem close_server (ending : Ending) (depth : Nat) :
    (ending.close { depth } s).2.server = s.server.closed depth ending := by
  cases ending with
  | commit =>
    rw [Ending.close, commit_apply rfl, command_database, Session.logged_server,
      Database.closed]
    rcases s.server.command (commitSql depth) with ⟨_ | _, db⟩
    · exact dropped_server _ _
    · rfl
  | rollback =>
    rw [Ending.close, rollback_apply, sendRollback_database]
    rfl
  | drop =>
    rw [Ending.close, drop_open rfl]
    exact dropped_server _ _

end RowMap.Savepoint
