import RowMap.Proofs.Savepoint.Control
import RowMap.Proofs.Session.Dialogue

/-!
# A database with savepoints

A database keeps what is durable and what the open transaction has done. A savepoint is a mark with
the work before it. A name may be used again, and then the newest mark with the name counts. A
statement that fails makes every other one fail, until the work before a mark is restored. What the
database answers to a statement that controls nothing is left open.
-/

namespace RowMap.Savepoint

/-- A statement that succeeded, with the time that tells it from others with the same text. -/
structure Entry where
  time : Nat
  statement : Statement

structure Mark where
  name : String
  time : Nat
  /-- The work before it. -/
  entries : List Entry

/-- What the open transaction has done. -/
structure Work where
  entries : List Entry := []
  /-- The newest mark first. -/
  marks : List Mark := []
  failed : Bool := false

abbrev Responder := List Entry → Statement → Script.Reply

structure Database (respond : Responder) where
  durable : List Entry := []
  work? : Option Work := none
  clock : Nat := 0
  /-- The number of control statements that did not do what they ask for. -/
  refused : Nat := 0

/-! ## Answers -/

namespace Work

def statements (w : Work) : List Statement := w.entries.map Entry.statement

def fail (w : Work) : Work := { w with failed := true }

def aborted : StoreError := .query "current transaction is aborted"

def marked (name : String) (time : Nat) (w : Work) : Work :=
  { w with marks := ⟨name, time, w.entries⟩ :: w.marks }

/-- The marks from the newest one with a name on. -/
def marksFrom (name : String) (w : Work) : List Mark := w.marks.dropWhile fun m => m.name ≠ name

/-- A statement that controls nothing, on top of what is durable. -/
def perform (respond : Responder) (durable : List Entry) (time : Nat) (s : Statement) (w : Work) :
    Except StoreError Script.Reply × Work :=
  if w.failed then (.error aborted, w)
  else match (respond (durable ++ w.entries) s).result with
    | .error e => (.error e, w.fail)
    | .ok reply => (.ok reply, { w with entries := w.entries ++ [⟨time, s⟩] })

/-- A control statement that leaves the transaction open, unless it is refused. -/
def control (time : Nat) (w : Work) : Control → Option Work
  | .begin => if w.failed then none else some w
  | .savepoint name => if w.failed then none else some (w.marked name time)
  | .rollbackTo name =>
    match w.marksFrom name with
    | [] => none
    | m :: older => some ⟨m.entries, m :: older, false⟩
  | .release name =>
    match w.marksFrom name with
    | [] => none
    | _ :: older => if w.failed then none else some { w with marks := older }
  | _ => none

theorem fail_of_failed {w : Work} (h : w.failed = true) : w.fail = w := by
  obtain ⟨entries, marks, failed⟩ := w
  cases h
  rfl

theorem perform_cases (respond : Responder) (durable : List Entry) (time : Nat) (s : Statement)
    (w : Work) :
    ((w.failed = true ∨ ∃ e, (respond (durable ++ w.entries) s).result = .error e) ∧
        ∃ e, w.perform respond durable time s = (.error e, w.fail)) ∨
      (w.failed = false ∧ ∃ reply, w.perform respond durable time s =
        (.ok reply, { w with entries := w.entries ++ [⟨time, s⟩] })) := by
  unfold perform
  cases hfailed : w.failed with
  | true => exact .inl ⟨.inl rfl, aborted, by rw [if_pos rfl, fail_of_failed hfailed]⟩
  | false =>
    rw [if_neg Bool.false_ne_true]
    cases (respond (durable ++ w.entries) s).result with
    | error e => exact .inl ⟨.inr ⟨e, rfl⟩, e, rfl⟩
    | ok reply => exact .inr ⟨rfl, reply, rfl⟩

end Work

namespace Database

variable {respond : Responder}

def statements (db : Database respond) : List Statement := db.durable.map Entry.statement

def done : Except StoreError Script.Reply := .ok (.affected 0)

def refuse (db : Database respond) : Except StoreError Script.Reply × Database respond :=
  (.error Work.aborted, { db with work? := db.work?.map Work.fail, refused := db.refused + 1 })

/-- A commit after a failure is a rollback. It counts as refused, though the answer is no error. -/
def commit (w : Work) (db : Database respond) : Database respond :=
  if w.failed then { db with work? := none, refused := db.refused + 1 }
  else { db with durable := db.durable ++ w.entries, work? := none }

theorem commit_work (w : Work) (db : Database respond) : (db.commit w).work? = none := by
  unfold commit
  split <;> rfl

theorem commit_of_not_failed {w : Work} (h : w.failed = false) (db : Database respond) :
    db.commit w = { db with durable := db.durable ++ w.entries, work? := none } :=
  if_neg (by simp [h])

def control (db : Database respond) (c : Control) :
    Except StoreError Script.Reply × Database respond :=
  match db.work? with
  | none =>
    match c with
    | .begin => (done, { db with work? := some {} })
    | .commit | .rollback => (done, db)
    | _ => db.refuse
  | some w =>
    match c with
    | .commit => (done, db.commit w)
    | .rollback => (done, { db with work? := none })
    | c =>
      match w.control db.clock c with
      | some w' => (done, { db with work? := some w' })
      | none => db.refuse

/-- Without a transaction a statement is durable at once. -/
def perform (db : Database respond) (s : Statement) :
    Except StoreError Script.Reply × Database respond :=
  match db.work? with
  | none =>
    match (respond db.durable s).result with
    | .error e => (.error e, db)
    | .ok reply => (.ok reply, { db with durable := db.durable ++ [⟨db.clock, s⟩] })
  | some w =>
    ((w.perform respond db.durable db.clock s).1,
      { db with work? := some (w.perform respond db.durable db.clock s).2 })

/-- Every statement takes time. -/
def answer (db : Database respond) (s : Statement) :
    Except StoreError Script.Reply × Database respond :=
  let (reply, db') := match Control.ofText s.sql with
    | some c => db.control c
    | none => db.perform s
  (reply, { db' with clock := db.clock + 1 })

instance : Server (Database respond) where
  execute s db := ((db.answer s).1.map Script.Reply.count, (db.answer s).2)
  query s db := ((db.answer s).1.map Script.Reply.toRows, (db.answer s).2)

/-! ## What an answer does -/

variable {db : Database respond} {s : Statement} {w : Work} {c : Control}

theorem answer_control (h : Control.ofText s.sql = some c) :
    db.answer s = ((db.control c).1, { (db.control c).2 with clock := db.clock + 1 }) := by
  rw [answer, h]

theorem answer_idle (hwork : db.work? = none) (s : Statement) :
    (db.answer s).2.work? = none ∨ (db.answer s).2.work? = some {} := by
  unfold answer
  cases Control.ofText s.sql with
  | none =>
    simp only [perform, hwork]
    split <;> simp [hwork]
  | some c => cases c <;> simp [control, refuse, hwork]

theorem answer_begin (hwork : db.work? = none) (h : Control.ofText s.sql = some .begin) :
    db.answer s = (done, { db with work? := some {}, clock := db.clock + 1 }) := by
  rw [answer_control h, control, hwork]

theorem answer_rollback (hwork : db.work? = some w) (h : Control.ofText s.sql = some .rollback) :
    db.answer s = (done, { db with work? := none, clock := db.clock + 1 }) := by
  rw [answer_control h, control, hwork]

theorem answer_commit (hwork : db.work? = some w) (h : Control.ofText s.sql = some .commit) :
    db.answer s = (done, { db.commit w with clock := db.clock + 1 }) := by
  rw [answer_control h, control, hwork]

theorem answer_plain (hwork : db.work? = some w) (h : Control.ofText s.sql = none) :
    db.answer s =
      ((w.perform respond db.durable db.clock s).1,
        { db with
          work? := some (w.perform respond db.durable db.clock s).2
          clock := db.clock + 1 }) := by
  rw [answer, h]
  simp only [perform, hwork]

theorem control_inner (hwork : db.work? = some w) (hinner : c.closes = false) :
    db.control c =
      match w.control db.clock c with
      | some w' => (done, { db with work? := some w' })
      | none => db.refuse := by
  cases c with
  | commit | rollback => cases hinner
  | begin | savepoint _ | rollbackTo _ | release _ | unknown => simp only [control, hwork]

theorem answer_followed (hwork : db.work? = some w) (h : Control.ofText s.sql = some c)
    (hinner : c.closes = false) {w' : Work} (hw' : w.control db.clock c = some w') :
    db.answer s = (done, { db with work? := some w', clock := db.clock + 1 }) := by
  rw [answer_control h, control_inner hwork hinner, hw']

/-- The database after it has refused a control statement. -/
def refusing (w : Work) (db : Database respond) : Database respond :=
  { db with work? := some w.fail, clock := db.clock + 1, refused := db.refused + 1 }

theorem answer_refused (hwork : db.work? = some w) (h : Control.ofText s.sql = some c)
    (hinner : c.closes = false) (hw : w.control db.clock c = none) :
    db.answer s = (.error Work.aborted, db.refusing w) := by
  rw [answer_control h, control_inner hwork hinner, hw, refuse, hwork]
  rfl

end Database

end RowMap.Savepoint
