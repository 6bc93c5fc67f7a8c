import RowMap.Proofs.Savepoint.Nesting

/-!
# Runs inside a transaction

A transaction hands its statements on, so a body can be run on it as on any server. BEGIN does
nothing in the transaction that is open, and the end of the run is the end of that transaction: what
was done in it before is committed or rolled back with the run, and what is done through it
afterwards is durable at once.
-/

namespace RowMap.Savepoint

open Transaction (Ending savepoint savepointSql beginSql commitSql rollbackSql opened)

/-! ## Uses of a transaction -/

/-- How a run ends after its body. -/
def endingOf {α : Type} : Except StoreError α → Ending
  | .ok _ => .commit
  | .error _ => .rollback

/-- What is done through a transaction, with the transactions inside it and the runs on it. -/
inductive Uses
  | done
  | ask (r : Request) (rest : Uses)
  | nested (inner : Uses) (ending : Ending) (rest : Uses)
  | run (body : Uses) (outcome : Except StoreError Unit) (rest : Uses)

namespace Uses

/-- Does everything, whether it succeeds or not. -/
def perform {σ μ : Type} [Server σ] : Uses → Transaction → Action σ μ Unit
  | done, _ => return
  | ask r rest, tx => do
    r.send
    rest.perform tx
  | nested inner ending rest, tx => do
    match ← tx.nest.attempt with
    | .ok sub =>
      inner.perform sub
      let _ ← (ending.close sub).attempt
      rest.perform tx
    | .error _ => rest.perform tx
  | run body outcome rest, tx => do
    let _ ← (Transaction.run fun inner => do
      body.perform inner
      liftM outcome).attempt
    rest.perform tx

def effect {respond : Responder} : Uses → Nat → Database respond → Database respond
  | done, _, db => db
  | ask r rest, depth, db => rest.effect depth (db.answer r.statement).2
  | nested inner ending rest, depth, db =>
    match db.command (savepointSql (depth + 1)) with
    | (.ok _, db) => rest.effect depth ((inner.effect (depth + 1) db).closed (depth + 1) ending)
    | (.error _, db) => rest.effect depth db
  | run body outcome rest, depth, db =>
    match db.command (beginSql none) with
    | (.ok _, db) => rest.effect depth ((body.effect 0 db).closed 0 (endingOf outcome))
    | (.error _, db) => rest.effect depth db

end Uses

/-- Steps are uses without a run. -/
def Steps.uses : Steps → Uses
  | done => .done
  | ask r rest => .ask r rest.uses
  | nested inner ending rest => .nested inner.uses ending rest.uses

variable {respond : Responder} {μ α : Type}

theorem Steps.effect_uses (steps : Steps) (depth : Nat) (db : Database respond) :
    steps.uses.effect depth db = steps.effect depth db := by
  induction steps generalizing depth db with
  | done => rfl
  | ask r rest ih => exact ih depth _
  | nested inner ending rest ihInner ih =>
    simp only [uses, effect, Uses.effect]
    rcases db.command (savepointSql (depth + 1)) with ⟨e | reply, db'⟩
    · exact ih depth db'
    · simp only [ihInner, ih]

/-! ## What a run does to a database -/

theorem execute_begin (db : Database respond) :
    Server.execute ⟨"BEGIN", []⟩ db =
      ((db.command (beginSql none)).1.map Script.Reply.count, (db.command (beginSql none)).2) := rfl

theorem run_server (body : Transaction → Action (Database respond) μ α)
    (s : Session (Database respond) μ) :
    (Transaction.run body s).2.server =
      match s.server.command (beginSql none) with
      | (.ok _, _) =>
        let done := body { depth := 0 } (opened s)
        done.2.server.closed 0 (endingOf done.1)
      | (.error _, db) => db := by
  have hbegin := congrArg Prod.fst (execute_begin s.server)
  have hserver := congrArg Prod.snd (execute_begin s.server)
  rcases hcommand : s.server.command (beginSql none) with ⟨e | reply, db⟩
  · rw [hcommand] at hbegin hserver
    rw [Transaction.run_not_opened body hbegin]
    exact hserver
  · rw [hcommand] at hbegin
    rcases hbody : body { depth := 0 } (opened s) with ⟨e | a, s'⟩
    · have hrollback := close_server s' .rollback 0
      rw [Ending.close, Transaction.rollback_apply] at hrollback
      rw [Transaction.run_of_error hbegin hbody]
      split <;> next hr =>
        rw [hr] at hrollback
        exact hrollback
    · rw [Transaction.run_of_ok hbegin hbody]
      exact close_server s' .commit 0

namespace Database

/-- No transaction is open, and this much is durable. -/
def Idle (durable : List Entry) (db : Database respond) : Prop :=
  db.work? = none ∧ db.durable = durable

theorem Idle.command {durable : List Entry} {db : Database respond} (h : db.Idle durable)
    {sql : String} {c : Control} (hcontrol : Control.ofText sql = some c) (hc : c ≠ .begin) :
    (db.command sql).2.Idle durable := by
  obtain ⟨hwork, hdurable⟩ := h
  rw [command_control hcontrol]
  cases c with
  | begin => contradiction
  | commit | rollback | savepoint _ | rollbackTo _ | release _ | unknown =>
    simp only [Database.control, hwork, refuse, Idle, Option.map_none, hdurable, and_self]

theorem ofText_closing_ne_begin (depth : Nat) :
    (∃ c, Control.ofText (commitSql depth) = some c ∧ c ≠ .begin) ∧
      ∃ c, Control.ofText (rollbackSql depth) = some c ∧ c ≠ .begin := by
  cases depth with
  | zero => exact ⟨⟨_, ofText_commitSql_zero, by simp⟩, ⟨_, ofText_rollbackSql_zero, by simp⟩⟩
  | succ depth =>
    exact ⟨⟨_, ofText_commitSql_succ depth, by simp⟩, ⟨_, ofText_rollbackSql_succ depth, by simp⟩⟩

theorem Idle.closed {durable : List Entry} {db : Database respond} (h : db.Idle durable)
    (depth : Nat) (ending : Ending) : (db.closed depth ending).Idle durable := by
  obtain ⟨⟨c, hcommit, hc⟩, ⟨d, hrollback, hd⟩⟩ := ofText_closing_ne_begin depth
  apply closed_keeps (P := Idle durable) ?_ ?_ h
  · intro db hdb
    exact hdb.command hcommit hc
  · intro db hdb
    exact hdb.command hrollback hd

/-- The end of a run is the end of the transaction, whichever one it is. -/
theorem work_closed (db : Database respond) (ending : Ending) :
    (db.closed 0 ending).work? = none := by
  cases hwork : db.work? with
  | none =>
    have hidle : db.Idle db.durable := ⟨hwork, rfl⟩
    exact (hidle.closed 0 ending).1
  | some w =>
    cases ending with
    | commit =>
      rw [closed_commit hwork]
      exact commit_work w db
    | rollback | drop => rw [closed_rolledBack hwork (by simp)]

end Database

theorem Uses.perform_database (uses : Uses) (depth : Nat) (s : Session (Database respond) μ) :
    ∃ s', uses.perform { depth } s = (.ok (), s') ∧ s'.server = uses.effect depth s.server := by
  induction uses generalizing depth s with
  | done => exact ⟨s, rfl, rfl⟩
  | ask r rest ih =>
    obtain ⟨s', hrest, hserver⟩ := ih depth (s.asked r.statement (s.server.answer r.statement).2)
    exact ⟨s', (Action.bind_of_ok (r.send_apply s) _).trans hrest, hserver⟩
  | nested inner ending rest ihInner ih =>
    have hnest := nest_database s { depth }
    rw [perform, effect, Action.bind_of_ok (Action.attempt_apply (Transaction.nest { depth }) s),
      hnest]
    rcases s.server.command (savepointSql (depth + 1)) with ⟨e | reply, db⟩
    · exact ih depth _
    · obtain ⟨s₁, hinner, hserver⟩ := ihInner (depth + 1)
        ((s.logged (.beginSpan (depth + 1))).asked ⟨savepointSql (depth + 1), []⟩ db)
      obtain ⟨s', hrest, hserver'⟩ := ih depth (ending.close { depth := depth + 1 } s₁).2
      refine ⟨s', ?_, ?_⟩
      · refine (Action.bind_of_ok hinner _).trans ?_
        exact (Action.bind_of_ok (Action.attempt_apply _ s₁) _).trans hrest
      · rw [hserver', close_server, hserver]
        rfl
  | run body outcome rest ihBody ih =>
    obtain ⟨s₁, hbody, hserver⟩ := ihBody 0 (opened s)
    have hdone : (body.perform { depth := 0 } >>= fun _ => liftM outcome) (opened s) =
        (outcome, s₁) :=
      (Action.bind_of_ok hbody _).trans (Action.lift_apply outcome s₁)
    have hrun := run_server (fun inner => body.perform inner >>= fun _ => liftM outcome) s
    obtain ⟨s', hrest, hserver'⟩ := ih depth
      (Transaction.run (fun inner => body.perform inner >>= fun _ => liftM outcome) s).2
    refine ⟨s', (Action.bind_of_ok (Action.attempt_apply _ s) _).trans hrest, ?_⟩
    rw [hserver', hrun, effect]
    have hopened : (opened s).server = (s.server.command (beginSql none)).2 := rfl
    rcases hcommand : s.server.command (beginSql none) with ⟨e | reply, db⟩
    · rfl
    · rw [hcommand] at hopened
      simp only [hdone, hserver, hopened]

end RowMap.Savepoint
