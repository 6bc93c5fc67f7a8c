import RowMap.Proofs.Session.Run
import RowMap.Transaction

/-!
# The bracket of a transaction

What opening and closing make of a session, and from that what running a body in a transaction
does. None of it touches the memory: what is in memory afterwards is what the body left there.
-/

namespace RowMap.Transaction

variable {σ μ α : Type} [Server σ]

/-! ## Opening and closing -/

theorem open_apply (e : Event) (sql : String) (tx : Transaction) (s : Session σ μ) :
    (do Action.emit e; Action.command sql; return tx : Action σ μ Transaction) s =
      ((Server.execute ⟨sql, []⟩ s.server).1.map fun _ => tx,
        (s.logged e).asked ⟨sql, []⟩ (Server.execute ⟨sql, []⟩ s.server).2) := by
  have h := Action.command_apply sql (s.logged e)
  refine (Action.bind_of_ok (Action.emit_apply e s) _).trans ?_
  rw [Session.logged_server] at h
  rcases hr : (Server.execute ⟨sql, []⟩ s.server).1 with e | n
  · rw [hr] at h
    exact Action.bind_of_error h _
  · rw [hr] at h
    exact Action.bind_of_ok h _

theorem start_apply (level : Option Isolation) (s : Session σ μ) :
    start level s =
      ((Server.execute ⟨beginSql level, []⟩ s.server).1.map fun _ => ({ depth := 0 } : Transaction),
        (s.logged (.beginSpan 0)).asked ⟨beginSql level, []⟩
          (Server.execute ⟨beginSql level, []⟩ s.server).2) :=
  open_apply _ _ _ s

theorem nest_apply (tx : Transaction) (s : Session σ μ) :
    nest tx s =
      ((Server.execute ⟨savepointSql (tx.depth + 1), []⟩ s.server).1.map fun _ =>
          ({ depth := tx.depth + 1 } : Transaction),
        (s.logged (.beginSpan (tx.depth + 1))).asked ⟨savepointSql (tx.depth + 1), []⟩
          (Server.execute ⟨savepointSql (tx.depth + 1), []⟩ s.server).2) :=
  open_apply _ _ _ s

theorem sendRollback_apply (tx : Transaction) (s : Session σ μ) :
    sendRollback tx s =
      ((Server.execute ⟨rollbackSql tx.depth, []⟩ s.server).1.map fun _ => (),
        (s.logged (.rollbackSpan tx.depth)).asked ⟨rollbackSql tx.depth, []⟩
          (Server.execute ⟨rollbackSql tx.depth, []⟩ s.server).2) := by
  refine (Action.bind_of_ok (Action.emit_apply (.rollbackSpan tx.depth) s) _).trans ?_
  rw [Action.command_apply, Session.logged_server]

def dropped (tx : Transaction) (s : Session σ μ) : Session σ μ :=
  match sendRollback tx (s.logged (.droppedOpen tx.depth)) with
  | (.ok _, s') => s'
  | (.error e, s') => s'.logged (.dropFailed e.message)

theorem drop_open {tx : Transaction} (h : tx.closed = false) (s : Session σ μ) :
    drop tx s = (.ok (), dropped tx s) := by
  rw [drop, h, dropped]
  refine (Action.bind_of_ok (Action.emit_apply (.droppedOpen tx.depth) s) _).trans ?_
  rcases hr : sendRollback tx (s.logged (.droppedOpen tx.depth)) with ⟨_ | _, s'⟩ <;>
  · refine (Action.bind_of_ok (Action.attempt_apply (sendRollback tx) _) _).trans ?_
    rw [hr]
    rfl

theorem commit_apply {tx : Transaction} (h : tx.closed = false) (s : Session σ μ) :
    commit tx s =
      match Action.command (commitSql tx.depth) (s.logged (.commitSpan tx.depth)) with
      | (.ok _, s') => (.ok (), s')
      | (.error e, s') => (.error e, dropped tx s') := by
  refine (Action.bind_of_ok (Action.emit_apply (.commitSpan tx.depth) s) _).trans ?_
  refine (Action.bind_of_ok (Action.attempt_apply (Action.command (commitSql tx.depth)) _) _).trans ?_
  rcases Action.command (commitSql tx.depth) (s.logged (.commitSpan tx.depth)) with ⟨e | _, s'⟩
  · exact Action.bind_of_ok (drop_open h s') _
  · rfl

theorem rollback_apply (tx : Transaction) (s : Session σ μ) : rollback tx s = sendRollback tx s := by
  refine (Action.bind_of_ok (Action.attempt_apply (sendRollback tx) s) _).trans ?_
  rcases sendRollback tx s with ⟨_ | _, s'⟩ <;> rfl

/-! ## A body in a transaction -/

/-- The session in which the body of a transaction starts. -/
def opened (s : Session σ μ) : Session σ μ :=
  (s.logged (.beginSpan 0)).asked ⟨"BEGIN", []⟩ (Server.execute ⟨"BEGIN", []⟩ s.server).2

theorem beginSql_none : beginSql none = "BEGIN" := rfl

section
variable {body : Transaction → Action σ μ α} {s s' : Session σ μ} {e : StoreError} {a : α} {n : Nat}

theorem run_not_opened (body : Transaction → Action σ μ α)
    (h : (Server.execute ⟨"BEGIN", []⟩ s.server).1 = .error e) :
    run body s = (.error e, opened s) := by
  refine Action.bind_of_error ?_ _
  rw [start_apply, beginSql_none, h]
  rfl

theorem start_opened (h : (Server.execute ⟨"BEGIN", []⟩ s.server).1 = .ok n) :
    start none s = (.ok { depth := 0 }, opened s) := by
  rw [start_apply, beginSql_none, h]
  rfl

/-- The commit of a body that succeeded decides. -/
theorem run_of_ok (hbegin : (Server.execute ⟨"BEGIN", []⟩ s.server).1 = .ok n)
    (h : body { depth := 0 } (opened s) = (.ok a, s')) :
    run body s = ((commit { depth := 0 } s').1.map fun _ => a, (commit { depth := 0 } s').2) := by
  refine (Action.bind_of_ok (start_opened hbegin) _).trans ?_
  refine (Action.bind_of_ok (Action.attempt_apply (body { depth := 0 }) _) _).trans ?_
  rw [h]
  rcases hc : commit { depth := 0 } s' with ⟨_ | _, s₁⟩
  · exact Action.bind_of_error hc _
  · exact Action.bind_of_ok hc _

/-- A body that failed is rolled back, and a failure of that is added. -/
theorem run_of_error (hbegin : (Server.execute ⟨"BEGIN", []⟩ s.server).1 = .ok n)
    (h : body { depth := 0 } (opened s) = (.error e, s')) :
    run body s =
      match sendRollback { depth := 0 } s' with
      | (.ok _, s₁) => (.error e, s₁)
      | (.error failure, s₁) => (.error (.rollback e failure), s₁) := by
  refine (Action.bind_of_ok (start_opened hbegin) _).trans ?_
  refine (Action.bind_of_ok (Action.attempt_apply (body { depth := 0 }) _) _).trans ?_
  rw [h]
  refine (Action.bind_of_ok (Action.attempt_apply (rollback { depth := 0 }) s') _).trans ?_
  rw [rollback_apply]
  rcases sendRollback { depth := 0 } s' with ⟨_ | _, s₁⟩ <;> rfl

end

/-! ## What stays in memory -/

@[simp] theorem opened_server (s : Session σ μ) :
    (opened s).server = (Server.execute ⟨"BEGIN", []⟩ s.server).2 := rfl

@[simp] theorem opened_memory (s : Session σ μ) : (opened s).memory = s.memory := rfl

theorem sendRollback_memory (tx : Transaction) (s : Session σ μ) :
    (sendRollback tx s).2.memory = s.memory := by
  rw [sendRollback_apply]
  rfl

theorem dropped_memory (tx : Transaction) (s : Session σ μ) : (dropped tx s).memory = s.memory := by
  have h := sendRollback_memory tx (s.logged (.droppedOpen tx.depth))
  unfold dropped
  split <;> next hr =>
    rw [hr] at h
    exact h

theorem commit_memory {tx : Transaction} (h : tx.closed = false) (s : Session σ μ) :
    (commit tx s).2.memory = s.memory := by
  have hcommand := congrArg (fun r => r.2.memory)
    (Action.command_apply (commitSql tx.depth) (s.logged (.commitSpan tx.depth)))
  rw [commit_apply h]
  split <;> next hr =>
    rw [hr] at hcommand
    simpa [dropped_memory] using hcommand

theorem commit_outcome {tx : Transaction} (h : tx.closed = false) (s : Session σ μ) :
    (commit tx s).1 = (Server.execute ⟨commitSql tx.depth, []⟩ s.server).1.map fun _ => () := by
  have hcommand := congrArg (fun r => r.1)
    (Action.command_apply (commitSql tx.depth) (s.logged (.commitSpan tx.depth)))
  rw [Session.logged_server] at hcommand
  rw [commit_apply h]
  split <;> next hr =>
    rw [hr] at hcommand
    exact hcommand

end RowMap.Transaction
