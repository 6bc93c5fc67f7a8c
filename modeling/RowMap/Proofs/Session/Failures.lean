import RowMap.Proofs.Session.Bracket
import RowMap.Session.Script

/-!
# Two failures of one run

A run whose body or commit fails is rolled back, and the rollback may fail as well. The failure of
a body comes back together with that of the rollback. After a refused commit the transaction is
dropped, so the failure of the rollback is only a line of the log.
-/

namespace RowMap.Transaction

variable {σ μ α : Type} [Server σ]

inductive Step
  | body | commit
deriving DecidableEq

/-- The transaction is opened, a step of the run fails, and so does the rollback after it. -/
inductive FailsTwice (body : Transaction → Action σ μ α) (s : Session σ μ)
    (cause failure : StoreError) : Step → Prop
  | body {n : Nat} {s' : Session σ μ} :
      (Server.execute ⟨"BEGIN", []⟩ s.server).1 = .ok n →
      body { depth := 0 } (opened s) = (.error cause, s') →
      (Server.execute ⟨"ROLLBACK", []⟩ s'.server).1 = .error failure →
      FailsTwice body s cause failure .body
  | commit {n : Nat} {a : α} {s' : Session σ μ} {refused : σ} :
      (Server.execute ⟨"BEGIN", []⟩ s.server).1 = .ok n →
      body { depth := 0 } (opened s) = (.ok a, s') →
      Server.execute ⟨"COMMIT", []⟩ s'.server = (.error cause, refused) →
      (Server.execute ⟨"ROLLBACK", []⟩ refused).1 = .error failure →
      FailsTwice body s cause failure .commit

/-- What a run returns after both failures. -/
def Step.report (cause failure : StoreError) : Step → StoreError
  | .body => .rollback cause failure
  | .commit => cause

theorem ne_rollback (cause failure : StoreError) : cause ≠ .rollback cause failure := by
  intro h
  have hsize := congrArg sizeOf h
  simp only [StoreError.rollback.sizeOf_spec] at hsize
  omega

theorem report_eq_rollback_iff (step : Step) (cause failure : StoreError) :
    step.report cause failure = .rollback cause failure ↔ step = .body := by
  cases step with
  | body => simp [Step.report]
  | commit => simp [Step.report, ne_rollback]

/-! ## Rollbacks that fail -/

theorem rollbackSql_zero : rollbackSql 0 = "ROLLBACK" := rfl

theorem commitSql_zero : commitSql 0 = "COMMIT" := rfl

section
variable {s : Session σ μ} {cause failure : StoreError}

theorem sendRollback_of_error (h : (Server.execute ⟨"ROLLBACK", []⟩ s.server).1 = .error failure) :
    (sendRollback { depth := 0 } s).1 = .error failure := by
  rw [sendRollback_apply, rollbackSql_zero, h]
  rfl

theorem dropped_of_error (h : (Server.execute ⟨"ROLLBACK", []⟩ s.server).1 = .error failure) :
    (dropped { depth := 0 } s).events.getLast? = some (.dropFailed failure.message) := by
  have hsend : (sendRollback { depth := 0 } (s.logged (.droppedOpen 0))).1 = .error failure :=
    sendRollback_of_error h
  unfold dropped
  split
  · next hr =>
    rw [hr] at hsend
    cases hsend
  · next hr =>
    rw [hr] at hsend
    cases hsend
    simp [Session.logged]

theorem commit_of_error {refused : σ}
    (h : Server.execute ⟨"COMMIT", []⟩ s.server = (.error cause, refused)) :
    ∃ s₁, s₁.server = refused ∧
      commit { depth := 0 } s = (.error cause, dropped { depth := 0 } s₁) := by
  have hcommand := Action.command_apply (commitSql 0) (s.logged (.commitSpan 0))
  rw [commitSql_zero, Session.logged_server, h] at hcommand
  refine ⟨(s.logged (.commitSpan 0)).asked ⟨"COMMIT", []⟩ refused, rfl, ?_⟩
  rw [commit_apply rfl, commitSql_zero, hcommand]
  rfl

end

/-! ## What the run returns -/

section
variable {body : Transaction → Action σ μ α} {s : Session σ μ} {cause failure : StoreError}
  {step : Step}

theorem run_of_failsTwice (h : FailsTwice body s cause failure step) :
    (run body s).1 = .error (step.report cause failure) := by
  cases h with
  | body hbegin hbody hrollback =>
    have hsend := sendRollback_of_error hrollback
    rw [run_of_error hbegin hbody]
    split
    · next hr =>
      rw [hr] at hsend
      cases hsend
    · next hr =>
      rw [hr] at hsend
      cases hsend
      rfl
  | commit hbegin hbody hcommit hrollback =>
    obtain ⟨s₁, -, hresult⟩ := commit_of_error hcommit
    rw [run_of_ok hbegin hbody, hresult]
    rfl

theorem events_of_refused_commit (h : FailsTwice body s cause failure .commit) :
    (run body s).2.events.getLast? = some (.dropFailed failure.message) := by
  cases h with
  | commit hbegin hbody hcommit hrollback =>
    obtain ⟨s₁, rfl, hresult⟩ := commit_of_error hcommit
    rw [run_of_ok hbegin hbody, hresult]
    exact dropped_of_error hrollback

/-- When a step of a run and the rollback after it fail, the error that comes back has both failures
just when the step is the body. A refused commit comes back alone, and the failure of the rollback
is the last line of the log. -/
theorem run_joins_failures_iff (h : FailsTwice body s cause failure step) :
    (run body s).1 = .error (step.report cause failure) ∧
      ((run body s).1 = .error (.rollback cause failure) ↔ step = .body) ∧
      (step = .commit →
        (run body s).2.events.getLast? = some (.dropFailed failure.message)) := by
  have hresult := run_of_failsTwice h
  refine ⟨hresult, ?_, ?_⟩
  · rw [hresult, Except.error.injEq]
    exact report_eq_rollback_iff step cause failure
  · rintro rfl
    exact events_of_refused_commit h

end

/-- A server that takes statements and neither commits nor rolls back any more. -/
def lostServer : Script where
  replies := [.affected 1]
  failures := [("COMMIT", .timeout), ("ROLLBACK", .query "connection closed")]

def lostSession : Session Script Unit := ⟨lostServer, (), []⟩

def deleteBooks : Transaction → Action Script Unit Unit := fun _ =>
  Action.command "DELETE FROM books"

def findNothing : Transaction → Action Script Unit Unit := fun _ => throw .notFound

theorem findNothing_joined :
    FailsTwice findNothing lostSession .notFound (.query "connection closed") .body ∧
      (run findNothing lostSession).1 =
        .error (.rollback .notFound (.query "connection closed")) := by
  have h : FailsTwice findNothing lostSession .notFound (.query "connection closed") .body :=
    .body (n := 0) rfl rfl rfl
  exact ⟨h, (run_joins_failures_iff h).2.1.mpr rfl⟩

theorem deleteBooks_not_joined :
    FailsTwice deleteBooks lostSession .timeout (.query "connection closed") .commit ∧
      (run deleteBooks lostSession).1 ≠
        .error (.rollback .timeout (.query "connection closed")) := by
  have h : FailsTwice deleteBooks lostSession .timeout (.query "connection closed") .commit :=
    .commit (n := 0) (a := ()) rfl rfl rfl rfl
  refine ⟨h, ?_⟩
  rw [run_of_failsTwice h]
  simp [Step.report]

end RowMap.Transaction
