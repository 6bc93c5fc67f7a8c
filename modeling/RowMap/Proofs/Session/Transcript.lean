import RowMap.Proofs.Session.Bracket

/-!
# What a transaction sends

A recorder stands in front of any server and keeps what was handed over and whether it succeeded.
An open transaction is closed by one statement, and by a rollback more when a commit was refused.
From that the whole run of a body in a transaction is bracketed.
-/

namespace RowMap

/-! ## Recorders -/

/-- A statement and whether it succeeded. -/
structure Exchange where
  statement : Statement
  outcome : Except StoreError Unit

structure Recorder (σ : Type) where
  server : σ
  /-- What was handed over, the first statement first. -/
  transcript : List Exchange := []

namespace Recorder

variable {σ α : Type}

def note (r : Recorder σ) (s : Statement) (answer : Except StoreError α × σ) :
    Except StoreError α × Recorder σ :=
  (answer.1, ⟨answer.2, r.transcript ++ [⟨s, answer.1.map fun _ => ()⟩]⟩)

instance [Server σ] : Server (Recorder σ) where
  announce := Server.announce σ
  execute s r := r.note s (Server.execute s r.server)
  query s r := r.note s (Server.query s r.server)

end Recorder

def Session.transcript {σ μ : Type} (s : Session (Recorder σ) μ) : List Exchange :=
  s.server.transcript

namespace Transaction

variable {σ μ α : Type} [Server σ]

/-! ## Closing -/

inductive Ending
  | commit | rollback | drop
deriving DecidableEq

def Ending.close (tx : Transaction) : Ending → Action σ μ Unit
  | .commit => tx.commit
  | .rollback => tx.rollback
  | .drop => tx.drop

/-- What closing an open transaction sends, and its result. -/
inductive Closes (depth : Nat) : Ending → List Exchange → Except StoreError Unit → Prop
  | committed : Closes depth .commit [⟨⟨commitSql depth, []⟩, .ok ()⟩] (.ok ())
  | refused (e : StoreError) (outcome : Except StoreError Unit) :
      Closes depth .commit
        [⟨⟨commitSql depth, []⟩, .error e⟩, ⟨⟨rollbackSql depth, []⟩, outcome⟩] (.error e)
  | rolledBack (outcome : Except StoreError Unit) :
      Closes depth .rollback [⟨⟨rollbackSql depth, []⟩, outcome⟩] outcome
  | dropped (outcome : Except StoreError Unit) :
      Closes depth .drop [⟨⟨rollbackSql depth, []⟩, outcome⟩] (.ok ())

theorem transcript_command (sql : String) (s : Session (Recorder σ) μ) :
    (Action.command sql s).2.transcript =
      s.transcript ++ [⟨⟨sql, []⟩, (Action.command sql s).1⟩] := by
  rw [Action.command_apply]
  rfl

theorem transcript_sendRollback (tx : Transaction) (s : Session (Recorder σ) μ) :
    (sendRollback tx s).2.transcript =
      s.transcript ++ [⟨⟨rollbackSql tx.depth, []⟩, (sendRollback tx s).1⟩] := by
  rw [sendRollback_apply]
  rfl

theorem transcript_dropped (tx : Transaction) (s : Session (Recorder σ) μ) :
    ∃ outcome, (dropped tx s).transcript =
      s.transcript ++ [⟨⟨rollbackSql tx.depth, []⟩, outcome⟩] := by
  have h := transcript_sendRollback tx (s.logged (.droppedOpen tx.depth))
  refine ⟨(sendRollback tx (s.logged (.droppedOpen tx.depth))).1, ?_⟩
  unfold dropped
  split <;> next hr =>
    rw [hr] at h ⊢
    exact h

theorem closes_commit (depth : Nat) (s : Session (Recorder σ) μ) :
    ∃ closing, (commit { depth } s).2.transcript = s.transcript ++ closing ∧
      Closes depth .commit closing (commit { depth } s).1 := by
  have h := transcript_command (commitSql depth) (s.logged (.commitSpan depth))
  rw [commit_apply rfl]
  split
  · next hr =>
    rw [hr] at h
    exact ⟨_, h, .committed⟩
  · next e s' hr =>
    rw [hr] at h
    obtain ⟨outcome, hdropped⟩ := transcript_dropped { depth } s'
    refine ⟨_, ?_, .refused e outcome⟩
    rw [hdropped, h, List.append_assoc]
    rfl

theorem closes_rollback (depth : Nat) (s : Session (Recorder σ) μ) :
    ∃ closing, (rollback { depth } s).2.transcript = s.transcript ++ closing ∧
      Closes depth .rollback closing (rollback { depth } s).1 := by
  rw [rollback_apply]
  exact ⟨_, transcript_sendRollback { depth } s, .rolledBack _⟩

theorem closes_drop (depth : Nat) (s : Session (Recorder σ) μ) :
    ∃ closing, (drop { depth } s).2.transcript = s.transcript ++ closing ∧
      Closes depth .drop closing (drop { depth } s).1 := by
  rw [drop_open rfl]
  obtain ⟨outcome, hdropped⟩ := transcript_dropped { depth } s
  exact ⟨_, hdropped, .dropped outcome⟩

theorem closes_close (ending : Ending) (depth : Nat) (s : Session (Recorder σ) μ) :
    ∃ closing, (ending.close { depth } s).2.transcript = s.transcript ++ closing ∧
      Closes depth ending closing (ending.close { depth } s).1 := by
  cases ending with
  | commit => exact closes_commit depth s
  | rollback => exact closes_rollback depth s
  | drop => exact closes_drop depth s

/-! ## A body in a transaction -/

/-- How a run ends after its body: the outcome of the body, what is sent, and the result. -/
inductive Ends : Except StoreError α → List Exchange → Except StoreError α → Prop
  | committed (a : α) : Ends (.ok a) [⟨⟨"COMMIT", []⟩, .ok ()⟩] (.ok a)
  | refused (a : α) (e : StoreError) (outcome : Except StoreError Unit) :
      Ends (.ok a) [⟨⟨"COMMIT", []⟩, .error e⟩, ⟨⟨"ROLLBACK", []⟩, outcome⟩] (.error e)
  | rolledBack (e : StoreError) : Ends (.error e) [⟨⟨"ROLLBACK", []⟩, .ok ()⟩] (.error e)
  | stuck (e failure : StoreError) :
      Ends (.error e) [⟨⟨"ROLLBACK", []⟩, .error failure⟩] (.error (.rollback e failure))

theorem Ends.eq_ok_iff {outcome result : Except StoreError α} {closing : List Exchange}
    (h : Ends outcome closing result) (a : α) :
    result = .ok a ↔ outcome = .ok a ∧ closing = [⟨⟨"COMMIT", []⟩, .ok ()⟩] := by
  cases h <;> simp

theorem transcript_opened (s : Session (Recorder σ) μ) :
    (opened s).transcript = s.transcript ++
      [⟨⟨"BEGIN", []⟩, (Server.execute ⟨"BEGIN", []⟩ s.server).1.map fun _ => ()⟩] := rfl

theorem run_ends {s : Session (Recorder σ) μ} {n : Nat}
    (hbegin : (Server.execute ⟨"BEGIN", []⟩ s.server).1 = .ok n)
    (body : Transaction → Action (Recorder σ) μ α) :
    let done := body { depth := 0 } (opened s)
    ∃ closing, (run body s).2.transcript = done.2.transcript ++ closing ∧
      Ends done.1 closing (run body s).1 := by
  rcases hbody : body { depth := 0 } (opened s) with ⟨e | a, s'⟩
  · rw [run_of_error hbegin hbody]
    have h := transcript_sendRollback { depth := 0 } s'
    rcases hr : sendRollback { depth := 0 } s' with ⟨failure | _, s₁⟩
    · rw [hr] at h
      exact ⟨_, h, .stuck e failure⟩
    · rw [hr] at h
      exact ⟨_, h, .rolledBack e⟩
  · rw [run_of_ok hbegin hbody]
    obtain ⟨closing, htranscript, hcloses⟩ := closes_commit 0 s'
    refine ⟨closing, htranscript, ?_⟩
    generalize (commit { depth := 0 } s').1 = result at hcloses
    cases hcloses with
    | committed => exact .committed a
    | refused e outcome => exact .refused a e outcome

/-- Every run sends BEGIN first. Refused, it is the end of the run, whatever the body is. Otherwise
the body runs, and one statement closes the transaction, or a commit that is refused and a rollback.
The run succeeds just when the body and the commit do. Every transaction is closed in this way, and
a closed one sends nothing when it is dropped. -/
theorem run_is_bracketed (s : Session (Recorder σ) μ) :
    ((∃ e, (opened s).transcript = s.transcript ++ [⟨⟨"BEGIN", []⟩, .error e⟩] ∧
        ∀ {α : Type} (body : Transaction → Action (Recorder σ) μ α),
          run body s = (.error e, opened s)) ∨
      ((opened s).transcript = s.transcript ++ [⟨⟨"BEGIN", []⟩, .ok ()⟩] ∧
        ∀ {α : Type} (body : Transaction → Action (Recorder σ) μ α),
          let done := body { depth := 0 } (opened s)
          ∃ closing, (run body s).2.transcript = done.2.transcript ++ closing ∧
            Ends done.1 closing (run body s).1 ∧
            ∀ a, (run body s).1 = .ok a ↔
              done.1 = .ok a ∧ closing = [⟨⟨"COMMIT", []⟩, .ok ()⟩])) ∧
      (∀ (ending : Ending) (depth : Nat),
        ∃ closing, (ending.close { depth } s).2.transcript = s.transcript ++ closing ∧
          Closes depth ending closing (ending.close { depth } s).1) ∧
      ∀ depth : Nat, drop { depth, closed := true } s = (.ok (), s) := by
  refine ⟨?_, fun ending depth => closes_close ending depth s, fun depth => rfl⟩
  rw [transcript_opened]
  rcases hbegin : (Server.execute ⟨"BEGIN", []⟩ s.server).1 with e | n
  · exact .inl ⟨e, rfl, fun body => run_not_opened body hbegin⟩
  · refine .inr ⟨rfl, fun body => ?_⟩
    obtain ⟨closing, htranscript, hends⟩ := run_ends hbegin body
    exact ⟨closing, htranscript, hends, hends.eq_ok_iff⟩

end Transaction

end RowMap
