import RowMap.Proofs.Savepoint.Reentry

/-!
# What escapes from a transaction

A run through an open transaction ends it. What was pending then is durable or lost, and what comes
afterwards is durable at once. A ledger says of every use of a transaction what has become durable
before the transaction is rolled back.
-/

namespace RowMap.Savepoint

open Transaction (Ending savepointSql beginSql commitSql rollbackSql)

variable {respond : Responder} {μ : Type}

/-! ## Ledgers -/

/-- The statements that wait for the end of the open transaction, and those that have become durable
since it was opened. -/
structure Ledger where
  pending? : Option (List Statement)
  escaped : List Statement

namespace Ledger

def ask (stmt : Statement) (l : Ledger) : Ledger :=
  match l.pending? with
  | none => { l with escaped := l.escaped ++ [stmt] }
  | some pending => { l with pending? := some (pending ++ [stmt]) }

/-- BEGIN opens a transaction if none is open. -/
def begin (l : Ledger) : Ledger := { l with pending? := some (l.pending?.getD []) }

def finish (ending : Ending) (l : Ledger) : Ledger where
  pending? := none
  escaped := if ending = .commit then l.escaped ++ l.pending?.getD [] else l.escaped

/-- A nested transaction that is not committed leaves what was pending before it. -/
def leave (ending : Ending) (before : List Statement) (l : Ledger) : Ledger :=
  if ending = .commit then l else { l with pending? := l.pending?.map fun _ => before }

end Ledger

namespace Uses

def settle : Uses → Ledger → Ledger
  | done, l => l
  | ask r rest, l => rest.settle (l.ask r.statement)
  | nested inner ending rest, l =>
    match l.pending? with
    | none => rest.settle l
    | some before => rest.settle ((inner.settle l).leave ending before)
  | run body outcome rest, l => rest.settle ((body.settle l.begin).finish (endingOf outcome))

/-- What is durable before the transaction has ended, when so much was pending at first. -/
def escaped (uses : Uses) (pending : List Statement) : List Statement :=
  (uses.settle ⟨some pending, []⟩).escaped

end Uses

namespace Database

/-- The database has what the ledger says, and its transaction has not failed. -/
structure Follows (durable : List Entry) (l : Ledger) (db : Database respond) : Prop where
  pending : db.work?.map Work.statements = l.pending?
  escaped : ∃ more, db.durable = durable ++ more ∧ more.map Entry.statement = l.escaped
  healthy : ∀ w, db.work? = some w → w.failed = false

/-- A transaction that is open afterwards was open before, with the same marks at the bottom. -/
def Remains (depth : Nat) (db db' : Database respond) : Prop :=
  ∀ w', db'.work? = some w' → ∃ w added, db.work? = some w ∧ w.Extends depth added w'

variable {durable : List Entry} {l : Ledger} {db db₁ db₂ : Database respond} {depth : Nat}
  {w w₁ : Work}

theorem Remains.refl (depth : Nat) (db : Database respond) : Remains depth db db :=
  fun w hwork => ⟨w, [], hwork, .refl depth w⟩

theorem Remains.trans (h : Remains depth db db₁) (h' : Remains depth db₁ db₂) :
    Remains depth db db₂ := by
  intro w₂ hwork₂
  obtain ⟨w₁, more, hwork₁, hextends₁⟩ := h' w₂ hwork₂
  obtain ⟨w, added, hwork, hextends⟩ := h w₁ hwork₁
  exact ⟨w, added ++ more, hwork, hextends.trans hextends₁⟩

theorem remains_of_idle (hwork : db₁.work? = none) : Remains depth db db₁ := by
  intro w hw
  rw [hwork] at hw
  cases hw

theorem remains_of_open {added : List Statement} (hwork : db.work? = some w)
    (hwork₁ : db₁.work? = some w₁) (hextends : w.Extends depth added w₁) :
    Remains depth db db₁ := by
  intro w' hw'
  rw [hwork₁] at hw'
  cases hw'
  exact ⟨w, added, hwork, hextends⟩

theorem Follows.idle (h : Follows durable l db) (hpending : l.pending? = none) :
    db.work? = none := by
  have hnone := h.pending
  rw [hpending] at hnone
  exact Option.map_eq_none_iff.mp hnone

theorem Follows.opened {pending : List Statement} (h : Follows durable l db)
    (hpending : l.pending? = some pending) :
    ∃ w, db.work? = some w ∧ w.failed = false ∧ w.statements = pending := by
  have hsome := h.pending
  rw [hpending] at hsome
  obtain ⟨w, hwork, hstatements⟩ := Option.map_eq_some_iff.mp hsome
  exact ⟨w, hwork, h.healthy w hwork, hstatements⟩

theorem follows_open (hwork : db.work? = some w) (hfailed : w.failed = false)
    (hpending : l.pending? = some w.statements)
    (hescaped : ∃ more, db.durable = durable ++ more ∧ more.map Entry.statement = l.escaped) :
    Follows durable l db where
  pending := by rw [hwork, hpending, Option.map_some]
  escaped := hescaped
  healthy w' hw' := by
    rw [hwork] at hw'
    cases hw'
    exact hfailed

theorem Follows.of_open {l' : Ledger} (h : Follows durable l db) (hwork : db₁.work? = some w₁)
    (hfailed : w₁.failed = false) (hdurable : db₁.durable = db.durable)
    (hpending : l'.pending? = some w₁.statements) (hescaped : l'.escaped = l.escaped) :
    Follows durable l' db₁ := by
  refine follows_open hwork hfailed hpending ?_
  rw [hdurable, hescaped]
  exact h.escaped

theorem Follows.of_idle {l' : Ledger} (h : Follows durable l db) (hwork : db₁.work? = none)
    (hdurable : db₁.durable = db.durable) (hpending : l'.pending? = none)
    (hescaped : l'.escaped = l.escaped) : Follows durable l' db₁ where
  pending := by rw [hwork, hpending, Option.map_none]
  escaped := by
    rw [hdurable, hescaped]
    exact h.escaped
  healthy w hw := by
    rw [hwork] at hw
    cases hw

/-! ### One step -/

theorem answer_at_once (hserves : Serves respond) (hwork : db.work? = none) (r : Request) :
    (db.answer r.statement).2 =
      { db with durable := db.durable ++ [⟨db.clock, r.statement⟩], clock := db.clock + 1 } := by
  obtain ⟨reply, hreply⟩ := hserves db.durable r.statement
  rw [answer, r.plain]
  simp only [perform, hwork, hreply]

theorem Follows.ask (hserves : Serves respond) (h : Follows durable l db) (r : Request)
    (depth : Nat) :
    Follows durable (l.ask r.statement) (db.answer r.statement).2 ∧
      Remains depth db (db.answer r.statement).2 := by
  unfold Ledger.ask
  cases hpending : l.pending? with
  | none =>
    have hwork := h.idle hpending
    obtain ⟨more, hdurable, hmore⟩ := h.escaped
    rw [answer_at_once hserves hwork r]
    refine ⟨⟨h.pending.trans hpending, ?_, h.healthy⟩, remains_of_idle hwork⟩
    refine ⟨more ++ [⟨db.clock, r.statement⟩], ?_, ?_⟩
    · rw [hdurable, List.append_assoc]
    · rw [List.map_append, hmore, List.map_singleton]
  | some pending =>
    obtain ⟨w, hwork, hfailed, rfl⟩ := h.opened hpending
    obtain ⟨w₁, hgrows⟩ := grows_ask depth hwork r
    obtain ⟨hfailed₁, hrefused⟩ := hgrows.serves hserves hfailed
    have hextends := hgrows.growth hrefused
    have hstatements := (hextends.statements hfailed₁).2
    refine ⟨?_, remains_of_open hwork hgrows.work hextends⟩
    exact h.of_open hgrows.work hfailed₁ hgrows.durable (congrArg some hstatements.symm) rfl

theorem Follows.begin (h : Follows durable l db) :
    ∃ reply db₁, db.command (beginSql none) = (.ok reply, db₁) ∧ Follows durable l.begin db₁ := by
  cases hpending : l.pending? with
  | none =>
    refine ⟨_, _, command_begin (h.idle hpending), ?_⟩
    exact h.of_open rfl rfl rfl (by rw [Ledger.begin, hpending]; rfl) rfl
  | some pending =>
    obtain ⟨w, hwork, hfailed, rfl⟩ := h.opened hpending
    have hopen : w.control db.clock .begin = some w := if_neg (by simp [hfailed])
    refine ⟨_, _, command_followed hwork (ofText_beginSql none) rfl hopen, ?_⟩
    exact h.of_open rfl hfailed rfl (by rw [Ledger.begin, hpending]; rfl) rfl

theorem Follows.finish (h : Follows durable l db) (ending : Ending) :
    Follows durable (l.finish ending) (db.closed 0 ending) := by
  unfold Ledger.finish
  cases hpending : l.pending? with
  | none =>
    have hidle : db.Idle db.durable := ⟨h.idle hpending, rfl⟩
    obtain ⟨hwork, hdurable⟩ := hidle.closed 0 ending
    exact h.of_idle hwork hdurable rfl (by simp)
  | some pending =>
    obtain ⟨w, hwork, hfailed, rfl⟩ := h.opened hpending
    cases ending with
    | rollback | drop =>
      rw [closed_rolledBack hwork (by simp)]
      exact h.of_idle rfl rfl rfl rfl
    | commit =>
      obtain ⟨more, hdurable, hmore⟩ := h.escaped
      rw [closed_commit hwork, commit_of_not_failed hfailed]
      refine ⟨rfl, ⟨more ++ w.entries, ?_, ?_⟩, fun w hw => (nomatch hw)⟩
      · rw [hdurable, List.append_assoc]
      · rw [List.map_append, hmore]
        rfl

section
variable (hwork : db.work? = some w) (hfailed : w.failed = false) (h : Follows durable l db₁)
  (hremains : Remains (depth + 1) (db.marked depth w) db₁)
include hwork hfailed h hremains

theorem Follows.leave (ending : Ending) :
    Follows durable (l.leave ending w.statements) (db₁.closed (depth + 1) ending) ∧
      Remains depth db (db₁.closed (depth + 1) ending) := by
  unfold Ledger.leave
  cases hpending : l.pending? with
  | none =>
    have hidle : db₁.Idle db₁.durable := ⟨h.idle hpending, rfl⟩
    obtain ⟨hnone, hdurable⟩ := hidle.closed (depth + 1) ending
    refine ⟨?_, remains_of_idle hnone⟩
    split
    · exact h.of_idle hnone hdurable hpending rfl
    · exact h.of_idle hnone hdurable rfl rfl
  | some pending =>
    obtain ⟨w₁, hwork₁, hfailed₁, rfl⟩ := h.opened hpending
    obtain ⟨_, added, ⟨⟩, hextends⟩ := hremains w₁ hwork₁
    cases ending with
    | commit =>
      rw [closed, command_followed hwork₁ (ofText_commitSql_succ depth) rfl
        (hextends.release hfailed₁ db₁.clock)]
      refine ⟨h.of_open rfl hfailed₁ rfl hpending rfl, ?_⟩
      exact remains_of_open hwork rfl hextends.released
    | rollback | drop =>
      rw [closed, command_followed hwork₁ (ofText_rollbackSql_succ depth) rfl
        (hextends.rollbackTo db₁.clock)]
      refine ⟨h.of_open rfl rfl rfl rfl rfl, ?_⟩
      exact remains_of_open hwork rfl (Work.extends_marked depth _ hfailed)

end

/-- Whatever is done through a transaction, the database follows the ledger. -/
theorem Follows.effect (hserves : Serves respond) (uses : Uses) (depth : Nat)
    (h : Follows durable l db) :
    Follows durable (uses.settle l) (uses.effect depth db) ∧
      Remains depth db (uses.effect depth db) := by
  induction uses generalizing depth l db with
  | done => exact ⟨h, .refl depth db⟩
  | ask r rest ih =>
    obtain ⟨hask, hremains⟩ := h.ask hserves r depth
    obtain ⟨hrest, hremains'⟩ := ih depth hask
    exact ⟨hrest, hremains.trans hremains'⟩
  | nested inner ending rest ihInner ih =>
    rw [Uses.settle, Uses.effect]
    cases hpending : l.pending? with
    | none =>
      -- Without a transaction a savepoint is refused.
      have hwork := h.idle hpending
      have hrefused : db.command (savepointSql (depth + 1)) =
          (.error Work.aborted, { db with clock := db.clock + 1, refused := db.refused + 1 }) := by
        rw [command_control (ofText_savepointSql (depth + 1))]
        simp only [Database.control, hwork, refuse, Option.map_none]
      rw [hrefused]
      have hskipped : Follows durable l
          { db with clock := db.clock + 1, refused := db.refused + 1 } :=
        h.of_idle hwork rfl hpending rfl
      exact ih depth hskipped
    | some pending =>
      obtain ⟨w, hwork, hfailed, rfl⟩ := h.opened hpending
      rw [command_savepoint depth hwork hfailed]
      have hmarked : Follows durable l (db.marked depth w) := h.of_open rfl hfailed rfl hpending rfl
      obtain ⟨hinner, hremains⟩ := ihInner (depth + 1) hmarked
      obtain ⟨hclosed, hremains⟩ := hinner.leave hwork hfailed hremains ending
      obtain ⟨hrest, hremains'⟩ := ih depth hclosed
      exact ⟨hrest, hremains.trans hremains'⟩
  | run body outcome rest ihBody ih =>
    obtain ⟨reply, db₁, hcommand, hbegin⟩ := h.begin
    rw [Uses.settle, Uses.effect, hcommand]
    obtain ⟨hbody, -⟩ := ihBody 0 hbegin
    obtain ⟨hrest, hremains⟩ := ih depth (hbody.finish (endingOf outcome))
    have hidle := work_closed (body.effect 0 db₁) (endingOf outcome)
    exact ⟨hrest, (remains_of_idle hidle).trans hremains⟩

theorem durable_rollback (db : Database respond) (depth : Nat) :
    (db.command (rollbackSql depth)).2.durable = db.durable := by
  cases depth with
  | zero =>
    rw [command_control ofText_rollbackSql_zero]
    cases hwork : db.work? <;> simp only [Database.control, hwork]
  | succ depth =>
    have hcontrol := ofText_rollbackSql_succ depth
    cases hwork : db.work? with
    | none =>
      rw [command_control hcontrol]
      simp only [Database.control, hwork, refuse]
    | some w =>
      obtain ⟨w', hstays⟩ := stays_inner hwork hcontrol rfl
      exact hstays.durable

/-- What waits for the end of the open transaction, if there is one. -/
def pending (db : Database respond) : List Statement := (db.work?.map Work.statements).getD []

/-- A transaction is open afterwards, and what was pending still is. -/
def OpenAs (db db' : Database respond) (w : Work) : Prop :=
  db'.work? = some w ∧ w.failed = false ∧ w.statements = db.pending ∧ db'.durable = db.durable

theorem OpenAs.follows (h : OpenAs db db₁ w) :
    Follows db.durable ⟨some db.pending, []⟩ db₁ := by
  obtain ⟨hwork, hfailed, hstatements, hdurable⟩ := h
  refine follows_open hwork hfailed (congrArg some hstatements.symm) ⟨[], ?_, rfl⟩
  rw [hdurable, List.append_nil]

theorem openAs_of_control {sql : String} {c : Control} {reply : Script.Reply}
    (hcontrol : Control.ofText sql = some c) (hopens : c = .begin ∨ ∃ name, c = .savepoint name)
    (hreply : (db.command sql).1 = .ok reply) : ∃ w, OpenAs db (db.command sql).2 w := by
  rw [command_control hcontrol] at hreply ⊢
  unfold Database.control refuse at hreply ⊢
  unfold OpenAs pending
  cases hwork : db.work? with
  | none =>
    rcases hopens with rfl | ⟨name, rfl⟩
    · exact ⟨{}, rfl, rfl, rfl, rfl⟩
    · simp only [hwork, reduceCtorEq] at hreply
  | some w =>
    cases hfailed : w.failed with
    | true =>
      rcases hopens with rfl | ⟨name, rfl⟩ <;>
        simp [hwork, hfailed, Work.control] at hreply
    | false =>
      rcases hopens with rfl | ⟨name, rfl⟩
      · refine ⟨w, ?_, hfailed, rfl, ?_⟩ <;> simp [hfailed, Work.control]
      · refine ⟨w.marked name db.clock, ?_, hfailed, rfl, ?_⟩ <;> simp [hfailed, Work.control]

end Database

/-! ## Transactions that have been opened -/

/-- The transaction has been opened, on its own or inside another one. -/
inductive Opens (s : Session (Database respond) μ) (tx : Transaction)
    (s₀ : Session (Database respond) μ) : Prop
  | start (level : Option Isolation) : Transaction.start level s = (.ok tx, s₀) → Opens s tx s₀
  | nest (parent : Transaction) : Transaction.nest parent s = (.ok tx, s₀) → Opens s tx s₀

variable {s s₀ : Session (Database respond) μ} {tx : Transaction}

theorem Opens.openAs (h : Opens s tx s₀) :
    tx.closed = false ∧ ∃ w, s.server.OpenAs s₀.server w := by
  have hopens {sql : String} {c : Control} (hcontrol : Control.ofText sql = some c)
      (hopens : c = .begin ∨ ∃ name, c = .savepoint name) {depth : Nat}
      {s₁ : Session (Database respond) μ}
      (h : ((s.server.command sql).1.map fun _ => ({ depth } : Transaction), s₁) = (.ok tx, s₀))
      (hserver : s₁.server = (s.server.command sql).2) :
      tx.closed = false ∧ ∃ w, s.server.OpenAs s₀.server w := by
    cases hreply : (s.server.command sql).1 with
    | error e =>
      rw [hreply] at h
      cases h
    | ok reply =>
      rw [hreply] at h
      cases h
      rw [hserver]
      exact ⟨rfl, Database.openAs_of_control hcontrol hopens hreply⟩
  cases h with
  | start level h =>
    rw [start_database] at h
    exact hopens (ofText_beginSql level) (.inl rfl) h rfl
  | nest parent h =>
    rw [nest_database] at h
    exact hopens (ofText_savepointSql _) (.inr ⟨_, rfl⟩) h rfl

theorem rollback_after (uses : Uses) (h : Opens s tx s₀) :
    ∃ depth used, uses.perform tx s₀ = (.ok (), used) ∧
      used.server = uses.effect depth s₀.server ∧
      (Transaction.rollback tx used).2.server.durable = used.server.durable := by
  obtain ⟨depth, closed⟩ := tx
  obtain ⟨rfl, -⟩ := h.openAs
  obtain ⟨used, hperform, hserver⟩ := uses.perform_database depth s₀
  refine ⟨depth, used, hperform, hserver, ?_⟩
  have hclose : (Transaction.rollback { depth } used).2.server =
      used.server.closed depth .rollback :=
    close_server used .rollback depth
  rw [hclose]
  exact Database.durable_rollback used.server depth

theorem durable_after_steps (h : Opens s tx s₀) (steps : Steps) :
    (Transaction.rollback tx (steps.uses.perform tx s₀).2).2.server.durable = s.server.durable := by
  obtain ⟨-, w, hwork, -, -, hdurable⟩ := h.openAs
  obtain ⟨depth, used, hperform, hserver, hrollback⟩ := rollback_after steps.uses h
  obtain ⟨w', hgrows⟩ := Database.grows_effect steps depth hwork
  rw [hperform, hrollback, hserver, steps.effect_uses, hgrows.durable, hdurable]

theorem durable_after_uses (hserves : Database.Serves respond) (h : Opens s tx s₀) (uses : Uses) :
    ∃ more, (Transaction.rollback tx (uses.perform tx s₀).2).2.server.durable =
        s.server.durable ++ more ∧
      more.map Entry.statement = uses.escaped s.server.pending := by
  obtain ⟨-, w, hopen⟩ := h.openAs
  obtain ⟨depth, used, hperform, hserver, hrollback⟩ := rollback_after uses h
  rw [hperform, hrollback, hserver]
  exact (hopen.follows.effect hserves uses depth).1.escaped

/-- After the rollback of a transaction nothing of it is durable, unless it was used for a run: what
is durable then is what has escaped from it before. When the data statements succeed, that is what
the runs have committed and what came after them. -/
theorem rollback_leaves_escaped (h : Opens s tx s₀) (uses : Uses) :
    let used := (uses.perform tx s₀).2
    let after := (Transaction.rollback tx used).2
    after.server.durable = used.server.durable ∧
      (∀ steps : Steps, uses = steps.uses → after.server.durable = s.server.durable) ∧
      (Database.Serves respond →
        after.server.statements = s.server.statements ++ uses.escaped s.server.pending ∧
          (after.server.durable = s.server.durable ↔ uses.escaped s.server.pending = [])) := by
  refine ⟨?_, ?_, fun hserves => ?_⟩
  · obtain ⟨depth, used, hperform, -, hrollback⟩ := rollback_after uses h
    rw [hperform]
    exact hrollback
  · rintro steps rfl
    exact durable_after_steps h steps
  · obtain ⟨more, hdurable, hmore⟩ := durable_after_uses hserves h uses
    rw [Database.statements, Database.statements, hdurable, List.map_append, hmore, ← hmore]
    exact ⟨rfl, by simp⟩

namespace Uses

/-- The run fails, and the book is rolled back with it. -/
def failedRun : Uses :=
  .ask .insertBook (.run (.ask .deletePlans .done) (.error .timeout) .done)

/-- The run succeeds, and its book is durable. -/
def lentRun : Uses := .run (.ask .insertBook .done) (.ok ()) .done

def idle : Session (Database Responder.willing) Unit := ⟨{}, (), []⟩

theorem willing_serves : Database.Serves Responder.willing := fun _ _ => ⟨.affected 1, rfl⟩

theorem opens_idle (level : Option Isolation) :
    Opens idle { depth := 0 } (Transaction.start level idle).2 := by
  have hstart : Transaction.start level idle =
      (.ok { depth := 0 }, (Transaction.start level idle).2) := by
    rw [start_database, Database.command_begin rfl]
    rfl
  exact .start level hstart

theorem failedRun_rolledBack :
    Opens idle { depth := 0 } (Transaction.start none idle).2 ∧
      Database.Serves Responder.willing ∧
      (Transaction.rollback { depth := 0 }
        (failedRun.perform { depth := 0 } (Transaction.start none idle).2).2).2.server.durable =
          idle.server.durable := by
  have h := rollback_leaves_escaped (opens_idle none) failedRun
  exact ⟨opens_idle none, willing_serves, (h.2.2 willing_serves).2.mpr rfl⟩

theorem lentRun_not_rolledBack :
    let used := (lentRun.perform { depth := 0 } (Transaction.start none idle).2).2
    (Transaction.start none idle).1 = .ok { depth := 0 } ∧
      (Transaction.rollback { depth := 0 } used).1 = .ok () ∧
      (Transaction.rollback { depth := 0 } used).2.server.durable ≠ idle.server.durable := by
  obtain ⟨more, hdurable, hmore⟩ := durable_after_uses willing_serves (opens_idle none) lentRun
  have hescaped : lentRun.escaped idle.server.pending = [Request.insertBook.statement] := rfl
  refine ⟨rfl, rfl, fun hrestored => ?_⟩
  rw [hdurable, List.append_right_eq_self] at hrestored
  rw [hrestored, hescaped] at hmore
  cases hmore

end Uses

end RowMap.Savepoint
