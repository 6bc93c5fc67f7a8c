import RowMap.Proofs.Savepoint.Calls

/-!
# Nested transactions

A transaction whose nested transactions are closed before it is used again is a tree. What such a
tree leaves in a database is what the committed parts of it have done. Savepoints that were rolled
back stay behind, so what is known of the marks is that the new ones are on top and deeper.
-/

namespace RowMap.Savepoint

/-! ## Trees -/

/-- What is done in a transaction, with the transactions inside it. -/
inductive Steps
  | done
  | ask (r : Request) (rest : Steps)
  | nested (inner : Steps) (ending : Transaction.Ending) (rest : Steps)

namespace Steps

/-- The statements that a transaction contributes when it is committed. -/
def contribution : Steps → List Statement
  | done => []
  | ask r rest => r.statement :: rest.contribution
  | nested inner ending rest =>
    (if ending = .commit then inner.contribution else []) ++ rest.contribution

section
variable {σ μ : Type} [Server σ]

/-- Does the steps, whether they succeed or not. Without its savepoint a transaction is left out. -/
def run : Steps → Transaction → Action σ μ Unit
  | done, _ => return
  | ask r rest, tx => do
    r.send
    rest.run tx
  | nested inner ending rest, tx => do
    match ← tx.nest.attempt with
    | .ok sub =>
      inner.run sub
      let _ ← (ending.close sub).attempt
      rest.run tx
    | .error _ => rest.run tx

/-- The steps in a transaction of their own, which is left open. -/
def begin (level : Option Isolation) (steps : Steps) : Action σ μ Transaction := do
  let tx ← Transaction.start level
  steps.run tx
  return tx

def transact (level : Option Isolation) (steps : Steps) (ending : Transaction.Ending) :
    Action σ μ Unit := do
  let tx ← steps.begin level
  ending.close tx

end

/-- What the steps make of a database. -/
def effect {respond : Responder} : Steps → Nat → Database respond → Database respond
  | done, _, db => db
  | ask r rest, depth, db => rest.effect depth (db.answer r.statement).2
  | nested inner ending rest, depth, db =>
    match db.command (Transaction.savepointSql (depth + 1)) with
    | (.ok _, db) => rest.effect depth ((inner.effect (depth + 1) db).closed (depth + 1) ending)
    | (.error _, db) => rest.effect depth db

end Steps

variable {respond : Responder} {μ : Type}

theorem Steps.run_database (steps : Steps) (depth : Nat) (s : Session (Database respond) μ) :
    ∃ s', steps.run { depth } s = (.ok (), s') ∧ s'.server = steps.effect depth s.server := by
  induction steps generalizing depth s with
  | done => exact ⟨s, rfl, rfl⟩
  | ask r rest ih =>
    obtain ⟨s', hrun, hserver⟩ := ih depth (s.asked r.statement (s.server.answer r.statement).2)
    exact ⟨s', (Action.bind_of_ok (r.send_apply s) _).trans hrun, hserver⟩
  | nested inner ending rest ihInner ih =>
    have hnest := nest_database s { depth }
    rw [run, effect, Action.bind_of_ok (Action.attempt_apply (Transaction.nest { depth }) s), hnest]
    rcases s.server.command (Transaction.savepointSql (depth + 1)) with ⟨e | reply, db⟩
    · exact ih depth _
    · obtain ⟨s₁, hinner, hserver⟩ := ihInner (depth + 1)
        ((s.logged (.beginSpan (depth + 1))).asked ⟨Transaction.savepointSql (depth + 1), []⟩ db)
      obtain ⟨s', hrest, hserver'⟩ := ih depth (ending.close { depth := depth + 1 } s₁).2
      refine ⟨s', ?_, ?_⟩
      · refine (Action.bind_of_ok hinner _).trans ?_
        exact (Action.bind_of_ok (Action.attempt_apply _ s₁) _).trans hrest
      · rw [hserver', close_server, hserver]
        rfl

/-! ## Work on a level -/

namespace Work

open Transaction (savepoint)

/-- The work after some more of it on a level. The new marks are on top and deeper, and unless it
has failed, the statements are added at the end. -/
structure Extends (depth : Nat) (added : List Statement) (w w' : Work) : Prop where
  marks : ∃ later, w'.marks = later ++ w.marks ∧
    ∀ m ∈ later, ∃ d, depth < d ∧ m.name = savepoint d
  statements : w'.failed = false → w.failed = false ∧ w'.statements = w.statements ++ added

variable {depth time : Nat} {added more : List Statement} {w w₁ w₂ : Work}

theorem Extends.refl (depth : Nat) (w : Work) : w.Extends depth [] w :=
  ⟨⟨[], rfl, by simp⟩, fun h => ⟨h, by simp⟩⟩

theorem Extends.trans (h : w.Extends depth added w₁) (h' : w₁.Extends depth more w₂) :
    w.Extends depth (added ++ more) w₂ := by
  obtain ⟨later, hmarks, hlater⟩ := h.marks
  obtain ⟨later', hmarks', hlater'⟩ := h'.marks
  refine ⟨⟨later' ++ later, ?_, ?_⟩, fun hfailed => ?_⟩
  · rw [hmarks', hmarks, List.append_assoc]
  · exact fun m hm => (List.mem_append.mp hm).elim (hlater' m) (hlater m)
  · obtain ⟨hfailed₁, hstatements'⟩ := h'.statements hfailed
    obtain ⟨hfailed₀, hstatements⟩ := h.statements hfailed₁
    exact ⟨hfailed₀, by rw [hstatements', hstatements, List.append_assoc]⟩

theorem extends_perform (depth : Nat) (durable : List Entry) (time : Nat) (s : Statement)
    (w : Work) : w.Extends depth [s] (w.perform respond durable time s).2 := by
  rcases perform_cases respond durable time s w with ⟨-, e, hw⟩ | ⟨hfailed, reply, hw⟩
  · rw [hw]
    exact ⟨⟨[], rfl, by simp⟩, fun h => (nomatch h)⟩
  · rw [hw]
    exact ⟨⟨[], rfl, by simp⟩, fun _ => ⟨hfailed, by simp [statements]⟩⟩

/-- The newest mark with the name of a level is the one that was set there last. -/
theorem Extends.marksFrom_eq
    (h : (w.marked (savepoint (depth + 1)) time).Extends (depth + 1) added w₁) :
    w₁.marksFrom (savepoint (depth + 1)) = ⟨savepoint (depth + 1), time, w.entries⟩ :: w.marks := by
  obtain ⟨later, hmarks, hlater⟩ := h.marks
  have hdeeper : ∀ m ∈ later, decide (m.name ≠ savepoint (depth + 1)) = true := by
    intro m hm
    obtain ⟨d, hd, hname⟩ := hlater m hm
    rw [decide_eq_true_eq, hname, Ne, savepoint_inj]
    omega
  rw [marksFrom, hmarks, List.dropWhile_append_of_pos hdeeper, marked,
    List.dropWhile_cons_of_neg (by simp)]

theorem Extends.rollbackTo
    (h : (w.marked (savepoint (depth + 1)) time).Extends (depth + 1) added w₁) (now : Nat) :
    w₁.control now (.rollbackTo (savepoint (depth + 1))) =
      some { w.marked (savepoint (depth + 1)) time with failed := false } := by
  rw [control, h.marksFrom_eq]
  rfl

theorem Extends.release
    (h : (w.marked (savepoint (depth + 1)) time).Extends (depth + 1) added w₁)
    (hfailed : w₁.failed = false) (now : Nat) :
    w₁.control now (.release (savepoint (depth + 1))) = some { w₁ with marks := w.marks } := by
  rw [control, h.marksFrom_eq]
  exact if_neg (by simp [hfailed])

theorem Extends.refusesRelease
    (h : (w.marked (savepoint (depth + 1)) time).Extends (depth + 1) added w₁)
    (hfailed : w₁.failed = true) (now : Nat) :
    w₁.control now (.release (savepoint (depth + 1))) = none := by
  rw [control, h.marksFrom_eq]
  exact if_pos hfailed

theorem extends_marked (depth : Nat) (time : Nat) (hfailed : w.failed = false) :
    w.Extends depth [] { w.marked (savepoint (depth + 1)) time with failed := false } := by
  refine ⟨⟨[⟨savepoint (depth + 1), time, w.entries⟩], rfl, fun m hm => ?_⟩, fun _ => ⟨hfailed, ?_⟩⟩
  · obtain rfl := List.mem_singleton.mp hm
    exact ⟨depth + 1, Nat.lt_succ_self depth, rfl⟩
  · exact (List.append_nil _).symm

theorem Extends.released
    (h : (w.marked (savepoint (depth + 1)) time).Extends (depth + 1) added w₁) :
    w.Extends depth added { w₁ with marks := w.marks } :=
  ⟨⟨[], rfl, by simp⟩, h.statements⟩

end Work

/-! ## Databases on a level -/

namespace Database

/-- Nothing becomes durable, and the transaction is still open. -/
structure Stays (db db' : Database respond) (w' : Work) : Prop where
  work : db'.work? = some w'
  durable : db'.durable = db.durable
  refused_le : db.refused ≤ db'.refused

/-- The data statements succeed. -/
def Serves (respond : Responder) : Prop := ∀ es s, ∃ reply, (respond es s).result = .ok reply

/-- What running on a level does, as long as every control statement does what it asks for. -/
structure Grows (depth : Nat) (added : List Statement) (db : Database respond) (w : Work)
    (db' : Database respond) (w' : Work) : Prop extends Stays db db' w' where
  growth : db'.refused = db.refused → w.Extends depth added w'
  serves : Serves respond → w.failed = false → w'.failed = false ∧ db'.refused = db.refused

variable {depth : Nat} {added more : List Statement} {db db₁ db₂ : Database respond}
  {w w₁ w₂ : Work}

theorem Stays.trans (h : Stays db db₁ w₁) (h' : Stays db₁ db₂ w₂) : Stays db db₂ w₂ :=
  ⟨h'.work, h'.durable.trans h.durable, h.refused_le.trans h'.refused_le⟩

theorem Grows.refl (depth : Nat) (hwork : db.work? = some w) : Grows depth [] db w db w where
  work := hwork
  durable := rfl
  refused_le := le_rfl
  growth _ := .refl depth w
  serves _ hfailed := ⟨hfailed, rfl⟩

theorem Grows.trans (h : Grows depth added db w db₁ w₁) (h' : Grows depth more db₁ w₁ db₂ w₂) :
    Grows depth (added ++ more) db w db₂ w₂ where
  toStays := h.toStays.trans h'.toStays
  growth hrefused := by
    have hle := h.refused_le
    have hle' := h'.refused_le
    exact (h.growth (by omega)).trans (h'.growth (by omega))
  serves hserves hfailed := by
    obtain ⟨hfailed₁, hrefused₁⟩ := h.serves hserves hfailed
    obtain ⟨hfailed₂, hrefused₂⟩ := h'.serves hserves hfailed₁
    exact ⟨hfailed₂, hrefused₂.trans hrefused₁⟩

theorem Grows.of_refused (hstays : Stays db db₁ w₁) (hrefused : db.refused < db₁.refused)
    (hserves : Serves respond → w.failed = true) : Grows depth added db w db₁ w₁ where
  toStays := hstays
  growth h := absurd h hrefused.ne'
  serves h hfailed := absurd (hserves h) (by simp [hfailed])

theorem grows_ask (depth : Nat) (hwork : db.work? = some w) (r : Request) :
    ∃ w', Grows depth [r.statement] db w (db.answer r.statement).2 w' := by
  rw [answer_plain hwork r.plain]
  refine ⟨_, ⟨rfl, rfl, le_rfl⟩, fun _ => Work.extends_perform depth _ _ _ w, ?_⟩
  intro hserves hfailed
  refine ⟨?_, rfl⟩
  rcases Work.perform_cases respond db.durable db.clock r.statement w with
    ⟨hrefused | ⟨e, he⟩, -⟩ | ⟨-, reply, hw⟩
  · rw [hfailed] at hrefused
    cases hrefused
  · obtain ⟨reply, hreply⟩ := hserves (db.durable ++ w.entries) r.statement
    rw [hreply] at he
    cases he
  · rw [hw]
    exact hfailed

theorem stays_inner {sql : String} {c : Control} (hwork : db.work? = some w)
    (h : Control.ofText sql = some c) (hinner : c.closes = false) :
    ∃ w', Stays db (db.command sql).2 w' := by
  cases hw : w.control db.clock c with
  | none =>
    rw [command_refused hwork h hinner hw]
    exact ⟨w.fail, rfl, rfl, Nat.le_succ _⟩
  | some w' =>
    rw [command_followed hwork h hinner hw]
    exact ⟨w', rfl, rfl, le_rfl⟩

theorem stays_closed (depth : Nat) (hwork : db.work? = some w) (ending : Transaction.Ending) :
    ∃ w', Stays db (db.closed (depth + 1) ending) w' := by
  have hinner {sql : String} {c : Control} (h : Control.ofText sql = some c)
      (hc : c.closes = false) (db₁ : Database respond) :
      (∃ w₁, Stays db db₁ w₁) → ∃ w₂, Stays db (db₁.command sql).2 w₂ := by
    rintro ⟨w₁, hstays⟩
    obtain ⟨w₂, hstays'⟩ := stays_inner hstays.work h hc
    exact ⟨w₂, hstays.trans hstays'⟩
  exact closed_keeps (hinner (ofText_commitSql_succ depth) rfl)
    (hinner (ofText_rollbackSql_succ depth) rfl) ⟨w, hwork, rfl, le_rfl⟩ ending

section
variable (h : Grows (depth + 1) added (db.marked depth w)
  (w.marked (Transaction.savepoint (depth + 1)) db.clock) db₁ w₁)
include h

theorem grows_rolledBack (hfailed : w.failed = false) (hrefused : db₁.refused = db.refused) :
    ∃ w', Grows depth [] db w (db₁.command (Transaction.rollbackSql (depth + 1))).2 w' := by
  rw [command_followed h.work (ofText_rollbackSql_succ depth) rfl
    ((h.growth hrefused).rollbackTo db₁.clock)]
  exact ⟨_, ⟨rfl, h.durable, h.refused_le⟩, fun _ => Work.extends_marked depth _ hfailed,
    fun _ _ => ⟨rfl, hrefused⟩⟩

theorem grows_released (hfailed₁ : w₁.failed = false) (hrefused : db₁.refused = db.refused) :
    ∃ w', Grows depth added db w (db₁.closed (depth + 1) .commit) w' := by
  rw [closed, command_followed h.work (ofText_commitSql_succ depth) rfl
    ((h.growth hrefused).release hfailed₁ db₁.clock)]
  exact ⟨_, ⟨rfl, h.durable, h.refused_le⟩, fun _ => (h.growth hrefused).released,
    fun _ _ => ⟨hfailed₁, hrefused⟩⟩

theorem refused_lt_closed (hfailed₁ : w₁.failed = true) (hrefused : db₁.refused = db.refused) :
    db.refused < (db₁.closed (depth + 1) .commit).refused := by
  rw [closed, command_refused h.work (ofText_commitSql_succ depth) rfl
    ((h.growth hrefused).refusesRelease hfailed₁ db₁.clock)]
  have hwork : (db₁.refusing w₁).work? = some w₁.fail := rfl
  obtain ⟨w', hrollback⟩ := stays_inner hwork (ofText_rollbackSql_succ depth) rfl
  exact (Nat.lt_succ_of_le hrefused.ge).trans_le hrollback.refused_le

theorem grows_closed (ending : Transaction.Ending) (hfailed : w.failed = false) :
    ∃ w', Grows depth (if ending = .commit then added else []) db w
      (db₁.closed (depth + 1) ending) w' := by
  obtain ⟨w', hclosed⟩ := stays_closed depth h.work ending
  have hstays : Stays db (db₁.closed (depth + 1) ending) w' :=
    ⟨hclosed.work, hclosed.durable.trans h.durable, h.refused_le.trans hclosed.refused_le⟩
  -- The marks are known only when nothing inside was refused.
  by_cases hrefused : db₁.refused = db.refused
  · cases ending with
    | rollback | drop => exact grows_rolledBack h hfailed hrefused
    | commit =>
      cases hfailed₁ : w₁.failed with
      | false => exact grows_released h hfailed₁ hrefused
      | true =>
        refine ⟨w', .of_refused hstays (refused_lt_closed h hfailed₁ hrefused) fun hserves => ?_⟩
        rw [(h.serves hserves hfailed).1] at hfailed₁
        cases hfailed₁
  · have hlt : db.refused < (db₁.closed (depth + 1) ending).refused :=
      lt_of_lt_of_le (lt_of_le_of_ne h.refused_le (Ne.symm hrefused)) hclosed.refused_le
    refine ⟨w', .of_refused hstays hlt fun hserves => ?_⟩
    exact absurd (h.serves hserves hfailed).2 hrefused

end

/-- Steps on a level contribute their statements and those of the committed transactions inside. -/
theorem grows_effect (steps : Steps) (depth : Nat) {db : Database respond} {w : Work}
    (hwork : db.work? = some w) :
    ∃ w', Grows depth steps.contribution db w (steps.effect depth db) w' := by
  induction steps generalizing depth db w with
  | done => exact ⟨w, .refl depth hwork⟩
  | ask r rest ih =>
    obtain ⟨w₁, hask⟩ := grows_ask depth hwork r
    obtain ⟨w₂, hrest⟩ := ih depth hask.work
    exact ⟨w₂, hask.trans hrest⟩
  | nested inner ending rest ihInner ih =>
    rw [Steps.effect]
    cases hfailed : w.failed with
    | false =>
      rw [command_savepoint depth hwork hfailed]
      have hopened : (db.marked depth w).work? =
          some (w.marked (Transaction.savepoint (depth + 1)) db.clock) := rfl
      obtain ⟨w₁, hinner⟩ := ihInner (depth + 1) hopened
      obtain ⟨w₂, hclosed⟩ := grows_closed hinner ending hfailed
      obtain ⟨w₃, hrest⟩ := ih depth hclosed.work
      exact ⟨w₃, hclosed.trans hrest⟩
    | true =>
      -- Without a savepoint the transaction is left out, and the refusal is counted.
      rw [command_refused hwork (ofText_savepointSql (depth + 1)) rfl (if_pos hfailed)]
      have hwork' : (db.refusing w).work? = some w.fail := rfl
      obtain ⟨w₁, hrest⟩ := ih depth hwork'
      refine ⟨w₁, .of_refused ⟨hrest.work, hrest.durable, ?_⟩ ?_ fun _ => hfailed⟩
      · exact (Nat.le_succ _).trans hrest.refused_le
      · exact Nat.lt_of_succ_le hrest.refused_le

/-! ## The outermost transaction -/

theorem closed_commit (hwork : db.work? = some w) :
    db.closed 0 .commit = { db.commit w with clock := db.clock + 1 } := by
  rw [closed, command_commit hwork]
  rfl

theorem closed_rolledBack (hwork : db.work? = some w) {ending : Transaction.Ending}
    (hending : ending ≠ .commit) :
    db.closed 0 ending = { db with work? := none, clock := db.clock + 1 } := by
  cases ending with
  | commit => contradiction
  | rollback | drop => rw [closed, command_rollback hwork]

theorem statements_commit {before : Database respond} (h : Grows 0 added before.begun {} db w)
    (hrefused : (db.commit w).refused = before.refused) :
    (db.commit w).statements = before.statements ++ added := by
  have hle : before.refused ≤ db.refused := h.refused_le
  cases hfailed : w.failed with
  | true =>
    rw [commit, if_pos hfailed] at hrefused
    have hone : db.refused + 1 = before.refused := hrefused
    omega
  | false =>
    rw [commit_of_not_failed hfailed] at hrefused ⊢
    obtain ⟨-, hstatements⟩ := (h.growth hrefused).statements hfailed
    have hdurable : db.durable = before.durable := h.durable
    have hentries : w.entries.map Entry.statement = added := by
      simpa [Work.statements] using hstatements
    rw [statements, List.map_append, hdurable, hentries]
    rfl

end Database

theorem Steps.begin_database (level : Option Isolation) (steps : Steps)
    (s : Session (Database respond) μ) (hidle : s.server.work? = none) :
    ∃ s', steps.begin level s = (.ok { depth := 0 }, s') ∧
      s'.server = steps.effect 0 s.server.begun := by
  have hstart := start_database s level
  rw [Database.command_begin hidle] at hstart
  obtain ⟨s', hrun, hserver⟩ := steps.run_database 0
    ((s.logged (.beginSpan 0)).asked ⟨Transaction.beginSql level, []⟩ s.server.begun)
  exact ⟨s', (Action.bind_of_ok hstart _).trans (Action.bind_of_ok hrun _), hserver⟩

/-- A tree of transactions leaves in an idle database what its committed parts have done, when every
control statement does what it asks for. It always does so when the data statements succeed. Nothing
is durable before the commit of the outermost transaction, or without it. -/
theorem Steps.transact_leaves_contribution (level : Option Isolation) (steps : Steps)
    (ending : Transaction.Ending) (s : Session (Database respond) μ)
    (hidle : s.server.work? = none) :
    let after := (steps.transact level ending s).2.server
    after.work? = none ∧
      (after.refused = s.server.refused →
        after.statements =
          s.server.statements ++ if ending = .commit then steps.contribution else []) ∧
      (Database.Serves respond → after.refused = s.server.refused) ∧
      (ending ≠ .commit → after.durable = s.server.durable) ∧
      (steps.begin level s).2.server.durable = s.server.durable := by
  obtain ⟨s', hbegin, hserver⟩ := steps.begin_database level s hidle
  have hopen : s.server.begun.work? = some {} := rfl
  obtain ⟨w, hgrows⟩ := Database.grows_effect steps 0 hopen
  have htransact : steps.transact level ending s = ending.close { depth := 0 } s' :=
    Action.bind_of_ok hbegin _
  rw [htransact, close_server, hbegin, hserver]
  by_cases hending : ending = .commit
  · subst hending
    rw [Database.closed_commit hgrows.work]
    refine ⟨Database.commit_work w _, Database.statements_commit hgrows, fun hserves => ?_,
      fun h => absurd rfl h, hgrows.durable⟩
    obtain ⟨hfailed, hrefused⟩ := hgrows.serves hserves rfl
    rw [Database.commit_of_not_failed hfailed]
    exact hrefused
  · rw [Database.closed_rolledBack hgrows.work hending, if_neg hending, List.append_nil]
    refine ⟨rfl, fun _ => ?_, fun hserves => ?_, fun _ => hgrows.durable, hgrows.durable⟩
    · exact congrArg (List.map Entry.statement) hgrows.durable
    · exact (hgrows.serves hserves rfl).2

/-- A savepoint that was rolled back is left behind, and its name is used again. -/
def Steps.shelving : Steps :=
  .nested (.ask .deletePlans .done) .rollback
    (.nested (.ask .insertBook (.nested (.ask .deletePlans .done) .drop .done)) .commit .done)

theorem Steps.shelving_leaves_one_book :
    let idle : Session (Database Responder.willing) Unit := ⟨{}, (), []⟩
    idle.server.work? = none ∧
      (shelving.transact none .commit idle).2.server.statements =
        [Request.insertBook.statement] := by
  have h := transact_leaves_contribution none shelving .commit
    (⟨{}, (), []⟩ : Session (Database Responder.willing) Unit) rfl
  exact ⟨rfl, h.2.1 (h.2.2.1 fun _ _ => ⟨.affected 1, rfl⟩)⟩

end RowMap.Savepoint
