import RowMap.Proofs.Savepoint.Snapshots

/-!
# Overlapping transactions

Nested transactions of one parent may be open at the same time and be closed in any order. A
transaction cannot be closed while one inside it is open. Savepoints are named after the depth
alone, so a rollback goes back to the newest savepoint of its depth, whoever has set it.
-/

namespace RowMap.Savepoint

/-! ## Calls -/

/-- A transaction that a caller has or has had. -/
structure Handle where
  number : Nat := 0
  tx : Transaction
  /-- The numbers of the transactions around it. -/
  around : List Nat := []
  isOpen : Bool := true
  opened : Nat
  /-- When statements were sent through it or through a transaction inside it. -/
  asked : List Nat := []
deriving DecidableEq

/-- A session with the transactions that were opened in it, numbered from zero. -/
structure World (respond : Responder) (μ : Type) where
  session : Session (Database respond) μ
  handles : List Handle

inductive Call
  | nest (parent : Nat)
  | ask (number : Nat) (r : Request)
  | close (number : Nat) (ending : Transaction.Ending)

variable {respond : Responder} {μ : Type}

namespace World

def database (w : World respond μ) : Database respond := w.session.server

def open? (i : Nat) (w : World respond μ) : Option Handle :=
  w.handles.find? fun k => k.number = i && k.isOpen

/-- No transaction inside it is open. -/
def mayClose (i : Nat) (w : World respond μ) : Bool :=
  w.handles.all fun k => !(k.isOpen && k.around.contains i)

def begin (level : Option Isolation) (s : Session (Database respond) μ) : World respond μ :=
  match Transaction.start level s with
  | (.ok tx, s') => ⟨s', [{ tx, opened := s.server.clock }]⟩
  | (.error _, s') => ⟨s', []⟩

def nest (h : Handle) (w : World respond μ) : World respond μ where
  session := (h.tx.nest w.session).2
  handles := match (h.tx.nest w.session).1 with
    | .ok tx =>
      w.handles ++ [⟨w.handles.length, tx, h.number :: h.around, true, w.database.clock, []⟩]
    | .error _ => w.handles

def ask (h : Handle) (r : Request) (w : World respond μ) : World respond μ where
  session := (r.send w.session).2
  handles := w.handles.map fun k =>
    if k.number ∈ h.number :: h.around then { k with asked := k.asked ++ [w.database.clock] } else k

def close (h : Handle) (ending : Transaction.Ending) (w : World respond μ) : World respond μ where
  session := (ending.close h.tx w.session).2
  handles := w.handles.map fun k => if k.number = h.number then { k with isOpen := false } else k

/-- A call that is not possible is not made. -/
def step (w : World respond μ) : Call → World respond μ
  | .nest i => match w.open? i with
    | some h => w.nest h
    | none => w
  | .ask i r => match w.open? i with
    | some h => w.ask h r
    | none => w
  | .close i ending => match w.open? i with
    | some h => if w.mayClose i then w.close h ending else w
    | none => w

def run (w : World respond μ) (calls : List Call) : World respond μ := calls.foldl step w

/-- Nothing that was sent through the transaction is left of it. -/
def Undone (h : Handle) (w : World respond μ) : Prop :=
  ∀ e ∈ w.database.entries, e.time ∉ h.asked

/-! ## What calls keep -/

/-- The savepoints that were set, by name and time. The outermost transaction has none, and its
entry is never asked for. -/
def known (handles : List Handle) : List (String × Nat) :=
  handles.map fun h => (Transaction.savepoint h.around.length, h.opened)

structure Sound (w : World respond μ) : Prop where
  snapshots : w.database.Sound (known w.handles)
  tx_eq : ∀ h ∈ w.handles, h.tx = { depth := h.around.length }
  opened_lt : ∀ h ∈ w.handles, h.opened < w.database.clock
  asked_after : ∀ h ∈ w.handles, ∀ t ∈ h.asked, h.opened < t

theorem mem_of_open {i : Nat} {h : Handle} {w : World respond μ} (hopen : w.open? i = some h) :
    h ∈ w.handles := List.mem_of_find?_eq_some hopen

theorem sound_begin (level : Option Isolation) (s : Session (Database respond) μ)
    (hidle : s.server.work? = none) : (begin level s).Sound := by
  have hstart := start_database s level
  rw [Database.command_begin hidle] at hstart
  have hbegin : begin level s = ⟨(s.logged (.beginSpan 0)).asked ⟨Transaction.beginSql level, []⟩
      s.server.begun, [{ tx := { depth := 0 }, opened := s.server.clock }]⟩ := by
    rw [begin, hstart]
    rfl
  rw [hbegin]
  constructor
  · intro work hwork
    cases hwork
    exact .empty _ _
  · simp
  · intro h hh
    obtain rfl := List.mem_singleton.mp hh
    exact Nat.lt_succ_self _
  · simp

theorem known_map {f : Handle → Handle}
    (hf : ∀ k, (f k).around = k.around ∧ (f k).opened = k.opened) (handles : List Handle) :
    known (handles.map f) = known handles := by
  rw [known, List.map_map]
  refine List.map_congr_left fun k _ => ?_
  simp only [Function.comp_apply, hf]

section
variable {w : World respond μ} {h : Handle}

theorem Sound.logged (hw : w.Sound) {s' : Session (Database respond) μ}
    (hsnapshots : s'.server.Sound (known w.handles))
    (hclock : w.database.clock ≤ s'.server.clock) : Sound ⟨s', w.handles⟩ where
  snapshots := hsnapshots
  tx_eq := hw.tx_eq
  opened_lt k hk := (hw.opened_lt k hk).trans_le hclock
  asked_after := hw.asked_after

theorem Sound.append (hw : w.Sound) {s' : Session (Database respond) μ} (number : Nat)
    (around : List Nat)
    (hsnapshots : s'.server.Sound
      (known w.handles ++ [(Transaction.savepoint around.length, w.database.clock)]))
    (hclock : w.database.clock < s'.server.clock) :
    Sound ⟨s', w.handles ++
      [⟨number, { depth := around.length }, around, true, w.database.clock, []⟩]⟩ where
  snapshots := by
    rw [known, List.map_append]
    exact hsnapshots
  tx_eq := List.forall_mem_append.mpr ⟨hw.tx_eq, by simp⟩
  opened_lt := by
    refine List.forall_mem_append.mpr ⟨fun k hk => (hw.opened_lt k hk).trans hclock, fun k hk => ?_⟩
    obtain rfl := List.mem_singleton.mp hk
    exact hclock
  asked_after := List.forall_mem_append.mpr ⟨hw.asked_after, by simp⟩

theorem nest_of_ok {tx : Transaction} {s' : Session (Database respond) μ}
    (hnest : h.tx.nest w.session = (.ok tx, s')) :
    w.nest h = ⟨s', w.handles ++
      [⟨w.handles.length, tx, h.number :: h.around, true, w.database.clock, []⟩]⟩ := by
  rw [nest, hnest]

theorem nest_of_error {e : StoreError} {s' : Session (Database respond) μ}
    (hnest : h.tx.nest w.session = (.error e, s')) : w.nest h = ⟨s', w.handles⟩ := by
  rw [nest, hnest]

theorem Sound.nest (hw : w.Sound) (hh : h ∈ w.handles) : (w.nest h).Sound := by
  have hdepth : h.tx.depth = h.around.length := by rw [hw.tx_eq h hh]
  have hnest := nest_database w.session h.tx
  have hclock := Database.clock_command w.session.server
    (Transaction.savepointSql (h.around.length + 1))
  rw [hdepth] at hnest
  rcases hcommand : w.session.server.command (Transaction.savepointSql (h.around.length + 1)) with
    ⟨e | reply, db⟩
  · rw [hcommand] at hnest hclock
    rw [nest_of_error hnest]
    exact hw.logged (hw.snapshots.notMarked hcommand) ((Nat.le_succ _).trans_eq hclock.symm)
  · rw [hcommand] at hnest hclock
    rw [nest_of_ok hnest]
    exact hw.append _ (h.number :: h.around) (hw.snapshots.mark hcommand)
      ((Nat.lt_succ_self _).trans_eq hclock.symm)

theorem Sound.update (hw : w.Sound) {s' : Session (Database respond) μ} {f : Handle → Handle}
    (hsnapshots : s'.server.Sound (known w.handles))
    (hclock : w.database.clock ≤ s'.server.clock)
    (hf : ∀ k, (f k).tx = k.tx ∧ (f k).around = k.around ∧ (f k).opened = k.opened)
    (hasked : ∀ k, ∀ t ∈ (f k).asked, t ∈ k.asked ∨ t = w.database.clock) :
    Sound ⟨s', w.handles.map f⟩ where
  snapshots := by
    rw [known_map fun k => (hf k).2]
    exact hsnapshots
  tx_eq := List.forall_mem_map.mpr fun k hk => by
    rw [(hf k).1, (hf k).2.1]
    exact hw.tx_eq k hk
  opened_lt := List.forall_mem_map.mpr fun k hk => by
    rw [(hf k).2.2]
    exact (hw.opened_lt k hk).trans_le hclock
  asked_after := List.forall_mem_map.mpr fun k hk t ht => by
    rw [(hf k).2.2]
    rcases hasked k t ht with ht | rfl
    · exact hw.asked_after k hk t ht
    · exact hw.opened_lt k hk

theorem Sound.ask (hw : w.Sound) (r : Request) : (w.ask h r).Sound := by
  have hplain : ∀ name, Control.ofText r.statement.sql ≠ some (.savepoint name) := by
    simp [r.plain]
  rw [World.ask]
  refine hw.update ?_ ?_ (fun k => ?_) (fun k t ht => ?_)
  · rw [r.send_apply]
    exact hw.snapshots.answer hplain
  · rw [r.send_apply]
    exact Nat.le_succ _
  · split <;> exact ⟨rfl, rfl, rfl⟩
  · split at ht
    · simpa using ht
    · exact .inl ht

theorem Sound.close (hw : w.Sound) (hh : h ∈ w.handles) (ending : Transaction.Ending) :
    (w.close h ending).Sound := by
  have hserver := close_server w.session ending h.around.length
  rw [← hw.tx_eq h hh] at hserver
  rw [World.close]
  refine hw.update ?_ ?_ (fun k => ?_) (fun k t ht => ?_)
  · rw [hserver]
    exact hw.snapshots.closed _ ending
  · rw [hserver]
    exact Database.clock_le_closed _ _ ending
  · split <;> exact ⟨rfl, rfl, rfl⟩
  · split at ht <;> exact .inl ht

theorem Sound.step (hw : w.Sound) (c : Call) : (w.step c).Sound := by
  cases c with
  | nest i =>
    rw [World.step]
    split
    · next hopen => exact hw.nest (mem_of_open hopen)
    · exact hw
  | ask i r =>
    rw [World.step]
    split
    · exact hw.ask r
    · exact hw
  | close i ending =>
    rw [World.step]
    split
    · next hopen =>
      split
      · exact hw.close (mem_of_open hopen) ending
      · exact hw
    · exact hw

theorem Sound.run (hw : w.Sound) (calls : List Call) : (w.run calls).Sound := by
  induction calls generalizing w with
  | nil => exact hw
  | cons c calls ih => exact ih (hw.step c)

end

/-! ## Rollbacks -/

theorem step_close {w : World respond μ} {i : Nat} {h : Handle} (hopen : w.open? i = some h)
    (hclose : w.mayClose i = true) (ending : Transaction.Ending) :
    w.step (.close i ending) = w.close h ending := by
  rw [step, hopen]
  exact if_pos hclose

/-- The rollback of a nested transaction restores what is older than the newest savepoint of its
depth. -/
theorem Sound.entries_rollback {w : World respond μ} (hw : w.Sound) {h : Handle}
    (hh : h ∈ w.handles) (hnested : h.around ≠ []) (hok : (h.tx.rollback w.session).1 = .ok ()) :
    ∃ j ∈ w.handles, j.around.length = h.around.length ∧
      w.database.newest? (Transaction.savepoint h.around.length) = some j.opened ∧
      (w.close h .rollback).database.entries =
        w.database.entries.filter fun e => e.time < j.opened := by
  obtain ⟨depth, hdepth⟩ := Nat.exists_eq_succ_of_ne_zero (List.length_pos_iff.mpr hnested).ne'
  have htx : h.tx = { depth := depth + 1 } := by rw [hw.tx_eq h hh, hdepth]
  have hserver := close_server w.session .rollback (depth + 1)
  rw [htx, Transaction.rollback_apply, sendRollback_database] at hok
  rw [← htx] at hserver
  rw [hdepth]
  cases hreply : (w.session.server.command (Transaction.rollbackSql (depth + 1))).1 with
  | error e =>
    rw [hreply] at hok
    cases hok
  | ok reply =>
    obtain ⟨time, hnewest, hknown, hentries⟩ :=
      Database.entries_rollbackTo hw.snapshots hreply
    obtain ⟨j, hj, hkey⟩ := List.mem_map.mp hknown
    obtain ⟨hname, rfl⟩ := Prod.mk.inj hkey
    refine ⟨j, hj, savepoint_inj.mp hname, hnewest, ?_⟩
    rw [← hentries]
    exact congrArg Database.entries hserver

/-- A rollback that succeeds goes back to the newest savepoint of its depth, whichever transaction
has set it. What the transaction has done is undone just when all of it that is in effect is newer
than that savepoint, which is so when no transaction of the same depth was opened after it. -/
theorem rollback_undoes_iff (level : Option Isolation) (s : Session (Database respond) μ)
    (hidle : s.server.work? = none) (calls : List Call) {w : World respond μ}
    (hw : w = (begin level s).run calls) {i : Nat} {h : Handle} (hopen : w.open? i = some h)
    (hnested : h.around ≠ []) (hclose : w.mayClose i = true)
    (hok : (h.tx.rollback w.session).1 = .ok ()) :
    ∃ j ∈ w.handles, j.around.length = h.around.length ∧
      w.database.newest? (Transaction.savepoint h.around.length) = some j.opened ∧
      (w.step (.close i .rollback)).database.entries =
        w.database.entries.filter (fun e => e.time < j.opened) ∧
      ((w.step (.close i .rollback)).Undone h ↔
        ∀ e ∈ w.database.entries, e.time ∈ h.asked → j.opened ≤ e.time) ∧
      ((∀ k ∈ w.handles, k.around.length = h.around.length → k.opened ≤ h.opened) →
        (w.step (.close i .rollback)).Undone h) := by
  have hsound : w.Sound := hw ▸ (sound_begin level s hidle).run calls
  have hh := mem_of_open hopen
  obtain ⟨j, hj, hdepth, hnewest, hentries⟩ := hsound.entries_rollback hh hnested hok
  have hundone : (w.step (.close i .rollback)).Undone h ↔
      ∀ e ∈ w.database.entries, e.time ∈ h.asked → j.opened ≤ e.time := by
    rw [step_close hopen hclose, Undone, hentries]
    simp only [List.mem_filter, decide_eq_true_eq, and_imp]
    refine forall₂_congr fun e _ => ?_
    rw [← not_lt, imp_not_comm]
  rw [step_close hopen hclose] at hundone ⊢
  refine ⟨j, hj, hdepth, hnewest, hentries, hundone, fun hlatest => hundone.mpr fun e _ he => ?_⟩
  exact (hlatest j hj hdepth).trans (hsound.asked_after h hh e.time he).le

/-- An idle database, with a transaction that has one inside it, and a book inserted there. -/
def lone : World Responder.willing Unit :=
  (begin none ⟨{}, (), []⟩).run [.nest 0, .ask 1 .insertBook]

def elder : Handle where
  number := 1
  tx := { depth := 1 }
  around := [0]
  opened := 1
  asked := [2]

theorem lone_rollback_undoes :
    lone.open? 1 = some elder ∧ elder.around ≠ [] ∧ lone.mayClose 1 = true ∧
      (elder.tx.rollback lone.session).1 = .ok () ∧
      (lone.step (.close 1 .rollback)).Undone elder := by
  have hopen : lone.open? 1 = some elder := by decide +kernel
  have hnested : elder.around ≠ [] := by decide
  have hclose : lone.mayClose 1 = true := by decide +kernel
  have hok : (elder.tx.rollback lone.session).1 = .ok () := rfl
  obtain ⟨j, -, -, -, -, -, hundone⟩ := rollback_undoes_iff none ⟨{}, (), []⟩ rfl
    [.nest 0, .ask 1 .insertBook] (rfl : lone = _) hopen hnested hclose hok
  exact ⟨hopen, hnested, hclose, hok, hundone (by decide +kernel)⟩

/-- The same with a second transaction inside the first, opened after the book was inserted. -/
def siblings : World Responder.willing Unit := lone.step (.nest 0)

theorem siblings_rollback_keeps_book :
    siblings.open? 1 = some elder ∧ elder.around ≠ [] ∧ siblings.mayClose 1 = true ∧
      (elder.tx.rollback siblings.session).1 = .ok () ∧
      ¬(siblings.step (.close 1 .rollback)).Undone elder := by
  have hentries : (siblings.step (.close 1 .rollback)).database.entries =
      [⟨2, Request.insertBook.statement⟩] := rfl
  refine ⟨by decide +kernel, by decide, by decide +kernel, rfl, fun hundone => ?_⟩
  exact hundone ⟨2, Request.insertBook.statement⟩ (hentries ▸ List.mem_singleton_self _) (by decide)

end World

end RowMap.Savepoint
