import RowMap.Bookshelf.Service
import RowMap.Proofs.Bookshelf.Models
import RowMap.Proofs.Session.Bracket
import RowMap.Proofs.Session.Writing

/-!
# Failed writes

A service keeps what the store has assigned as soon as the store has answered, before the
transaction is committed. A write that fails leaves the assigned fields as they were, with one
exception: the store has answered and then refuses to commit. Then the record has fields of a row
that the store does not have.
-/

namespace RowMap.Bookshelf

open RowMap.Calendar (Instant)

variable {σ μ α : Type} [Server σ]

/-! ## Assigned fields -/

/-- What the store assigns to a record. -/
structure StoreFields where
  id : Int64
  createdAt : Option Instant
  version : Int32
deriving DecidableEq

def Book.storeFields (b : Book) : StoreFields := ⟨b.id, b.createdAt, b.version⟩

def ReadingPlan.storeFields (p : ReadingPlan) : StoreFields := ⟨p.id, p.createdAt, p.version⟩

/-- The fields that the answer to an insertion assigns. -/
def StoreFields.inserted (row : Row) (_ : StoreFields) : Except ExtractionError StoreFields :=
  (Writer.insertedOf row).map fun i => ⟨i.id, some i.createdAt, i.version⟩

/-- The fields after the answer to an update. -/
def StoreFields.updated (row : Row) (f : StoreFields) : Except ExtractionError StoreFields :=
  (row.extract 0 .int32).map fun version => { f with version }

/-! ## Bodies -/

/-- An action sends a statement made from the memory, and what it reads from the first row of the
answer becomes the fields of the record. When it fails the fields stay. -/
structure Writes (fields : μ → StoreFields) (w : Writer) (sent : μ → Except StoreError Statement)
    (assign : Row → StoreFields → Except ExtractionError StoreFields) (a : Action σ μ Unit) :
    Prop where
  answered {s s' : Session σ μ} : a s = (.ok (), s') →
    ∃ stmt row, sent s.memory = .ok stmt ∧ w.Answers stmt row s.server s'.server ∧
      assign row (fields s.memory) = .ok (fields s'.memory)
  answers {s : Session σ μ} {stmt : Statement} {row : Row} {after : σ} {new : StoreFields} :
    sent s.memory = .ok stmt → w.Answers stmt row s.server after →
    assign row (fields s.memory) = .ok new →
    ∃ s', a s = (.ok (), s') ∧ s'.server = after ∧ fields s'.memory = new
  failed {s s' : Session σ μ} {e : StoreError} : a s = (.error e, s') →
    fields s'.memory = fields s.memory

section
variable {fields : μ → StoreFields} {w : Writer} {sent : μ → Except StoreError Statement}
  {assign : Row → StoreFields → Except ExtractionError StoreFields}

theorem writes_of_guarded {missing : StoreError} {read : Row → Except ExtractionError α}
    {keep : μ → α → Action σ μ Unit} (put : α → μ → μ)
    (hkeep : ∀ x s, keep s.memory x s = (.ok (), { s with memory := put x s.memory }))
    (hassign : ∀ row m, assign row (fields m) = (read row).map fun x => fields (put x m)) :
    Writes (σ := σ) fields w sent assign (do
      let m ← Action.getMemory
      let stmt ← liftM (sent m)
      let x ← w.guarded stmt (Writer.firstRow stmt missing read)
      keep m x) where
  answered {s s'} h := by
    rw [Action.bind_of_ok (Action.getMemory_apply s)] at h
    obtain ⟨stmt, s₀, hsent, h⟩ := Action.bind_eq_ok h
    rw [Action.lift_apply, Prod.mk.injEq] at hsent
    obtain ⟨hsent, rfl⟩ := hsent
    obtain ⟨x, s₁, hguarded, hkept⟩ := Action.bind_eq_ok h
    obtain ⟨row, hanswers, hread⟩ := Writer.answers_of_guarded_ok hguarded
    have hmemory : s₁.memory = s.memory := by
      rw [← Writer.guarded_memory (w := w) (s := s), hguarded]
    rw [← hmemory, hkeep] at hkept
    cases hkept
    refine ⟨stmt, row, hsent, hanswers, ?_⟩
    rw [hassign, hread, ← hmemory]
    rfl
  answers {s stmt row after new} hsent hanswers hnew := by
    rw [hassign] at hnew
    rcases hread : read row with _ | x
    · rw [hread] at hnew
      cases hnew
    · rw [hread] at hnew
      cases hnew
      obtain ⟨s₁, hguarded, rfl⟩ :
          ∃ s₁, w.guarded stmt (Writer.firstRow stmt missing read) s = (.ok x, s₁) ∧
            s₁.server = after :=
        Writer.guarded_of_answers hanswers hread
      have hmemory : s₁.memory = s.memory := by
        rw [← Writer.guarded_memory (w := w) (s := s), hguarded]
      have hlift : (liftM (sent s.memory) : Action σ μ Statement) s = (.ok stmt, s) := by
        rw [Action.lift_apply, hsent]
      refine ⟨{ s₁ with memory := put x s₁.memory }, ?_, rfl, by rw [hmemory]⟩
      rw [Action.bind_of_ok (Action.getMemory_apply s), Action.bind_of_ok hlift,
        Action.bind_of_ok hguarded, ← hmemory]
      exact hkeep x s₁
  failed {s s' e} h := by
    rw [Action.bind_of_ok (Action.getMemory_apply s)] at h
    rcases Action.bind_eq_error h with hsent | ⟨stmt, s₀, hsent, h⟩
    · rw [Action.lift_apply, Prod.mk.injEq] at hsent
      rw [hsent.2]
    · rw [Action.lift_apply, Prod.mk.injEq] at hsent
      obtain ⟨-, rfl⟩ := hsent
      rcases Action.bind_eq_error h with hguarded | ⟨x, s₁, hguarded, hkept⟩
      · rw [← Writer.guarded_memory (w := w) (s := s), hguarded]
      · have hmemory : s₁.memory = s.memory := by
          rw [← Writer.guarded_memory (w := w) (s := s), hguarded]
        rw [← hmemory, hkeep] at hkept
        cases hkept

theorem Writes.after_set {a : Action σ μ Unit} (h : Writes fields w sent assign a) {f : μ → μ}
    (hf : ∀ m, fields (f m) = fields m) :
    Writes fields w (fun m => sent (f m)) assign (do
      Action.setMemory (f (← Action.getMemory))
      a) where
  answered {s s'} hrun := by
    obtain ⟨stmt, row, hsent, hanswers, hassign⟩ :=
      h.answered (s := { s with memory := f s.memory }) hrun
    exact ⟨stmt, row, hsent, hanswers, by rw [← hf]; exact hassign⟩
  answers {s stmt row after new} hsent hanswers hnew :=
    h.answers (s := { s with memory := f s.memory }) hsent hanswers (by rw [hf]; exact hnew)
  failed {s s' e} hrun := (h.failed (s := { s with memory := f s.memory }) hrun).trans (hf s.memory)

/-! ## Services -/

/-- When the action fails, the record has new fields exactly if the store has answered with them
and then refused to commit. -/
def FailsOnlyAtCommit (fields : μ → StoreFields) (w : Writer) (sent : μ → Except StoreError Statement)
    (assign : Row → StoreFields → Except ExtractionError StoreFields) (a : Action σ μ Unit) : Prop :=
  ∀ (s : Session σ μ) (new : StoreFields) (e : StoreError), new ≠ fields s.memory →
    ((a s).1 = .error e ∧ fields (a s).2.memory = new ↔
      ∃ stmt row n opened after, sent s.memory = .ok stmt ∧
        Server.execute ⟨"BEGIN", []⟩ s.server = (.ok n, opened) ∧ w.Answers stmt row opened after ∧
        assign row (fields s.memory) = .ok new ∧
        (Server.execute ⟨"COMMIT", []⟩ after).1 = .error e)

theorem Writes.failsOnlyAtCommit {a : Action σ μ Unit} (h : Writes fields w sent assign a) :
    FailsOnlyAtCommit fields w sent assign (Transaction.run fun _ => a) := by
  intro s new e hnew
  rcases hbegin : Server.execute ⟨"BEGIN", []⟩ s.server with ⟨failure | n, opened⟩
  · rw [Transaction.run_not_opened _ (congrArg Prod.fst hbegin)]
    refine iff_of_false (fun hleft => hnew hleft.2.symm) ?_
    rintro ⟨stmt, row, n, opened', after, -, hok, -⟩
    cases hok
  · have hok := congrArg Prod.fst hbegin
    have hserver : (Transaction.opened s).server = opened := congrArg Prod.snd hbegin
    rcases hbody : a (Transaction.opened s) with ⟨failure | ⟨⟨⟩⟩, s₁⟩
    · -- The body fails before it keeps anything, so the server cannot have answered.
      have hkept := h.failed hbody
      refine iff_of_false (fun hleft => hnew ?_) ?_
      · rw [← hleft.2, ← Transaction.opened_memory s, ← hkept,
          ← Transaction.sendRollback_memory { depth := 0 } s₁, Transaction.run_of_error hok hbody]
        split <;> next hrollback => rw [hrollback]
      · rintro ⟨stmt, row, n', opened', after, hsent, hopened, hanswers, hassign, -⟩
        cases hopened
        obtain ⟨s', hrun, -⟩ :=
          h.answers (s := Transaction.opened s) hsent (hserver ▸ hanswers) hassign
        rw [hbody] at hrun
        cases hrun
    · have hmemory : (Transaction.commit { depth := 0 } s₁).2.memory = s₁.memory :=
        Transaction.commit_memory rfl s₁
      have houtcome : ((Transaction.commit { depth := 0 } s₁).1.map fun _ => ()) = .error e ↔
          (Server.execute ⟨"COMMIT", []⟩ s₁.server).1 = .error e := by
        rw [Transaction.commit_outcome rfl]
        change (((Server.execute ⟨"COMMIT", []⟩ s₁.server).1.map _).map _) = _ ↔ _
        cases (Server.execute ⟨"COMMIT", []⟩ s₁.server).1 <;> simp [Except.map]
      rw [Transaction.run_of_ok hok hbody]
      simp only [houtcome, hmemory]
      constructor
      · rintro ⟨hrefused, rfl⟩
        obtain ⟨stmt, row, hsent, hanswers, hassign⟩ := h.answered hbody
        exact ⟨stmt, row, n, opened, s₁.server, hsent, rfl, hserver ▸ hanswers, hassign, hrefused⟩
      · rintro ⟨stmt, row, n', opened', after, hsent, hopened, hanswers, hassign, hrefused⟩
        cases hopened
        obtain ⟨s', hrun, rfl, rfl⟩ :=
          h.answers (s := Transaction.opened s) hsent (hserver ▸ hanswers) hassign
        rw [hbody] at hrun
        cases hrun
        exact ⟨hrefused, rfl⟩

theorem FailsOnlyAtCommit.of_checked {a b : Action σ μ Unit}
    (h : FailsOnlyAtCommit fields w sent assign a) (f : μ → μ) (check : μ → Except StoreError Unit)
    (hf : ∀ m, fields (f m) = fields m)
    (hb : ∀ s, b s = match check (f s.memory) with
      | .error e => (.error e, { s with memory := f s.memory })
      | .ok _ => a { s with memory := f s.memory }) :
    FailsOnlyAtCommit fields w (fun m => do check (f m); sent (f m)) assign b := by
  intro s new e hnew
  rw [hb]
  cases hcheck : check (f s.memory) with
  | error failure =>
    refine iff_of_false (fun hleft => hnew (hleft.2.symm.trans (hf s.memory))) ?_
    rintro ⟨stmt, row, n, opened, after, hsent, -⟩
    simp only [hcheck] at hsent
    cases hsent
  | ok _ =>
    have hnew' : new ≠ fields (f s.memory) := by rwa [hf]
    refine (h { s with memory := f s.memory } new e hnew').trans ?_
    simp only [hcheck, hf]
    rfl

end

/-! ## Books and plans -/

theorem books_insert_writes (w : Writer) :
    Writes (σ := σ) Book.storeFields w Books.insertStatement StoreFields.inserted
      (Books.insert w) := by
  unfold Books.insert
  simp only [Writer.insert_eq]
  refine writes_of_guarded (fun (i : Inserted) b =>
    { b with id := i.id, createdAt := some i.createdAt, version := i.version }) ?_ ?_
  · intro i s
    refine (Action.bind_of_ok (Action.getMemory_apply s) _).trans ?_
    rw [applyInserted_book]
    rfl
  · intro row b
    rfl

theorem books_update_writes (w : Writer) (userId : Int64) :
    Writes (σ := σ) Book.storeFields w (fun b => Books.updateStatement b userId)
      StoreFields.updated (Books.update w userId) := by
  unfold Books.update
  simp only [Writer.update_eq]
  refine writes_of_guarded (fun version (b : Book) => { b with version }) ?_ ?_
  · intro version s
    rfl
  · intro row b
    rfl

def planInsertion (p : ReadingPlan) : Statement :=
  ((Insert.ofRecord (Mapped.toRecord p)).value "created_by" (int64 (Plans.ownerId p))
    |>.withReturning Inserted.columns).build

/-- The update of a plan that belongs to the user by now. -/
def planUpdate (userId : Int64) (p : ReadingPlan) : Statement :=
  (Writer.versionedUpdate ((Update.ofRecord (Mapped.toRecord p)).set "updated_by" (int64 userId))
    "id" (int64 p.id) p.version (some ⟨"user_id", int64 userId⟩)).build

theorem plans_insert_writes (w : Writer) :
    Writes (σ := σ) ReadingPlan.storeFields w (fun p => .ok (planInsertion p)) StoreFields.inserted
      (Plans.insert w) := by
  unfold Plans.insert Writer.insertModelWith
  simp only [Writer.insert_eq]
  refine writes_of_guarded (fun (i : Inserted) p =>
    { p with id := i.id, createdAt := some i.createdAt, version := i.version }) ?_ ?_
  · intro i s
    refine (Action.bind_of_ok (Action.getMemory_apply s) _).trans ?_
    rw [applyInserted_plan]
    rfl
  · intro row p
    rfl

theorem plan_keyColumn : Writer.keyColumn? (Mapped.shape ReadingPlan) = some "id" := rfl

theorem plan_keyValue (p : ReadingPlan) : (Mapped.toRecord p).keyValue? = some (int64 p.id) := rfl

theorem owned_storeFields (userId : Int64) (p : ReadingPlan) :
    (Plans.owned p userId).storeFields = p.storeFields := by
  unfold Plans.owned
  split <;> rfl

theorem plans_update_writes (w : Writer) (userId : Int64) :
    Writes (σ := σ) ReadingPlan.storeFields w
      (fun p => .ok (planUpdate userId (Plans.owned p userId))) StoreFields.updated
      (Plans.update w userId) := by
  have hupdate : Writes (σ := σ) ReadingPlan.storeFields w (fun p => .ok (planUpdate userId p))
      StoreFields.updated (do
        let p : ReadingPlan ← Action.getMemory
        w.updateModelWith ((Update.ofRecord (Mapped.toRecord p)).set "updated_by" (int64 userId))
          (some ⟨"user_id", int64 userId⟩)) := by
    unfold Writer.updateModelWith
    simp only [Writer.update_eq, plan_keyColumn, plan_keyValue, Action.getMemory_twice]
    refine writes_of_guarded (fun version (p : ReadingPlan) => { p with version }) ?_ ?_
    · intro version s
      rfl
    · intro row p
      rfl
  have howned := hupdate.after_set (owned_storeFields userId)
  simp only [Action.setMemory_getMemory] at howned
  exact howned

/-! ## The services -/

theorem adopted_book_storeFields (userId : Int64) (b : Book) :
    (BookService.adopted b userId).storeFields = b.storeFields := by
  unfold BookService.adopted
  split <;> rfl

theorem adopted_plan_storeFields (userId : Int64) (p : ReadingPlan) :
    (PlanService.adopted p userId).storeFields = p.storeFields := by
  unfold PlanService.adopted
  split <;> rfl

omit [Server σ] in
theorem checked_apply (check : Except StoreError Unit) (a : Action σ μ Unit) (s : Session σ μ) :
    (do check; a : Action σ μ Unit) s =
      match check with
      | .error e => (.error e, s)
      | .ok _ => a s := by
  cases check <;> rfl

def savedPlan (userId : Int64) (p : ReadingPlan) : Except StoreError Statement := do
  ensureValid ((PlanService.adopted p userId).validate .empty)
  return planInsertion (PlanService.adopted p userId)

theorem plan_save_failsOnlyAtCommit (settings : Settings) (userId : Int64) :
    FailsOnlyAtCommit (σ := σ) ReadingPlan.storeFields (PlanService.writer settings)
      (savedPlan userId) StoreFields.inserted (PlanService.save settings userId) := by
  refine (plans_insert_writes _).failsOnlyAtCommit.of_checked
    (fun p => PlanService.adopted p userId) (fun p => ensureValid (p.validate .empty))
    (adopted_plan_storeFields userId) fun s => ?_
  exact checked_apply _ _ { s with memory := PlanService.adopted s.memory userId }

theorem failed_writes_keep_fields_but_at_commit (settings : Settings) (userId : Int64) :
    FailsOnlyAtCommit (σ := σ) Book.storeFields (Books.writer settings.timeout.toNat)
      (fun b => do
        ensureValid ((BookService.adopted b userId).validate .empty)
        Books.insertStatement (BookService.adopted b userId))
      StoreFields.inserted (BookService.save settings userId) ∧
    FailsOnlyAtCommit (σ := σ) Book.storeFields (Books.writer settings.timeout.toNat)
      (fun b => do
        ensureValid (b.validate .empty)
        Books.updateStatement b userId)
      StoreFields.updated (BookService.update settings userId) ∧
    FailsOnlyAtCommit (σ := σ) ReadingPlan.storeFields (PlanService.writer settings)
      (savedPlan userId) StoreFields.inserted (PlanService.save settings userId) ∧
    FailsOnlyAtCommit (σ := σ) ReadingPlan.storeFields (PlanService.writer settings)
      (fun p => do
        ensureValid (p.validate .empty)
        return planUpdate userId (Plans.owned p userId))
      StoreFields.updated (PlanService.update settings userId) := by
  refine ⟨?_, ?_, plan_save_failsOnlyAtCommit settings userId, ?_⟩
  · refine (books_insert_writes _).failsOnlyAtCommit.of_checked
      (fun b => BookService.adopted b userId) (fun b => ensureValid (b.validate .empty))
      (adopted_book_storeFields userId) fun s => ?_
    exact checked_apply _ _ { s with memory := BookService.adopted s.memory userId }
  · refine (books_update_writes _ userId).failsOnlyAtCommit.of_checked
      id (fun b => ensureValid (b.validate .empty)) (fun _ => rfl) fun s => ?_
    exact checked_apply _ _ s
  · refine (plans_update_writes _ userId).failsOnlyAtCommit.of_checked
      id (fun p => ensureValid (p.validate .empty)) (fun _ => rfl) fun s => ?_
    exact checked_apply _ _ s

/-- A server that answers every statement with the same row and does not commit. -/
structure Refusing where
  row : Row
  reason : StoreError

instance : Server Refusing where
  execute s r := (if s.sql = "COMMIT" then .error r.reason else .ok 0, r)
  query _ r := (.ok [r.row], r)

/-- A plan that was never stored. -/
def newPlan : ReadingPlan :=
  { status := statuses.ofLabel? "PLANNED"
    priority := priorities.ofLabel? "HIGH"
    pagesPerDay := 15
    book := some { id := 3 }
    user := some { id := 7 } }

/-- The plan has a key and a version although it was not stored. -/
theorem refused_plan_has_fields :
    ∃ (s : Session Refusing ReadingPlan) (e : StoreError), s.memory = newPlan ∧
      (PlanService.save {} 7 s).1 = .error e ∧
      (PlanService.save {} 7 s).2.memory.storeFields ≠ s.memory.storeFields := by
  let server : Refusing :=
    ⟨.ofValues [.of (.bigInt 42), .of (.instant .epoch), .of (.int 1)], .query "not committed"⟩
  let new : StoreFields := ⟨42, some .epoch, 1⟩
  have hnew : new ≠ newPlan.storeFields := by decide
  have hsent : savedPlan 7 newPlan = .ok (planInsertion newPlan) := rfl
  have hanswers : (PlanService.writer {}).Answers (planInsertion newPlan) server.row server server :=
    ⟨0, server, [], rfl, rfl⟩
  have hfails := (plan_save_failsOnlyAtCommit {} 7 ⟨server, newPlan, []⟩ new server.reason hnew).mpr
    ⟨_, server.row, 0, server, server, hsent, rfl, hanswers, rfl, rfl⟩
  exact ⟨⟨server, newPlan, []⟩, server.reason, rfl, hfails.1, hfails.2 ▸ hnew⟩

end RowMap.Bookshelf
