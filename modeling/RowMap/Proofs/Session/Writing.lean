import RowMap.Proofs.Session.Run
import RowMap.Writer

/-!
# What a write does

A write sets the time limit, sends its statement and reads the first row of the answer. It leaves
the memory alone, and it succeeds exactly when the server takes both statements and the first row
can be read.
-/

namespace RowMap.Writer

variable {σ μ α : Type} [Server σ]

def firstRow (stmt : Statement) (missing : StoreError) (read : Row → Except ExtractionError α) :
    Action σ μ α := do
  match ← Action.queryFirst? stmt with
  | none => throw missing
  | some row => liftM ((read row).mapError StoreError.ofExtraction)

/-- What the store assigns to a new row, from the row that an insertion returns. -/
def insertedOf (row : Row) : Except ExtractionError Inserted := do
  let id ← row.extract 0 .int64
  let createdAt ← row.extract 1 .instant
  let version ← row.extract 2 .int32
  return { id, createdAt, version }

omit [Server σ] in
theorem column_apply (row : Row) (index : Nat) (t : ScalarType) (s : Session σ μ) :
    column row index t s = ((row.extract index t).mapError .ofExtraction, s) := by
  unfold column
  cases row.extract index t <;> rfl

omit [Server σ] in
theorem column_bind {β : Type} (row : Row) (index : Nat) (t : ScalarType)
    (f : t.Carrier → Action σ μ β) (s : Session σ μ) :
    (column row index t >>= f) s =
      match row.extract index t with
      | .ok x => f x s
      | .error e => (.error (.ofExtraction e), s) := by
  have h := column_apply row index t s
  cases hx : row.extract index t with
  | error e =>
    rw [hx] at h
    exact Action.bind_of_error h f
  | ok x =>
    rw [hx] at h
    exact Action.bind_of_ok h f

theorem insert_eq (w : Writer) (stmt : Statement) :
    (w.insert stmt : Action σ μ Inserted) = w.guarded stmt (firstRow stmt .notFound insertedOf) := by
  unfold insert firstRow
  congr 2
  funext row s
  cases row with
  | none => rfl
  | some row =>
    change _ = ((insertedOf row).mapError StoreError.ofExtraction, s)
    refine (column_bind row 0 .int64 _ s).trans ?_
    unfold insertedOf
    cases row.extract 0 .int64 with
    | error _ => rfl
    | ok id =>
      refine (column_bind row 1 .instant _ s).trans ?_
      cases row.extract 1 .instant with
      | error _ => rfl
      | ok createdAt =>
        refine (column_bind row 2 .int32 _ s).trans ?_
        cases row.extract 2 .int32 <;> rfl

theorem update_eq (w : Writer) (stmt : Statement) :
    (w.update stmt : Action σ μ Int32) =
      w.guarded stmt (firstRow stmt .editConflict fun row => row.extract 0 .int32) := by
  unfold update firstRow
  congr 2
  funext row s
  cases row with
  | none => rfl
  | some row => exact column_apply row 0 .int32 s

/-! ## The outcome -/

/-- The session in which a statement is sent, the time limit set. -/
def limited (w : Writer) (stmt : Statement) (s : Session σ μ) : Session σ μ :=
  (s.asked ⟨w.timeoutSql, []⟩ (Server.execute ⟨w.timeoutSql, []⟩ s.server).2).logged
    (.ofStatement stmt)

section
variable {w : Writer} {stmt : Statement} {s : Session σ μ}

theorem guarded_of_error (body : Action σ μ α) {e : StoreError}
    (h : (Server.execute ⟨w.timeoutSql, []⟩ s.server).1 = .error e) :
    w.guarded stmt body s = (.error e,
      s.asked ⟨w.timeoutSql, []⟩ (Server.execute ⟨w.timeoutSql, []⟩ s.server).2) := by
  refine Action.bind_of_error ?_ _
  rw [Action.command_apply, h]
  rfl

theorem guarded_of_ok (body : Action σ μ α) {n : Nat}
    (h : (Server.execute ⟨w.timeoutSql, []⟩ s.server).1 = .ok n) :
    w.guarded stmt body s =
      ((body (w.limited stmt s)).1.mapError w.constraints.explain, (body (w.limited stmt s)).2) := by
  have hlimit : Action.command w.timeoutSql s = (.ok (),
      s.asked ⟨w.timeoutSql, []⟩ (Server.execute ⟨w.timeoutSql, []⟩ s.server).2) := by
    rw [Action.command_apply, h]
    rfl
  refine (Action.bind_of_ok hlimit _).trans ?_
  refine (Action.bind_of_ok (Action.emit_apply (.ofStatement stmt) _) _).trans ?_
  refine (Action.bind_of_ok (Action.attempt_apply body (w.limited stmt s)) _).trans ?_
  rcases body (w.limited stmt s) with ⟨_ | _, s'⟩ <;> rfl

/-- What an answer says, read from its first row. -/
def readFirst (missing : StoreError) (read : Row → Except ExtractionError α)
    (answer : Except StoreError (List Row)) : Except StoreError α :=
  match answer with
  | .error e => .error e
  | .ok [] => .error missing
  | .ok (row :: _) => (read row).mapError .ofExtraction

theorem firstRow_apply (missing : StoreError) (read : Row → Except ExtractionError α) :
    firstRow stmt missing read s =
      (readFirst missing read (Server.query stmt s.server).1,
        s.asked stmt (Server.query stmt s.server).2) := by
  have h := Action.queryFirst?_apply stmt s
  rcases hr : (Server.query stmt s.server).1 with e | rows
  · rw [hr] at h
    exact Action.bind_of_error h _
  · rw [hr] at h
    cases rows <;> exact Action.bind_of_ok h _

/-- The server sets the time limit and answers the statement with a row first. -/
def Answers (w : Writer) (stmt : Statement) (row : Row) (before after : σ) : Prop :=
  ∃ n between rest, Server.execute ⟨w.timeoutSql, []⟩ before = (.ok n, between) ∧
    Server.query stmt between = (.ok (row :: rest), after)

variable {missing : StoreError} {read : Row → Except ExtractionError α}

theorem guarded_memory :
    (w.guarded stmt (firstRow stmt missing read) s).2.memory = s.memory := by
  rcases h : (Server.execute ⟨w.timeoutSql, []⟩ s.server).1 with e | n
  · rw [guarded_of_error _ h]
    rfl
  · rw [guarded_of_ok _ h, firstRow_apply]
    rfl

theorem guarded_of_answers {row : Row} {after : σ} {a : α} (h : w.Answers stmt row s.server after)
    (hread : read row = .ok a) :
    ∃ s', w.guarded stmt (firstRow stmt missing read) s = (.ok a, s') ∧ s'.server = after := by
  obtain ⟨n, between, rest, hlimit, hquery⟩ := h
  refine ⟨(w.limited stmt s).asked stmt after, ?_, rfl⟩
  have hserver : (w.limited stmt s).server = between := congrArg Prod.snd hlimit
  rw [guarded_of_ok _ (congrArg Prod.fst hlimit), firstRow_apply, hserver, hquery]
  rw [readFirst, hread]
  rfl

theorem answers_of_guarded_ok {a : α} {s' : Session σ μ}
    (h : w.guarded stmt (firstRow stmt missing read) s = (.ok a, s')) :
    ∃ row, w.Answers stmt row s.server s'.server ∧ read row = .ok a := by
  rcases hlimit : Server.execute ⟨w.timeoutSql, []⟩ s.server with ⟨e | n, between⟩
  · rw [guarded_of_error _ (congrArg Prod.fst hlimit)] at h
    cases h
  · have hserver : (w.limited stmt s).server = between := congrArg Prod.snd hlimit
    rw [guarded_of_ok _ (congrArg Prod.fst hlimit), firstRow_apply, hserver] at h
    rcases hquery : Server.query stmt between with ⟨e | _ | ⟨row, rest⟩, after⟩
    · rw [hquery] at h
      cases h
    · rw [hquery] at h
      cases h
    · rw [hquery] at h
      simp only [readFirst] at h
      rcases hread : read row with e | b
      · rw [hread] at h
        cases h
      · rw [hread] at h
        cases h
        exact ⟨row, ⟨n, between, rest, hlimit, hquery⟩, hread⟩

end

end RowMap.Writer
