import RowMap.Proofs.Record.SameBut
import RowMap.Proofs.Session.Dialogue
import RowMap.Proofs.Session.Transcript

/-!
# Writing models

Who writes a model sends nothing, or the time limit alone, or the time limit and one statement. How
the write ends depends on the answer to the statement. A model in memory is changed by a write that
succeeds, and only where the store has assigned something.
-/

namespace RowMap

namespace Writer

variable {σ μ α β γ : Type} [Server σ]

/-! ## A statement behind the time limit -/

def limit (w : Writer) : Statement := ⟨w.timeoutSql, []⟩

/-- The time limit is handed over and, unless it is refused, one statement. The answer to it, the
result and the memory in the end are related by `ends`. -/
inductive Sends (w : Writer) (stmt : Statement) (ask : σ → Except StoreError β × σ)
    (ends : Except StoreError β → Except StoreError α → μ → Prop) (s : Session (Recorder σ) μ) :
    Except StoreError α × Session (Recorder σ) μ → Prop
  | unlimited {e : StoreError} {server : σ} {s' : Session (Recorder σ) μ} :
      Server.execute w.limit s.server.server = (.error e, server) →
      s'.server = ⟨server, s.transcript ++ [⟨w.limit, .error e⟩]⟩ →
      s'.memory = s.memory →
      Sends w stmt ask ends s (.error e, s')
  | answered {n : Nat} {between after : σ} {answer : Except StoreError β}
      {result : Except StoreError α} {s' : Session (Recorder σ) μ} :
      Server.execute w.limit s.server.server = (.ok n, between) →
      ask between = (answer, after) →
      s'.server = ⟨after,
        s.transcript ++ [⟨w.limit, .ok ()⟩, ⟨stmt, answer.map fun _ => ()⟩]⟩ →
      ends answer result s'.memory →
      Sends w stmt ask ends s (result, s')

section
variable {w : Writer} {stmt : Statement} {ask : σ → Except StoreError β × σ}
  {s : Session (Recorder σ) μ}

theorem guarded_sends (read : Except StoreError β → Except StoreError α)
    {body : Action (Recorder σ) μ α}
    (hbody : ∀ s, body s = (read (ask s.server.server).1,
      s.asked stmt (s.server.note stmt (ask s.server.server)).2)) :
    Sends w stmt ask
      (fun answer result m => result = (read answer).mapError w.constraints.explain ∧ m = s.memory)
      s (w.guarded stmt body s) := by
  have hexecute : Server.execute ⟨w.timeoutSql, []⟩ s.server =
      s.server.note w.limit (Server.execute w.limit s.server.server) := rfl
  rcases hlimit : Server.execute w.limit s.server.server with ⟨e | n, between⟩
  · rw [hlimit] at hexecute
    rw [guarded_of_error body (congrArg Prod.fst hexecute)]
    exact .unlimited hlimit (congrArg Prod.snd hexecute) rfl
  · rw [hlimit] at hexecute
    have hserver : (w.limited stmt s).server = ⟨between, s.transcript ++ [⟨w.limit, .ok ()⟩]⟩ :=
      congrArg Prod.snd hexecute
    rw [guarded_of_ok body (congrArg Prod.fst hexecute), hbody, hserver]
    rcases hask : ask between with ⟨answer, after⟩
    refine .answered hlimit hask ?_ ⟨rfl, rfl⟩
    simp [Recorder.note]

theorem map_map_unit {ε : Type} (x : Except ε α) (f : α → β) :
    (x.map f).map (fun _ => ()) = x.map fun _ => () := by
  cases x <;> rfl

theorem Sends.mapAnswer {ends : Except StoreError β → Except StoreError α → μ → Prop}
    {done : Except StoreError α × Session (Recorder σ) μ} (h : Sends w stmt ask ends s done)
    (f : β → γ) :
    Sends w stmt (fun server => ((ask server).1.map f, (ask server).2))
      (fun answer result m => ∃ found, answer = found.map f ∧ ends found result m) s done := by
  cases h with
  | unlimited hlimit hserver hmemory => exact .unlimited hlimit hserver hmemory
  | answered hlimit hask hserver hends =>
    refine .answered hlimit (by rw [hask]) ?_ ⟨_, rfl, hends⟩
    rw [hserver, map_map_unit]

theorem Sends.imp {ends ends' : Except StoreError β → Except StoreError α → μ → Prop}
    {done : Except StoreError α × Session (Recorder σ) μ} (h : Sends w stmt ask ends s done)
    (hends : ∀ answer result m, ends answer result m → ends' answer result m) :
    Sends w stmt ask ends' s done := by
  cases h with
  | unlimited hlimit hserver hmemory => exact .unlimited hlimit hserver hmemory
  | answered hlimit hask hserver h => exact .answered hlimit hask hserver (hends _ _ _ h)

theorem Sends.of_ok {ends : Except StoreError β → Except StoreError α → μ → Prop}
    {done : Except StoreError α × Session (Recorder σ) μ} (h : Sends w stmt ask ends s done) {x : α}
    (hok : done.1 = .ok x) : ∃ answer, ends answer (.ok x) done.2.memory := by
  cases h with
  | unlimited => cases hok
  | answered _ _ _ hends =>
    cases hok
    exact ⟨_, hends⟩

theorem Sends.bind {a : Action (Recorder σ) μ α} {k : α → Action (Recorder σ) μ γ}
    {ends : Except StoreError β → Except StoreError α → μ → Prop}
    {ends' : Except StoreError β → Except StoreError γ → μ → Prop}
    (h : Sends w stmt ask ends s (a s))
    (herror : ∀ answer e m, ends answer (.error e) m → ends' answer (.error e) m)
    (hok : ∀ answer x s₁, ends answer (.ok x) s₁.memory →
      (k x s₁).2.server = s₁.server ∧ ends' answer (k x s₁).1 (k x s₁).2.memory) :
    Sends w stmt ask ends' s ((a >>= k) s) := by
  rcases ha : a s with ⟨e | x, s₁⟩
  · rw [ha] at h
    rw [Action.bind_of_error ha]
    cases h with
    | unlimited hlimit hserver hmemory => exact .unlimited hlimit hserver hmemory
    | answered hlimit hask hserver hends =>
      exact .answered hlimit hask hserver (herror _ e _ hends)
  · rw [ha] at h
    rw [Action.bind_of_ok ha]
    cases h with
    | answered hlimit hask hserver hends =>
      obtain ⟨hserver', hends'⟩ := hok _ x s₁ hends
      exact .answered hlimit hask (hserver'.trans hserver) hends'

end

/-! ## Known constraints -/

def Knows (w : Writer) (e : StoreError) : Prop :=
  ∃ constraint message entry, e = .constraintViolation constraint message ∧
    w.constraints.get? constraint = some entry

/-- A violated constraint that is known is a complaint about one field. Other errors stay. -/
theorem explain_cases (w : Writer) (e : StoreError) :
    (∃ constraint message field text, e = .constraintViolation constraint message ∧
        w.constraints.get? constraint = some (field, text) ∧
        w.constraints.explain e = .validation (.single field text)) ∨
      ¬w.Knows e ∧ w.constraints.explain e = e := by
  cases e with
  | constraintViolation constraint message =>
    cases hentry : w.constraints.get? constraint with
    | some entry =>
      refine .inl ⟨constraint, message, entry.1, entry.2, rfl, hentry, ?_⟩
      simp only [ConstraintMap.explain, hentry]
    | none =>
      refine .inr ⟨?_, ?_⟩
      · rintro ⟨_, _, entry, ⟨⟩, hknown⟩
        rw [hentry] at hknown
        cases hknown
      · simp only [ConstraintMap.explain, hentry]
  | _ => exact .inr ⟨nofun, rfl⟩

end Writer

/-! ## Writes of models -/

inductive ModelWrite
  | insert
  | update (owner : Option Ownership)
  | softDelete (shape : Shape) (id : Value) (owner : Option Ownership)

namespace ModelWrite

variable {σ μ : Type} [Server σ] [Versioned μ]

def run (w : Writer) : ModelWrite → Action σ μ Unit
  | insert => w.insertModel
  | update owner => w.updateModel owner
  | softDelete shape id owner => w.softDeleteModel shape id owner

/-- The type of the rows that are written. -/
def shape (μ : Type) [Versioned μ] : ModelWrite → Shape
  | insert | update _ => Mapped.shape μ
  | softDelete shape _ _ => shape

/-- The statement of a write. Without a key there is none for an update or a deletion. -/
def statement? (m : μ) : ModelWrite → Option Statement
  | insert => some ((Insert.ofRecord (Mapped.toRecord m)).withReturning Inserted.columns).build
  | update owner =>
    match Writer.keyColumn? (Mapped.shape μ), (Mapped.toRecord m).keyValue? with
    | some column, some key => some (Writer.modelUpdate m column key owner)
    | _, _ => none
  | softDelete shape id owner =>
    (Writer.keyColumn? shape).map fun column => (Writer.deletion shape column id owner).build

inductive Answer
  | rows (rows : List Row)
  | affected (count : Nat)

/-- An insertion and an update return rows, a deletion their number. -/
def ask (stmt : Statement) : ModelWrite → σ → Except StoreError Answer × σ
  | insert, server | update _, server =>
    ((Server.query stmt server).1.map .rows, (Server.query stmt server).2)
  | softDelete .., server =>
    ((Server.execute stmt server).1.map .affected, (Server.execute stmt server).2)

/-- The model after an insertion that has got this from the store. -/
structure Stores (i : Inserted) (m m' : μ) : Prop where
  set : ∃ r, (Mapped.toRecord m).scanKey (.of (.bigInt i.id)) = .ok r ∧
    m' = Versioned.setVersion i.version (Versioned.setCreatedAt i.createdAt (Mapped.ofRecord r))
  kept {isVersion isCreatedAt : FieldInfo → Prop} (h : Versioned.Keeps μ isVersion isCreatedAt) :
    Tree.SameBut _ (fun info => IsKey info ∨ isVersion info ∨ isCreatedAt info)
        (Mapped.toRecord m) (Mapped.toRecord m') ∧
      Versioned.version m' = i.version ∧
      ((Mapped.toRecord m').keyValue? = some (.of (.bigInt i.id)) ∨
        (Mapped.toRecord m).keyValue? = none ∧ (Mapped.toRecord m').keyValue? = none)

/-- The model after an update that has got this version from the store. -/
structure Renews (v : Int32) (m m' : μ) : Prop where
  set : m' = Versioned.setVersion v m
  kept {isVersion isCreatedAt : FieldInfo → Prop} (h : Versioned.Keeps μ isVersion isCreatedAt) :
    Tree.SameBut _ isVersion (Mapped.toRecord m) (Mapped.toRecord m') ∧ Versioned.version m' = v

/-- How a write ends with the answer to its statement: the result, and the model in memory. -/
inductive Ends (w : Writer) (m : μ) :
    ModelWrite → Except StoreError Answer → Except StoreError Unit → μ → Prop
  | violated {op : ModelWrite} {constraint message field text : String} :
      w.constraints.get? constraint = some (field, text) →
      Ends w m op (.error (.constraintViolation constraint message))
        (.error (.validation (.single field text))) m
  | failed {op : ModelWrite} {e : StoreError} : ¬w.Knows e → Ends w m op (.error e) (.error e) m
  | notInserted : Ends w m insert (.ok (.rows [])) (.error .notFound) m
  | notUpdated {owner : Option Ownership} :
      Ends w m (update owner) (.ok (.rows [])) (.error .editConflict) m
  | notDeleted {shape : Shape} {id : Value} {owner : Option Ownership} :
      Ends w m (softDelete shape id owner) (.ok (.affected 0)) (.error .notFound) m
  /-- The row has other columns, or nothing in them. -/
  | unreadInserted {row : Row} {rest : List Row} {e : ExtractionError} :
      Writer.insertedOf row = .error e →
      Ends w m insert (.ok (.rows (row :: rest))) (.error (.ofExtraction e)) m
  | unreadVersion {owner : Option Ownership} {row : Row} {rest : List Row} {e : ExtractionError} :
      row.extract 0 .int32 = .error e →
      Ends w m (update owner) (.ok (.rows (row :: rest))) (.error (.ofExtraction e)) m
  /-- The key of the model is of another type. -/
  | otherKey {row : Row} {rest : List Row} {i : Inserted} {e : ExtractionError} :
      Writer.insertedOf row = .ok i →
      (Mapped.toRecord m).scanKey (.of (.bigInt i.id)) = .error e →
      Ends w m insert (.ok (.rows (row :: rest))) (.error (.ofExtraction e)) m
  | inserted {row : Row} {rest : List Row} {i : Inserted} {m' : μ} :
      Writer.insertedOf row = .ok i → Stores i m m' →
      Ends w m insert (.ok (.rows (row :: rest))) (.ok ()) m'
  | updated {owner : Option Ownership} {row : Row} {rest : List Row} {v : Int32} {m' : μ} :
      row.extract 0 .int32 = .ok v → Renews v m m' →
      Ends w m (update owner) (.ok (.rows (row :: rest))) (.ok ()) m'
  | deleted {shape : Shape} {id : Value} {owner : Option Ownership} {count : Nat} :
      count ≠ 0 → Ends w m (softDelete shape id owner) (.ok (.affected count)) (.ok ()) m

variable {w : Writer} {m m' : μ} {op : ModelWrite} {answer : Except StoreError Answer}

/-- A write that fails leaves the model as it was. -/
theorem Ends.memory_of_error {e : StoreError} (h : Ends w m op answer (.error e) m') : m' = m := by
  cases h <;> rfl

theorem Ends.stores (h : Ends w m insert answer (.ok ()) m') : ∃ i, Stores i m m' := by
  cases h with
  | inserted _ hstores => exact ⟨_, hstores⟩

theorem Ends.renews {owner : Option Ownership} (h : Ends w m (update owner) answer (.ok ()) m') :
    ∃ v, Renews v m m' := by
  cases h with
  | updated _ hrenews => exact ⟨_, hrenews⟩

theorem ends_of_error (op : ModelWrite) (e : StoreError) :
    Ends w m op (.error e) (.error (w.constraints.explain e)) m := by
  rcases w.explain_cases e with ⟨constraint, message, field, text, rfl, hentry, hexplain⟩ |
    ⟨hunknown, hexplain⟩
  · rw [hexplain]
    exact .violated hentry
  · rw [hexplain]
    exact .failed hunknown

theorem renews_setVersion (v : Int32) (m : μ) : Renews v m (Versioned.setVersion v m) :=
  ⟨rfl, fun hkeeps => ⟨hkeeps.setVersion v m, hkeeps.version_setVersion v m⟩⟩

theorem stores_of_scanKey {i : Inserted} {r : Record (Mapped.shape μ)}
    (h : (Mapped.toRecord m).scanKey (.of (.bigInt i.id)) = .ok r) :
    Stores i m (Versioned.setVersion i.version
      (Versioned.setCreatedAt i.createdAt (Mapped.ofRecord r))) := by
  refine ⟨⟨r, h, rfl⟩, fun {isVersion isCreatedAt} hkeeps => ?_⟩
  have hkeyed := Tree.sameBut_scanKey h
  have hdated := hkeeps.setCreatedAt i.createdAt (Mapped.ofRecord r)
  have hversioned := hkeeps.setVersion i.version
    (Versioned.setCreatedAt i.createdAt (Mapped.ofRecord r))
  rw [hkeeps.toRecord_ofRecord r] at hdated
  refine ⟨?_, hkeeps.version_setVersion _ _, ?_⟩
  · refine (hkeyed.mono fun _ => Or.inl).trans ((hdated.mono fun _ h => ?_).trans
      (hversioned.mono fun _ h => ?_))
    · exact .inr (.inr h)
    · exact .inr (.inl h)
  · -- The setters leave the key alone, so it is the one that was scanned.
    have hsame : (Mapped.toRecord (Versioned.setVersion i.version (Versioned.setCreatedAt
        i.createdAt (Mapped.ofRecord r : μ)))).keyValue? = r.keyValue? := by
      have hdated' := hdated.keyValue? fun info h => hkeeps.apart info (.inr h)
      have hversioned' := hversioned.keyValue? fun info h => hkeeps.apart info (.inl h)
      exact (hdated'.trans hversioned').symm
    rw [hsame]
    rcases Tree.keyValue?_of_scanKey h with hkey | ⟨rfl, hnone⟩
    · exact .inl hkey
    · exact .inr ⟨hnone, hnone⟩

/-! ## The three writes -/

section
variable {σ : Type} [Server σ] (w : Writer) (s : Session (Recorder σ) μ)

omit [Versioned μ] in
theorem firstRow_sends {β : Type} (stmt : Statement) (missing : StoreError)
    (read : Row → Except ExtractionError β) :
    w.Sends stmt (fun server : σ => ((Server.query stmt server).1.map Answer.rows,
        (Server.query stmt server).2))
      (fun answer result m => ∃ found, answer = found.map Answer.rows ∧
        result = (Writer.readFirst missing read found).mapError w.constraints.explain ∧
        m = s.memory)
      s (w.guarded stmt (Writer.firstRow stmt missing read) s) :=
  (Writer.guarded_sends (Writer.readFirst missing read)
    fun _ => Writer.firstRow_apply missing read).mapAnswer Answer.rows

omit [Versioned μ] in
theorem softDelete_sends (stmt : Statement) :
    w.Sends stmt (fun server : σ => ((Server.execute stmt server).1.map Answer.affected,
        (Server.execute stmt server).2))
      (fun answer result m => ∃ found, answer = found.map Answer.affected ∧
        result = (Writer.readCount found).mapError w.constraints.explain ∧ m = s.memory)
      s (w.softDelete stmt s) := by
  rw [Writer.softDelete_eq]
  exact (Writer.guarded_sends Writer.readCount
    fun _ => Writer.countRows_apply stmt _).mapAnswer Answer.affected

section
omit [Versioned μ]
variable {w} {β : Type} {missing e : StoreError} {read : Row → Except ExtractionError β}
  {found : Except StoreError (List Row)}

theorem readFirst_error_cases
    (h : .error e = (Writer.readFirst missing read found).mapError w.constraints.explain) :
    (∃ cause, found = .error cause ∧ e = w.constraints.explain cause) ∨
      found = .ok [] ∧ e = w.constraints.explain missing ∨
      ∃ row rest x, found = .ok (row :: rest) ∧ read row = .error x ∧ e = .ofExtraction x := by
  rcases found with cause | _ | ⟨row, rest⟩
  · cases h
    exact .inl ⟨cause, rfl, rfl⟩
  · cases h
    exact .inr (.inl ⟨rfl, rfl⟩)
  · rw [Writer.readFirst] at h
    cases hread : read row with
    | error x =>
      rw [hread] at h
      cases h
      exact .inr (.inr ⟨row, rest, x, rfl, hread, rfl⟩)
    | ok a =>
      rw [hread] at h
      cases h

theorem readFirst_ok {a : β}
    (h : .ok a = (Writer.readFirst missing read found).mapError w.constraints.explain) :
    ∃ row rest, found = .ok (row :: rest) ∧ read row = .ok a := by
  rcases found with cause | _ | ⟨row, rest⟩
  · cases h
  · cases h
  · rw [Writer.readFirst] at h
    cases hread : read row with
    | error x =>
      rw [hread] at h
      cases h
    | ok a =>
      rw [hread] at h
      cases h
      exact ⟨row, rest, rfl, hread⟩

end

theorem insertModel_sends :
    let stmt := ((Insert.ofRecord (Mapped.toRecord s.memory)).withReturning Inserted.columns).build
    w.Sends stmt (insert.ask stmt) (Ends w s.memory insert) s (w.insertModel s) := by
  intro stmt
  rw [Writer.insertModel, Action.bind_of_ok (Action.getMemory_apply s), Writer.insertModelWith,
    Writer.insert_eq]
  refine (firstRow_sends w s stmt .notFound Writer.insertedOf).bind ?_ ?_
  · rintro answer e m ⟨found, rfl, hresult, rfl⟩
    rcases readFirst_error_cases hresult with
      ⟨cause, rfl, rfl⟩ | ⟨rfl, rfl⟩ | ⟨row, rest, x, rfl, hread, rfl⟩
    · exact ends_of_error insert cause
    · exact .notInserted
    · exact .unreadInserted hread
  · rintro answer i s₁ ⟨found, rfl, hresult, hmemory⟩
    obtain ⟨row, rest, rfl, hread⟩ := readFirst_ok hresult
    rw [← hmemory, Action.bind_of_ok (Action.getMemory_apply s₁), Writer.applyInserted,
      Mapped.scanKey]
    cases hkey : (Mapped.toRecord s₁.memory).scanKey (.of (.bigInt i.id)) with
    | error x => exact ⟨rfl, .otherKey hread hkey⟩
    | ok r => exact ⟨rfl, .inserted hread (stores_of_scanKey hkey)⟩

theorem updateModelWith_sends (q : Update) (owner : Option Ownership) {column : String} {key : Value}
    (hcolumn : Writer.keyColumn? (Mapped.shape μ) = some column)
    (hkey : (Mapped.toRecord s.memory).keyValue? = some key) :
    let stmt := (Writer.versionedUpdate q column key (Versioned.version s.memory) owner).build
    w.Sends stmt ((update owner).ask stmt) (Ends w s.memory (update owner)) s
      (w.updateModelWith q owner s) := by
  intro stmt
  rw [Writer.updateModelWith, Action.bind_of_ok (Action.getMemory_apply s), hcolumn, hkey]
  dsimp only
  rw [Writer.update_eq]
  refine (firstRow_sends w s stmt .editConflict fun row => row.extract 0 .int32).bind ?_ ?_
  · rintro answer e m ⟨found, rfl, hresult, rfl⟩
    rcases readFirst_error_cases hresult with
      ⟨cause, rfl, rfl⟩ | ⟨rfl, rfl⟩ | ⟨row, rest, x, rfl, hread, rfl⟩
    · exact ends_of_error (update owner) cause
    · exact .notUpdated
    · exact .unreadVersion hread
  · rintro answer v s₁ ⟨found, rfl, hresult, -⟩
    obtain ⟨row, rest, rfl, hread⟩ := readFirst_ok hresult
    exact ⟨rfl, .updated hread (renews_setVersion v s.memory)⟩

theorem updateModel_sends (owner : Option Ownership) {column : String} {key : Value}
    (hcolumn : Writer.keyColumn? (Mapped.shape μ) = some column)
    (hkey : (Mapped.toRecord s.memory).keyValue? = some key) :
    let stmt := Writer.modelUpdate s.memory column key owner
    w.Sends stmt ((update owner).ask stmt) (Ends w s.memory (update owner)) s
      (w.updateModel owner s) := by
  intro stmt
  rw [Writer.updateModel, Action.bind_of_ok (Action.getMemory_apply s)]
  exact updateModelWith_sends w s (.ofRecord (Mapped.toRecord s.memory)) owner hcolumn hkey

theorem softDeleteModel_sends {shape : Shape} (id : Value) (owner : Option Ownership)
    {column : String} (hcolumn : Writer.keyColumn? shape = some column) :
    let stmt := (Writer.deletion shape column id owner).build
    w.Sends stmt ((softDelete shape id owner).ask stmt)
      (Ends w s.memory (softDelete shape id owner)) s (w.softDeleteModel shape id owner s) := by
  intro stmt
  rw [Writer.softDeleteModel, hcolumn]
  refine (softDelete_sends w s stmt).imp ?_
  rintro answer result m ⟨found, rfl, rfl, rfl⟩
  rcases found with cause | count
  · exact ends_of_error _ cause
  · by_cases hzero : count = 0
    · subst hzero
      exact .notDeleted
    · have hread : Writer.readCount (.ok count) = .ok () := if_neg hzero
      rw [hread]
      exact .deleted hzero

/-- A write of a model sends nothing and fails without a key, and an insertion always has a
statement. Otherwise it hands over the time limit, ends with its error when that is refused, and
hands over the one statement, to whose answer it owes its end. When it fails, the model is as it
was. -/
theorem model_writes_follow_protocol (op : ModelWrite) :
    let done := op.run w s
    ((op.statement? s.memory = none ∧ op ≠ insert ∧
          done = (.error (Writer.noKey (op.shape μ)), s)) ∨
        ∃ stmt, op.statement? s.memory = some stmt ∧
          w.Sends stmt (op.ask stmt) (Ends w s.memory op) s done) ∧
      ∀ e, done.1 = .error e → done.2.memory = s.memory := by
  have hsent : (op.statement? s.memory = none ∧ op ≠ insert ∧
        op.run w s = (.error (Writer.noKey (op.shape μ)), s)) ∨
      ∃ stmt, op.statement? s.memory = some stmt ∧
        w.Sends stmt (op.ask stmt) (Ends w s.memory op) s (op.run w s) := by
    cases op with
    | insert => exact .inr ⟨_, rfl, insertModel_sends w s⟩
    | update owner =>
      cases hcolumn : Writer.keyColumn? (Mapped.shape μ) with
      | none =>
        refine .inl ⟨?_, nofun, ?_⟩
        · simp only [statement?, hcolumn]
        · rw [run, Writer.updateModel_apply, hcolumn]
          rfl
      | some column =>
        cases hkey : (Mapped.toRecord s.memory).keyValue? with
        | none =>
          refine .inl ⟨?_, nofun, ?_⟩
          · simp only [statement?, hcolumn, hkey]
          · rw [run, Writer.updateModel_apply, hcolumn, hkey]
            rfl
        | some key =>
          refine .inr ⟨_, ?_, updateModel_sends w s owner hcolumn hkey⟩
          simp only [statement?, hcolumn, hkey]
    | softDelete shape id owner =>
      cases hcolumn : Writer.keyColumn? shape with
      | none =>
        refine .inl ⟨?_, nofun, ?_⟩
        · simp only [statement?, hcolumn, Option.map_none]
        · rw [run, Writer.softDeleteModel, hcolumn]
          rfl
      | some column =>
        refine .inr ⟨_, ?_, softDeleteModel_sends w s id owner hcolumn⟩
        simp only [statement?, hcolumn, Option.map_some]
  refine ⟨hsent, fun e he => ?_⟩
  rcases hsent with ⟨-, -, hdone⟩ | ⟨stmt, -, hsends⟩
  · rw [hdone]
  · rcases hrun : op.run w s with ⟨result, s'⟩
    rw [hrun] at hsends he
    cases hsends with
    | unlimited _ _ hmemory => exact hmemory
    | answered _ _ _ hends =>
      cases he
      exact hends.memory_of_error

end

/-- A server that takes every statement and answers queries with one row. -/
structure OneRow where
  row : Row

instance : Server OneRow where
  execute _ server := (.ok 1, server)
  query _ server := (.ok [server.row], server)

open Bookshelf

def onlyRow (values : List Value) : Recorder OneRow := ⟨⟨.ofValues values⟩, []⟩

theorem answered_writes_keep_models :
    let refused : Session (Recorder OneRow) Book :=
      ⟨onlyRow [ScalarType.int64.bind (42 : Int64), .of (.instant .epoch)], {}, []⟩
    let taken : Session (Recorder OneRow) Book :=
      ⟨onlyRow [ScalarType.int64.bind (42 : Int64), .of (.instant .epoch), .of (.int 1)],
        { title := "Dune" }, []⟩
    let renewed : Session (Recorder OneRow) ReadingPlan := ⟨onlyRow [.of (.int 2)], { id := 3 }, []⟩
    let renewedRecord : Session (Recorder OneRow) (Record (Mapped.shape Book)) :=
      ⟨onlyRow [.of (.int 2)], Mapped.toRecord ({ id := 4, pages := 412 } : Book), []⟩
    ((insert.run {} refused).1 = .error (.ofExtraction (.missingColumn 2)) ∧
        (insert.run {} refused).2.memory = ({} : Book)) ∧
      ((insert.run {} taken).1 = .ok () ∧
        Tree.SameBut _ (fun info => IsKey info ∨ IsNamed "version" info ∨ IsNamed "created_at" info)
          (Mapped.toRecord taken.memory) (Mapped.toRecord (insert.run {} taken).2.memory)) ∧
      (((update none).run {} renewed).1 = .ok () ∧
        Tree.SameBut _ (IsNamed "version") (Mapped.toRecord renewed.memory)
          (Mapped.toRecord ((update none).run {} renewed).2.memory)) ∧
      ((update none).run {} renewedRecord).1 = .ok () ∧
        Tree.SameBut _ (IsNamed "version") (Mapped.toRecord renewedRecord.memory)
          (Mapped.toRecord ((update none).run {} renewedRecord).2.memory) := by
  intro refused taken renewed renewedRecord
  refine ⟨⟨rfl, (model_writes_follow_protocol {} refused insert).2 _ rfl⟩, ⟨rfl, ?_⟩, ⟨rfl, ?_⟩,
    rfl, ?_⟩
  · obtain ⟨stmt, -, hsends⟩ :=
      (model_writes_follow_protocol {} taken insert).1.resolve_left fun h => h.2.1 rfl
    obtain ⟨answer, hends⟩ := hsends.of_ok rfl
    obtain ⟨i, hstores⟩ := hends.stores
    exact (hstores.kept keeps_book).1
  · obtain ⟨stmt, -, hsends⟩ :=
      (model_writes_follow_protocol {} renewed (update none)).1.resolve_left fun h => nomatch h.1
    obtain ⟨answer, hends⟩ := hsends.of_ok rfl
    obtain ⟨v, hrenews⟩ := hends.renews
    exact (hrenews.kept keeps_plan).1
  · have hversion : (Mapped.shape Book).HasVersion := ⟨⟨_, _, rfl, rfl, rfl, rfl⟩, by decide⟩
    obtain ⟨stmt, -, hsends⟩ :=
      (model_writes_follow_protocol {} renewedRecord (update none)).1.resolve_left
        fun h => nomatch h.1
    obtain ⟨answer, hends⟩ := hsends.of_ok rfl
    obtain ⟨v, hrenews⟩ := hends.renews
    exact (hrenews.kept (keeps_record hversion)).1

end ModelWrite

end RowMap
