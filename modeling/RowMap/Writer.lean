import RowMap.Record.Mapped
import RowMap.Statement.Write
import RowMap.Transaction

/-!
# Versioned writing

Every write sets the time limit of the transaction and then sends one statement. An update names
the version it was made from and fails when the row has another one. A deletion only marks the
row. A violated constraint that is known becomes the complaint about a field.
-/

namespace RowMap

/-! ## Constraints -/

/-- The field and the message that stand for a violated constraint. -/
structure ConstraintMap where
  entries : List (String × String × String) := []

namespace ConstraintMap

/-- A later complaint for the same constraint replaces the earlier one. -/
def insert (m : ConstraintMap) (constraint field message : String) : ConstraintMap :=
  ⟨(constraint, field, message) :: m.entries⟩

def get? (m : ConstraintMap) (constraint : String) : Option (String × String) :=
  m.entries.lookup constraint

/-- A violated constraint as a complaint about a field, if the map has one for it. -/
def explain (m : ConstraintMap) (e : StoreError) : StoreError :=
  match e with
  | .constraintViolation constraint _ =>
    match m.get? constraint with
    | some (field, message) => .validation (.single field message)
    | none => e
  | _ => e

end ConstraintMap

/-- The rows of one owner. -/
structure Ownership where
  column : String
  value : Value

def Ownership.condition (o : Ownership) : Condition := ⟨o.column ++ " = ?", [o.value]⟩

/-- What the store assigns to a new row. -/
structure Inserted where
  id : Int64
  createdAt : Calendar.Instant
  version : Int32

/-- The columns that an insertion returns. -/
def Inserted.columns : List String := ["id", "created_at", "version"]

structure Writer where
  /-- Milliseconds that a statement may take. -/
  timeout : Nat := 3000
  constraints : ConstraintMap := {}

namespace Writer

variable {σ μ α : Type} [Server σ]

/-! ## Statements -/

def timeoutSql (w : Writer) : String := "SET LOCAL statement_timeout = " ++ toString w.timeout

/-- Sets the time limit, logs the statement, and runs it with known constraints explained. -/
def guarded (w : Writer) (s : Statement) (body : Action σ μ α) : Action σ μ α := do
  Action.command w.timeoutSql
  Action.emit (.ofStatement s)
  match ← body.attempt with
  | .ok a => return a
  | .error e => throw (w.constraints.explain e)

/-- The datum at a place of a row. -/
def column (row : Row) (index : Nat) (t : ScalarType) : Action σ μ t.Carrier :=
  match row.extract index t with
  | .ok x => return x
  | .error e => throw (.ofExtraction e)

def insert (w : Writer) (s : Statement) : Action σ μ Inserted := w.guarded s do
  match ← Action.queryFirst? s with
  | none => throw .notFound
  | some row =>
    let id ← column row 0 .int64
    let createdAt ← column row 1 .instant
    let version ← column row 2 .int32
    return { id, createdAt, version }

/-- The new version of the row that an update has changed. -/
def update (w : Writer) (s : Statement) : Action σ μ Int32 := w.guarded s do
  match ← Action.queryFirst? s with
  | none => throw .editConflict
  | some row => column row 0 .int32

def softDelete (w : Writer) (s : Statement) : Action σ μ Unit := w.guarded s do
  if (← Action.execute s) = 0 then throw .notFound

/-! ## Models

The model is in memory. -/

/-- The model with what the store has assigned. -/
def applyInserted [Versioned μ] (i : Inserted) (m : μ) : Except ExtractionError μ :=
  (Mapped.scanKey m (.of (.bigInt i.id))).map fun m =>
    Versioned.setVersion i.version (Versioned.setCreatedAt i.createdAt m)

def insertModelWith [Versioned μ] (w : Writer) (q : Insert) : Action σ μ Unit := do
  let inserted ← w.insert (q.withReturning Inserted.columns).build
  match applyInserted inserted (← Action.getMemory) with
  | .ok m => Action.setMemory m
  | .error e => throw (.ofExtraction e)

def insertModel [Versioned μ] (w : Writer) : Action σ μ Unit := do
  w.insertModelWith (.ofRecord (Mapped.toRecord (← Action.getMemory)))

def noKey (s : Shape) : StoreError := .other (s.typeName ++ " has no primary key")

/-- The column of the primary key. -/
def keyColumn? (s : Shape) : Option String := s.primaryKey?.bind FieldMeta.column

/-- The update of one version of one row. -/
def versionedUpdate (q : Update) (keyColumn : String) (key : Value) (version : Int32)
    (owner : Option Ownership) : Update :=
  let q := q.setRaw "version = version + 1"
    |>.setRaw "updated_at = now()"
    |>.filter ⟨keyColumn ++ " = ?", [key]⟩
    |>.filter ((Column.bare "version").compare .eq (ScalarType.int32.bind version))
    |>.filter ⟨"deleted = false", []⟩
  let q := match owner with
    | some owner => q.filter owner.condition
    | none => q
  q.withReturning ["version"]

def updateModelWith [Versioned μ] (w : Writer) (q : Update) (owner : Option Ownership) :
    Action σ μ Unit := do
  let m ← Action.getMemory
  match keyColumn? (Mapped.shape μ), (Mapped.toRecord m).keyValue? with
  | some column, some key =>
    let version ← w.update (versionedUpdate q column key (Versioned.version m) owner).build
    Action.setMemory (Versioned.setVersion version m)
  | _, _ => throw (noKey (Mapped.shape μ))

def updateModel [Versioned μ] (w : Writer) (owner : Option Ownership) : Action σ μ Unit := do
  w.updateModelWith (.ofRecord (Mapped.toRecord (← Action.getMemory))) owner

/-- The update that marks a row as deleted. -/
def deletion (s : Shape) (keyColumn : String) (id : Value) (owner : Option Ownership) : Update :=
  let q := Update.ofTable s.table
    |>.setRaw "deleted = true"
    |>.setRaw "updated_at = now()"
    |>.filter ((Column.bare keyColumn).compare .eq id)
    |>.filter ⟨"deleted = false", []⟩
  match owner with
  | some owner => q.filter owner.condition
  | none => q

def softDeleteModel (w : Writer) (s : Shape) (id : Value) (owner : Option Ownership) :
    Action σ μ Unit :=
  match keyColumn? s with
  | some column => w.softDelete (deletion s column id owner).build
  | none => throw (noKey s)

end Writer

end RowMap
