import RowMap.Bookshelf.Books

/-!
# Storing reading plans

Plans are written from their records. A plan belongs to the user who writes it.
-/

namespace RowMap.Bookshelf

open RowMap.Calendar (Instant)

/-- What a listing of plans is about. -/
structure PlanCriteria where
  status : Option ReadingStatus := none
  startDate : Option Instant := none
  targetDate : Option Instant := none
  userId : Int64 := 0
  bookId : Int64 := 0

namespace Plans

variable {σ μ : Type} [Server σ]

/-- The sort values of listings. -/
def safelist : List String :=
  ["id", "status", "priority", "start_date", "target_date", "-id", "-status", "-priority",
    "-start_date", "-target_date"]

/-! ## Statements -/

def columns : String :=
  commaList [(Mapped.shape ReadingPlan).selectColumns "r", (Mapped.shape Book).selectColumns "b",
    (Mapped.shape User).selectColumns "u"]

def listTemplate (sortColumn : String) (direction : SortDirection) : String :=
  template 8 [
    "SELECT",
    "    count(*) OVER(),",
    "    " ++ columns,
    "FROM reading_plans r",
    "LEFT JOIN users u ON u.id = r.user_id",
    "LEFT JOIN books b ON b.id = r.book_id",
    "WHERE",
    "    (:status::int IS NULL OR r.status = :status)",
    "    AND (:startDate::timestamptz IS NULL OR r.start_date >= :startDate::timestamptz)",
    "    AND (:targetDate::timestamptz IS NULL OR r.target_date <= :targetDate::timestamptz)",
    "    AND b.deleted = false",
    "    AND r.deleted = false",
    "    AND r.user_id = :userID",
    "    AND r.book_id = :bookID",
    "ORDER BY",
    "    r." ++ sortColumn ++ " " ++ direction.keyword ++ ",",
    "    r.id ASC",
    "LIMIT :limit",
    "OFFSET :offset"]

/-- From an instant to the last second that is less than a day later. -/
def dayLength : Nat := 23 * 3600 + 59 * 60 + 59

/-- The end of the day that starts at the target date. -/
def endOfTargetDay (targetDate : Option Instant) : Except StoreError (Option Instant) :=
  match targetDate with
  | none => .ok none
  | some t =>
    match t.later dayLength with
    | some t => .ok (some t)
    | none => .error .calendarOverflow

def listStatement (c : PlanCriteria) (f : Filters) : Except StoreError Statement := do
  let column ← f.sortColumn
  let targetDate ← endOfTargetDay c.targetDate
  (Parameters.ofList [("status", (ScalarType.coded statuses).bindOption c.status),
    ("startDate", ScalarType.instant.bindOption c.startDate),
    ("targetDate", ScalarType.instant.bindOption targetDate), ("userID", int64 c.userId),
    ("bookID", int64 c.bookId), ("limit", int64 f.limit), ("offset", int64 f.offset)]).statement
      (listTemplate column f.sortDirection)

def byIdStatement (id userId : Int64) : Statement :=
  Select.ofTable (Mapped.shape ReadingPlan).table
    |>.withAlias "r"
    |>.columnsOf (Mapped.shape ReadingPlan)
    |>.aliasedColumnsOf (Mapped.shape Book) "b"
    |>.aliasedColumnsOf (Mapped.shape User) "u"
    |>.join "LEFT JOIN books b ON b.id = r.book_id"
    |>.join "LEFT JOIN users u ON u.id = r.user_id"
    |>.filter ((Column.mk "r" "id").compare .eq (int64 id))
    |>.filter ((Column.mk "r" "user_id").compare .eq (int64 userId))
    |>.filter ⟨"r.deleted = false", []⟩
    |>.build

def deleteStatement (id userId : Int64) : Statement :=
  Update.ofTable (Mapped.shape ReadingPlan).table
    |>.setRaw "deleted = true"
    |>.setRaw "updated_at = now()"
    |>.set "updated_by" (int64 userId)
    |>.filter ((Column.bare "id").compare .eq (int64 id))
    |>.filter ((Column.bare "user_id").compare .eq (int64 userId))
    |>.filter ⟨"deleted = false", []⟩
    |>.build

/-! ## Actions -/

/-- What a row of a plan is scanned into. -/
def fresh : ReadingPlan := { book := some {}, user := some {} }

def getAll (c : PlanCriteria) (f : Filters) : Action σ μ (List ReadingPlan × Metadata) := do
  Action.page (← listStatement c f) f fresh

def getById (id userId : Int64) : Action σ μ ReadingPlan := Action.find (byIdStatement id userId) fresh

/-- The key of a plan's user, and 0 when it has none. -/
def ownerId (p : ReadingPlan) : Int64 := (p.user.map User.id).getD 0

def insert (w : Writer) : Action σ ReadingPlan Unit := do
  let p : ReadingPlan ← Action.getMemory
  w.insertModelWith ((Insert.ofRecord (Mapped.toRecord p)).value "created_by" (int64 (ownerId p)))

/-- The plan as one of a user, whose own record stays. -/
def owned (p : ReadingPlan) (userId : Int64) : ReadingPlan :=
  if p.user.map User.id = some userId then p else { p with user := some (.withId userId) }

/-- Gives the plan in memory to the user, and updates it where the user owns it. -/
def update (w : Writer) (userId : Int64) : Action σ ReadingPlan Unit := do
  let p := owned (← Action.getMemory) userId
  Action.setMemory p
  w.updateModelWith ((Update.ofRecord (Mapped.toRecord p)).set "updated_by" (int64 userId))
    (some ⟨"user_id", int64 userId⟩)

def delete (w : Writer) (id userId : Int64) : Action σ μ Unit := w.softDelete (deleteStatement id userId)

end Plans

end RowMap.Bookshelf
