import RowMap.Bookshelf.Plans
import RowMap.Settings.Basic

/-!
# Services

A service checks what it is given before it sends anything. Writes run in a transaction of their
own.
-/

namespace RowMap.Bookshelf

variable {σ μ : Type} [Server σ]

/-- Fails when there are complaints. -/
def ensureValid (errors : ValidationErrors) : Except StoreError Unit :=
  if errors.isEmpty then .ok () else .error (.validation errors)

/-- The filters with a safelist of ours, when they are in order. -/
def checkedFilters (f : Filters) (safelist : List String) (maxPageSize : Int64) :
    Except StoreError Filters := do
  let f := { f with safelist }
  ensureValid (f.validate maxPageSize .empty)
  return f

namespace BookService

def findAll (settings : Settings) (title author : String) (userId : Int64) (f : Filters) :
    Action σ μ (List Book × Metadata) := do
  Books.getAll title author userId (← checkedFilters f Books.safelist settings.maxPageSize)

def findById (id userId : Int64) : Action σ μ Book := Books.getById id userId

/-- A book without a user becomes the caller's. -/
def adopted (b : Book) (userId : Int64) : Book :=
  if b.user.isNone then { b with user := some (.withId userId) } else b

def save (settings : Settings) (userId : Int64) : Action σ Book Unit := do
  Action.setMemory (adopted (← Action.getMemory) userId)
  ensureValid ((← Action.getMemory).validate .empty)
  Transaction.run fun _ => Books.insert (Books.writer settings.timeout.toNat)

def update (settings : Settings) (userId : Int64) : Action σ Book Unit := do
  ensureValid ((← Action.getMemory).validate .empty)
  Transaction.run fun _ => Books.update (Books.writer settings.timeout.toNat) userId

def delete (settings : Settings) (id userId : Int64) : Action σ μ Unit :=
  Transaction.run fun _ => Books.delete (Books.writer settings.timeout.toNat) id userId

end BookService

namespace PlanService

def writer (settings : Settings) : Writer := { timeout := settings.timeout.toNat }

def findAll (settings : Settings) (c : PlanCriteria) (f : Filters) :
    Action σ μ (List ReadingPlan × Metadata) := do
  Plans.getAll c (← checkedFilters f Plans.safelist settings.maxPageSize)

def findById (id userId : Int64) : Action σ μ ReadingPlan := Plans.getById id userId

/-- A plan without a user becomes the caller's. -/
def adopted (p : ReadingPlan) (userId : Int64) : ReadingPlan :=
  if p.user.isNone then { p with user := some (.withId userId) } else p

def save (settings : Settings) (userId : Int64) : Action σ ReadingPlan Unit := do
  Action.setMemory (adopted (← Action.getMemory) userId)
  ensureValid ((← Action.getMemory).validate .empty)
  Transaction.run fun _ => Plans.insert (writer settings)

def update (settings : Settings) (userId : Int64) : Action σ ReadingPlan Unit := do
  ensureValid ((← Action.getMemory).validate .empty)
  Transaction.run fun _ => Plans.update (writer settings) userId

def delete (settings : Settings) (id userId : Int64) : Action σ μ Unit :=
  Transaction.run fun _ => Plans.delete (writer settings) id userId

end PlanService

end RowMap.Bookshelf
