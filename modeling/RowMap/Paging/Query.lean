import RowMap.Paging.Filters
import RowMap.Record.Mapped
import RowMap.Record.Scan
import RowMap.Session

/-!
# Reading records

A listing returns the number of all its rows in the first column of every row; the record follows.
A row that cannot be read fails the whole listing.
-/

namespace RowMap

variable {σ μ α : Type}

/-- Scans a row from a cursor into a value. -/
def Cursor.scan [Mapped α] (c : Cursor) (a : α) : Except StoreError α :=
  let scanned := (Mapped.toRecord a).scan c
  match scanned.error with
  | none => .ok (Mapped.ofRecord scanned.record)
  | some e => .error e

/-- The count and the record of a row of a listing. -/
def Row.counted [Mapped α] (row : Row) (fresh : α) : Except StoreError (Int64 × α) :=
  match row.cursor.nextAs .int64 with
  | (.ok total, c) => (c.scan fresh).map fun a => (total, a)
  | (.error e, _) => .error (.ofExtraction e)

/-- The records of all rows, and the count of the last row. -/
def readRows [Mapped α] (fresh : α) : Int64 → List Row → Except StoreError (Int64 × List α)
  | total, [] => .ok (total, [])
  | _, row :: rest =>
    match row.counted fresh with
    | .error e => .error e
    | .ok (total, a) => (readRows fresh total rest).map fun (total, more) => (total, a :: more)

/-- The records of all rows, each read into a value that is made with the caller's own data when
the row has been counted. -/
def readRowsWith [Mapped α] (make : μ → α × μ) :
    Int64 → List Row → μ → Except StoreError (Int64 × List α) × μ
  | total, [], m => (.ok (total, []), m)
  | _, row :: rest, m =>
    match row.cursor.nextAs .int64 with
    | (.error e, _) => (.error (.ofExtraction e), m)
    | (.ok total, c) =>
      match c.scan (make m).1 with
      | .error e => (.error e, (make m).2)
      | .ok a =>
        let (read, m) := readRowsWith make total rest (make m).2
        (read.map fun (total, more) => (total, a :: more), m)

namespace Action

variable [Server σ]

/-- One page of a listing. -/
def page [Mapped α] (s : Statement) (f : Filters) (fresh : α) :
    Action σ μ (List α × Metadata) := do
  emit (.ofStatement s)
  match readRows fresh 0 (← query s) with
  | .ok (total, records) => return (records, .ofTotal total f.page f.pageSize)
  | .error e => throw e

/-- One page of a listing, with a value of the caller's making for every row. -/
def pageWith [Mapped α] (s : Statement) (f : Filters) (make : μ → α × μ) :
    Action σ μ (List α × Metadata) := do
  emit (.ofStatement s)
  let (read, m) := readRowsWith make 0 (← query s) (← getMemory)
  setMemory m
  match read with
  | .ok (total, records) => return (records, .ofTotal total f.page f.pageSize)
  | .error e => throw e

/-- The record of the first row. -/
def find [Mapped α] (s : Statement) (fresh : α) : Action σ μ α := do
  emit (.ofStatement s)
  match (← queryFirst s).cursor.scan fresh with
  | .ok a => return a
  | .error e => throw e

end Action

end RowMap
