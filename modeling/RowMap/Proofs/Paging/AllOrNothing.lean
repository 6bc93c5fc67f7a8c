import RowMap.Proofs.Paging.Walk

/-!
# All records or none

A page is read row by row, each row into a value of the caller's making. The records are there when
every row can be read, and then each is the record of its own row; the first row that cannot be read
gives its error to the whole page.
-/

namespace RowMap

variable {σ μ α : Type}

/-! ## One row -/

/-- Why a row cannot be read: it has no number of rows in front, or the record behind is refused. -/
inductive Refused [Mapped α] (fresh : α) (row : Row) : StoreError → Prop
  | missing : row.get? 0 = none → Refused fresh row (.ofExtraction (.missingColumn 0))
  | count {v : Value} {e : ExtractionError} : row.get? 0 = some v →
      ScalarType.int64.extract v = .error e → Refused fresh row (.ofExtraction e)
  | record {total : Int64} {e : StoreError} : row.get? 0 = some (ScalarType.int64.bind total) →
      Cursor.scan ⟨row, 1⟩ fresh = .error e → Refused fresh row e

theorem listed_or_refused [Mapped α] (fresh : α) (row : Row) :
    (∃ total a, Listed fresh total row a) ∨ ∃ e, Refused fresh row e := by
  rcases hvalue : row.get? 0 with _ | v
  · exact .inr ⟨_, .missing hvalue⟩
  · rcases hcount : ScalarType.int64.extract v with e | total
    · exact .inr ⟨_, .count hvalue hcount⟩
    · rw [← ScalarType.bind_of_extract hcount] at hvalue
      rcases hscan : Cursor.scan ⟨row, 1⟩ fresh with e | a
      · exact .inr ⟨e, .record hvalue hscan⟩
      · exact .inl ⟨total, a, hvalue, hscan⟩

/-! ## Making values -/

/-- The caller's data after so many values have been made. -/
def afterMaking (make : μ → α × μ) (m : μ) : Nat → μ
  | 0 => m
  | n + 1 => afterMaking make (make m).2 n

/-- The value that is made after so many others. -/
def made (make : μ → α × μ) (m : μ) (n : Nat) : α := (make (afterMaking make m n)).1

section
variable [Mapped α] {make : μ → α × μ}

/-- Every row has a record, read into the value that was made for it. -/
def AllListed (make : μ → α × μ) (m : μ) (rows : List Row) : Prop :=
  ∀ i (hi : i < rows.length), ∃ total a, Listed (made make m i) total rows[i] a

/-- The first row that cannot be read gives the error. -/
def FirstRefused (make : μ → α × μ) (m : μ) (rows : List Row) (e : StoreError) : Prop :=
  ∃ i, ∃ hi : i < rows.length, Refused (made make m i) rows[i] e ∧
    AllListed make m (rows.take i)

theorem allListed_nil (m : μ) : AllListed make m [] := fun i hi => by simp at hi

theorem allListed_cons {m : μ} {row : Row} {rows : List Row} :
    AllListed make m (row :: rows) ↔
      (∃ total a, Listed (make m).1 total row a) ∧ AllListed make (make m).2 rows := by
  constructor
  · intro h
    exact ⟨h 0 (by simp), fun i hi => h (i + 1) (by simpa using hi)⟩
  · rintro ⟨hrow, hrows⟩ (_ | i) hi
    · exact hrow
    · exact hrows i (by simpa using hi)

theorem firstRefused_cons {m : μ} {row : Row} {rows : List Row} {e : StoreError} :
    FirstRefused make m (row :: rows) e ↔ Refused (make m).1 row e ∨
      (∃ total a, Listed (make m).1 total row a) ∧ FirstRefused make (make m).2 rows e := by
  constructor
  · rintro ⟨_ | i, hi, hrefused, hbefore⟩
    · exact .inl hrefused
    · obtain ⟨hrow, hrows⟩ := allListed_cons.mp hbefore
      exact .inr ⟨hrow, i, by simpa using hi, hrefused, hrows⟩
  · rintro (hrefused | ⟨hrow, i, hi, hrefused, hbefore⟩)
    · exact ⟨0, by simp, hrefused, allListed_nil m⟩
    · exact ⟨i + 1, by simpa using hi, hrefused, allListed_cons.mpr ⟨hrow, hbefore⟩⟩

/-! ## Reading the rows -/

theorem readRowsWith_listed {m : μ} {row : Row} {total : Int64} {a : α}
    (h : Listed (make m).1 total row a) (start : Int64) (rows : List Row) :
    readRowsWith make start (row :: rows) m =
      ((readRowsWith make total rows (make m).2).1.map fun (total, more) => (total, a :: more),
        (readRowsWith make total rows (make m).2).2) := by
  rw [readRowsWith, nextAs_of_count h.count]
  simp only [h.record]

theorem readRowsWith_refused {m : μ} {row : Row} {e : StoreError} (h : Refused (make m).1 row e)
    (start : Int64) (rows : List Row) : (readRowsWith make start (row :: rows) m).1 = .error e := by
  cases h with
  | missing hvalue => simp [readRowsWith, Cursor.nextAs, Cursor.next, Row.cursor, hvalue]
  | count hvalue hcount =>
    simp [readRowsWith, Cursor.nextAs, Cursor.next, Row.cursor, hvalue, hcount]
  | record hcount hscan =>
    rw [readRowsWith, nextAs_of_count hcount]
    simp only [hscan]

/-- The records of the rows, one for each, and the number of rows that the last one says. -/
structure RecordsOf (make : μ → α × μ) (m : μ) (rows : List Row) (start last : Int64)
    (records : List α) : Prop where
  length : records.length = rows.length
  record : ∀ i (hi : i < rows.length), ∃ total a, records[i]? = some a ∧
    Listed (made make m i) total rows[i] a
  noRow : rows = [] → last = start
  lastRow : ∀ row ∈ rows.getLast?, row.get? 0 = some (ScalarType.int64.bind last)

theorem RecordsOf.cons {m : μ} {row : Row} {rows : List Row} {start total last : Int64} {a : α}
    {records : List α} (hrow : Listed (make m).1 total row a)
    (h : RecordsOf make (make m).2 rows total last records) :
    RecordsOf make m (row :: rows) start last (a :: records) := by
  refine ⟨by simp [h.length], ?_, by simp, fun r hr => ?_⟩
  · rintro (_ | i) hi
    · exact ⟨total, a, rfl, hrow⟩
    · exact h.record i (by simpa using hi)
  · by_cases hrows : rows = []
    · obtain rfl : row = r := by simpa [hrows] using hr
      rw [h.noRow hrows]
      exact hrow.count
    · exact h.lastRow r (by rwa [List.getLast?_cons_of_ne_nil hrows] at hr)

theorem readRowsWith_of_allListed {m : μ} {rows : List Row} (h : AllListed make m rows)
    (start : Int64) : ∃ last records,
      readRowsWith make start rows m =
          (.ok (last, records), afterMaking make m rows.length) ∧
        RecordsOf make m rows start last records := by
  induction rows generalizing m start with
  | nil => exact ⟨start, [], rfl, rfl, by simp, fun _ => rfl, by simp⟩
  | cons row rows ih =>
    obtain ⟨⟨total, a, hrow⟩, hrows⟩ := allListed_cons.mp h
    obtain ⟨last, records, hread, hrecords⟩ := ih hrows total
    refine ⟨last, a :: records, ?_, hrecords.cons hrow⟩
    rw [readRowsWith_listed hrow, hread]
    rfl

theorem readRowsWith_of_firstRefused {m : μ} {rows : List Row} {e : StoreError}
    (h : FirstRefused make m rows e) (start : Int64) :
    (readRowsWith make start rows m).1 = .error e := by
  induction rows generalizing m start with
  | nil =>
    obtain ⟨i, hi, -⟩ := h
    simp at hi
  | cons row rows ih =>
    rcases firstRefused_cons.mp h with hrefused | ⟨⟨total, a, hrow⟩, hrest⟩
    · exact readRowsWith_refused hrefused start rows
    · rw [readRowsWith_listed hrow, ih hrest total]
      rfl

theorem allListed_or_firstRefused (make : μ → α × μ) (m : μ) (rows : List Row) :
    AllListed make m rows ∨ ∃ e, FirstRefused make m rows e := by
  induction rows generalizing m with
  | nil => exact .inl (allListed_nil m)
  | cons row rows ih =>
    rcases listed_or_refused (make m).1 row with hrow | ⟨e, hrefused⟩
    · rcases ih (make m).2 with hrows | ⟨e, hrefused⟩
      · exact .inl (allListed_cons.mpr ⟨hrow, hrows⟩)
      · exact .inr ⟨e, firstRefused_cons.mpr (.inr ⟨hrow, hrefused⟩)⟩
    · exact .inr ⟨e, firstRefused_cons.mpr (.inl hrefused)⟩

theorem readRowsWith_const (fresh : α) (start : Int64) (rows : List Row) (m : μ) :
    readRowsWith (fun m => (fresh, m)) start rows m = (readRows fresh start rows, m) := by
  induction rows generalizing start with
  | nil => rfl
  | cons row rows ih =>
    rw [readRowsWith, readRows, Row.counted]
    rcases row.cursor.nextAs .int64 with ⟨e | total, c⟩
    · rfl
    · rcases hscan : c.scan fresh with e | a
      · simp only [hscan]
        rfl
      · simp only [hscan]
        rw [ih total]
        rfl

end

/-! ## A page -/

namespace Action

variable [Server σ] [Mapped α] {stmt : Statement} {s : Session σ μ} {rows : List Row} {server : σ}

theorem pageWith_apply (f : Filters) (make : μ → α × μ)
    (hquery : Server.query stmt s.server = (.ok rows, server)) :
    pageWith stmt f make s =
      ((readRowsWith make 0 rows s.memory).1.map fun (total, records) =>
          (records, .ofTotal total f.page f.pageSize),
        { (s.logged (.ofStatement stmt)).asked stmt server with
          memory := (readRowsWith make 0 rows s.memory).2 }) := by
  have hasked := query_apply stmt (s.logged (.ofStatement stmt))
  rw [Session.logged_server, hquery] at hasked
  refine (bind_of_ok (emit_apply _ s) _).trans ((bind_of_ok hasked _).trans ?_)
  refine (bind_of_ok (getMemory_apply _) _).trans ?_
  simp only [Session.asked_memory, Session.logged_memory]
  rcases readRowsWith make 0 rows s.memory with ⟨e | ⟨total, records⟩, m⟩ <;> rfl

theorem page_eq_pageWith (f : Filters) (fresh : α) (s : Session σ μ) :
    page stmt f fresh s = pageWith stmt f (fun m => (fresh, m)) s := by
  have hemit := emit_apply (.ofStatement stmt) s
  have hasked := query_apply stmt (s.logged (.ofStatement stmt))
  refine (bind_of_ok hemit _).trans (.trans ?_ (bind_of_ok hemit _).symm)
  rcases hreply : (Server.query stmt (s.logged (.ofStatement stmt)).server).1 with e | rows
  · rw [hreply] at hasked
    exact (bind_of_error hasked _).trans (bind_of_error hasked _).symm
  · rw [hreply] at hasked
    refine (bind_of_ok hasked _).trans (.trans ?_ (bind_of_ok hasked _).symm)
    refine .trans ?_ (bind_of_ok (getMemory_apply _) _).symm
    rw [readRowsWith_const]
    cases readRows fresh 0 rows <;> rfl

section
variable (f : Filters) {make : μ → α × μ}
  (hquery : Server.query stmt s.server = (.ok rows, server))
include hquery

theorem pageWith_of_allListed (h : AllListed make s.memory rows) : ∃ last records,
    (pageWith stmt f make s).1 = .ok (records, .ofTotal last f.page f.pageSize) ∧
      RecordsOf make s.memory rows 0 last records := by
  obtain ⟨last, records, hread, hrecords⟩ := readRowsWith_of_allListed h 0
  refine ⟨last, records, ?_, hrecords⟩
  rw [pageWith_apply f make hquery, hread]
  rfl

theorem pageWith_of_firstRefused {e : StoreError} (h : FirstRefused make s.memory rows e) :
    (pageWith stmt f make s).1 = .error e := by
  rw [pageWith_apply f make hquery, readRowsWith_of_firstRefused h]
  rfl

end

/-- A page has a record for every row, each read into the value that was made for it, and the
metadata of the last row's count; or it has nothing but the error of the first row that cannot be
read. A count that is too large for the metadata is no error: the last page is then wrong. -/
theorem page_all_or_nothing (f : Filters) (make : μ → α × μ)
    (hquery : Server.query stmt s.server = (.ok rows, server)) :
    ((∃ found, (pageWith stmt f make s).1 = .ok found) ↔ AllListed make s.memory rows) ∧
    (∀ records metadata, (pageWith stmt f make s).1 = .ok (records, metadata) → ∃ last,
      RecordsOf make s.memory rows 0 last records ∧
        metadata = .ofTotal last f.page f.pageSize ∧
        metadata.Summarizes last f.page f.pageSize) ∧
    (∀ e, (pageWith stmt f make s).1 = .error e ↔ FirstRefused make s.memory rows e) ∧
    (rows = [] → (pageWith stmt f make s).1 = .ok ([], ⟨0, 0, 0, 0, 0⟩)) ∧
    ∀ fresh : α, page stmt f fresh s = pageWith stmt f (fun m => (fresh, m)) s := by
  have hlisted {found : List α × Metadata} (h : (pageWith stmt f make s).1 = .ok found) :
      AllListed make s.memory rows := by
    rcases allListed_or_firstRefused make s.memory rows with hall | ⟨e, hrefused⟩
    · exact hall
    · rw [pageWith_of_firstRefused f hquery hrefused] at h
      cases h
  have hrefused {e : StoreError} (h : (pageWith stmt f make s).1 = .error e) :
      FirstRefused make s.memory rows e := by
    rcases allListed_or_firstRefused make s.memory rows with hall | ⟨e', hrefused⟩
    · obtain ⟨last, records, hfound, -⟩ := pageWith_of_allListed f hquery hall
      rw [hfound] at h
      cases h
    · rw [pageWith_of_firstRefused f hquery hrefused] at h
      cases h
      exact hrefused
  refine ⟨⟨fun ⟨found, h⟩ => hlisted h, fun h => ?_⟩, fun records metadata h => ?_,
    fun e => ⟨hrefused, pageWith_of_firstRefused f hquery⟩, ?_, fun fresh =>
    page_eq_pageWith f fresh s⟩
  · obtain ⟨last, records, hfound, -⟩ := pageWith_of_allListed f hquery h
    exact ⟨_, hfound⟩
  · obtain ⟨last, records', hfound, hrecords⟩ := pageWith_of_allListed f hquery (hlisted h)
    rw [hfound] at h
    cases h
    exact ⟨last, hrecords, rfl, Metadata.summarizes_ofTotal last f.page f.pageSize⟩
  · rintro rfl
    rw [pageWith_apply f make hquery]
    rfl

end Action

namespace Bookshelf

/-- A new reader, and how many have been made. -/
def newReader (count : Nat) : User × Nat := ({}, count + 1)

theorem readers_paged :
    (∃ found, (Action.pageWith (readersStatement {}) {} newReader
        ⟨ReaderTable.mk (readers.map (readerRow 3)), 0, []⟩).1 = .ok found) ∧
      (Action.pageWith (readersStatement {}) {} newReader
        ⟨ReaderTable.mk [readerRow 2 ⟨1, "Ada", "ada@example.org"⟩, .ofValues [.null .bigInt]],
          0, []⟩).1 = .error (.ofExtraction .nullValue) := by
  have hread (m : Nat) (u : User) (rows : List Row) (h : AllListed newReader (newReader m).2 rows) :
      AllListed newReader m (readerRow 3 u :: rows) :=
    allListed_cons.mpr ⟨⟨3, u, listed_readerRow 3 u⟩, h⟩
  have hall : AllListed newReader 0 (readers.map (readerRow 3)) :=
    hread _ _ _ (hread _ _ _ (hread _ _ _ (allListed_nil _)))
  refine ⟨(Action.page_all_or_nothing _ _ rfl).1.mpr hall,
    ((Action.page_all_or_nothing _ _ rfl).2.2.1 _).mpr ⟨1, by decide, .count rfl rfl, ?_⟩⟩
  exact allListed_cons.mpr ⟨⟨2, _, listed_readerRow 2 _⟩, allListed_nil _⟩

end Bookshelf

end RowMap
