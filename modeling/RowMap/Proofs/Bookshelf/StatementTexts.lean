import RowMap.Proofs.Bookshelf.FailedWrites
import RowMap.Proofs.Session.Sending
import RowMap.Proofs.Statement.Blanks

/-!
# The texts of the bookshelf's statements

Whatever is stored and asked for, an operation on books or plans has one text. Of a listing the sort
value decides as well, and nothing else.
-/

namespace RowMap.Bookshelf

/-- What is done to the store. A listing is sorted by a sort value. -/
inductive Operation
  | listBooks (sort : String)
  | bookById
  | insertBook
  | updateBook
  | deleteBook
  | listPlans (sort : String)
  | planById
  | insertPlan
  | updatePlan
  | deletePlan

/-! ## Texts -/

/-- The column that a sort value names. -/
def sortedColumn (sort : String) : String := String.ofList (sort.toList.dropWhile (· = '-'))

def sortedDirection (sort : String) : SortDirection := Filters.sortDirection { sort }

/-- A listing in the order of a sort value. -/
def sortedBy (listTemplate : String → SortDirection → String) (sort : String) : String :=
  listTemplate (sortedColumn sort) (sortedDirection sort)

/-- The text of an operation's statement. Builders put the statements about plans together, each of
them with some values. -/
def Operation.text : Operation → String
  | listBooks sort => Template.numbered (sortedBy Books.listTemplate sort)
  | bookById => Template.numbered Books.byIdTemplate
  | insertBook => Template.numbered Books.insertTemplate
  | updateBook => Template.numbered Books.updateTemplate
  | deleteBook => Template.numbered Books.deleteTemplate
  | listPlans sort => Template.numbered (sortedBy Plans.listTemplate sort)
  | planById => (Plans.byIdStatement 0 0).sql
  | insertPlan => (planInsertion {}).sql
  | updatePlan => (planUpdate 0 {}).sql
  | deletePlan => (Plans.deleteStatement 0 0).sql

theorem sortColumn_ok {f : Filters} {column : String} (h : f.sortColumn = .ok column) :
    f.sort ∈ f.safelist ∧ column = sortedColumn f.sort := by
  unfold Filters.sortColumn at h
  split at h
  · next hsafe =>
    cases h
    exact ⟨List.contains_iff_mem.mp hsafe, rfl⟩
  · cases h

theorem bind_ok {α β : Type} {x : Except StoreError α} {f : α → Except StoreError β} {y : β}
    (h : x >>= f = .ok y) : ∃ a, x = .ok a ∧ f a = .ok y := by
  cases x with
  | error e => cases h
  | ok a => exact ⟨a, rfl, h⟩

theorem books_listStatement_ok {title author : String} {userId : Int64} {f : Filters}
    {stmt : Statement} (h : Books.listStatement title author userId f = .ok stmt) :
    f.sort ∈ f.safelist ∧ stmt.sql = (Operation.listBooks f.sort).text := by
  obtain ⟨column, hcolumn, hstmt⟩ := bind_ok h
  obtain ⟨hsafe, rfl⟩ := sortColumn_ok hcolumn
  exact ⟨hsafe, Template.sql_of_statement hstmt⟩

theorem plans_listStatement_ok {c : PlanCriteria} {f : Filters} {stmt : Statement}
    (h : Plans.listStatement c f = .ok stmt) :
    f.sort ∈ f.safelist ∧ stmt.sql = (Operation.listPlans f.sort).text := by
  obtain ⟨column, hcolumn, h⟩ := bind_ok h
  obtain ⟨targetDate, -, hstmt⟩ := bind_ok h
  obtain ⟨hsafe, rfl⟩ := sortColumn_ok hcolumn
  exact ⟨hsafe, Template.sql_of_statement hstmt⟩

theorem plan_keysHaveColumns : (Mapped.shape ReadingPlan).fields.KeysHaveColumns := by decide

/-! ## Built statements

A statement about plans is a construction, and its values come with a record and with the calls. -/

def builtInsertion (p : ReadingPlan) : Construction :=
  .insert (Mapped.toRecord p)
    [.value "created_by" (int64 (Plans.ownerId p)), .returning Inserted.columns]

def builtUpdate (userId : Int64) (p : ReadingPlan) : Construction :=
  .updateOf (Mapped.toRecord p)
    [.set "updated_by" (int64 userId), .setRaw "version = version + 1",
      .setRaw "updated_at = now()", .filter ⟨"id = ?", [int64 p.id]⟩,
      .filter ((Column.bare "version").compare .eq (ScalarType.int32.bind p.version)),
      .filter ⟨"deleted = false", []⟩, .filter (Ownership.mk "user_id" (int64 userId)).condition,
      .returning ["version"]]

def builtById (id userId : Int64) : Construction :=
  .select (Mapped.shape ReadingPlan).table
    [.named "r", .columnsOf (Mapped.shape ReadingPlan), .aliasedColumnsOf (Mapped.shape Book) "b",
      .aliasedColumnsOf (Mapped.shape User) "u", .join "LEFT JOIN books b ON b.id = r.book_id",
      .join "LEFT JOIN users u ON u.id = r.user_id",
      .filter ((Column.mk "r" "id").compare .eq (int64 id)),
      .filter ((Column.mk "r" "user_id").compare .eq (int64 userId)),
      .filter ⟨"r.deleted = false", []⟩]

def builtDeletion (id userId : Int64) : Construction :=
  .update (Mapped.shape ReadingPlan).table
    [.setRaw "deleted = true", .setRaw "updated_at = now()", .set "updated_by" (int64 userId),
      .filter ((Column.bare "id").compare .eq (int64 id)),
      .filter ((Column.bare "user_id").compare .eq (int64 userId)), .filter ⟨"deleted = false", []⟩]

theorem alike_insertion (p q : ReadingPlan) : (builtInsertion p).Alike (builtInsertion q) :=
  .insert plan_keysHaveColumns _ _ rfl

theorem alike_update (userId userId' : Int64) (p q : ReadingPlan) :
    (builtUpdate userId p).Alike (builtUpdate userId' q) :=
  .updateOf plan_keysHaveColumns _ _ rfl

theorem alike_byId (id userId id' userId' : Int64) :
    (builtById id userId).Alike (builtById id' userId') := .select _ rfl

theorem alike_deletion (id userId id' userId' : Int64) :
    (builtDeletion id userId).Alike (builtDeletion id' userId') := .update _ rfl

theorem planInsertion_text (p : ReadingPlan) : (planInsertion p).sql = Operation.insertPlan.text :=
  (alike_insertion p {}).sql_eq

theorem planUpdate_text (userId : Int64) (p : ReadingPlan) :
    (planUpdate userId p).sql = Operation.updatePlan.text :=
  (alike_update userId 0 p {}).sql_eq

theorem plans_byIdStatement_text (id userId : Int64) :
    (Plans.byIdStatement id userId).sql = Operation.planById.text :=
  (alike_byId id userId 0 0).sql_eq

theorem plans_deleteStatement_text (id userId : Int64) :
    (Plans.deleteStatement id userId).sql = Operation.deletePlan.text :=
  (alike_deletion id userId 0 0).sql_eq

/-! ## Actions -/

section
variable {σ : Type} [Server σ]

/-- Which actions of the repositories are an operation. -/
inductive Performs (w : Writer) : Operation → {μ α : Type} → Action (Recorder σ) μ α → Prop
  | listBooks {μ : Type} (title author : String) (userId : Int64) (f : Filters) :
      Performs w (.listBooks f.sort)
        (Books.getAll title author userId f : Action (Recorder σ) μ _)
  | bookById {μ : Type} (id userId : Int64) :
      Performs w .bookById (Books.getById id userId : Action (Recorder σ) μ _)
  | insertBook : Performs w .insertBook (Books.insert w)
  | updateBook (userId : Int64) : Performs w .updateBook (Books.update w userId)
  | deleteBook {μ : Type} (id userId : Int64) :
      Performs w .deleteBook (Books.delete w id userId : Action (Recorder σ) μ _)
  | listPlans {μ : Type} (c : PlanCriteria) (f : Filters) :
      Performs w (.listPlans f.sort) (Plans.getAll c f : Action (Recorder σ) μ _)
  | planById {μ : Type} (id userId : Int64) :
      Performs w .planById (Plans.getById id userId : Action (Recorder σ) μ _)
  | insertPlan : Performs w .insertPlan (Plans.insert w)
  | updatePlan (userId : Int64) : Performs w .updatePlan (Plans.update w userId)
  | deletePlan {μ : Type} (id userId : Int64) :
      Performs w .deletePlan (Plans.delete w id userId : Action (Recorder σ) μ _)

/-- What an operation may send: the time limit, and statements of its text. -/
def Operation.Permits (op : Operation) (w : Writer) (stmt : Statement) : Prop :=
  stmt = w.limit ∨ stmt.sql = op.text

open RowMap.Action

variable (w : Writer) (userId : Int64)

theorem books_insert_sendsOnly :
    (Books.insert w : Action (Recorder σ) Book Unit).SendsOnly
      (Operation.insertBook.Permits w) := by
  refine (sendsOnly_of_silent fun _ => rfl).bind fun b => sendsOnly_lift fun stmt hstmt => ?_
  refine (Writer.sendsOnly_insert (.inl rfl) (.inr (Template.sql_of_statement hstmt))).bind
    fun inserted => (sendsOnly_of_silent fun _ => rfl).bind fun b => ?_
  split <;> exact sendsOnly_of_silent fun _ => rfl

theorem books_update_sendsOnly :
    (Books.update w userId : Action (Recorder σ) Book Unit).SendsOnly
      (Operation.updateBook.Permits w) := by
  refine (sendsOnly_of_silent fun _ => rfl).bind fun b => sendsOnly_lift fun stmt hstmt => ?_
  exact (Writer.sendsOnly_update (.inl rfl) (.inr (Template.sql_of_statement hstmt))).bind
    fun version => sendsOnly_of_silent fun _ => rfl

theorem plans_insert_sendsOnly :
    (Plans.insert w : Action (Recorder σ) ReadingPlan Unit).SendsOnly
      (Operation.insertPlan.Permits w) := by
  refine (sendsOnly_of_silent fun _ => rfl).bind fun p => ?_
  refine (Writer.sendsOnly_insert (.inl rfl) (.inr (planInsertion_text p))).bind fun inserted =>
    (sendsOnly_of_silent fun _ => rfl).bind fun p => ?_
  split <;> exact sendsOnly_of_silent fun _ => rfl

theorem plans_update_sendsOnly :
    (Plans.update w userId : Action (Recorder σ) ReadingPlan Unit).SendsOnly
      (Operation.updatePlan.Permits w) := by
  intro s
  -- The statement is about the plan that was just given to the user.
  let given := Plans.owned s.memory userId
  have hgiven : (Plans.update w userId : Action (Recorder σ) ReadingPlan Unit) s =
      (w.update (planUpdate userId given) >>= fun version =>
        setMemory (Versioned.setVersion version given) : Action (Recorder σ) ReadingPlan Unit)
        { s with memory := given } := rfl
  have hupdate : (w.update (planUpdate userId given) :
      Action (Recorder σ) ReadingPlan Int32).SendsOnly (Operation.updatePlan.Permits w) :=
    Writer.sendsOnly_update (.inl rfl) (.inr (planUpdate_text userId given))
  rw [hgiven]
  exact hupdate.bind (fun version => sendsOnly_of_silent fun _ => rfl) { s with memory := given }

theorem sends_of_performs {w : Writer} {op : Operation} {μ α : Type} {a : Action (Recorder σ) μ α}
    (h : Performs w op a) : a.SendsOnly (op.Permits w) := by
  cases h with
  | listBooks title author userId f =>
    exact sendsOnly_lift fun stmt hstmt =>
      sendsOnly_page (.inr (books_listStatement_ok hstmt).2) f Books.fresh
  | bookById id userId =>
    exact sendsOnly_lift fun stmt hstmt =>
      sendsOnly_find (.inr (Template.sql_of_statement hstmt)) Books.fresh
  | insertBook => exact books_insert_sendsOnly w
  | updateBook userId => exact books_update_sendsOnly w userId
  | deleteBook id userId =>
    exact sendsOnly_lift fun stmt hstmt =>
      Writer.sendsOnly_softDelete (.inl rfl) (.inr (Template.sql_of_statement hstmt))
  | listPlans c f =>
    exact sendsOnly_lift fun stmt hstmt =>
      sendsOnly_page (.inr (plans_listStatement_ok hstmt).2) f Plans.fresh
  | planById id userId =>
    exact sendsOnly_find (.inr (plans_byIdStatement_text id userId)) Plans.fresh
  | insertPlan => exact plans_insert_sendsOnly w
  | updatePlan userId => exact plans_update_sendsOnly w userId
  | deletePlan id userId =>
    exact Writer.sendsOnly_softDelete (.inl rfl) (.inr (plans_deleteStatement_text id userId))

/-- A listing by a sort value that is not known to be safe sends nothing. -/
theorem unlisted_sorts_send_nothing {μ : Type} {f : Filters} (h : f.sort ∉ f.safelist) :
    (∀ title author userId, (Books.getAll title author userId f :
      Action (Recorder σ) μ (List Book × Metadata)).SendsOnly fun _ => False) ∧
    ∀ c, (Plans.getAll c f :
      Action (Recorder σ) μ (List ReadingPlan × Metadata)).SendsOnly fun _ => False :=
  ⟨fun _ _ _ => sendsOnly_lift fun _ hstmt => absurd (books_listStatement_ok hstmt).1 h,
    fun _ => sendsOnly_lift fun _ hstmt => absurd (plans_listStatement_ok hstmt).1 h⟩

end

/-! ## Two runs -/

/-- Two statements that are put together alike have one text, whatever the values are. So the text
of what an operation sends is known before any value is. -/
theorem texts_ignore_values :
    -- A template, and two ways to bind the same names.
    (∀ (template : String) (p q : Parameters), p.SameNames q →
      (∃ stmt stmt', p.statement template = .ok stmt ∧ q.statement template = .ok stmt' ∧
        stmt.sql = stmt'.sql) ∨
      ∃ name, p.statement template = .error (.missingParameter name) ∧
        q.statement template = .error (.missingParameter name)) ∧
    -- Two records of one type.
    (∀ (s : Shape) (r r' : Record s), s.fields.KeysHaveColumns →
      ((Insert.ofRecord r).build.sql = (Insert.ofRecord r').build.sql ∧
        (Insert.ofRecord r).build.values.length = (Insert.ofRecord r').build.values.length) ∧
      (Update.ofRecord r).build.sql = (Update.ofRecord r').build.sql ∧
        (Update.ofRecord r).build.values.length = (Update.ofRecord r').build.values.length) ∧
    -- A builder, called twice with other values.
    (∀ b b' : Construction, b.Alike b' → b.build.sql = b'.build.sql) ∧
    (∀ (c : Column) (k : Comparison) (v w : Value),
      (c.compare k v).blanked = (c.compare k w).blanked) ∧
    -- The repositories.
    (∀ {σ μ α : Type} [Server σ] (w : Writer) (op : Operation) (a : Action (Recorder σ) μ α),
      Performs w op a → a.SendsOnly (op.Permits w)) ∧
    ∀ {σ μ : Type} [Server σ] (f : Filters), f.sort ∉ f.safelist →
      (∀ title author userId, (Books.getAll title author userId f :
        Action (Recorder σ) μ (List Book × Metadata)).SendsOnly fun _ => False) ∧
      ∀ c, (Plans.getAll c f :
        Action (Recorder σ) μ (List ReadingPlan × Metadata)).SendsOnly fun _ => False :=
  ⟨fun template _ _ h => Template.statement_sameNames h template,
    fun _ r r' hkeys => r.statements_congr hkeys r', fun _ _ h => h.sql_eq,
    Column.blanked_compare, fun _ _ _ h => sends_of_performs h,
    fun _ h => unlisted_sorts_send_nothing h⟩

theorem plan_texts_ignore_book :
    (Parameters.ofList [("id", int64 1)]).SameNames (.ofList [("id", int64 2)]) ∧
    ((∃ stmt stmt', (Parameters.ofList [("id", int64 1)]).statement "id = :id" = .ok stmt ∧
        (Parameters.ofList [("id", int64 2)]).statement "id = :id" = .ok stmt' ∧
        stmt.sql = stmt'.sql) ∨
      ∃ name, (Parameters.ofList [("id", int64 1)]).statement "id = :id" =
          .error (.missingParameter name) ∧
        (Parameters.ofList [("id", int64 2)]).statement "id = :id" =
          .error (.missingParameter name)) ∧
    (Mapped.shape ReadingPlan).fields.KeysHaveColumns ∧
    (Insert.ofRecord (Mapped.toRecord summerPlan)).build.sql =
      (Insert.ofRecord (Mapped.toRecord ({} : ReadingPlan))).build.sql ∧
    (builtUpdate 7 summerPlan).Alike (builtUpdate 8 {}) ∧
    (builtUpdate 7 summerPlan).build.sql = (builtUpdate 8 {}).build.sql ∧
    Performs (σ := Script) {} .updatePlan (Plans.update {} 7) ∧
    (Plans.update {} 7 : Action (Recorder Script) ReadingPlan Unit).SendsOnly
      (Operation.updatePlan.Permits {}) ∧
    (Plans.getAll {} { sort := "title" } :
      Action (Recorder Script) Unit (List ReadingPlan × Metadata)).SendsOnly fun _ => False := by
  obtain ⟨htemplate, hrecord, hbuilder, -, hrepository, hunlisted⟩ := texts_ignore_values
  have hnames : (Parameters.ofList [("id", int64 1)]).SameNames (.ofList [("id", int64 2)]) :=
    Parameters.sameNames_ofList rfl
  have halike := alike_update 7 8 summerPlan {}
  have hperforms : Performs (σ := Script) {} .updatePlan (Plans.update {} 7) := .updatePlan 7
  have hplans := hrecord _ (Mapped.toRecord summerPlan) (Mapped.toRecord ({} : ReadingPlan))
    plan_keysHaveColumns
  exact ⟨hnames, htemplate "id = :id" _ _ hnames, plan_keysHaveColumns, hplans.1.1, halike,
    hbuilder _ _ halike, hperforms, hrepository _ _ _ hperforms,
    (hunlisted { sort := "title" } (by decide)).2 {}⟩

end RowMap.Bookshelf
