import RowMap.Bookshelf.Models
import RowMap.Paging.Query
import RowMap.Statement.Template
import RowMap.Writer

/-!
# Storing books

The statements about books are templates. A book is written under the name of a user, and only its
owner sees or changes it.
-/

namespace RowMap.Bookshelf

variable {σ μ : Type} [Server σ]

/-! ## Templates -/

/-- Lines with a line break before each, indented by a number of blanks; the last line holds the
indentation alone. -/
def template (indent : Nat) (lines : List String) : String :=
  let margin := "\n" ++ "".pushn ' ' indent
  String.join (lines.map fun line => margin ++ line) ++ margin

def int64 (i : Int64) : Value := ScalarType.int64.bind i
def int32 (i : Int32) : Value := ScalarType.int32.bind i
def text (s : String) : Value := ScalarType.text.bind s

namespace Books

/-- The sort values of listings. -/
def safelist : List String :=
  ["id", "title", "author", "pages", "-id", "-title", "-author", "-pages"]

def constraints : ConstraintMap :=
  ConstraintMap.insert {} "unique_title_per_user" "title"
      "book with this title already exists for this user"
    |>.insert "chk_books_pages_positive" "pages" "pages must be a positive number"

/-- The columns of a book and its user. -/
def columns : String :=
  commaList [(Mapped.shape Book).selectColumns "b", (Mapped.shape User).selectColumns "u"]

def listTemplate (sortColumn : String) (direction : SortDirection) : String :=
  template 8 [
    "SELECT",
    "    count(*) OVER(),",
    "    " ++ columns,
    "FROM books b",
    "LEFT JOIN users u ON u.id = b.user_id",
    "WHERE",
    "    (to_tsvector('simple', b.title) @@ plainto_tsquery('simple', :title) OR :title = '')",
    "    AND (to_tsvector('simple', b.author) @@ plainto_tsquery('simple', :author) OR :author = '')",
    "    AND b.deleted = false",
    "    AND b.user_id = :userID",
    "ORDER BY",
    "    b." ++ sortColumn ++ " " ++ direction.keyword ++ ",",
    "    b.id ASC",
    "LIMIT :limit",
    "OFFSET :offset"]

/-- Books of a user whose title and author match; an empty text matches all. -/
def listStatement (title author : String) (userId : Int64) (f : Filters) :
    Except StoreError Statement := do
  let column ← f.sortColumn
  (Parameters.ofList [("title", text title), ("author", text author), ("userID", int64 userId),
    ("limit", int64 f.limit), ("offset", int64 f.offset)]).statement
      (listTemplate column f.sortDirection)

def byIdTemplate : String :=
  template 12 [
    "SELECT " ++ columns,
    "FROM books b",
    "LEFT JOIN users u ON u.id = b.user_id",
    "WHERE b.id = :id AND b.user_id = :userID AND b.deleted = false"]

def byIdStatement (id userId : Int64) : Except StoreError Statement :=
  (Parameters.ofList [("id", int64 id), ("userID", int64 userId)]).statement byIdTemplate

def insertTemplate : String :=
  template 12 [
    "INSERT INTO books (title, author, pages, description, user_id, created_by)",
    "VALUES (:title, :author, :pages, :description, :user_id, :user_id)",
    "RETURNING id, created_at, version"]

/-- The key of a book's user, and 0 when it has none. -/
def ownerId (b : Book) : Int64 := (b.user.map User.id).getD 0

def insertStatement (b : Book) : Except StoreError Statement :=
  (Parameters.ofList [("title", text b.title), ("author", text b.author), ("pages", int32 b.pages),
    ("description", text b.description), ("user_id", int64 (ownerId b))]).statement insertTemplate

def updateTemplate : String :=
  template 12 [
    "UPDATE books SET",
    "    title = :title,",
    "    author = :author,",
    "    pages = :pages,",
    "    description = :description,",
    "    updated_at = now(),",
    "    updated_by = :user_id,",
    "    version = version + 1",
    "WHERE",
    "    id = :id",
    "    AND version = :version",
    "    AND deleted = false",
    "    AND user_id = :user_id",
    "RETURNING version"]

def updateStatement (b : Book) (userId : Int64) : Except StoreError Statement :=
  (Parameters.ofList [("id", int64 b.id), ("title", text b.title), ("author", text b.author),
    ("pages", int32 b.pages), ("description", text b.description), ("user_id", int64 userId),
    ("version", int32 b.version)]).statement updateTemplate

def deleteTemplate : String :=
  template 12 [
    "UPDATE books SET",
    "    deleted = true,",
    "    updated_at = now(),",
    "    updated_by = :user_id",
    "WHERE",
    "    id = :id",
    "    AND user_id = :user_id",
    "    AND deleted = false"]

def deleteStatement (id userId : Int64) : Except StoreError Statement :=
  (Parameters.ofList [("id", int64 id), ("user_id", int64 userId)]).statement deleteTemplate

/-! ## Actions -/

/-- The writer of books knows their constraints. -/
def writer (timeout : Nat) : Writer := { timeout, constraints }

/-- What a row of a book is scanned into. -/
def fresh : Book := { user := some {} }

def getAll (title author : String) (userId : Int64) (f : Filters) :
    Action σ μ (List Book × Metadata) := do
  Action.page (← listStatement title author userId f) f fresh

def getById (id userId : Int64) : Action σ μ Book := do
  Action.find (← byIdStatement id userId) fresh

/-- Inserts the book in memory and keeps what the store has assigned. -/
def insert (w : Writer) : Action σ Book Unit := do
  let inserted ← w.insert (← insertStatement (← Action.getMemory))
  match Writer.applyInserted inserted (← Action.getMemory) with
  | .ok b => Action.setMemory b
  | .error e => throw (.ofExtraction e)

/-- Updates the book in memory and keeps its new version. -/
def update (w : Writer) (userId : Int64) : Action σ Book Unit := do
  let version ← w.update (← updateStatement (← Action.getMemory) userId)
  Action.setMemory { ← Action.getMemory with version }

def delete (w : Writer) (id userId : Int64) : Action σ μ Unit := do
  w.softDelete (← deleteStatement id userId)

end Books

end RowMap.Bookshelf
