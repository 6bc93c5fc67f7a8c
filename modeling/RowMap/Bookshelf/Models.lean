import RowMap.Record.Mapped
import RowMap.Validation

/-!
# Users, books and reading plans

The records of a bookshelf: a book belongs to a user, a reading plan is about a book.
-/

namespace RowMap.Bookshelf

open RowMap.Calendar (Instant)

/-! ## Labels -/

def statuses : Enumeration where
  name := "ReadingStatus"
  noun := "reading status"
  first := ("PLANNED", 1)
  others := [("READING", 2), ("COMPLETED", 3), ("PAUSED", 4)]
  distinct := by decide

def priorities : Enumeration where
  name := "ReadingPriority"
  noun := "reading priority"
  first := ("LOW", 1)
  others := [("MEDIUM", 2), ("HIGH", 3)]
  distinct := by decide

abbrev ReadingStatus := statuses.Case
abbrev ReadingPriority := priorities.Case

/-! ## Fields -/

/-- A field that is stored in a column. -/
def stored (name column : String) : FieldInfo := { name, tags := [("db", column)] }

/-- A field that is stored in a column and assigned by the store. -/
def assigned (name : String) : FieldInfo := { stored name name with generated := true }

def key (name : String) : FieldInfo := { stored name name with primaryKey := true }

/-! ## Users -/

structure User where
  id : Int64 := 0
  name : String := ""
  email : String := ""
deriving DecidableEq

@[reducible] def User.fields : Fields :=
  .scalar (key "id") (.scalar .int64) <|
  .scalar (stored "name" "name") (.scalar .text) <|
  .scalar (stored "email" "email") (.scalar .text) .nil

def User.toTree (u : User) : Tree User.fields := (u.id, u.name, u.email, ())

def User.ofTree : Tree User.fields → User
  | (id, name, email, ()) => { id, name, email }

instance : Mapped User where
  shape := ⟨"User", "users", User.fields⟩
  toRecord := User.toTree
  ofRecord := User.ofTree

/-- A user of whom only the key is known. -/
def User.withId (id : Int64) : User := { id }

/-! ## Books -/

structure Book where
  id : Int64 := 0
  title : String := ""
  author : String := ""
  pages : Int32 := 0
  description : String := ""
  createdAt : Option Instant := none
  version : Int32 := 0
  user : Option User := none
deriving DecidableEq

@[reducible] def Book.fields : Fields :=
  .scalar (key "id") (.scalar .int64) <|
  .scalar (stored "title" "title") (.scalar .text) <|
  .scalar (stored "author" "author") (.scalar .text) <|
  .scalar (stored "pages" "pages") (.scalar .int32) <|
  .scalar (stored "description" "description") (.scalar .text) <|
  .optional (assigned "created_at") (.scalar .instant) <|
  .scalar (assigned "version") (.scalar .int32) <|
  .reference (stored "user" "user_id") "User" "users" User.fields .nil

def Book.toTree (b : Book) : Tree Book.fields :=
  (b.id, b.title, b.author, b.pages, b.description, b.createdAt, b.version,
    b.user.map User.toTree, ())

def Book.ofTree : Tree Book.fields → Book
  | (id, title, author, pages, description, createdAt, version, user, ()) =>
    { id, title, author, pages, description, createdAt, version, user := user.map User.ofTree }

instance : Versioned Book where
  shape := ⟨"Book", "books", Book.fields⟩
  toRecord := Book.toTree
  ofRecord := Book.ofTree
  version b := b.version
  setVersion v b := { b with version := v }
  setCreatedAt t b := { b with createdAt := some t }

def mustBeProvided : String := "must be provided"

def Book.validate (b : Book) (errors : ValidationErrors) : ValidationErrors :=
  errors
    |>.check (!b.title.isEmpty) "title" mustBeProvided
    |>.check (!b.author.isEmpty) "author" mustBeProvided
    |>.check (b.pages ≠ 0) "pages" mustBeProvided
    |>.check (!b.description.isEmpty) "description" mustBeProvided

/-! ## Reading plans -/

structure ReadingPlan where
  id : Int64 := 0
  status : Option ReadingStatus := none
  startDate : Option Instant := none
  targetDate : Option Instant := none
  priority : Option ReadingPriority := none
  pagesPerDay : Int32 := 0
  minutesPerDay : Int32 := 0
  createdAt : Option Instant := none
  version : Int32 := 0
  book : Option Book := none
  user : Option User := none
deriving DecidableEq

@[reducible] def ReadingPlan.fields : Fields :=
  .scalar (key "id") (.scalar .int64) <|
  .optional (stored "status" "status") (.scalar (.coded statuses)) <|
  .optional (stored "start_date" "start_date") (.scalar .instant) <|
  .optional (stored "target_date" "target_date") (.scalar .instant) <|
  .optional (stored "priority" "priority") (.scalar (.coded priorities)) <|
  .scalar (stored "pages_per_day" "pages_per_day") (.scalar .int32) <|
  .scalar (stored "minutes_per_day" "minutes_per_day") (.scalar .int32) <|
  .optional (assigned "created_at") (.scalar .instant) <|
  .scalar (assigned "version") (.scalar .int32) <|
  .reference (stored "book" "book_id") "Book" "books" Book.fields <|
  .reference (stored "user" "user_id") "User" "users" User.fields .nil

def ReadingPlan.toTree (p : ReadingPlan) : Tree ReadingPlan.fields :=
  (p.id, p.status, p.startDate, p.targetDate, p.priority, p.pagesPerDay, p.minutesPerDay,
    p.createdAt, p.version, p.book.map Book.toTree, p.user.map User.toTree, ())

def ReadingPlan.ofTree : Tree ReadingPlan.fields → ReadingPlan
  | (id, status, startDate, targetDate, priority, pagesPerDay, minutesPerDay, createdAt, version,
      book, user, ()) =>
    { id, status, startDate, targetDate, priority, pagesPerDay, minutesPerDay, createdAt, version
      book := book.map Book.ofTree
      user := user.map User.ofTree }

instance : Versioned ReadingPlan where
  shape := ⟨"ReadingPlan", "reading_plans", ReadingPlan.fields⟩
  toRecord := ReadingPlan.toTree
  ofRecord := ReadingPlan.ofTree
  version p := p.version
  setVersion v p := { p with version := v }
  setCreatedAt t p := { p with createdAt := some t }

/-- The target date is after the start date where both are given. -/
def ReadingPlan.datesOrdered (p : ReadingPlan) : Bool :=
  match p.startDate, p.targetDate with
  | some start, some target => start.before target
  | _, _ => true

def ReadingPlan.validate (p : ReadingPlan) (errors : ValidationErrors) : ValidationErrors :=
  errors
    |>.check p.status.isSome "status" mustBeProvided
    |>.check p.priority.isSome "priority" mustBeProvided
    |>.check (p.book.any fun b => b.id ≠ 0) "book" mustBeProvided
    |>.check (p.user.any fun u => u.id ≠ 0) "user" mustBeProvided
    |>.check (p.pagesPerDay ≠ 0 || p.minutesPerDay ≠ 0) "plan"
        "either pagesPerDay or minutesPerDay must be provided"
    |>.check p.datesOrdered "target_date" "must be after startDate"

/-! ## Labels as texts -/

/-- The label of a text, or the complaint about it. -/
def parseLabel (e : Enumeration) (text : String) : Except String e.Case :=
  match e.ofLabel? text with
  | some k => .ok k
  | none => .error ("unknown " ++ e.noun ++ ": " ++ text)

end RowMap.Bookshelf
