import RowMap.Bookshelf.Models
import RowMap.Calendar.Text
import RowMap.Json.Parts
import RowMap.Record.Convert

/-!
# Exchanging records as documents

What is sent and received has every field optional and names of its own: the tag `dto` names the
fields that are called otherwise, and documents write all names in camel case. A document may also
be an array of the fields in their order. Fields that are not known are passed over.
-/

namespace RowMap.Bookshelf

open RowMap.Calendar (Instant)
open RowMap.Json (fields? optional? ofOption int64? int32? text? ofInt64 ofInt32)

/-- The tag of the names in exchanged records. -/
def exchangeTag : String := "dto"

/-! ## Labels and instants in documents -/

def instant? : Json → Option Instant
  | .string s => Instant.read? s.toList
  | _ => none

/-- A label, or an object that has the label as its only name. -/
def label? (e : Enumeration) : Json → Option e.Case
  | .string s => e.ofLabel? s
  | .object [(name, .null)] => e.ofLabel? name
  | _ => none

def ofInstant (t : Instant) : Json := .string (String.ofList t.text)
def ofLabel {e : Enumeration} (k : e.Case) : Json := .string k.label

/-! ## Fields -/

/-- A field without a column. -/
def plain (name : String) : FieldInfo := { name }

/-! ## Users -/

structure UserDto where
  id : Option Int64 := none
  displayName : Option String := none
  email : Option String := none
deriving DecidableEq

@[reducible] def UserDto.fields : Fields :=
  .optional (plain "id") (.scalar .int64) <|
  .optional { plain "display_name" with tags := [(exchangeTag, "name")] } (.scalar .text) <|
  .optional (plain "email") (.scalar .text) .nil

def UserDto.toTree (u : UserDto) : Tree UserDto.fields := (u.id, u.displayName, u.email, ())

def UserDto.ofTree : Tree UserDto.fields → UserDto
  | (id, displayName, email, ()) => { id, displayName, email }

instance : Mapped UserDto where
  shape := ⟨"UserDto", "userdtos", UserDto.fields⟩
  toRecord := UserDto.toTree
  ofRecord := UserDto.ofTree

def UserDto.names : List String := ["id", "displayName", "email"]

def UserDto.toJson (u : UserDto) : Json :=
  .ofMembers (names.zip [ofOption ofInt64 u.id, ofOption .string u.displayName,
    ofOption .string u.email])

def UserDto.ofJson? (j : Json) : Option UserDto := do
  match ← fields? names j with
  | [id, displayName, email] =>
    return {
      id := ← optional? int64? id
      displayName := ← optional? text? displayName
      email := ← optional? text? email }
  | _ => none

/-! ## Books -/

structure BookDto where
  id : Option Int64 := none
  title : Option String := none
  author : Option String := none
  pages : Option Int32 := none
  description : Option String := none
  user : Option UserDto := none
deriving DecidableEq

@[reducible] def BookDto.fields : Fields :=
  .optional (plain "id") (.scalar .int64) <|
  .optional (plain "title") (.scalar .text) <|
  .optional (plain "author") (.scalar .text) <|
  .optional (plain "pages") (.scalar .int32) <|
  .optional (plain "description") (.scalar .text) <|
  .reference (plain "user") "UserDto" "userdtos" UserDto.fields .nil

def BookDto.toTree (b : BookDto) : Tree BookDto.fields :=
  (b.id, b.title, b.author, b.pages, b.description, b.user.map UserDto.toTree, ())

def BookDto.ofTree : Tree BookDto.fields → BookDto
  | (id, title, author, pages, description, user, ()) =>
    { id, title, author, pages, description, user := user.map UserDto.ofTree }

instance : Mapped BookDto where
  shape := ⟨"BookDto", "bookdtos", BookDto.fields⟩
  toRecord := BookDto.toTree
  ofRecord := BookDto.ofTree

def BookDto.names : List String := ["id", "title", "author", "pages", "description", "user"]

def BookDto.toJson (b : BookDto) : Json :=
  .ofMembers (names.zip [ofOption ofInt64 b.id, ofOption .string b.title, ofOption .string b.author,
    ofOption ofInt32 b.pages, ofOption .string b.description, ofOption UserDto.toJson b.user])

def BookDto.ofJson? (j : Json) : Option BookDto := do
  match ← fields? names j with
  | [id, title, author, pages, description, user] =>
    return {
      id := ← optional? int64? id
      title := ← optional? text? title
      author := ← optional? text? author
      pages := ← optional? int32? pages
      description := ← optional? text? description
      user := ← optional? UserDto.ofJson? user }
  | _ => none

/-! ## Reading plans -/

structure ReadingPlanDto where
  id : Option Int64 := none
  status : Option ReadingStatus := none
  startDate : Option Instant := none
  targetDate : Option Instant := none
  priority : Option ReadingPriority := none
  pagesPerDay : Option Int32 := none
  minutesPerDay : Option Int32 := none
  book : Option BookDto := none
  user : Option UserDto := none
deriving DecidableEq

@[reducible] def ReadingPlanDto.fields : Fields :=
  .optional (plain "id") (.scalar .int64) <|
  .optional (plain "status") (.scalar (.coded statuses)) <|
  .optional (plain "start_date") (.scalar .instant) <|
  .optional (plain "target_date") (.scalar .instant) <|
  .optional (plain "priority") (.scalar (.coded priorities)) <|
  .optional (plain "pages_per_day") (.scalar .int32) <|
  .optional (plain "minutes_per_day") (.scalar .int32) <|
  .reference (plain "book") "BookDto" "bookdtos" BookDto.fields <|
  .reference (plain "user") "UserDto" "userdtos" UserDto.fields .nil

def ReadingPlanDto.toTree (p : ReadingPlanDto) : Tree ReadingPlanDto.fields :=
  (p.id, p.status, p.startDate, p.targetDate, p.priority, p.pagesPerDay, p.minutesPerDay,
    p.book.map BookDto.toTree, p.user.map UserDto.toTree, ())

def ReadingPlanDto.ofTree : Tree ReadingPlanDto.fields → ReadingPlanDto
  | (id, status, startDate, targetDate, priority, pagesPerDay, minutesPerDay, book, user, ()) =>
    { id, status, startDate, targetDate, priority, pagesPerDay, minutesPerDay
      book := book.map BookDto.ofTree
      user := user.map UserDto.ofTree }

instance : Mapped ReadingPlanDto where
  shape := ⟨"ReadingPlanDto", "readingplandtos", ReadingPlanDto.fields⟩
  toRecord := ReadingPlanDto.toTree
  ofRecord := ReadingPlanDto.ofTree

def ReadingPlanDto.names : List String :=
  ["id", "status", "startDate", "targetDate", "priority", "pagesPerDay", "minutesPerDay", "book",
    "user"]

def ReadingPlanDto.toJson (p : ReadingPlanDto) : Json :=
  .ofMembers (names.zip [ofOption ofInt64 p.id, ofOption ofLabel p.status,
    ofOption ofInstant p.startDate, ofOption ofInstant p.targetDate, ofOption ofLabel p.priority,
    ofOption ofInt32 p.pagesPerDay, ofOption ofInt32 p.minutesPerDay,
    ofOption BookDto.toJson p.book, ofOption UserDto.toJson p.user])

def ReadingPlanDto.ofJson? (j : Json) : Option ReadingPlanDto := do
  match ← fields? names j with
  | [id, status, startDate, targetDate, priority, pagesPerDay, minutesPerDay, book, user] =>
    return {
      id := ← optional? int64? id
      status := ← optional? (label? statuses) status
      startDate := ← optional? instant? startDate
      targetDate := ← optional? instant? targetDate
      priority := ← optional? (label? priorities) priority
      pagesPerDay := ← optional? int32? pagesPerDay
      minutesPerDay := ← optional? int32? minutesPerDay
      book := ← optional? BookDto.ofJson? book
      user := ← optional? UserDto.ofJson? user }
  | _ => none

/-! ## To and from records -/

/-- The value of one type as one of another, and what could not be carried over. -/
def exchanged {α : Type} (β : Type) [Mapped α] [Mapped β] (a : α) : β × Conversion.Report :=
  let converted := (Mapped.toRecord a).convert exchangeTag (Mapped.shape β)
  (Mapped.ofRecord converted.value, converted.report)

end RowMap.Bookshelf
