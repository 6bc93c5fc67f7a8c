import RowMap.Record.Tree

/-!
# Records and columns

A scalar field is stored in its column as it is. A field that holds a record is stored as that
record's key: its column is a foreign key. `columnValue?` goes from the record to the column and
`scanField` back.
-/

namespace RowMap

namespace FieldType

def bind? : (t : FieldType) → t.Carrier → Option Value
  | .scalar t, x => some (t.bind x)
  | .texts, _ => none

def bindOption? : (t : FieldType) → Option t.Carrier → Option Value
  | .scalar t, x => some (t.bindOption x)
  | .texts, _ => none

/-- The null of a type that a column can hold. -/
def null? : FieldType → Option Value
  | .scalar t => some t.null
  | .texts => none

end FieldType

/-- The column of a field of a type. -/
def FieldType.column (t : FieldType) (info : FieldInfo) : Option String :=
  if t.isStorable then info.column? else none

/-! ## Keys -/

namespace Tree

/-- The value of the primary key, if the fields have one. -/
def keyValue? : (fs : Fields) → Tree fs → Option Value
  | .nil, _ => none
  | .scalar info t rest, (x, more) => if info.primaryKey then t.bind? x else keyValue? rest more
  | .optional info t rest, (x, more) =>
    if info.primaryKey then t.bindOption? x else keyValue? rest more
  | .record info _ _ inner rest, (r, more) =>
    if info.primaryKey then keyValue? inner r else keyValue? rest more
  | .reference info _ _ inner rest, (r, more) =>
    if info.primaryKey then r.bind (keyValue? inner) else keyValue? rest more

/-- The null of the primary key's type, if the fields have one. -/
def nullKey? : Fields → Option Value
  | .nil => none
  | .scalar info t rest => if info.primaryKey then t.null? else nullKey? rest
  | .optional info t rest => if info.primaryKey then t.null? else nullKey? rest
  | .record info _ _ inner rest => if info.primaryKey then nullKey? inner else nullKey? rest
  | .reference info _ _ inner rest => if info.primaryKey then nullKey? inner else nullKey? rest

/-! ## To columns -/

/-- The value of the column at an index. An absent record is the null of its key; a record without
a key has no value. -/
def columnValue? : (fs : Fields) → Tree fs → Nat → Option Value
  | .nil, _, _ => none
  | .scalar info t _, (x, _), 0 => if (t.column info).isSome then t.bind? x else none
  | .optional info t _, (x, _), 0 => if (t.column info).isSome then t.bindOption? x else none
  | .record info _ _ inner _, (r, _), 0 => if info.column?.isSome then keyValue? inner r else none
  | .reference info _ _ inner _, (r, _), 0 =>
    if info.column?.isSome then
      match r with
      | some r => keyValue? inner r
      | none => nullKey? inner
    else none
  | .scalar _ _ rest, (_, more), i + 1 => columnValue? rest more i
  | .optional _ _ rest, (_, more), i + 1 => columnValue? rest more i
  | .record _ _ _ _ rest, (_, more), i + 1 => columnValue? rest more i
  | .reference _ _ _ _ rest, (_, more), i + 1 => columnValue? rest more i

/-! ## From columns -/

def noColumn (typeName : String) (index : Nat) : ExtractionError :=
  .conversion ("field " ++ toString index ++ " of " ++ typeName ++ " has no column")

/-- The datum of a field from the value of its column. -/
def scanScalar (typeName : String) (index : Nat) (info : FieldInfo) (t : FieldType) (v : Value) :
    Except ExtractionError t.Carrier :=
  match t with
  | .texts => .error (noColumn typeName index)
  | .scalar t => if info.column?.isSome then t.extract v else .error (noColumn typeName index)

/-- The datum of an optional field from the value of its column. -/
def scanOptional (typeName : String) (index : Nat) (info : FieldInfo) (t : FieldType) (v : Value) :
    Except ExtractionError (Option t.Carrier) :=
  match t with
  | .texts => .error (noColumn typeName index)
  | .scalar t => if info.column?.isSome then t.extractOption v else .error (noColumn typeName index)

/-- The record with another primary key; without one nothing changes. `index` counts the fields
before these. -/
def scanKey (typeName : String) (index : Nat) (v : Value) :
    (fs : Fields) → Tree fs → Except ExtractionError (Tree fs)
  | .nil, r => .ok r
  | .scalar info t rest, (x, more) =>
    if info.primaryKey then (scanScalar typeName index info t v).map fun y => (y, more)
    else (scanKey typeName (index + 1) v rest more).map fun more => (x, more)
  | .optional info t rest, (x, more) =>
    if info.primaryKey then (scanOptional typeName index info t v).map fun y => (y, more)
    else (scanKey typeName (index + 1) v rest more).map fun more => (x, more)
  | .record info name _ inner rest, (r, more) =>
    if info.primaryKey then
      if info.column?.isSome then (scanKey name 0 v inner r).map fun r => (r, more)
      else .error (noColumn typeName index)
    else (scanKey typeName (index + 1) v rest more).map fun more => (r, more)
  | .reference info name _ inner rest, (r, more) =>
    if info.primaryKey then
      if info.column?.isSome then
        match r with
        | some r => (scanKey name 0 v inner r).map fun r => (some r, more)
        | none => .ok (none, more)
      else .error (noColumn typeName index)
    else (scanKey typeName (index + 1) v rest more).map fun more => (r, more)

/-- The record with a field scanned from the value of its column. `index` counts the fields before
these. An absent record takes no key. -/
def scanField (typeName : String) (index : Nat) (v : Value) :
    (fs : Fields) → Tree fs → Nat → Except ExtractionError (Tree fs)
  | .nil, _, i => .error (noColumn typeName (index + i))
  | .scalar info t _, (_, more), 0 =>
    (scanScalar typeName index info t v).map fun y => (y, more)
  | .optional info t _, (_, more), 0 =>
    (scanOptional typeName index info t v).map fun y => (y, more)
  | .record info name _ inner _, (r, more), 0 =>
    if info.column?.isSome then (scanKey name 0 v inner r).map fun r => (r, more)
    else .error (noColumn typeName index)
  | .reference info name _ inner _, (r, more), 0 =>
    if info.column?.isSome then
      match r with
      | some r => (scanKey name 0 v inner r).map fun r => (some r, more)
      | none => .ok (none, more)
    else .error (noColumn typeName index)
  | .scalar _ _ rest, (x, more), i + 1 =>
    (scanField typeName (index + 1) v rest more i).map fun more => (x, more)
  | .optional _ _ rest, (x, more), i + 1 =>
    (scanField typeName (index + 1) v rest more i).map fun more => (x, more)
  | .record _ _ _ _ rest, (x, more), i + 1 =>
    (scanField typeName (index + 1) v rest more i).map fun more => (x, more)
  | .reference _ _ _ _ rest, (x, more), i + 1 =>
    (scanField typeName (index + 1) v rest more i).map fun more => (x, more)

end Tree

namespace Record

variable {s : Shape}

def keyValue? (r : Record s) : Option Value := Tree.keyValue? s.fields r

def columnValue? (r : Record s) (i : Nat) : Option Value := Tree.columnValue? s.fields r i

def scanField (r : Record s) (i : Nat) (v : Value) : Except ExtractionError (Record s) :=
  Tree.scanField s.typeName 0 v s.fields r i

def scanKey (r : Record s) (v : Value) : Except ExtractionError (Record s) :=
  Tree.scanKey s.typeName 0 v s.fields r

/-- Columns that statements write, with the values of a record. -/
def writableValues (r : Record s) : List (String × Value) :=
  s.writableColumns.filterMap fun (i, c) => (r.columnValue? i).map fun v => (c, v)

end Record

end RowMap
