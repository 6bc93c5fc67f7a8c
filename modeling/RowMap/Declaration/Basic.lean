import RowMap.Declaration.Attribute
import RowMap.Declaration.TypeExpr
import RowMap.Record.Meta
import RowMap.Text.Lowercase

/-!
# Declarations of records

A record type is declared as a structure with named fields, whose attributes give the table, the
tags of the fields and what they are for. A declaration is described, or refused with the first
thing that is wrong with it.
-/

namespace RowMap

inductive Declaration.Form
  /-- A structure with named fields. -/
  | named
  | tuple
  | unit
  | choice
  | overlay
deriving DecidableEq

structure Declaration.Field where
  name : String
  type : TypeExpr
  attributes : List Declaration.Attribute

/-- A declaration as it is written. -/
structure Declaration where
  name : String
  isGeneric : Bool
  form : Declaration.Form
  attributes : List Declaration.Attribute
  fields : List Declaration.Field

namespace Declaration

inductive Fault
  | genericType
  | notNamedFields
  | unknownSetting
  | notATag
  | duplicateTag (key : String)
  | recordAsKey
  | keyWithoutColumn
  | secondKey
  | syntaxFault (fault : SyntaxFault)
deriving DecidableEq

def Fault.message : Fault → String
  | .genericType => "Record cannot be derived for generic types"
  | .notNamedFields => "Record can only be derived for structs with named fields"
  | .unknownSetting => "unsupported struct-level record attribute, expected `table`"
  | .notATag => "expected a tag name such as `db` or `dto`"
  | .duplicateTag key => "duplicate `" ++ key ++ "` tag"
  | .recordAsKey => "a nested record cannot be the primary key"
  | .keyWithoutColumn => "a primary_key field must carry a `db` column"
  | .secondKey => "only one field may be marked primary_key"
  | .syntaxFault fault => fault.message

/-! ## Tables -/

/-- An item may name the table; a later one counts. -/
def tableStep (_ : Option String) (item : Item) : Except Fault (Option String) :=
  match item.word with
  | some "table" =>
    match item.argument.text? with
    | .ok (table, true) => .ok (some table)
    | .ok (_, false) => .error (.syntaxFault .expectedComma)
    | .error fault => .error (.syntaxFault fault)
  | _ => .error .unknownSetting

/-- The table that attributes name. -/
def table? (attributes : List Attribute) : Except Fault (Option String) :=
  Attribute.foldItems .syntaxFault tableStep none attributes

/-- The name of a type in lower case, in the plural. -/
def usualTable (name : String) : String := Text.lower name ++ "s"

/-! ## Fields -/

/-- What attributes say of a field. -/
structure Marks where
  tags : List (String × String) := []
  primaryKey : Bool := false
  /-- The field holds a record. -/
  nested : Bool := false
  generated : Bool := false
deriving DecidableEq

/-- A flag takes no argument. -/
def flagged (item : Item) (marks : Marks) : Except Fault Marks :=
  match item.argument with
  | .absent => .ok marks
  | _ => .error (.syntaxFault .expectedComma)

/-- A tag takes a text, once on a field. -/
def tagged (item : Item) (key : String) (marks : Marks) : Except Fault Marks :=
  match item.argument.text? with
  | .error fault => .error (.syntaxFault fault)
  | .ok (value, closed) =>
    if (marks.tags.lookup key).isSome then .error (.duplicateTag key)
    else if closed then .ok { marks with tags := marks.tags ++ [(key, value)] }
    else .error (.syntaxFault .expectedComma)

def markStep (marks : Marks) (item : Item) : Except Fault Marks :=
  match item.word with
  | some "primary_key" => flagged item { marks with primaryKey := true }
  | some "nested" => flagged item { marks with nested := true }
  | some "generated" => flagged item { marks with generated := true }
  | some key => tagged item key marks
  | none => .error .notATag

def marks (attributes : List Attribute) : Except Fault Marks :=
  Attribute.foldItems .syntaxFault markStep {} attributes

/-- The kind of a field: what attributes say it holds, and whether its type is optional. -/
def kindOf (nested : Bool) (type : TypeExpr) : FieldKind :=
  match nested, type.optional? with
  | true, some _ => .optionalRecord
  | true, none => .record
  | false, some _ => .optionalScalar
  | false, none => .scalar

def Field.meta (f : Field) (m : Marks) : FieldMeta where
  name := f.name
  primaryKey := m.primaryKey
  generated := m.generated
  tags := m.tags
  typeText := f.type.text
  kind := kindOf m.nested f.type

/-- The description of a field. A primary key is no record and has a column. -/
def Field.describe (f : Field) : Except Fault FieldMeta := do
  let m ← marks f.attributes
  let described := f.meta m
  if m.primaryKey && m.nested then throw .recordAsKey
  if m.primaryKey && described.column.isNone then throw .keyWithoutColumn
  return described

/-! ## Records -/

/-- What is known of a declared record type. -/
structure Description where
  typeName : String
  table : String
  fields : List FieldMeta

/-- The places of the fields that have a column. -/
def Description.columnPlaces (d : Description) : List Nat :=
  d.fields.zipIdx.filterMap fun (f, i) => if f.column.isSome then some i else none

def Description.hasKey (d : Description) : Bool := d.fields.any fun f => f.primaryKey

/-- The description of a declared record type. -/
def describe (d : Declaration) : Except Fault Description := do
  if d.isGeneric then throw .genericType
  if d.form ≠ .named then throw .notNamedFields
  let table ← table? d.attributes
  let fields ← d.fields.mapM Field.describe
  if 1 < fields.countP fun f => f.primaryKey then throw .secondKey
  return ⟨d.name, table.getD (usualTable d.name), fields⟩

end Declaration

end RowMap
