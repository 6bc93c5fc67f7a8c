import RowMap.Record.Shape

/-!
# Looking up fields

Fields are found by their declared name, by an outside name under a tag, or by column. Where
several fit, the first one counts.
-/

namespace RowMap

namespace FieldInfo

/-- The outside name under a key, as it is written. -/
def tag? (f : FieldInfo) (key : String) : Option String := f.tags.lookup key

/-- The outside name under a key; a field without one goes by its own name. -/
def resolve (f : FieldInfo) (key : String) : String :=
  match f.tag? key with
  | some name => if name.isEmpty then f.name else name
  | none => f.name

/-- The column that the tag `db` names; an empty name and a dash name none. -/
def column? (f : FieldInfo) : Option String :=
  match f.tag? "db" with
  | some name => if name.isEmpty || name = "-" then none else some name
  | none => none

end FieldInfo

namespace FieldMeta

/-- The column that stores the field. -/
def column (m : FieldMeta) : Option String := if m.storable then m.column? else none

/-- Statements write the column: it is neither the key nor assigned by the store. -/
def isWritable (m : FieldMeta) : Bool := m.column.isSome && !m.primaryKey && !m.generated

end FieldMeta

/-! ## Lookups in a list of fields -/

namespace Shape

/-- The field declared under a name. -/
def index? (s : Shape) (name : String) : Option Nat := s.metas.findIdx? fun m => m.name = name

/-- The field that goes by a name under a tag. -/
def source? (s : Shape) (key name : String) : Option Nat :=
  s.metas.findIdx? fun m => m.resolve key = name

/-- The names of the fields under a tag. -/
def resolvedNames (s : Shape) (key : String) : List String := s.metas.map fun m => m.resolve key

/-- Indices and columns of the fields that have one. -/
def columns (s : Shape) : List (Nat × String) :=
  s.metas.zipIdx.filterMap fun (m, i) => m.column.map fun c => (i, c)

/-- Indices and columns of the fields that statements write. -/
def writableColumns (s : Shape) : List (Nat × String) :=
  s.metas.zipIdx.filterMap fun (m, i) => if m.isWritable then m.column.map fun c => (i, c) else none

def primaryKeyIndex? (s : Shape) : Option Nat := s.metas.findIdx? fun m => m.primaryKey

def primaryKey? (s : Shape) : Option FieldMeta := s.metas.find? fun m => m.primaryKey

/-- The columns of the shape under the name of a table or its alias. -/
def qualifiedColumns (s : Shape) (table : String) : List String :=
  s.columns.map fun (_, c) => table ++ "." ++ c

/-- The qualified columns as a statement lists them. -/
def selectColumns (s : Shape) (table : String) : String := ", ".intercalate (s.qualifiedColumns table)

end Shape

/-- The type of the scalar at an index, also when it is optional. -/
def Fields.typeAt? : Fields → Nat → Option FieldType
  | .nil, _ => none
  | .scalar _ t _, 0 => some t
  | .optional _ t _, 0 => some t
  | .record .., 0 => none
  | .reference .., 0 => none
  | .scalar _ _ rest, i + 1 => rest.typeAt? i
  | .optional _ _ rest, i + 1 => rest.typeAt? i
  | .record _ _ _ _ rest, i + 1 => rest.typeAt? i
  | .reference _ _ _ _ rest, i + 1 => rest.typeAt? i

end RowMap
