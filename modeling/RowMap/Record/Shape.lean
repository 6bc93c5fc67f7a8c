import RowMap.Value.Scalar

/-!
# Shapes of records

A shape is what is known of a record type before any record: its name, its table and its fields.
A field holds a scalar or another record, and may be optional. It carries tags, which name it for
the outside: the tag `db` names its column.
-/

namespace RowMap

/-- What a field is called, and what it is for. -/
structure FieldInfo where
  name : String
  primaryKey : Bool := false
  /-- The store assigns the field. -/
  generated : Bool := false
  /-- Outside names by key, in the order they were written. -/
  tags : List (String × String) := []
deriving DecidableEq

/-- The types of fields that are not records. Lists of texts are kept in memory only. -/
inductive FieldType
  | scalar (t : ScalarType)
  | texts
deriving DecidableEq

namespace FieldType

def Carrier : FieldType → Type
  | .scalar t => t.Carrier
  | .texts => List String

def name : FieldType → String
  | .scalar t => t.name
  | .texts => "Vec<String>"

def initial : (t : FieldType) → t.Carrier
  | .scalar t => t.initial
  | .texts => ([] : List String)

/-- A column can hold the type. -/
def isStorable : FieldType → Bool
  | .scalar _ => true
  | .texts => false

end FieldType

/-- The fields of a record in the order of their declaration. -/
inductive Fields
  | nil
  | scalar (info : FieldInfo) (type : FieldType) (rest : Fields)
  | optional (info : FieldInfo) (type : FieldType) (rest : Fields)
  /-- A record inside the record. -/
  | record (info : FieldInfo) (typeName table : String) (inner rest : Fields)
  /-- A record that may be absent. -/
  | reference (info : FieldInfo) (typeName table : String) (inner rest : Fields)
deriving DecidableEq

structure Shape where
  typeName : String
  table : String
  fields : Fields
deriving DecidableEq

/-! ## Descriptions of fields -/

inductive FieldKind
  | scalar | optionalScalar | record | optionalRecord
deriving DecidableEq

namespace FieldKind

def name : FieldKind → String
  | .scalar => "Scalar"
  | .optionalScalar => "OptionalScalar"
  | .record => "Record"
  | .optionalRecord => "OptionalRecord"

def isRecord : FieldKind → Bool
  | .record | .optionalRecord => true
  | _ => false

def isOptional : FieldKind → Bool
  | .optionalScalar | .optionalRecord => true
  | _ => false

end FieldKind

structure FieldMeta extends FieldInfo where
  typeText : String
  kind : FieldKind
  /-- A column can hold the field's type. -/
  storable : Bool := true
deriving DecidableEq

/-- The text of an optional type. -/
def optionalText (inner : String) : String := "Option<" ++ inner ++ ">"

def Fields.metas : Fields → List FieldMeta
  | .nil => []
  | .scalar info type rest => ⟨info, type.name, .scalar, type.isStorable⟩ :: rest.metas
  | .optional info type rest =>
    ⟨info, optionalText type.name, .optionalScalar, type.isStorable⟩ :: rest.metas
  | .record info typeName _ _ rest => ⟨info, typeName, .record, true⟩ :: rest.metas
  | .reference info typeName _ _ rest =>
    ⟨info, optionalText typeName, .optionalRecord, true⟩ :: rest.metas

def Shape.metas (s : Shape) : List FieldMeta := s.fields.metas

end RowMap
