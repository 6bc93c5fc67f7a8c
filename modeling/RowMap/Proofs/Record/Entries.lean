import RowMap.Record.Convert

/-!
# The fields of a record as a list

A record is a tree by its shape. Listed field by field, a lookup is the search for the first entry
of some sort.
-/

namespace RowMap

inductive Field
  | scalar (info : FieldInfo) (type : FieldType)
  | optional (info : FieldInfo) (type : FieldType)
  | record (info : FieldInfo) (typeName table : String) (inner : Fields)
  | reference (info : FieldInfo) (typeName table : String) (inner : Fields)
deriving DecidableEq

namespace Field

def info : Field → FieldInfo
  | .scalar info _ | .optional info _ | .record info .. | .reference info .. => info

/-- What the field can hold. -/
def Content : Field → Type
  | .scalar _ t => t.Carrier
  | .optional _ t => Option t.Carrier
  | .record _ _ _ inner => Tree inner
  | .reference _ _ _ inner => Option (Tree inner)

def description : Field → FieldMeta
  | .scalar info type => ⟨info, type.name, .scalar, type.isStorable⟩
  | .optional info type => ⟨info, optionalText type.name, .optionalScalar, type.isStorable⟩
  | .record info typeName _ _ => ⟨info, typeName, .record, true⟩
  | .reference info typeName _ _ => ⟨info, optionalText typeName, .optionalRecord, true⟩

@[simp] theorem description_name (f : Field) : f.description.name = f.info.name := by
  cases f <;> rfl

@[simp] theorem description_resolve (f : Field) (tag : String) :
    f.description.resolve tag = f.info.resolve tag := by
  cases f <;> rfl

end Field

def Fields.all : Fields → List Field
  | .nil => []
  | .scalar info type rest => .scalar info type :: rest.all
  | .optional info type rest => .optional info type :: rest.all
  | .record info typeName table inner rest => .record info typeName table inner :: rest.all
  | .reference info typeName table inner rest => .reference info typeName table inner :: rest.all

namespace Tree

/-- A field with what it holds. -/
structure Entry where
  field : Field
  content : field.Content

namespace Entry

def view : Entry → View
  | ⟨.scalar _ t, x⟩ => .scalar t x
  | ⟨.optional _ t, some x⟩ => .scalar t x
  | ⟨.optional _ _, none⟩ => .absent
  | ⟨.record _ name table inner, r⟩ => .record ⟨name, table, inner⟩ r
  | ⟨.reference _ name table inner, some r⟩ => .record ⟨name, table, inner⟩ r
  | ⟨.reference _ _ _ _, none⟩ => .absent

def source (e : Entry) : Conversion.Source := ⟨e.field.description, e.view⟩

/-- The field is declared under a name. -/
def DeclaredAs (name : String) (e : Entry) : Prop := e.field.info.name = name

/-- The field goes by a name under a tag. -/
def GoesBy (tag name : String) (e : Entry) : Prop := e.field.info.resolve tag = name

instance (name : String) : DecidablePred (DeclaredAs name) :=
  fun e => inferInstanceAs (Decidable (e.field.info.name = name))

instance (tag name : String) : DecidablePred (GoesBy tag name) :=
  fun e => inferInstanceAs (Decidable (e.field.info.resolve tag = name))

end Entry

def entries : (fs : Fields) → Tree fs → List Entry
  | .nil, _ => []
  | .scalar info t rest, (x, more) => ⟨.scalar info t, x⟩ :: entries rest more
  | .optional info t rest, (x, more) => ⟨.optional info t, x⟩ :: entries rest more
  | .record info name table inner rest, (r, more) =>
    ⟨.record info name table inner, r⟩ :: entries rest more
  | .reference info name table inner rest, (r, more) =>
    ⟨.reference info name table inner, r⟩ :: entries rest more

theorem map_field_entries (fs : Fields) (r : Tree fs) :
    (entries fs r).map Entry.field = fs.all := by
  induction fs with
  | nil => rfl
  | scalar info t rest ih | optional info t rest ih => exact congrArg _ (ih r.2)
  | record info name table inner rest _ ih | reference info name table inner rest _ ih =>
    exact congrArg _ (ih r.2)

theorem map_description_entries (fs : Fields) (r : Tree fs) :
    (entries fs r).map (·.field.description) = fs.metas := by
  induction fs with
  | nil => rfl
  | scalar info t rest ih | optional info t rest ih => exact congrArg _ (ih r.2)
  | record info name table inner rest _ ih | reference info name table inner rest _ ih =>
    exact congrArg _ (ih r.2)

theorem view?_eq (fs : Fields) (r : Tree fs) (i : Nat) :
    view? fs r i = (entries fs r)[i]?.map Entry.view := by
  induction fs generalizing i with
  | nil => rfl
  | scalar info t rest ih | record info _ _ _ rest _ ih =>
    obtain ⟨x, more⟩ := r
    cases i with
    | zero => rfl
    | succ i => exact ih more i
  | optional info t rest ih | reference info _ _ _ rest _ ih =>
    obtain ⟨x, more⟩ := r
    cases i with
    | zero => cases x <;> rfl
    | succ i => cases x <;> exact ih more i

end Tree

namespace Conversion

open RowMap.Tree (Entry)

/-- A field is looked for among the declared names first, and then under the tag. -/
theorem find?_eq (tag : String) {s : Shape} (r : Record s) (name : String) :
    find? tag s r name = ((Tree.entries s.fields r).find? (Entry.DeclaredAs name ·) <|>
      (Tree.entries s.fields r).find? (Entry.GoesBy tag name ·)).map Entry.source := by
  have hmetas : s.metas = (Tree.entries s.fields r).map (·.field.description) :=
    (Tree.map_description_entries s.fields r).symm
  have hindex : s.index? name =
      (Tree.entries s.fields r).findIdx? (Entry.DeclaredAs name ·) := by
    rw [Shape.index?, hmetas, List.findIdx?_map]
    simp only [Function.comp_def, Field.description_name]
    rfl
  have hsource : s.source? tag name =
      (Tree.entries s.fields r).findIdx? (Entry.GoesBy tag name ·) := by
    rw [Shape.source?, hmetas, List.findIdx?_map]
    simp only [Function.comp_def, Field.description_resolve]
    rfl
  have hentry (i : Nat) : (do return ⟨← s.metas[i]?, ← r.view? i⟩ : Option Source) =
      (Tree.entries s.fields r)[i]?.map Entry.source := by
    have hview : r.view? i = (Tree.entries s.fields r)[i]?.map Entry.view :=
      Tree.view?_eq s.fields r i
    rw [hview, hmetas, List.getElem?_map]
    cases (Tree.entries s.fields r)[i]? <;> rfl
  rw [List.find?_eq_bind_findIdx?_getElem?, List.find?_eq_bind_findIdx?_getElem?, ← hindex,
    ← hsource, find?]
  simp only [hentry]
  cases hfound : s.index? name with
  | none => cases s.source? tag name <;> rfl
  | some i =>
    rw [hindex, List.findIdx?_eq_some_iff_getElem] at hfound
    obtain ⟨hi, -⟩ := hfound
    show (Tree.entries s.fields r)[i]?.map Entry.source =
      ((Tree.entries s.fields r)[i]? <|> _).map Entry.source
    rw [List.getElem?_eq_getElem hi]
    rfl

end Conversion

end RowMap
