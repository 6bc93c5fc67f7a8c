import RowMap.Record.Tree

/-!
# Converting between records

Every field of the destination looks for a source field under its outside name: one declared under
that name, or else one that goes by it. An absent source leaves the destination as it is. A datum
is assigned when the types agree, a record is converted into the record, which starts as its type
does when it is absent. What cannot be done is reported, with the path of the destination field.
-/

namespace RowMap

variable [Defaults]

namespace Conversion

inductive Cause
  | unmatched
  | typeMismatch (source destination : String)
  | shapeMismatch (source destination : FieldKind)
deriving DecidableEq

/-- What was not converted, and why. -/
structure Issue where
  /-- Declared names from the destination record down, with dots between them. -/
  path : String
  cause : Cause
deriving DecidableEq

def Issue.message (i : Issue) : String :=
  i.path ++ match i.cause with
    | .unmatched => ": no source field"
    | .typeMismatch source destination => ": cannot assign " ++ source ++ " to " ++ destination
    | .shapeMismatch source destination =>
      ": cannot convert " ++ source.name ++ " field into " ++ destination.name ++ " field"

abbrev Report := List Issue

/-- Issues about fields that have a source. -/
def Report.mismatches (r : Report) : List Issue := r.filter fun i => i.cause ≠ .unmatched

/-- The path of a field inside the record at a path. -/
def extend (path name : String) : String := if path.isEmpty then name else path ++ "." ++ name

/-- A source field: its description and what it holds. -/
structure Source where
  description : FieldMeta
  content : Tree.View

/-- The source field for an outside name. -/
def find? (tag : String) (s : Shape) (r : Record s) (wanted : String) : Option Source := do
  let index ← s.index? wanted <|> s.source? tag wanted
  return ⟨← s.metas[index]?, ← r.view? index⟩

/-- What became of one field. -/
structure Converted (α : Type) where
  value : α
  report : Report

/-- A field that keeps what it holds, with or without an issue. -/
def keep {α : Type} (old : α) (path : String) : Option Cause → Converted α
  | some cause => ⟨old, [⟨path, cause⟩]⟩
  | none => ⟨old, []⟩

/-- A datum assigned to a field of a type. -/
def assign {α : Type} (old : α) (path : String) (source : FieldMeta) (typeText : String) :
    Option α → Converted α
  | some new => ⟨new, []⟩
  | none => keep old path (some (.typeMismatch source.typeText typeText))

/-- Why a field whose source is of another sort is not converted. -/
def mismatch (source : FieldMeta) (kind : FieldKind) : Option Cause :=
  some (.shapeMismatch source.kind kind)

/-- Converts a record into the fields `fs`, which hold a record at a path. -/
def fields (tag : String) (s : Shape) (r : Record s) (path : String) :
    (fs : Fields) → Tree fs → Converted (Tree fs)
  | .nil, old => ⟨old, []⟩
  | .scalar info t rest, (old, more) =>
    let path' := extend path info.name
    let here : Converted t.Carrier :=
      match find? tag s r (info.resolve tag) with
      | none => keep old path' (some .unmatched)
      | some ⟨_, .absent⟩ => keep old path' none
      | some ⟨m, .scalar _ x⟩ => assign old path' m t.name (Tree.cast? t x)
      | some ⟨m, .record ..⟩ => keep old path' (mismatch m .scalar)
    let there := fields tag s r path rest more
    ⟨(here.value, there.value), here.report ++ there.report⟩
  | .optional info t rest, (old, more) =>
    let path' := extend path info.name
    let here : Converted (Option t.Carrier) :=
      match find? tag s r (info.resolve tag) with
      | none => keep old path' (some .unmatched)
      | some ⟨_, .absent⟩ => keep old path' none
      | some ⟨m, .scalar _ x⟩ =>
        assign old path' m (optionalText t.name) ((Tree.cast? t x).map some)
      | some ⟨m, .record ..⟩ => keep old path' (mismatch m .optionalScalar)
    let there := fields tag s r path rest more
    ⟨(here.value, there.value), here.report ++ there.report⟩
  | .record info _ _ inner rest, (old, more) =>
    let path' := extend path info.name
    let here : Converted (Tree inner) :=
      match find? tag s r (info.resolve tag) with
      | none => keep old path' (some .unmatched)
      | some ⟨_, .absent⟩ => keep old path' none
      | some ⟨m, .scalar ..⟩ => keep old path' (mismatch m .record)
      | some ⟨_, .record s' r'⟩ => fields tag s' r' path' inner old
    let there := fields tag s r path rest more
    ⟨(here.value, there.value), here.report ++ there.report⟩
  | .reference info name table inner rest, (old, more) =>
    let path' := extend path info.name
    let here : Converted (Option (Tree inner)) :=
      match find? tag s r (info.resolve tag) with
      | none => keep old path' (some .unmatched)
      | some ⟨_, .absent⟩ => keep old path' none
      | some ⟨m, .scalar ..⟩ => keep old path' (mismatch m .optionalRecord)
      | some ⟨_, .record s' r'⟩ =>
        let target := match old with
          | some record => record
          | none => Defaults.record ⟨name, table, inner⟩
        let converted := fields tag s' r' path' inner target
        ⟨some converted.value, converted.report⟩
    let there := fields tag s r path rest more
    ⟨(here.value, there.value), here.report ++ there.report⟩

end Conversion

namespace Record

variable {s d : Shape}

/-- Converts a record into another one that may hold something already. -/
def convertInto (tag : String) (source : Record s) (destination : Record d) :
    Conversion.Converted (Record d) :=
  Conversion.fields tag s source "" d.fields destination

/-- Converts a record into one that its type starts with. -/
def convert (tag : String) (source : Record s) (d : Shape) : Conversion.Converted (Record d) :=
  source.convertInto tag (Defaults.record d)

/-- Converts a record that may be absent. -/
def convertOptional (tag : String) (source : Option (Record s)) (d : Shape) :
    Option (Record d) × Conversion.Report :=
  match source with
  | some source =>
    let converted := source.convert tag d
    (some converted.value, converted.report)
  | none => (none, [])

end Record

end RowMap
