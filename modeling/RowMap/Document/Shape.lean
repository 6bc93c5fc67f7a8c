import RowMap.Document.Value
import RowMap.Record.Meta

/-!
# Shapes as documents

A shape is written as its name, its table and the list of its fields. A field names its type, or
has a shape of its own.
-/

namespace RowMap

/-! ## Fields -/

/-- What a field is called and what it is for. -/
def FieldMeta.members (m : FieldMeta) : List (String × Json) := [
  ("name", .string m.name),
  ("ty", .string m.typeText),
  ("kind", .string m.kind.name),
  ("primary_key", .bool m.primaryKey),
  ("generated", .bool m.generated),
  ("tags", .array (m.tags.map fun (tag, name) => .array [.string tag, .string name]))]

def FieldInfo.ofJson? (j : Json) : Option FieldInfo := do
  return {
    name := ← Json.text? (j.memberOrNull "name")
    primaryKey := ← Json.switch? (j.memberOrNull "pk")
    generated := ← Json.switch? (j.memberOrNull "generated")
    tags := ← (← Json.items? (j.memberOrNull "tags")).mapM (Json.pair? Json.text? Json.text?) }

/-! ## Names of types -/

/-- The type of a name among scalar types. -/
def FieldType.ofName? (types : List ScalarType) (name : String) : Option FieldType :=
  if name = FieldType.texts.name then some .texts
  else (types.find? fun t => t.name = name).map .scalar

/-- The name in the text of an optional type. -/
def optionalName? (text : String) : Option String :=
  let start := "Option<".toList
  if start.isPrefixOf text.toList && text.toList.getLast? == some '>' then
    some (String.ofList (text.toList.drop start.length).dropLast)
  else none

/-! ## Shapes -/

/-- A shape whose records are inside each other up to a depth. -/
def Shape.ofJsonWithin? (types : List ScalarType) : Nat → Json → Option Shape
  | 0, _ => none
  | depth + 1, j => do
    let field (f : Json) (rest : Fields) : Option Fields := do
      let info ← FieldInfo.ofJson? f
      match f.given? "shape" with
      | some inner =>
        let s ← Shape.ofJsonWithin? types depth inner
        if ← Json.switch? (f.memberOrNull "opt") then
          return .reference info s.typeName s.table s.fields rest
        else return .record info s.typeName s.table s.fields rest
      | none =>
        let text ← Json.text? (f.memberOrNull "ty")
        match optionalName? text with
        | some name => return .optional info (← FieldType.ofName? types name) rest
        | none => return .scalar info (← FieldType.ofName? types text) rest
    return {
      typeName := ← Json.text? (j.memberOrNull "name")
      table := ← Json.text? (j.memberOrNull "table")
      fields := ← (← Json.items? (j.memberOrNull "fields")).foldrM field .nil }

/-- The shape in a document whose fields have scalar types of a list. -/
def Shape.ofJson? (types : List ScalarType) (j : Json) : Option Shape :=
  Shape.ofJsonWithin? types j.depth j

end RowMap
