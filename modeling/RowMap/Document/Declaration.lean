import RowMap.Declaration.AttributeReader
import RowMap.Declaration.Basic
import RowMap.Declaration.TypeReader
import RowMap.Document.Shape
import RowMap.Text.Quoted

/-!
# Declarations as documents
-/

namespace RowMap.Declaration

/-- The text of an item: a key with a text, or text as it is. -/
def itemText? (j : Json) : Option (List Char) := do
  match ← (← Json.items? j).mapM Json.text? with
  | ["kv", key, value] => return key.toList ++ " = ".toList ++ Text.quoted value.toList
  | ["flag", text] | ["raw", text] => return text.toList
  | _ => none

/-- The text of an attribute: items in a list, or text as it is. -/
def attributeText? (j : Json) : Option (List Char) := do
  match j with
  | .string text => return text.toList
  | j =>
    let items ← (← Json.items? j).mapM itemText?
    return "record(".toList ++ (", ".toList).intercalate items ++ [')']

/-- An attribute, which is none if it is not about records. -/
def Attribute.ofJson? (j : Json) : Option (Option Attribute) := do
  Attribute.ofTokens? (← tokens? (← attributeText? j))

def attributesOfJson? (j : Json) : Option (List Attribute) := do
  return (← (← Json.items? (j.memberOrNull "attrs")).mapM Attribute.ofJson?).filterMap id

def Form.ofName? : String → Option Form
  | "struct" => some .named
  | "tuple" => some .tuple
  | "unit" => some .unit
  | "enum" => some .choice
  | "union" => some .overlay
  | _ => none

/-- There are parameters between angle brackets. -/
def hasParameters : List Token → Bool
  | .mark '<' _ :: .mark '>' _ :: _ => false
  | .mark '<' _ :: _ => true
  | _ => false

/-- The name that a text is; an underscore names a field too. -/
def fieldName? (text : List Char) : Option String :=
  if text = ['_'] then some "_" else name? text

def Field.ofJson? (j : Json) : Option Field := do
  return {
    name := ← fieldName? (← Json.text? (j.memberOrNull "name")).toList
    type := ← TypeExpr.read? (← Json.text? (j.memberOrNull "ty")).toList
    attributes := ← attributesOfJson? j }

def ofJson? (j : Json) : Option Declaration := do
  let generics := (← Json.optional? Json.text? (j.memberOrNull "generics")).getD ""
  return {
    name := ← name? (← Json.text? (j.memberOrNull "name")).toList
    isGeneric := hasParameters (← tokens? generics.toList)
    form := ← Form.ofName? ((← Json.optional? Json.text? (j.memberOrNull "form")).getD "struct")
    attributes := ← attributesOfJson? j
    fields := ← (← Json.items? (j.memberOrNull "fields")).mapM Field.ofJson? }

/-- A description with the places that each access to a record answers. -/
def Description.toJson (d : Description) : Json :=
  let places (is : List Nat) : Json := .array (is.map fun (i : Nat) => .int i)
  let all := places (List.range d.fields.length)
  let columns := places d.columnPlaces
  .ofMembers [
    ("META", .ofMembers [
      ("type_name", .string d.typeName),
      ("table", .string d.table),
      ("fields", .array (d.fields.map fun f => .ofMembers f.members))]),
    ("field", all), ("field_mut", all), ("column_value", columns), ("scan_field", columns),
    ("primary_key_value", .bool d.hasKey), ("null_primary_key", .bool d.hasKey)]

def Fault.toJson (f : Fault) : Json :=
  .ofMembers [("error", .string "compile_error"), ("message", .string f.message)]

end RowMap.Declaration
