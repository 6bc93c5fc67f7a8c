import RowMap.Document.Record
import RowMap.Document.Shape

/-!
# Vocabularies

Documents refer to scalar types and shapes by name; a vocabulary says which there are. A shape may
also be written out where it is used.
-/

namespace RowMap

structure Vocabulary where
  types : List ScalarType
  shapes : List Shape

namespace Vocabulary

/-- The scalar type of a name. -/
def type? (v : Vocabulary) (name : String) : Option ScalarType :=
  v.types.find? fun t => t.name = name

/-- The shape that an object names or has in it. -/
def shape? (v : Vocabulary) (j : Json) : Option Shape :=
  match j.given? "shape" with
  | some document => Shape.ofJson? v.types document
  | none => do
    let name ← Json.text? (j.memberOrNull "type")
    v.shapes.find? fun s => s.typeName = name

/-- The name of the kind of a type: its label type, or the variant of its values. -/
def kind : ScalarType → String
  | .coded e => e.name
  | t => t.variant.name

/-- The value of a datum whose type goes by its kind. The kind `str` is that of borrowed texts. -/
def bound? (v : Vocabulary) : Json → Option Value
  | .array [.string "str", .string s] => some (BorrowedText.bind s)
  | .array [.string "str", .null] => some BorrowedText.null
  | .array [.string name, j] => do
    let t ← v.types.find? fun t => kind t = name
    match j with
    | .null => return t.null
    | j => return t.bind (← t.ofJson? j)
  | _ => none

end Vocabulary

/-- A record together with its shape. -/
structure AnyRecord where
  shape : Shape
  record : Record shape

def AnyRecord.toJson (r : AnyRecord) : Json := r.record.toJson

/-- The record that an object describes: a shape, and values of its fields. -/
def Vocabulary.record? (v : Vocabulary) (j : Json) : Option AnyRecord := do
  let s ← v.shape? j
  return ⟨s, ← Record.ofJson? s (j.memberOrNull "values")⟩

end RowMap
