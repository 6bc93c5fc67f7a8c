import RowMap.Document.Value
import RowMap.Record.Mapped

/-!
# Records as documents

A record is written as an object of its fields under their declared names. Reading fills a record:
fields that the object does not name keep what they hold, and an object for an absent record
creates it.
-/

namespace RowMap

namespace FieldType

def toJson : (t : FieldType) → t.Carrier → Json
  | .scalar t, x => t.toJson x
  | .texts, ts => .array (ts.map .string)

def ofJson? : (t : FieldType) → Json → Option t.Carrier
  | .scalar t, j => t.ofJson? j
  | .texts, .array items => items.mapM Json.text?
  | .texts, _ => none

end FieldType

namespace Tree

def members : (fs : Fields) → Tree fs → List (String × Json)
  | .nil, _ => []
  | .scalar info t rest, (x, more) => (info.name, t.toJson x) :: members rest more
  | .optional info t rest, (x, more) => (info.name, Json.ofOption t.toJson x) :: members rest more
  | .record info _ _ inner rest, (r, more) =>
    (info.name, .ofMembers (members inner r)) :: members rest more
  | .reference info _ _ inner rest, (r, more) =>
    (info.name, Json.ofOption (fun r => .ofMembers (members inner r)) r) :: members rest more

/-- The record with the fields that an object names. -/
def fill? : (fs : Fields) → Tree fs → Json → Option (Tree fs)
  | .nil, r, _ => some r
  | .scalar info t rest, (x, more), j => do
    let y ← Json.optional? t.ofJson? (j.memberOrNull info.name)
    return (y.getD x, ← fill? rest more j)
  | .optional info t rest, (x, more), j => do
    let y ← Json.optional? t.ofJson? (j.memberOrNull info.name)
    return (y <|> x, ← fill? rest more j)
  | .record info _ _ inner rest, (r, more), j => do
    return (← fill? inner r (j.memberOrNull info.name), ← fill? rest more j)
  | .reference info _ _ inner rest, (r, more), j => do
    let target := match r with
      | some r => r
      | none => initial inner
    let y ← Json.optional? (fill? inner target) (j.memberOrNull info.name)
    return (y <|> r, ← fill? rest more j)

end Tree

def Record.toJson {s : Shape} (r : Record s) : Json := .ofMembers (Tree.members s.fields r)

/-- A fresh record with the fields that an object names. -/
def Record.ofJson? (s : Shape) (j : Json) : Option (Record s) :=
  Tree.fill? s.fields (Tree.initial s.fields) j

namespace Mapped

variable {α : Type} [Mapped α]

def toJson (a : α) : Json := (toRecord a).toJson

def ofJson? (α : Type) [Mapped α] (j : Json) : Option α :=
  (Record.ofJson? (Mapped.shape α) j).map ofRecord

end Mapped

end RowMap
