import RowMap.Record.Columns

/-!
# Types that are records

A mapped type has a shape and can be taken apart into a record of the shape and put together again.
A versioned type has a version that the store counts up with every update.
-/

namespace RowMap

class Mapped (α : Type) where
  shape : Shape
  toRecord : α → Record shape
  ofRecord : Record shape → α

class Versioned (α : Type) extends Mapped α where
  version : α → Int32
  setVersion : Int32 → α → α
  setCreatedAt : Calendar.Instant → α → α := fun _ a => a

namespace Mapped

variable {α : Type} [Mapped α]

/-- The value with the key of a record. -/
def scanKey (a : α) (v : Value) : Except ExtractionError α :=
  ((toRecord a).scanKey v).map ofRecord

end Mapped

instance (s : Shape) : Mapped (Record s) where
  shape := s
  toRecord := id
  ofRecord := id

namespace Record

variable {s : Shape}

/-- The 32-bit integer in the field `version`, and 0 when there is none. -/
def version (r : Record s) : Int32 :=
  match (s.index? "version").bind fun i => s.metas[i]?.bind fun m => (r.view? i).map fun v => (m, v) with
  | some (m, .scalar (.scalar .int32) x) => if m.kind = .scalar then x else 0
  | _ => 0

/-- Assigns a datum to the field of a name, if it is of the datum's type. -/
def assignNamed (r : Record s) (name : String) (t : ScalarType) (x : t.Carrier) : Record s :=
  match (s.index? name).bind fun i => @Record.assign? s (.scalar t) r i x with
  | some r => r
  | none => r

end Record

/-- A record is versioned by its fields `version` and `created_at`. -/
instance (s : Shape) : Versioned (Record s) where
  version := Record.version
  setVersion v r := r.assignNamed "version" .int32 v
  setCreatedAt t r := r.assignNamed "created_at" .instant t

end RowMap
