import RowMap.Record.Meta

/-!
# Records

A record is a tree of data that fits its shape. Fields are looked at through `view`, by their
index, and a datum is assigned to a field only when it has exactly the field's type.
-/

namespace RowMap

/-- The data that fit a list of fields. -/
def Tree : Fields → Type
  | .nil => Unit
  | .scalar _ t rest => t.Carrier × Tree rest
  | .optional _ t rest => Option t.Carrier × Tree rest
  | .record _ _ _ inner rest => Tree inner × Tree rest
  | .reference _ _ _ inner rest => Option (Tree inner) × Tree rest

/-- The records of a shape. -/
def Record (s : Shape) : Type := Tree s.fields

namespace Tree

/-- The record that was given nothing. -/
def initial : (fs : Fields) → Tree fs
  | .nil => ()
  | .scalar _ t rest => (t.initial, initial rest)
  | .optional _ _ rest => (none, initial rest)
  | .record _ _ _ inner rest => (initial inner, initial rest)
  | .reference _ _ _ _ rest => (none, initial rest)

/-! ## Looking at a field -/

/-- What a field holds. -/
inductive View
  | absent
  | scalar (t : FieldType) (x : t.Carrier)
  | record (shape : Shape) (tree : Tree shape.fields)

def View.isAbsent : View → Bool
  | .absent => true
  | _ => false

def view? : (fs : Fields) → Tree fs → Nat → Option View
  | .nil, _, _ => none
  | .scalar _ t _, (x, _), 0 => some (.scalar t x)
  | .optional _ t _, (some x, _), 0 => some (.scalar t x)
  | .optional _ _ _, (none, _), 0 => some .absent
  | .record _ name table inner _, (r, _), 0 => some (.record ⟨name, table, inner⟩ r)
  | .reference _ name table inner _, (some r, _), 0 => some (.record ⟨name, table, inner⟩ r)
  | .reference _ _ _ _ _, (none, _), 0 => some .absent
  | .scalar _ _ rest, (_, more), i + 1 => view? rest more i
  | .optional _ _ rest, (_, more), i + 1 => view? rest more i
  | .record _ _ _ _ rest, (_, more), i + 1 => view? rest more i
  | .reference _ _ _ _ rest, (_, more), i + 1 => view? rest more i

/-! ## Changing a field -/

/-- A datum as one of another type, when the types are the same. -/
def cast? {s : FieldType} (t : FieldType) (x : s.Carrier) : Option t.Carrier :=
  if h : s = t then some (h ▸ x) else none

/-- The record with a datum in a field, if the field is a scalar of exactly the datum's type. -/
def assign? {s : FieldType} (x : s.Carrier) : (fs : Fields) → Tree fs → Nat → Option (Tree fs)
  | .nil, _, _ => none
  | .scalar _ t _, (_, more), 0 => (cast? t x).map fun y => (y, more)
  | .optional _ t _, (_, more), 0 => (cast? t x).map fun y => (some y, more)
  | .record .., _, 0 => none
  | .reference .., _, 0 => none
  | .scalar _ _ rest, (y, more), i + 1 => (assign? x rest more i).map fun more => (y, more)
  | .optional _ _ rest, (y, more), i + 1 => (assign? x rest more i).map fun more => (y, more)
  | .record _ _ _ _ rest, (y, more), i + 1 => (assign? x rest more i).map fun more => (y, more)
  | .reference _ _ _ _ rest, (y, more), i + 1 => (assign? x rest more i).map fun more => (y, more)

/-- The record with another content in the optional record at an index. -/
def setReference? (content : (inner : Fields) → Option (Tree inner)) :
    (fs : Fields) → Tree fs → Nat → Option (Tree fs)
  | .nil, _, _ => none
  | .reference _ _ _ inner _, (_, more), 0 => some (content inner, more)
  | .scalar .., _, 0 => none
  | .optional .., _, 0 => none
  | .record .., _, 0 => none
  | .scalar _ _ rest, (y, more), i + 1 => (setReference? content rest more i).map fun m => (y, m)
  | .optional _ _ rest, (y, more), i + 1 => (setReference? content rest more i).map fun m => (y, m)
  | .record _ _ _ _ rest, (y, more), i + 1 =>
    (setReference? content rest more i).map fun m => (y, m)
  | .reference _ _ _ _ rest, (y, more), i + 1 =>
    (setReference? content rest more i).map fun m => (y, m)

/-- The record with nothing in the optional record at an index. -/
def clear? (fs : Fields) (r : Tree fs) (i : Nat) : Option (Tree fs) :=
  setReference? (fun _ => none) fs r i

end Tree

namespace Record

variable {s : Shape}

def initial (s : Shape) : Record s := Tree.initial s.fields

def view? (r : Record s) (i : Nat) : Option Tree.View := Tree.view? s.fields r i

def assign? {t : FieldType} (r : Record s) (i : Nat) (x : t.Carrier) : Option (Record s) :=
  Tree.assign? x s.fields r i

end Record

/-- The record that a type starts with. -/
class Defaults where
  record (s : Shape) : Record s

instance : Defaults := ⟨Record.initial⟩

end RowMap
