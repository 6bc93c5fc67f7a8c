import RowMap.Record.Columns
import RowMap.Row

/-!
# Scanning a row into a record

A record takes its own columns first, in the order of their declaration. The records inside it
follow, each with its columns and the records inside it. An absent record takes no columns, a
field without a column takes no value. Scanning stops at the first value that is refused and keeps
what it has read.
-/

namespace RowMap

/-- A record after scanning, the cursor, and what stopped it. -/
structure Scanned (α : Type) where
  record : α
  cursor : Cursor
  error : Option StoreError

def Scanned.map {α β : Type} (f : α → β) (s : Scanned α) : Scanned β :=
  ⟨f s.record, s.cursor, s.error⟩

/-- Goes on with the rest unless something was refused. -/
def Scanned.andThen {α β γ : Type} (s : Scanned α) (rest : β) (pair : α → β → γ)
    (next : Cursor → Scanned β) : Scanned γ :=
  match s.error with
  | some e => ⟨pair s.record rest, s.cursor, some e⟩
  | none => (next s.cursor).map (pair s.record)

def scanError (typeName field : String) (e : ExtractionError) : StoreError :=
  .parse (typeName ++ "." ++ field ++ ": " ++ e.message)

/-- Scans the next value into a field. -/
def scanNext {α : Type} (typeName field : String) (c : Cursor) (old : α)
    (scan : Value → Except ExtractionError α) : Scanned α :=
  match c.next with
  | (.error e, c) => ⟨old, c, some (scanError typeName field e)⟩
  | (.ok v, c) =>
    match scan v with
    | .ok new => ⟨new, c, none⟩
    | .error e => ⟨old, c, some (scanError typeName field e)⟩

namespace Tree

/-- Scans the columns of a record itself. -/
def scanColumns (typeName : String) : (fs : Fields) → Tree fs → Cursor → Scanned (Tree fs)
  | .nil, r, c => ⟨r, c, none⟩
  | .scalar info (.scalar t) rest, (x, more), c =>
    let here : Scanned t.Carrier :=
      if info.column?.isSome then scanNext typeName info.name c x t.extract else ⟨x, c, none⟩
    here.andThen more Prod.mk (scanColumns typeName rest more)
  | .scalar _ .texts rest, (x, more), c => (scanColumns typeName rest more c).map fun more => (x, more)
  | .optional info (.scalar t) rest, (x, more), c =>
    let here : Scanned (Option t.Carrier) :=
      if info.column?.isSome then scanNext typeName info.name c x t.extractOption else ⟨x, c, none⟩
    here.andThen more Prod.mk (scanColumns typeName rest more)
  | .optional _ .texts rest, (x, more), c =>
    (scanColumns typeName rest more c).map fun more => (x, more)
  | .record info name _ inner rest, (r, more), c =>
    let here :=
      if info.column?.isSome then scanNext typeName info.name c r fun v => scanKey name 0 v inner r
      else ⟨r, c, none⟩
    here.andThen more Prod.mk (scanColumns typeName rest more)
  | .reference info name _ inner rest, (r, more), c =>
    let key (v : Value) : Except ExtractionError (Option (Tree inner)) :=
      match r with
      | some r => (scanKey name 0 v inner r).map some
      | none => .ok none
    let here :=
      if info.column?.isSome then scanNext typeName info.name c r key else ⟨r, c, none⟩
    here.andThen more Prod.mk (scanColumns typeName rest more)

/-- Scans the records inside a record, in order. -/
def scanInner : (fs : Fields) → Tree fs → Cursor → Scanned (Tree fs)
  | .nil, r, c => ⟨r, c, none⟩
  | .scalar _ _ rest, (x, more), c => (scanInner rest more c).map fun more => (x, more)
  | .optional _ _ rest, (x, more), c => (scanInner rest more c).map fun more => (x, more)
  | .record _ name _ inner rest, (r, more), c =>
    let own := scanColumns name inner r c
    let whole := match own.error with
      | some _ => own
      | none => scanInner inner own.record own.cursor
    whole.andThen more Prod.mk (scanInner rest more)
  | .reference _ _ _ _ rest, (none, more), c => (scanInner rest more c).map fun more => (none, more)
  | .reference _ name _ inner rest, (some r, more), c =>
    let own := scanColumns name inner r c
    let whole := match own.error with
      | some _ => own
      | none => scanInner inner own.record own.cursor
    whole.andThen more (fun r more => (some r, more)) (scanInner rest more)

end Tree

/-- Scans a row from a cursor into a record. -/
def Record.scan {s : Shape} (r : Record s) (c : Cursor) : Scanned (Record s) :=
  let own := Tree.scanColumns s.typeName s.fields r c
  match own.error with
  | some _ => own
  | none => Tree.scanInner s.fields own.record own.cursor

end RowMap
