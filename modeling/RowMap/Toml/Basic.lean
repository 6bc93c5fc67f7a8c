import RowMap.Decimal.Binary

/-!
# Configuration texts

The values that a text in TOML holds, and the rules by which its lines build tables. A table is
written once: under a header, between braces, or by the keys that go through it.
-/

namespace RowMap

/-- How a table came to be. -/
inductive Toml.Origin
  /-- A header names it. -/
  | header
  /-- It is written between braces. -/
  | inline
  /-- A header names a table inside it. -/
  | implied
  /-- A key of several parts goes through it. -/
  | dotted
deriving DecidableEq

inductive Toml
  | string (text : String)
  | integer (i : Int)
  | float (x : Decimal.Double)
  | boolean (b : Bool)
  /-- A date, a time or both, in its usual spelling. -/
  | moment (text : String)
  | array (items : List Toml)
  | table (origin : Toml.Origin) (entries : List (String × Toml))
  /-- Tables under headers of one name; entries are added to the last. -/
  | tables (earlier : List Toml) (last : List (String × Toml))

namespace Toml

abbrev Entries := List (String × Toml)

/-- A key of one or more parts. -/
structure Key where
  parents : List String
  name : String

/-- Changes the entry under a name, or adds one at the end. -/
def Entries.alter? (name : String) (f : Option Toml → Option Toml) : Entries → Option Entries
  | [] => (f none).map fun value => [(name, value)]
  | (other, old) :: rest =>
    if other = name then (f (some old)).map fun value => (name, value) :: rest
    else (Entries.alter? name f rest).map fun rest => (other, old) :: rest

/-- Changes the entries at a path, where `made` is the origin of the tables that are not there yet.
Tables between braces are closed, and to keys so are tables under headers. -/
def within? (made : Origin) (f : Origin → Entries → Option Entries) :
    List String → Origin → Entries → Option Entries
  | [], origin, entries => f origin entries
  | name :: path, _, entries =>
    entries.alter? name fun
      | none => (within? made f path made []).map (.table made)
      | some (.table origin inner) =>
        if origin = .inline || (made = .dotted && origin = .header) then none
        else (within? made f path origin inner).map (.table origin)
      | some (.tables earlier last) => (within? made f path .header last).map (.tables earlier)
      | some _ => none

/-- Adds a value under a key that is free. A table that keys of several parts made is changed by
such keys only, and they change no other. -/
def Entries.add? (key : Key) (value : Toml) (entries : Entries) : Option Entries :=
  within? .dotted (fun origin inner =>
    if (origin = .dotted : Bool) = key.parents.isEmpty then none
    else inner.alter? key.name fun
      | none => some value
      | some _ => none) key.parents .header entries

/-- The entries with more added in turn. -/
def Entries.addAll? (entries : Entries) (more : List (Key × Toml)) : Option Entries :=
  more.foldlM (fun entries (key, value) => entries.add? key value) entries

/-! ## Sections -/

inductive Header
  /-- A table of its own. -/
  | single (key : Key)
  /-- One more of the tables of a name. -/
  | repeated (key : Key)

/-- A header and the entries below it. -/
structure Section where
  header : Header
  entries : List (Key × Toml)

/-- Adds a section to a text. A single table may have been implied before, and nothing else. -/
def Section.addTo? (s : Section) (root : Entries) : Option Entries :=
  let place (key : Key) (body : Option Toml → Option Toml) : Option Entries :=
    within? .implied (fun _ inner => inner.alter? key.name body) key.parents .header root
  match s.header with
  | .single key => place key fun
    | none => (Entries.addAll? [] s.entries).map (.table .header)
    | some (.table .implied inner) => (Entries.addAll? inner s.entries).map (.table .header)
    | some _ => none
  | .repeated key => place key fun
    | none => (Entries.addAll? [] s.entries).map (.tables [])
    | some (.tables earlier last) =>
      (Entries.addAll? [] s.entries).map (.tables (earlier ++ [.table .header last]))
    | some _ => none

end Toml

end RowMap
