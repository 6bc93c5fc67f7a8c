import RowMap.Decimal.Reading
import RowMap.Text.Lowercase
import RowMap.Text.Scanner
import RowMap.Toml.Basic

/-!
# Trees of settings

A tree of settings grows from several sources: a later value replaces an earlier one, and groups are
merged name by name. Names are kept in lower case. A path such as `a.b[0]` says where a value goes.
-/

namespace RowMap

inductive Setting
  | nothing
  | text (s : String)
  | integer (i : Int)
  | float (x : Decimal.Double)
  | boolean (b : Bool)
  | list (items : List Setting)
  | group (entries : List (String × Setting))

namespace Setting

open RowMap.Text (lower)

mutual

/-- A value of a configuration text as a setting. -/
def ofToml : Toml → Setting
  | .string s | .moment s => .text s
  | .integer i => .integer i
  | .float x => .float x
  | .boolean b => .boolean b
  | .array items => .list (listOfToml items)
  | .table _ entries => .group (entriesOfToml entries)
  | .tables earlier last => .list (listOfToml earlier ++ [.group (entriesOfToml last)])

def listOfToml : List Toml → List Setting
  | [] => []
  | item :: rest => ofToml item :: listOfToml rest

def entriesOfToml : List (String × Toml) → List (String × Setting)
  | [] => []
  | (name, value) :: rest => (name, ofToml value) :: entriesOfToml rest

end

/-! ## Merging -/

/-- The entries of a group, none of anything else. -/
def entries : Setting → List (String × Setting)
  | .group entries => entries
  | _ => []

def items : Setting → List Setting
  | .list items => items
  | _ => []

/-- Changes the entry under a name, or adds one. -/
def alter (name : String) (f : Option Setting → Setting) :
    List (String × Setting) → List (String × Setting)
  | [] => [(name, f none)]
  | (other, old) :: rest =>
    if other = name then (name, f (some old)) :: rest else (other, old) :: alter name f rest

mutual

/-- Puts a value under a name; the entries of a group go one by one into what is there. -/
def put (name : String) : Setting → Setting → Setting
  | .group incoming, root =>
    .group (alter (lower name) (fun old => putAll incoming (old.getD (.group []))) root.entries)
  | value, root => .group (alter (lower name) (fun _ => value) root.entries)

def putAll : List (String × Setting) → Setting → Setting
  | [], root => root
  | (name, value) :: rest, root => putAll rest (put name value root)

end

/-! ## Paths -/

inductive Step
  | name (name : String)
  /-- A place in a list; negative ones count from its end. -/
  | index (i : Int)

/-- Changes the item at a place, with nothing in the places that are missing before it. -/
def alterItem (i : Int) (f : Setting → Setting) (items : List Setting) : List Setting :=
  let place := if 0 ≤ i then i.toNat else (items.length + i).toNat
  let items := items ++ List.replicate (place + 1 - items.length) .nothing
  items.modify place f

/-- Puts a value at the end of a path. -/
def assign (value : Setting) : List Step → Setting → Setting
  | [], _ => value
  | [.name name], root => put name value root
  | .name name :: path, root =>
    .group (alter (lower name) (fun old => assign value path (old.getD .nothing)) root.entries)
  | .index i :: path, root => .list (alterItem i (assign value path) root.items)

section Paths

open RowMap.Text (Scanner)
open RowMap.Text.Scanner

def isNameChar (c : Char) : Bool := c.isAlphanum || c = ' ' || c = '_' || c = '-'

def scanName : Scanner String := String.ofList <$> run1 isNameChar

def scanIndex : Scanner Int := do
  literal ['[']
  let _ ← run fun c => c = ' ' || c = '\t'
  let minus ← accepts ['-']
  let digits ← run1 Decimal.isDigit
  let _ ← run fun c => c = ' ' || c = '\t'
  literal [']']
  Decimal.int64? (if minus then '-' :: digits else digits)

def scanPath : Scanner (List Step) := do
  let first ← scanName
  let steps ← many ((do literal ['.']; return .name (← scanName)) <|> .index <$> scanIndex)
  return .name first :: steps

/-- The path that a text is; a text that is no path is a name. -/
def pathOf (text : String) : List Step := (whole? scanPath text.toList).getD [.name text]

end Paths

/-- A tree with the values of a source at their paths. -/
def merge (root : Setting) (source : List (String × Setting)) : Setting :=
  source.foldl (fun root (path, value) => assign value (pathOf path) root) root

/-! ## Values -/

/-- A setting as text; numbers are written without an exponent. -/
def text? : Setting → Option String
  | .text s => some s
  | .boolean b => some (if b then "true" else "false")
  | .integer i => some (String.ofList (Decimal.intDigits i))
  | .float x =>
    some (String.ofList (Decimal.Layout.positional.number Decimal.double x.bits.toNat))
  | _ => none

/-- The words for one and for zero. -/
def switch? (s : String) : Option Int :=
  let s := lower s
  if ["true", "on", "yes"].contains s then some 1
  else if ["false", "off", "no"].contains s then some 0
  else none

/-- The whole number of a range that is nearest to a double, a half going away from zero. What is not
a number counts as zero. -/
def nearestWhole (low high : Int) (x : Decimal.Double) : Int :=
  match Decimal.decode Decimal.double x.bits.toNat with
  | (_, .notANumber) => 0
  | (negative, .infinite) => if negative then low else high
  | (negative, .finite m q) =>
    let (n, d) := Decimal.fraction m q
    let whole : Int := ((2 * n + d) / (2 * d) : Nat)
    max low (min high (if negative then -whole else whole))

/-- A setting as a whole number of a range, where `read` reads the digits of a text. -/
def whole? (low high : Int) (read : List Char → Option Int) : Setting → Option Int
  | .text s => switch? s <|> read s.toList
  | .boolean b => some (if b then 1 else 0)
  | .integer i => if low ≤ i ∧ i ≤ high then some i else none
  | .float x => some (nearestWhole low high x)
  | _ => none

/-- A setting as a number of 64 bits with a sign. -/
def int64? (s : Setting) : Option Int64 :=
  (s.whole? Int64.minValue.toInt Int64.maxValue.toInt Decimal.int64?).map Int64.ofInt

/-- A setting as a number of 64 bits. -/
def word64? (s : Setting) : Option UInt64 :=
  (s.whole? 0 (UInt64.size - 1) fun text => (Decimal.word? 64 text).map Int.ofNat).map fun i =>
    i.toNat.toUInt64

end Setting

end RowMap
