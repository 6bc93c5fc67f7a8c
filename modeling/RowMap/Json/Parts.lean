import RowMap.Json.Basic

/-!
# Parts of documents

How plain data are written into documents and read back. A reader refuses what is not of its type.
-/

namespace RowMap.Json

/-! ## Objects -/

/-- The member of an object, null when it is missing. -/
def memberOrNull (j : Json) (name : String) : Json := (j.member? name).getD .null

/-- The member of an object, unless it is null. -/
def given? (j : Json) (name : String) : Option Json :=
  match j.memberOrNull name with
  | .null => none
  | part => some part

/-- The members of an object under the names, null when missing, or the items of an array of just
that many. -/
def fields? (names : List String) : Json → Option (List Json)
  | .object members => some (names.map fun name => (members.lookup name).getD .null)
  | .array items => if items.length = names.length then some items else none
  | _ => none

/-- What may be missing. -/
def optional? {α : Type} (read : Json → Option α) : Json → Option (Option α)
  | .null => some none
  | j => (read j).map some

/-- A part with a default for when it is missing. -/
def partOr? {α : Type} (read : Json → Option α) (default : α) : Option Json → Option α
  | none => some default
  | some j => read j

def ofOption {α : Type} (write : α → Json) : Option α → Json
  | some a => write a
  | none => .null

/-! ## Arrays -/

/-- The items of an array; null has none. -/
def items? : Json → Option (List Json)
  | .array items => some items
  | .null => some []
  | _ => none

def pair? {α β : Type} (first : Json → Option α) (second : Json → Option β) :
    Json → Option (α × β)
  | .array [a, b] => return (← first a, ← second b)
  | _ => none

mutual

/-- The number of documents inside each other, the innermost included. -/
def depth : Json → Nat
  | .array items => depthOfItems items + 1
  | .object members => depthOfMembers members + 1
  | _ => 1

def depthOfItems : List Json → Nat
  | [] => 0
  | item :: rest => max (depth item) (depthOfItems rest)

def depthOfMembers : List (String × Json) → Nat
  | [] => 0
  | (_, value) :: rest => max (depth value) (depthOfMembers rest)

end

/-! ## Scalars -/

/-- A switch, which is off when it is missing. -/
def switch? : Json → Option Bool
  | .bool b => some b
  | .null => some false
  | _ => none

/-- A whole number within bounds. -/
def wholeNumber? (low high : Int) : Json → Option Int
  | .int i => if low ≤ i ∧ i ≤ high then some i else none
  | _ => none

def int8? (j : Json) : Option Int8 := (wholeNumber? Int8.minValue.toInt Int8.maxValue.toInt j).map Int8.ofInt

def int16? (j : Json) : Option Int16 := (wholeNumber? Int16.minValue.toInt Int16.maxValue.toInt j).map Int16.ofInt

def int64? (j : Json) : Option Int64 := (wholeNumber? Int64.minValue.toInt Int64.maxValue.toInt j).map Int64.ofInt

def int32? (j : Json) : Option Int32 := (wholeNumber? Int32.minValue.toInt Int32.maxValue.toInt j).map Int32.ofInt

/-- A natural number of so many bits. -/
def word? (bits : Nat) (j : Json) : Option Nat :=
  (wholeNumber? 0 (Decimal.twoTo bits - 1) j).map Int.toNat

def text? : Json → Option String
  | .string s => some s
  | _ => none

def ofInt64 (i : Int64) : Json := .int i.toInt
def ofInt32 (i : Int32) : Json := .int i.toInt

end RowMap.Json
