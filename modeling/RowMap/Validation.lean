/-!
# Collected complaints

Validation collects one message per field, the first that is found, in the order of the fields'
names.
-/

namespace RowMap

structure ValidationErrors where
  /-- Fields and messages in the order of the fields, each field once. -/
  entries : List (String × String)
deriving DecidableEq

namespace ValidationErrors

def empty : ValidationErrors := ⟨[]⟩

/-- A field and its message in their place, unless the field has a message. -/
def insertEntry (field message : String) : List (String × String) → List (String × String)
  | [] => [(field, message)]
  | (other, old) :: rest =>
    if field = other then (other, old) :: rest
    else if field < other then (field, message) :: (other, old) :: rest
    else (other, old) :: insertEntry field message rest

/-- The first message of a field stays. -/
def add (errors : ValidationErrors) (field message : String) : ValidationErrors :=
  ⟨insertEntry field message errors.entries⟩

/-- The first messages of fields. -/
def ofList (entries : List (String × String)) : ValidationErrors :=
  entries.foldl (fun errors (field, message) => errors.add field message) empty

def single (field message : String) : ValidationErrors := ⟨[(field, message)]⟩

def get? (errors : ValidationErrors) (field : String) : Option String := errors.entries.lookup field

def isEmpty (errors : ValidationErrors) : Bool := errors.entries.isEmpty

def size (errors : ValidationErrors) : Nat := errors.entries.length

/-- Adds the message when a condition does not hold. -/
def check (errors : ValidationErrors) (ok : Bool) (field message : String) : ValidationErrors :=
  if ok then errors else errors.add field message

def message (errors : ValidationErrors) : String :=
  "; ".intercalate (errors.entries.map fun (field, message) => field ++ ": " ++ message)

end ValidationErrors

/-- The value is one of a list. -/
def isPermitted {α : Type} [DecidableEq α] (value : α) (permitted : List α) : Bool :=
  permitted.contains value

end RowMap
