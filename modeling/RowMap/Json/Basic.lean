import RowMap.Decimal.Layout

/-!
# Documents

A document is a tree of nulls, booleans, numbers, strings, arrays and objects. The members of an
object are kept in the order of their names, each name once.
-/

namespace RowMap

inductive Json
  | null
  | bool (b : Bool)
  | int (i : Int)
  | float (x : Decimal.Double)
  | string (s : String)
  | array (items : List Json)
  | object (members : List (String × Json))

namespace Json

/-- A member in its place among sorted members; a second one of the same name replaces the first. -/
def insertMember (name : String) (value : Json) : List (String × Json) → List (String × Json)
  | [] => [(name, value)]
  | (other, old) :: rest =>
    if name = other then (name, value) :: rest
    else if name < other then (name, value) :: (other, old) :: rest
    else (other, old) :: insertMember name value rest

/-- An object with these members. -/
def ofMembers (members : List (String × Json)) : Json :=
  .object (members.foldl (fun sorted (name, value) => insertMember name value sorted) [])

/-- The member of an object under a name. -/
def member? (name : String) : Json → Option Json
  | .object members => members.lookup name
  | _ => none

end Json

end RowMap
