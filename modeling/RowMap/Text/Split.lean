/-!
# Taking texts apart
-/

namespace RowMap.Text

/-- The pieces between separators, one more than there are separators. -/
def pieces (separator : Char) : List Char → List (List Char)
  | [] => [[]]
  | c :: rest =>
    if c = separator then [] :: pieces separator rest
    else match pieces separator rest with
      | [] => [[c]]
      | piece :: more => (c :: piece) :: more

/-- What stands before the first of some characters, and the rest from it on; nothing if none of
them is there. -/
def before? (ends : List Char) : List Char → Option (List Char × List Char)
  | [] => none
  | c :: rest =>
    if ends.contains c then some ([], c :: rest)
    else (before? ends rest).map fun (head, tail) => (c :: head, tail)

/-- What stands before and after the first of some characters; all of it if none of them is there. -/
def cut (ends : List Char) (text : List Char) : List Char × List Char :=
  (before? ends text).getD (text, [])

end RowMap.Text
