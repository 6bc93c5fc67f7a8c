import RowMap.Connection.Options
import RowMap.Text.Characters

/-!
# Options as keys and values

Keys and values with equals signs between them, and blanks around everything. A value is bare or
quoted; a backslash makes the next character an ordinary one. Reading ends where no key follows.
-/

namespace RowMap.Connection

open RowMap.Text (isBlank trimStart)

/-- A bare value, which ends before a blank, and the rest. -/
def bareValue : List Char → List Char × List Char
  | [] => ([], [])
  | ['\\'] => ([], [])
  | '\\' :: c :: rest =>
    let (value, rest) := bareValue rest
    (c :: value, rest)
  | c :: rest =>
    if isBlank c then ([], c :: rest)
    else
      let (value, rest) := bareValue rest
      (c :: value, rest)

/-- A quoted value after its opening quote, and the rest after its closing one. -/
def quotedValue? : List Char → Option (List Char × List Char)
  | [] => none
  | ['\\'] => none
  | '\'' :: rest => some ([], rest)
  | '\\' :: c :: rest => (quotedValue? rest).map fun (value, rest) => (c :: value, rest)
  | c :: rest => (quotedValue? rest).map fun (value, rest) => (c :: value, rest)

/-- A value and the rest. A bare value is not empty. -/
def value? (text : List Char) : Option (List Char × List Char) :=
  match text with
  | '\'' :: rest => quotedValue? rest
  | text =>
    match bareValue text with
    | ([], _) => none
    | found => some found

/-- Sets the options of a text, which has at most `fuel` of them. -/
def keyValues? (o : Options) : Nat → List Char → Option Options
  | 0, _ => some o
  | fuel + 1, text => do
    let text := trimStart text
    let key := text.takeWhile fun c => !isBlank c && c ≠ '='
    if key.isEmpty then return o
    match trimStart (text.drop key.length) with
    | '=' :: rest =>
      let (value, rest) ← value? (trimStart rest)
      keyValues? (← o.set? (String.ofList key) (String.ofList value)) fuel rest
    | _ => none

/-- The options of a text of keys and values. -/
def Options.ofKeyValues? (text : List Char) : Option Options := keyValues? {} text.length text

end RowMap.Connection
