/-!
# Scanners

A scanner takes what it reads from the start of a text and leaves the rest.
-/

namespace RowMap.Text

abbrev Scanner (α : Type) := StateT (List Char) Option α

namespace Scanner

variable {α : Type}

/-- The next character, which stays. -/
def peek : Scanner (Option Char) := fun text => some (text.head?, text)

/-- What is left. -/
def rest : Scanner (List Char) := fun text => some (text, text)

/-- What a scanner would read, which stays. -/
def ahead (s : Scanner α) : Scanner (Option α) := fun text => some ((s text).map Prod.fst, text)

/-- The next character, if it satisfies a test. -/
def char (p : Char → Bool) : Scanner Char := fun text =>
  match text with
  | c :: rest => if p c then some (c, rest) else none
  | [] => none

/-- Exactly these characters. -/
def literal (expected : List Char) : Scanner Unit := fun text =>
  if expected.isPrefixOf text then some ((), text.drop expected.length) else none

/-- These characters, if they come next. -/
def accepts (expected : List Char) : Scanner Bool := fun text =>
  if expected.isPrefixOf text then some (true, text.drop expected.length) else some (false, text)

/-- As many characters as satisfy a test. -/
def run (p : Char → Bool) : Scanner (List Char) := fun text => some (text.span p)

/-- As many characters as satisfy a test, at least one. -/
def run1 (p : Char → Bool) : Scanner (List Char) := fun text =>
  match text.span p with
  | ([], _) => none
  | found => some found

/-- What a scanner reads as often as it succeeds, at most `fuel` times. -/
def manyWithin (s : Scanner α) : Nat → List Char → List α × List Char
  | 0, text => ([], text)
  | fuel + 1, text =>
    match s text with
    | some (a, rest) =>
      let (more, rest) := manyWithin s fuel rest
      (a :: more, rest)
    | none => ([], text)

/-- As often as it succeeds, for a scanner that reads at least one character. -/
def many (s : Scanner α) : Scanner (List α) := fun text => some (manyWithin s text.length text)

/-- A scanner or nothing. -/
def option (s : Scanner α) : Scanner (Option α) := fun text =>
  match s text with
  | some (a, rest) => some (some a, rest)
  | none => some (none, text)

/-- One or more, with a character between them. -/
def separated (mark : Char) (s : Scanner α) : Scanner (List α) := do
  let first ← s
  return first :: (← many (do literal [mark]; s))

/-- The end of the text. -/
def finish : Scanner Unit := fun text => if text.isEmpty then some ((), []) else none

/-- What a scanner reads from a whole text. -/
def whole? (s : Scanner α) (text : List Char) : Option α :=
  match s text with
  | some (a, []) => some a
  | _ => none

end Scanner

end RowMap.Text
