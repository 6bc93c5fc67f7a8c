import RowMap.Text.Bytes
import RowMap.Text.Scanner
import RowMap.Toml.Basic

/-!
# Blanks, strings and keys

Strings stand between quotes, where a backslash escapes, or between apostrophes, where nothing does.
Three marks open and close a string of several lines; one or two of them may stand inside it.
-/

namespace RowMap.Toml

open RowMap.Text (Scanner hexNumber?)
open RowMap.Text.Scanner

/-! ## Blanks and comments -/

def isBlank (c : Char) : Bool := c = ' ' || c = '\t'

def blanks : Scanner (List Char) := run isBlank

/-- A character that comments and strings may hold. -/
def isPlain (c : Char) : Bool := c = '\t' || (0x20 ≤ c.toNat && c.toNat ≠ 0x7F)

def newline : Scanner Unit := literal ['\n'] <|> literal ['\r', '\n']

def comment : Scanner Unit := do
  literal ['#']
  let _ ← run isPlain

/-- Blanks, comments and ends of lines. -/
def gaps : Scanner Unit := do
  let _ ← many (newline <|> comment <|> (do let _ ← run1 isBlank))

/-! ## Strings -/

/-- The character that a letter stands for after a backslash. -/
def shortEscape? : Char → Option Char
  | 'b' => some '\x08'
  | 't' => some '\t'
  | 'n' => some '\n'
  | 'f' => some '\x0c'
  | 'r' => some '\r'
  | '"' => some '"'
  | '\\' => some '\\'
  | _ => none

/-- The character with a scalar value. -/
def charOf? (n : Nat) : Option Char := if n.isValidChar then some (Char.ofNat n) else none

/-- The character of a scalar value in so many hexadecimal digits. -/
def scalarEscape (width : Nat) : Scanner Char := fun text => do
  if text.length < width then none
  let c ← charOf? (← hexNumber? (text.take width))
  return (c, text.drop width)

/-- What a backslash and the characters after it stand for. -/
def escape : Scanner (List Char) := do
  literal ['\\']
  let c ← char fun _ => true
  match c with
  | 'u' => return [← scalarEscape 4]
  | 'U' => return [← scalarEscape 8]
  | c => return [← shortEscape? c]

/-- A backslash at the end of a line, which takes the blanks and line ends after it away. -/
def continuation : Scanner (List Char) := do
  literal ['\\']
  let _ ← blanks
  newline
  let _ ← many (newline <|> (do let _ ← run1 isBlank))
  return []

/-- A run of characters that stand for themselves. -/
def plainRun (mark : Char) : Scanner (List Char) := run1 fun c => isPlain c && c ≠ mark

/-- The same, where a backslash escapes. -/
def unescapedRun : Scanner (List Char) := run1 fun c => isPlain c && c ≠ '"' && c ≠ '\\'

/-- A string on one line: pieces between two marks. -/
def singleLine (mark : Char) (piece : Scanner (List Char)) : Scanner String := do
  literal [mark]
  let pieces ← many piece
  literal [mark]
  return String.ofList pieces.flatten

/-- One or two marks that do not close. -/
def innerMarks (mark : Char) : Scanner (List Char) := fun text =>
  match text.span (· = mark) with
  | ([], _) | (_, []) => none
  | (marks, rest) => if marks.length ≤ 2 then some (marks, rest) else none

/-- Three marks that close, after at most two that do not. -/
def closingMarks (mark : Char) : Scanner (List Char) := fun text =>
  let (marks, rest) := text.span (· = mark)
  if 3 ≤ marks.length ∧ marks.length ≤ 5 then some (marks.drop 3, rest) else none

/-- A string of several lines. An end of line is one character, and one at the start is dropped. -/
def multiLine (mark : Char) (piece : Scanner (List Char)) : Scanner String := do
  literal [mark, mark, mark]
  let _ ← option newline
  let pieces ← many (piece <|> (do newline; return ['\n']) <|> innerMarks mark)
  return String.ofList (pieces.flatten ++ (← closingMarks mark))

def lineString : Scanner String :=
  singleLine '"' (unescapedRun <|> escape) <|> singleLine '\'' (plainRun '\'')

def scanString : Scanner String :=
  multiLine '"' (unescapedRun <|> continuation <|> escape) <|> multiLine '\'' (plainRun '\'') <|>
    lineString

/-! ## Keys -/

def isBare (c : Char) : Bool := c.isAlphanum || c = '-' || c = '_'

def keyPart : Scanner String := do
  let _ ← blanks
  let part ← lineString <|> String.ofList <$> run1 isBare
  let _ ← blanks
  return part

/-- A key of fewer than eighty parts with points between them. -/
def key : Scanner Key := do
  let parts ← separated '.' keyPart
  if 80 ≤ parts.length then failure
  return ⟨parts.dropLast, ← parts.getLast?⟩

end RowMap.Toml
