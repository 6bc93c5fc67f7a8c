import RowMap.Toml.Number
import RowMap.Toml.Text

/-!
# Reading configuration texts

A text is read as lines of entries and headers; the sections they form build its tables.
-/

namespace RowMap.Toml

open RowMap.Text (Scanner)
open RowMap.Text.Scanner

def scanBoolean : Scanner Toml := do
  if ← accepts ['t', 'r', 'u', 'e'] then return .boolean true
  literal ['f', 'a', 'l', 's', 'e']
  return .boolean false

def scanScalar : Scanner Toml := Toml.string <$> scanString <|> scanMoment <|> scanFloat <|> scanInteger <|> scanBoolean

/-- Items with commas between them, also over several lines and with a comma after the last. -/
def scanArray (item : Scanner Toml) : Scanner Toml := do
  literal ['[']
  let items ← option (separated ',' (do gaps; let item ← item; gaps; return item))
  if items.isSome then
    let _ ← accepts [',']
  gaps
  literal [']']
  return .array (items.getD [])

/-- A key and its value. -/
def scanEntry (item : Scanner Toml) : Scanner (Key × Toml) := do
  let key ← key
  literal ['=']
  let _ ← blanks
  let value ← item
  let _ ← blanks
  return (key, value)

/-- Entries between braces, on one line. -/
def scanInlineTable (item : Scanner Toml) : Scanner Toml := do
  literal ['\x7b']
  let entries ← option (separated ',' (scanEntry item))
  let _ ← blanks
  literal ['\x7d']
  return .table .inline (← Entries.addAll? [] (entries.getD []))

/-- A value with fewer than `depth` arrays and tables inside each other. -/
def scanValue : Nat → Scanner Toml
  | 0 => failure
  | 1 => scanScalar
  | depth + 1 => scanScalar <|> scanArray (scanValue depth) <|> scanInlineTable (scanValue depth)

/-! ## Lines and sections -/

inductive Line
  | entry (key : Key) (value : Toml)
  | header (header : Header)

def scanHeader : Scanner Header := do
  literal ['[']
  let repeated ← accepts ['[']
  let key ← key
  literal (if repeated then [']', ']'] else [']'])
  return if repeated then .repeated key else .single key

/-- A line that holds something. -/
def scanLine : Scanner Line := do
  let line ← Line.header <$> scanHeader <|>
    (fun (key, value) => .entry key value) <$> scanEntry (scanValue 80)
  let _ ← blanks
  let _ ← option comment
  newline <|> finish
  return line

/-- The entries before the first header, and the sections. -/
def sections : List Line → List (Key × Toml) × List Section
  | [] => ([], [])
  | .entry key value :: lines =>
    let (entries, more) := sections lines
    ((key, value) :: entries, more)
  | .header header :: lines =>
    let (entries, more) := sections lines
    ([], ⟨header, entries⟩ :: more)

/-- A text without the mark of its byte order. -/
def withoutMark : List Char → List Char
  | '\uFEFF' :: text => text
  | text => text

/-- The entries that a text holds. -/
def read? (text : List Char) : Option Entries := do
  let lines ← whole? (do gaps; many (do let line ← scanLine; gaps; return line)) (withoutMark text)
  let (entries, more) := sections lines
  more.foldlM (fun root s => s.addTo? root) (← Entries.addAll? [] entries)

end RowMap.Toml
