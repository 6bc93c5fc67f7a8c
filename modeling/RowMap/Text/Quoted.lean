import RowMap.Text.Bytes
import RowMap.Text.Unshown

/-!
# Quoted text

A text between quotes, in which every character can be told from every other: the quote and the
backslash are escaped, control characters have short names, and what cannot be seen is written as
its scalar value in hexadecimal.
-/

namespace RowMap.Text

/-- One character as written between quotes `quote`. -/
def escaped (quote c : Char) : List Char :=
  if c = quote || c = '\\' then ['\\', c]
  else if c = '\x00' then ['\\', '0']
  else if c = '\t' then ['\\', 't']
  else if c = '\r' then ['\\', 'r']
  else if c = '\n' then ['\\', 'n']
  else if c.toNat < 0x20 || (0x7F ≤ c.toNat && isUnshown c) then
    ['\\', 'u', '\x7b'] ++ hexDigits c.toNat ++ ['\x7d']
  else [c]

/-- A text between double quotes. -/
def quoted (text : List Char) : List Char :=
  '"' :: (text.flatMap (escaped '"') ++ ['"'])

/-- A single character between single quotes. -/
def quotedChar (c : Char) : List Char := '\'' :: (escaped '\'' c ++ ['\''])

end RowMap.Text
