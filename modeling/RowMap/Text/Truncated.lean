/-!
# Texts cut to a number of bytes

A text that is too long is cut at the last boundary between two characters within the limit.
-/

namespace RowMap.Text

/-- The number of bytes of a text in UTF-8. -/
def byteLength (text : List Char) : Nat := text.foldr (fun c n => c.utf8Size + n) 0

/-- A position in bytes at which a character starts or the text ends. -/
def isBoundary : List Char → Nat → Bool
  | _, 0 => true
  | [], _ + 1 => false
  | c :: rest, n => c.utf8Size ≤ n && isBoundary rest (n - c.utf8Size)

/-- The last boundary that is not after a position, found by stepping back. -/
def boundaryBefore (text : List Char) : Nat → Nat
  | 0 => 0
  | n + 1 => if isBoundary text (n + 1) then n + 1 else boundaryBefore text n

/-- The characters before a boundary. -/
def takeBytes : List Char → Nat → List Char
  | [], _ => []
  | c :: rest, n => if n = 0 then [] else c :: takeBytes rest (n - c.utf8Size)

/-- The text, or the part of it that fits the limit. -/
def truncated (limit : Nat) (text : List Char) : List Char :=
  if byteLength text ≤ limit then text else takeBytes text (boundaryBefore text limit)

end RowMap.Text
