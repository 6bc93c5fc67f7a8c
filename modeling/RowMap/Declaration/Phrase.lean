import RowMap.Declaration.Token

/-!
# Phrases

A phrase takes what it reads from the start of a list of tokens and leaves the rest.
-/

namespace RowMap.Declaration

abbrev Phrase (α : Type) := StateT (List Token) Option α

namespace Phrase

variable {α : Type}

/-- What is left satisfies a test. -/
def sees (p : List Token → Bool) : Phrase Bool := fun tokens => some (p tokens, tokens)

/-- A phrase if it can be read, and whether it is. -/
def accepts (s : Phrase Unit) : Phrase Bool := fun tokens =>
  match s tokens with
  | some ((), rest) => some (true, rest)
  | none => some (false, tokens)

def anyWord : Phrase String
  | .word name :: rest => some (name, rest)
  | _ => none

def keyword (name : String) : Phrase Unit
  | .word given :: rest => if given = name then some ((), rest) else none
  | _ => none

def mark (sign : Char) : Phrase Unit
  | .mark given _ :: rest => if given = sign then some ((), rest) else none
  | _ => none

/-- Two marks that are one. -/
def marks (first second : Char) : Phrase Unit
  | .mark a true :: .mark b _ :: rest => if a = first && b = second then some ((), rest) else none
  | _ => none

/-- What stands between brackets. -/
def group (bracket : Bracket) : Phrase (List Token)
  | .group given inside :: rest => if given = bracket then some (inside, rest) else none
  | _ => none

/-- What a phrase reads from a whole list. -/
def whole? (s : Phrase α) (tokens : List Token) : Option α :=
  match s tokens with
  | some (a, []) => some a
  | _ => none

/-- Up to an end, fewer than `fuel` of what a phrase reads, with commas between them and perhaps
after them. -/
def listedWithin (isEnd : List Token → Bool) (s : Phrase α) : Nat → Phrase (List α)
  | 0 => failure
  | fuel + 1 => do
    if ← sees isEnd then return []
    let a ← s
    if ← sees isEnd then return [a]
    mark ','
    return a :: (← listedWithin isEnd s fuel)

/-- Up to an end, what a phrase reads, with commas between. -/
def listed (isEnd : List Token → Bool) (s : Phrase α) : Phrase (List α) := fun tokens =>
  listedWithin isEnd s (tokens.length + 1) tokens

end Phrase

end RowMap.Declaration
