/-!
# Tokens of declarations

A declaration is written in words, literals and marks. What stands between two brackets is one
token, so that brackets are always in pairs.
-/

namespace RowMap.Declaration

inductive Bracket
  | round
  | square
  | curly
deriving DecidableEq

def Bracket.closing : Bracket → Char
  | .round => ')'
  | .square => ']'
  | .curly => '\x7d'

/-- The bracket that a character opens. -/
def Bracket.ofOpening? : Char → Option Bracket
  | '(' => some .round
  | '[' => some .square
  | '\x7b' => some .curly
  | _ => none

inductive Token
  /-- A word, with the sign that makes a word of a reserved one. -/
  | word (name : String)
  /-- A quoted text, by what it stands for. -/
  | text (value : String)
  | number
  /-- A character, a byte or a text of bytes. -/
  | constant
  /-- A word after an apostrophe. -/
  | lifetime
  /-- A mark; `joined` if another one follows at once. -/
  | mark (sign : Char) (joined : Bool)
  | group (bracket : Bracket) (inside : List Token)

/-- The words that name nothing. -/
def reservedWords : List String :=
  ["_", "abstract", "as", "async", "await", "become", "box", "break", "const", "continue", "crate",
   "do", "dyn", "else", "enum", "extern", "false", "final", "fn", "for", "if", "impl", "in", "let",
   "loop", "macro", "match", "mod", "move", "mut", "override", "priv", "pub", "ref", "return",
   "Self", "self", "static", "struct", "super", "trait", "true", "try", "type", "typeof", "unsafe",
   "unsized", "use", "virtual", "where", "while", "yield"]

def isReserved (name : String) : Bool := reservedWords.contains name

end RowMap.Declaration
