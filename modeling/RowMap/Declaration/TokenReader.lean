import RowMap.Declaration.Token
import RowMap.Text.Characters
import RowMap.Text.Bytes
import RowMap.Text.Scanner

/-!
# Reading tokens

Blanks and comments between tokens are passed over. A comment that documents what follows it is
no blank: it stands for an attribute with its text.
-/

namespace RowMap.Declaration

open RowMap.Text (Scanner hexNumber? hexValue? isBlank)
open RowMap.Text.Scanner

/-! ## Blanks and comments -/

/-- Marks that set the direction of a text are blank too. -/
def isSpace (c : Char) : Bool := isBlank c || c = '\u200e' || c = '\u200f'

/-- A text without a return that no new line follows. -/
def hasPairedReturns : List Char → Bool
  | [] => true
  | '\r' :: '\n' :: rest => hasPairedReturns rest
  | '\r' :: _ => false
  | _ :: rest => hasPairedReturns rest

/-- The inside of a comment whose start is read, which may hold others, and the rest. -/
def commentInside : Nat → List Char → Option (List Char × List Char)
  | _, [] => none
  | depth, '/' :: '*' :: rest =>
    (commentInside (depth + 1) rest).map fun (inside, rest) => ('/' :: '*' :: inside, rest)
  | 0, '*' :: '/' :: rest => some ([], rest)
  | depth + 1, '*' :: '/' :: rest =>
    (commentInside depth rest).map fun (inside, rest) => ('*' :: '/' :: inside, rest)
  | depth, c :: rest => (commentInside depth rest).map fun (inside, rest) => (c :: inside, rest)

/-- A comment up to the end of its line. -/
def commentLine (text : List Char) : List Char × List Char := text.span (· ≠ '\n')

/-- A comment and what it documents. -/
inductive Comment
  /-- About nothing. -/
  | plain
  /-- About what follows. -/
  | outer (text : List Char)
  /-- About what it stands in. -/
  | inner (text : List Char)

/-- A comment by its first characters. -/
def comment : Scanner Comment := fun text =>
  match text with
  | '/' :: '/' :: '/' :: '/' :: rest => some (.plain, (commentLine rest).2)
  | '/' :: '/' :: '/' :: rest => documents .outer (some (commentLine rest))
  | '/' :: '/' :: '!' :: rest => documents .inner (some (commentLine rest))
  | '/' :: '/' :: rest => some (.plain, (commentLine rest).2)
  | '/' :: '*' :: '*' :: '/' :: rest => some (.plain, rest)
  | '/' :: '*' :: '*' :: '*' :: rest => (commentInside 0 ('*' :: '*' :: rest)).map ignored
  | '/' :: '*' :: '*' :: rest => documents .outer (commentInside 0 rest)
  | '/' :: '*' :: '!' :: rest => documents .inner (commentInside 0 rest)
  | '/' :: '*' :: rest => (commentInside 0 rest).map ignored
  | _ => none
where
  ignored (found : List Char × List Char) : Comment × List Char := (.plain, found.2)
  documents (about : List Char → Comment) (found : Option (List Char × List Char)) :
      Option (Comment × List Char) := do
    let (text, rest) ← found
    if hasPairedReturns text then some (about text, rest) else none

/-- What is left after blanks and comments that document nothing, of which there are fewer than
`fuel`. -/
def afterSpacesWithin : Nat → List Char → List Char
  | 0, text => text
  | fuel + 1, text =>
    let text := text.dropWhile isSpace
    match comment text with
    | some (.plain, rest) => afterSpacesWithin fuel rest
    | _ => text

def afterSpaces (text : List Char) : List Char := afterSpacesWithin (text.length + 1) text

/-- The attribute that a comment stands for. -/
def documentation : Scanner (List Token) := do
  match ← comment with
  | .plain => failure
  | .outer text => return [.mark '#' false, described text]
  | .inner text => return [.mark '#' false, .mark '!' false, described text]
where
  described (text : List Char) : Token :=
    .group .square [.word "doc", .mark '=' false, .text (String.ofList text)]

/-! ## Words -/

/-- A word starts with a letter or an underscore. What is no space and not in ASCII counts as a
letter. -/
def isWordStart (c : Char) : Bool := c.isAlpha || c = '_' || (0x80 ≤ c.toNat && !isSpace c)

def isWordPart (c : Char) : Bool := isWordStart c || c.isDigit

def plainWord : Scanner String := do
  let first ← char isWordStart
  return String.ofList (first :: (← run isWordPart))

/-- What starts a literal and no word. -/
def literalStarts : List (List Char) :=
  ["r\"", "r#\"", "r##", "b\"", "b'", "br\"", "br#", "c\"", "cr\"", "cr#"].map String.toList

/-- A word, with the sign that makes a word of a reserved one. Some words stay reserved. -/
def word : Scanner String := do
  let text ← rest
  if literalStarts.any fun start => start.isPrefixOf text then failure
  if ← accepts ['r', '#'] then
    let name ← plainWord
    if ["_", "super", "self", "Self", "crate"].contains name then failure
    return "r#" ++ name
  else plainWord

/-! ## Literals -/

/-- The character that a letter stands for after a backslash. -/
def shortEscape? : Char → Option Char
  | 'n' => some '\n'
  | 'r' => some '\r'
  | 't' => some '\t'
  | '\\' => some '\\'
  | '0' => some '\x00'
  | '\'' => some '\''
  | '"' => some '"'
  | _ => none

/-- The character of a scalar value in hexadecimal digits. -/
def scalar? (digits : List Char) : Option Char := do
  let n ← hexNumber? digits
  if n.isValidChar then some (Char.ofNat n) else none

def isHexDigit (c : Char) : Bool := (hexValue? c).isSome

/-- The character that a backslash and the characters after it stand for. -/
def escaped : Scanner Char := do
  literal ['\\']
  let c ← char fun _ => true
  match c with
  | 'x' =>
    let a ← char fun c => '0' ≤ c && c ≤ '7'
    let b ← char isHexDigit
    scalar? [a, b]
  | 'u' =>
    literal ['\x7b']
    let first ← char isHexDigit
    let more ← run fun c => isHexDigit c || c = '_'
    literal ['\x7d']
    let digits := first :: more.filter (· ≠ '_')
    if 6 < digits.length then failure
    scalar? digits
  | c => shortEscape? c

/-- The end of a line, which may have a return before it. -/
def lineEnd : Scanner Char := do
  let _ ← accepts ['\r']
  char (· = '\n')

/-- A backslash at the end of a line, with the blanks after it. -/
def lineJoin : Scanner Unit := do
  literal ['\\']
  let _ ← lineEnd
  let _ ← many (char (fun c => c = ' ' || c = '\t') <|> lineEnd)

/-- A text between quotes, where a backslash escapes and the end of a line is a new line. -/
def quotedText : Scanner String := do
  literal ['"']
  let pieces ← many <|
    run1 (fun c => c ≠ '"' && c ≠ '\\' && c ≠ '\r') <|>
    (do return [← escaped]) <|> (do lineJoin; return []) <|> (do return [← lineEnd])
  literal ['"']
  return String.ofList pieces.flatten

/-- The characters before some closing ones. -/
def before (closing : List Char) : List Char → Option (List Char × List Char)
  | [] => none
  | c :: rest =>
    if closing.isPrefixOf (c :: rest) then some ([], (c :: rest).drop closing.length)
    else (before closing rest).map fun (head, rest) => (c :: head, rest)

/-- A raw text, with as many number signs after it as before it, where nothing escapes. -/
def rawText : Scanner String := do
  literal ['r']
  let signs ← run (· = '#')
  literal ['"']
  let text ← before ('"' :: signs)
  if 255 < signs.length || !hasPairedReturns text then failure
  return String.ofList text

/-- A text between quotes that stands for bytes. -/
def quotedBytes : Scanner Unit := do
  literal ['"']
  let _ ← many <|
    (do let _ ← run1 fun c => c ≠ '"' && c ≠ '\\') <|>
    (do literal ['\\']; let _ ← char fun _ => true)
  literal ['"']

/-- A text that stands for bytes, quoted or raw. -/
def bytesText : Scanner Unit := do
  let _ ← char fun c => c = 'b' || c = 'c'
  (do let _ ← rawText) <|> quotedBytes

def quotedCharacter : Scanner Unit := do
  literal ['\'']
  let _ ← escaped <|> char (· ≠ '\\')
  literal ['\'']

/-- A byte between apostrophes, as a character or escaped. -/
def quotedByte : Scanner Unit := do
  literal ['b', '\'']
  if ← accepts ['\\', 'x'] then
    let _ ← char isHexDigit
    let _ ← char isHexDigit
  else
    let _ ← accepts ['\\']
    let _ ← char fun _ => true
  literal ['\'']

def isNumberPart (c : Char) : Bool := c.isDigit || c = '_'

/-- A point and the digits after it. Two points and a point before a word belong to no number. -/
def fraction : Scanner Unit := do
  literal ['.']
  if (← peek).any fun c => c = '.' || isWordStart c then failure
  let _ ← run isNumberPart

def exponent : Scanner Unit := do
  let _ ← char fun c => c = 'e' || c = 'E'
  let _ ← option (char fun c => c = '+' || c = '-')
  let _ ← char Char.isDigit
  let _ ← run isNumberPart

/-- A number. Letters of other bases are read as the word that may stick to any literal. -/
def number : Scanner Unit := do
  let _ ← char Char.isDigit
  let _ ← run isNumberPart
  let _ ← option fraction
  let _ ← option exponent

/-- A literal, with a word that may stick to it. -/
def literalToken : Scanner Token := do
  let token ← (do return .text (← quotedText <|> rawText)) <|>
    (do bytesText <|> quotedByte <|> quotedCharacter; return .constant) <|>
    (do number; return .number)
  let _ ← option plainWord
  return token

/-! ## Marks -/

def isMark (c : Char) : Bool := "~!@#$%^&*-=+|;:,<.>/?".toList.contains c

/-- A mark comes next, and no comment. -/
def startsMark : List Char → Bool
  | '/' :: '/' :: _ | '/' :: '*' :: _ => false
  | c :: _ => isMark c || c = '\''
  | [] => false

def markToken : Scanner Token := do
  if !startsMark (← rest) then failure
  let sign ← char isMark
  return .mark sign (startsMark (← rest))

def lifetimeToken : Scanner Token := do
  literal ['\'']
  let _ ← word
  if (← peek) = some '\'' then failure
  return .lifetime

/-! ## Tokens -/

/-- The tokens that stand for what comes next, brackets apart. -/
def leaf : Scanner (List Token) :=
  documentation <|>
    (do return [← literalToken <|> lifetimeToken <|> markToken <|> (do return .word (← word))])

/-- Fewer than `fuel` tokens, up to a closing bracket that belongs to none of them. -/
def tokensWithin : Nat → Scanner (List Token)
  | 0, _ => none
  | fuel + 1, text =>
    match afterSpaces text with
    | [] => some ([], [])
    | c :: rest =>
      if [Bracket.round, .square, .curly].any fun b => c = b.closing then some ([], c :: rest)
      else match Bracket.ofOpening? c with
        | some bracket => do
          let (inside, rest) ← tokensWithin fuel rest
          let ((), rest) ← literal [bracket.closing] rest
          let (more, rest) ← tokensWithin fuel rest
          return (.group bracket inside :: more, rest)
        | none => do
          let (found, rest) ← leaf (c :: rest)
          let (more, rest) ← tokensWithin fuel rest
          return (found ++ more, rest)

/-- The tokens of a text. -/
def tokens? (text : List Char) : Option (List Token) := whole? (tokensWithin (text.length + 1)) text

/-- The name that a text is. -/
def name? (text : List Char) : Option String := do
  match ← tokens? text with
  | [.word name] => if isReserved name then none else some name
  | _ => none

end RowMap.Declaration
