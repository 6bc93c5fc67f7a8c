import RowMap.Declaration.Phrase
import RowMap.Declaration.TokenReader
import RowMap.Declaration.TypeExpr

/-!
# Reading types

A type is read as far as its name needs it: the insides of types without a name are passed over.
A sum is a type with a plus between its bounds. Some places take no sums, since what follows the
plus belongs to a type around them.
-/

namespace RowMap.TypeExpr

open RowMap.Declaration (Token Phrase isReserved tokens?)
open RowMap.Declaration.Phrase

/-- A name in a path and its arguments. -/
abbrev Segment := String × List (Option TypeExpr)

/-- How a type is read, given whether it may be a sum. -/
abbrev TypePhrase := Bool → Phrase TypeExpr

/-! ## Bounds -/

/-- What is left after a closing angle bracket. -/
def afterAngle : List Token → Option (List Token)
  | [] => none
  | .mark '>' _ :: rest => some rest
  | _ :: rest => afterAngle rest

/-- A word and names between angle brackets after it. -/
def withAngles (name : String) : Phrase Unit := do
  keyword name
  mark '<'
  fun tokens => (afterAngle tokens).map ((), ·)

def lifetime : Phrase Unit
  | .lifetime :: rest => some ((), rest)
  | _ => none

/-- What may stand before the path of a bound. -/
def boundStart : Phrase Unit := do
  let _ ← accepts (mark '?')
  let _ ← accepts (mark '~')
  let _ ← accepts (keyword "const")
  let _ ← accepts (keyword "async")
  let _ ← accepts (withAngles "for")

/-- A lifetime, names that are captured, or a path, perhaps in brackets. -/
def bound (path : Phrase (List Segment)) : Phrase Unit :=
  lifetime <|> withAngles "use" <|> (do let _ ← group .round) <|>
    (do boundStart; let _ ← path)

def startsBound : List Token → Bool
  | .word _ :: _ | .lifetime :: _ | .mark '?' _ :: _ | .group .round _ :: _ => true
  | .mark ':' true :: .mark ':' _ :: _ => true
  | _ => false

/-- Bounds after others, each after a plus, and perhaps a plus after them. -/
def moreBoundsWithin (path : Phrase (List Segment)) : Nat → Phrase Unit
  | 0 => failure
  | fuel + 1 => do
    if ← accepts (mark '+') then
      if ← sees startsBound then
        bound path
        moreBoundsWithin path fuel

def moreBounds (path : Phrase (List Segment)) : Phrase Unit := fun tokens =>
  moreBoundsWithin path (tokens.length + 1) tokens

/-- Bounds, a single one if there may be no sum. -/
def bounds (path : Phrase (List Segment)) (sums : Bool) : Phrase Unit := do
  bound path
  if sums then moreBounds path

/-! ## Paths -/

def opensArguments : List Token → Bool
  | .mark '<' true :: .mark '=' _ :: _ => false
  | .mark '<' _ :: _ | .mark ':' true :: .mark ':' _ :: .mark '<' _ :: _ => true
  | _ => false

def endsArguments : List Token → Bool
  | .mark '>' _ :: _ => true
  | _ => false

/-- A constant as an argument. -/
def constant : Phrase Unit
  | .text _ :: rest | .number :: rest | .constant :: rest => some ((), rest)
  | .mark '-' _ :: .number :: rest | .group .curly _ :: rest => some ((), rest)
  | .word "true" :: rest | .word "false" :: rest => some ((), rest)
  | _ => none

def isName : TypeExpr → Bool
  | .path [_] => true
  | _ => false

def endsBounds : List Token → Bool
  | .mark ',' _ :: _ | .mark '>' _ :: _ => true
  | _ => false

def startsSum : List Token → Bool
  | .lifetime :: .mark '+' _ :: _ => true
  | _ => false

/-- An argument between angle brackets. Lifetimes, constants and what is said of named types are no
types. -/
def argument (type : TypePhrase) (path : Phrase (List Segment)) : Phrase (Option TypeExpr) := do
  if !(← sees startsSum) then
    if (← accepts lifetime) || (← accepts constant) then return none
  let t ← type true
  if isName t then
    if ← accepts (mark '=') then
      if !(← accepts constant) then
        let _ ← type true
      return none
    if ← accepts (mark ':') then
      if !(← sees endsBounds) then bounds path true
      return none
  return some t

/-- The words that may stand in a path although they are reserved. -/
def pathWords : List String := ["super", "self", "Self", "crate", "try"]

def segment (type : TypePhrase) (path : Phrase (List Segment)) : Phrase Segment := do
  let name ← anyWord
  if isReserved name && !pathWords.contains name then failure
  if ← sees opensArguments then
    let _ ← accepts (marks ':' ':')
    mark '<'
    let arguments ← listed endsArguments (argument type path)
    mark '>'
    return (name, arguments)
  return (name, [])

/-- Two colons and a name, or a round bracket, come next. -/
def goesOn : List Token → Bool
  | .mark ':' true :: .mark ':' _ :: .group .round _ :: _ => false
  | .mark ':' true :: .mark ':' _ :: _ => true
  | _ => false

def takesValues : List Token → Bool
  | .mark ':' true :: .mark ':' _ :: .group .round _ :: _ | .group .round _ :: _ => true
  | _ => false

/-- The segments after some. Those of a function's interface have its arguments in round brackets
and its result after an arrow. -/
def segmentsAfterWithin (type : TypePhrase) (path : Phrase (List Segment)) :
    Nat → Phrase (List Segment)
  | 0 => failure
  | fuel + 1 => do
    if ← sees goesOn then
      marks ':' ':'
      let s ← segment type path
      return s :: (← segmentsAfterWithin type path fuel)
    if ← sees takesValues then
      let _ ← accepts (marks ':' ':')
      let _ ← group .round
      if ← accepts (marks '-' '>') then
        let _ ← type false
        return []
      segmentsAfterWithin type path fuel
    else return []

def segmentsAfter (type : TypePhrase) (path : Phrase (List Segment)) : Phrase (List Segment) :=
  fun tokens => segmentsAfterWithin type path (tokens.length + 1) tokens

/-- A path, in the bounds of which there may be fewer than `fuel` others. -/
def segmentsWithin (type : TypePhrase) : Nat → Phrase (List Segment)
  | 0 => failure
  | fuel + 1 => do
    let path := segmentsWithin type fuel
    let _ ← accepts (marks ':' ':')
    let first ← segment type path
    return first :: (← segmentsAfter type path)

/-! ## Types -/

def seesPlus : List Token → Bool
  | .mark '+' _ :: _ => true
  | _ => false

/-- A mark that calls comes next, and no inequality. -/
def calls : List Token → Bool
  | .mark '!' true :: .mark '=' _ :: _ => false
  | .mark '!' _ :: _ => true
  | _ => false

/-- A type that starts with a name. -/
def named (path : Phrase (List Segment)) (sums quantified : Bool) : Phrase TypeExpr := do
  let segments ← path
  if ← sees calls then
    mark '!'
    let _ ← group .round <|> group .square <|> group .curly
    return .other
  if quantified || (sums && (← sees seesPlus)) then
    if sums then moreBounds path
    return .other
  return .path segments

/-- A path from a type, which may name the interface that the path is part of. -/
def qualified (type : TypePhrase) (path : Phrase (List Segment)) : Phrase TypeExpr := do
  mark '<'
  let _ ← type true
  let interface ← if ← accepts (keyword "as") then path else pure []
  mark '>'
  marks ':' ':'
  return .path (interface ++ (← path))

/-- The type that stands between round brackets. One type without a comma is no tuple. -/
def tuple? (type : TypePhrase) (inside : List Token) : Option TypeExpr :=
  match inside with
  | [] => some (.tuple [])
  | .lifetime :: _ | .mark '?' _ :: _ => some .other
  | _ => inside |> whole? do
    let first ← type true
    if ← accepts (mark ',') then
      return .tuple (first :: (← listed List.isEmpty (type true)))
    return .other

/-- The type that stands between square brackets: an array, which has a length after a semicolon,
or a slice. -/
def array? (type : TypePhrase) (inside : List Token) : Option TypeExpr :=
  match type true inside with
  | some (_, []) => some .slice
  | some (_, .mark ';' _ :: _ :: _) => some .array
  | _ => none

/-- A function, after the word that starts it. -/
def function (type : TypePhrase) : Phrase Unit := do
  let _ ← accepts (keyword "unsafe")
  if ← accepts (keyword "extern") then
    let _ ← accepts constant
  keyword "fn"
  let _ ← group .round
  if ← accepts (marks '-' '>') then
    let _ ← type false

/-- A type inside fewer than `fuel` others. -/
def typeWithin : Nat → TypePhrase
  | 0, _ => failure
  | fuel + 1, sums => do
    let type := typeWithin fuel
    let path := segmentsWithin type (fuel + 1)
    let quantified ← accepts (withAngles "for")
    let rest (s : Phrase Unit) : Phrase TypeExpr := do s; return .other
    match ← peek with
    | some (.group .round inside) =>
      let _ ← group .round
      let t ← fun tokens => (tuple? type inside).map (·, tokens)
      if sums && (← sees seesPlus) then rest (moreBounds path) else return t
    | some (.group .square inside) =>
      let _ ← group .square
      fun tokens => (array? type inside).map (·, tokens)
    | some (.mark '&' _) =>
      mark '&'
      let _ ← accepts lifetime
      let _ ← accepts (keyword "mut")
      let _ ← type false
      return .reference
    | some (.mark '*' _) => rest do
      mark '*'
      keyword "const" <|> keyword "mut"
      let _ ← type false
    | some (.mark '!' _) => rest (mark '!')
    | some (.mark '<' _) => qualified type path
    | some .lifetime => rest (bounds path true)
    | some (.word "_") => rest (keyword "_")
    | some (.word "dyn") => rest do
      keyword "dyn"
      let _ ← accepts (mark '*')
      bounds path sums
    | some (.word "impl") => rest do
      keyword "impl"
      bounds path sums
    | some (.word name) =>
      if ["fn", "unsafe", "extern"].contains name then rest (function type)
      else named path sums quantified
    | some (.mark ':' _) => named path sums quantified
    | _ => failure
where
  peek : Phrase (Option Token) := fun tokens => some (tokens.head?, tokens)

/-- The type that a whole text writes. -/
def read? (text : List Char) : Option TypeExpr := do
  whole? (typeWithin (text.length + 1) true) (← tokens? text)

end RowMap.TypeExpr
