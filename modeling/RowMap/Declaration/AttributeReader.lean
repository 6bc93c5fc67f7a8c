import RowMap.Declaration.Attribute
import RowMap.Declaration.Token

/-!
# Reading attributes

Items have commas between them and perhaps after the last. A reserved word is as good as any other
in the path of an item.
-/

namespace RowMap.Declaration

/-! ## Paths -/

/-- The words of a path, each after two colons: whether there are any, and the rest. -/
def pathAfter : List Token → Except SyntaxFault (Bool × List Token)
  | .mark ':' true :: .mark ':' _ :: .word _ :: rest => do
    let (_, rest) ← pathAfter rest
    return (true, rest)
  | [.mark ':' true, .mark ':' _] => throw .expectedWordAtEnd
  | .mark ':' true :: .mark ':' _ :: _ => throw .expectedWord
  | rest => return (false, rest)

/-- A path: its word, if it is a single one, and the rest. -/
def pathOf (tokens : List Token) : Except SyntaxFault (Option String × List Token) :=
  let (isGlobal, tokens) := match tokens with
    | .mark ':' true :: .mark ':' _ :: rest => (true, rest)
    | _ => (false, tokens)
  match tokens with
  | [] => throw .expectedItemAtEnd
  | .word name :: rest => do
    let (more, rest) ← pathAfter rest
    return (if isGlobal || more then none else some name, rest)
  | .text _ :: _ | .number :: _ | .constant :: _ | .mark '-' _ :: .number :: _ =>
    throw .literalForItem
  | _ => throw .tokenForItem

/-! ## Items -/

/-- Nothing more of an item comes. -/
def isItemEnd : List Token → Bool
  | [] | .mark ',' _ :: _ => true
  | _ => false

/-- What stands after a path, and the rest. -/
def argumentOf (tokens : List Token) : Argument × List Token :=
  match tokens with
  | .mark '=' _ :: .text value :: rest => (.text value (isItemEnd rest), rest)
  | [.mark '=' _] => (.malformed .expectedTextAtEnd, [])
  | .mark '=' _ :: rest => (.malformed .expectedText, rest)
  | _ => (if isItemEnd tokens then .absent else .malformed .expectedEquals, tokens)

/-- The items of a list that holds fewer than `fuel`, and what ends reading before its end. What
follows an item that is not closed is left. -/
def itemsWithin : Nat → List Token → List Item × Option SyntaxFault
  | 0, _ | _, [] => ([], none)
  | fuel + 1, tokens =>
    match pathOf tokens with
    | .error fault => ([], some fault)
    | .ok (name, rest) =>
      let (argument, rest) := argumentOf rest
      let (more, fault) := match rest with
        | .mark ',' _ :: rest => itemsWithin fuel rest
        | _ => ([], none)
      (⟨name, argument⟩ :: more, fault)

/-! ## Attributes -/

/-- The list with the items of some tokens. -/
def Attribute.ofItems (tokens : List Token) : Attribute :=
  let (items, fault) := itemsWithin (tokens.length + 1) tokens
  .list items fault

/-- The attribute that tokens write, which is none if it is not about records. -/
def Attribute.ofTokens? (tokens : List Token) : Option (Option Attribute) := do
  let (name, rest) ← (pathOf tokens).toOption
  let found ← match rest with
    | [] => some Attribute.bare
    | .mark '=' _ :: _ :: _ => some .assigned
    | [.group _ inside] => some (.ofItems inside)
    | _ => none
  return if name = some "record" then some found else none

end RowMap.Declaration
