/-!
# Written attributes

An attribute that describes a record or a field is a list of items in parentheses. An item is a
path, alone or with a text after an equals sign. Reading a list stops where it cannot go on; what
was read before is kept, since its own faults come first.
-/

namespace RowMap.Declaration

/-- What stands where something else should. -/
inductive SyntaxFault
  /-- An attribute without a list. -/
  | bare
  /-- An attribute with a value in place of a list. -/
  | assigned
  | expectedEquals
  | expectedText
  | expectedTextAtEnd
  | expectedComma
  | literalForItem
  | tokenForItem
  | expectedItemAtEnd
  | expectedWord
  | expectedWordAtEnd
deriving DecidableEq

def SyntaxFault.message : SyntaxFault → String
  | .bare => "expected attribute arguments in parentheses: #[record(...)]"
  | .assigned => "expected parentheses: #[record(...)]"
  | .expectedEquals => "expected `=`"
  | .expectedText => "expected string literal"
  | .expectedTextAtEnd => "unexpected end of input, expected string literal"
  | .expectedComma => "expected `,`"
  | .literalForItem => "unexpected literal in nested attribute, expected ident"
  | .tokenForItem => "unexpected token in nested attribute, expected ident"
  | .expectedItemAtEnd => "unexpected end of input, expected nested attribute"
  | .expectedWord => "expected ident"
  | .expectedWordAtEnd => "unexpected end of input, expected ident"

/-- What stands after the path of an item. -/
inductive Argument
  | absent
  /-- A text after an equals sign; `closed` if the item ends there. -/
  | text (value : String) (closed : Bool)
  /-- Something that is no text after an equals sign, and what is wrong with it as one. -/
  | malformed (fault : SyntaxFault)
deriving DecidableEq

structure Item where
  /-- The path, if it is a single word. -/
  word : Option String
  argument : Argument
deriving DecidableEq

inductive Attribute
  | bare
  | assigned
  /-- The items of a list, and what ended reading before its end. -/
  | list (items : List Item) (fault : Option SyntaxFault)
deriving DecidableEq

/-- The text after an item's path, which must be there and end the item. -/
def Argument.text? : Argument → Except SyntaxFault (String × Bool)
  | .absent => .error .expectedEquals
  | .text value closed => .ok (value, closed)
  | .malformed fault => .error fault

/-- Applies the items of attributes in turn, up to the first fault. -/
def Attribute.foldItems {ε σ : Type} (lift : SyntaxFault → ε) (step : σ → Item → Except ε σ)
    (start : σ) (attributes : List Attribute) : Except ε σ :=
  attributes.foldlM (fun s a =>
    match a with
    | .bare => .error (lift .bare)
    | .assigned => .error (lift .assigned)
    | .list items fault => do
      let s ← items.foldlM step s
      match fault with
      | some fault => .error (lift fault)
      | none => .ok s) start

end RowMap.Declaration
