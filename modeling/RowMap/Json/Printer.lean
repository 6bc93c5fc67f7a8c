import RowMap.Json.Basic
import RowMap.Text.Quoted

/-!
# Documents as text

`compact` is the text of a document without blanks, `described` names the kind of each node.
-/

namespace RowMap.Json

open RowMap.Decimal (Layout intDigits)

/-- A character inside the quotes of a document's string. -/
def escape (c : Char) : List Char :=
  if c = '"' || c = '\\' then ['\\', c]
  else if c = '\x08' then ['\\', 'b']
  else if c = '\t' then ['\\', 't']
  else if c = '\n' then ['\\', 'n']
  else if c = '\x0c' then ['\\', 'f']
  else if c = '\r' then ['\\', 'r']
  else if c.toNat < 0x20 then
    ['\\', 'u', '0', '0', (c.toNat / 16).digitChar, (c.toNat % 16).digitChar]
  else [c]

def stringText (s : String) : List Char := '"' :: (s.toList.flatMap escape ++ ['"'])

/-- A number of a document. Documents have no text for what is not finite. -/
def floatText (x : Decimal.Double) : List Char := Layout.document.number Decimal.double x.bits.toNat

mutual

/-- The text of a document without blanks. -/
def compact : Json → List Char
  | .null => "null".toList
  | .bool true => "true".toList
  | .bool false => "false".toList
  | .int i => intDigits i
  | .float x => floatText x
  | .string s => stringText s
  | .array items => '[' :: (compactItems items ++ [']'])
  | .object members => '\x7b' :: (compactMembers members ++ ['\x7d'])

/-- Array items with commas between them. -/
def compactItems : List Json → List Char
  | [] => []
  | [item] => compact item
  | item :: rest => compact item ++ ',' :: compactItems rest

/-- Object members with commas between them. -/
def compactMembers : List (String × Json) → List Char
  | [] => []
  | [(name, value)] => stringText name ++ ':' :: compact value
  | (name, value) :: rest => stringText name ++ ':' :: (compact value ++ ',' :: compactMembers rest)

end

mutual

/-- A document with the kind of each of its nodes. -/
def described : Json → List Char
  | .null => "Null".toList
  | .bool true => "Bool(true)".toList
  | .bool false => "Bool(false)".toList
  | .int i => "Number(".toList ++ intDigits i ++ [')']
  | .float x => "Number(".toList ++ floatText x ++ [')']
  | .string s => "String(".toList ++ Text.quoted s.toList ++ [')']
  | .array items => "Array [".toList ++ describedItems items ++ [']']
  | .object members => "Object \x7b".toList ++ describedMembers members ++ ['\x7d']

def describedItems : List Json → List Char
  | [] => []
  | [item] => described item
  | item :: rest => described item ++ ',' :: ' ' :: describedItems rest

def describedMembers : List (String × Json) → List Char
  | [] => []
  | [(name, value)] => Text.quoted name.toList ++ ':' :: ' ' :: described value
  | (name, value) :: rest =>
    Text.quoted name.toList ++ ':' :: ' ' :: (described value ++ ',' :: ' ' :: describedMembers rest)

end

end RowMap.Json
