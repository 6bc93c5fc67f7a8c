import RowMap.Error
import RowMap.Statement.Basic

/-!
# Named placeholders

A template is SQL in which `:name` stands for a value. Two colons are a cast and stay. Every
placeholder gets a marker of its own, in the order of the text, also when a name comes twice.
-/

namespace RowMap

/-! ## Named values -/

/-- Values by name, each name once. -/
structure Parameters where
  entries : List (String × Value)

namespace Parameters

def empty : Parameters := ⟨[]⟩

/-- A value under its name; an earlier one is replaced. -/
def insertEntry (name : String) (value : Value) : List (String × Value) → List (String × Value)
  | [] => [(name, value)]
  | (other, old) :: rest =>
    if name = other then (name, value) :: rest else (other, old) :: insertEntry name value rest

def bind (p : Parameters) (name : String) (value : Value) : Parameters :=
  ⟨insertEntry name value p.entries⟩

def get? (p : Parameters) (name : String) : Option Value := p.entries.lookup name

def contains (p : Parameters) (name : String) : Bool := (p.get? name).isSome

def size (p : Parameters) : Nat := p.entries.length

def ofList (entries : List (String × Value)) : Parameters :=
  entries.foldl (fun p (name, value) => p.bind name value) empty

end Parameters

/-! ## Templates -/

namespace Template

inductive Token
  | cast
  | placeholder (name : List Char)
  | text (c : Char)
deriving DecidableEq

/-- A character of a placeholder's name. -/
def isNameChar (c : Char) : Bool :=
  ('a' ≤ c && c ≤ 'z') || ('A' ≤ c && c ≤ 'Z') || ('0' ≤ c && c ≤ '9') || c = '_'

/-- The tokens of a template. A placeholder's name is as long as possible; a colon without a name
is text. -/
def tokens : List Char → List Token
  | [] => []
  | ':' :: ':' :: rest => .cast :: tokens rest
  | ':' :: rest =>
    match rest.takeWhile isNameChar with
    | [] => .text ':' :: tokens rest
    | c :: name => .placeholder (c :: name) :: tokens (rest.drop (name.length + 1))
  | c :: rest => .text c :: tokens rest
termination_by text => text.length
decreasing_by all_goals simp only [List.length_cons, List.length_drop]; omega

/-- The text and the values of tokens, with markers from a number on. -/
def number (p : Parameters) : Nat → List Token → Except StoreError (List Char × List Value)
  | _, [] => .ok ([], [])
  | n, .cast :: rest => (number p n rest).map fun (sql, values) => (':' :: ':' :: sql, values)
  | n, .text c :: rest => (number p n rest).map fun (sql, values) => (c :: sql, values)
  | n, .placeholder name :: rest =>
    match p.get? (String.ofList name) with
    | none => .error (.missingParameter (String.ofList name))
    | some v => (number p (n + 1) rest).map fun (sql, values) => (marker n ++ sql, v :: values)

end Template

/-- The statement of a template. The first name without a value is an error. -/
def Parameters.statement (p : Parameters) (template : String) : Except StoreError Statement :=
  (Template.number p 1 (Template.tokens template.toList)).map fun (sql, values) =>
    ⟨String.ofList sql, values⟩

end RowMap
