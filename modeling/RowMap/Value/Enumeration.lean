/-!
# Labels stored as codes

An enumeration is a closed set of labels, each stored as an integer of its own.
-/

namespace RowMap

structure Enumeration where
  /-- The name of the type. -/
  name : String
  /-- What a label stands for, in messages. -/
  noun : String
  first : String × Int32
  others : List (String × Int32)
  distinct : ((first :: others).map Prod.snd).Nodup
deriving DecidableEq

namespace Enumeration

def cases (e : Enumeration) : List (String × Int32) := e.first :: e.others

/-- A label of an enumeration. -/
structure Case (e : Enumeration) where
  index : Fin e.cases.length
deriving DecidableEq

variable {e : Enumeration}

def Case.label (k : e.Case) : String := e.cases[k.index].1
def Case.code (k : e.Case) : Int32 := e.cases[k.index].2

/-- The label that comes first. -/
def initial (e : Enumeration) : e.Case := ⟨⟨0, by simp [cases]⟩⟩

/-- The label whose entry satisfies a test. -/
def find? (e : Enumeration) (p : String × Int32 → Bool) : Option e.Case :=
  if h : e.cases.findIdx p < e.cases.length then some ⟨⟨e.cases.findIdx p, h⟩⟩ else none

/-- The label of a code. -/
def ofCode? (e : Enumeration) (code : Int32) : Option e.Case := e.find? fun entry => entry.2 = code

/-- The label of a text that spells it. -/
def ofLabel? (e : Enumeration) (label : String) : Option e.Case :=
  e.find? fun entry => entry.1 = label

end Enumeration

end RowMap
