import RowMap.Proofs.Statement.Clause

/-!
# Updates as a store reads them

A store that takes an update reads its text: the table, the assignments between the commas, the
clause as alternatives of guards, and whether the version is to be returned. It knows the
assignments and guards that writers send and refuses every other text.
-/

namespace RowMap.Store

open Sql

/-! ## Assignments and guards -/

inductive Assignment
  | set (column : String) (v : Value)
  | count
  | touch
  | mark

inductive Guard
  | equals (column : String) (v : Value)
  | notDeleted

def versionColumn : String := "version"
def touchedColumn : String := "updated_at"
def deletedColumn : String := "deleted"

namespace Assignment

def column : Assignment → String
  | .set c _ => c
  | .count => versionColumn
  | .touch => touchedColumn
  | .mark => deletedColumn

def text : Assignment → String
  | .set c _ => c ++ " = ?"
  | .count => "version = version + 1"
  | .touch => "updated_at = now()"
  | .mark => "deleted = true"

def values : Assignment → List Value
  | .set _ v => [v]
  | _ => []

def source : Assignment → List Lexeme
  | .set _ v => [.value v]
  | .count => [.word versionColumn.toList, .operator ['+'], .word ['1']]
  | .touch => [.word "now".toList, .mark '(', .mark ')']
  | .mark => [.word "true".toList]

def lexemes (a : Assignment) : List Lexeme :=
  .word a.column.toList :: .operator ['='] :: a.source

def read : List Lexeme → Option Assignment
  | .word c :: .operator ['='] :: source =>
    match source with
    | [.value v] => some (.set (String.ofList c) v)
    | [.word d, .operator ['+'], .word ['1']] =>
      if c = versionColumn.toList ∧ d = versionColumn.toList then some .count else none
    | [.word f, .mark '(', .mark ')'] =>
      if c = touchedColumn.toList ∧ f = "now".toList then some .touch else none
    | [.word d] => if c = deletedColumn.toList ∧ d = "true".toList then some .mark else none
    | _ => none
  | _ => none

@[simp] theorem read_lexemes (a : Assignment) : read a.lexemes = some a := by
  cases a <;> simp [read, lexemes, source, column]

end Assignment

namespace Guard

def text : Guard → String
  | .equals c _ => c ++ " = ?"
  | .notDeleted => "deleted = false"

def values : Guard → List Value
  | .equals _ v => [v]
  | .notDeleted => []

def condition (g : Guard) : Condition := ⟨g.text, g.values⟩

def lexemes : Guard → Factor
  | .equals c v => [.word c.toList, .operator ['='], .value v]
  | .notDeleted => [.word deletedColumn.toList, .operator ['='], .word "false".toList]

def read : Factor → Option Guard
  | [.word c, .operator ['='], .value v] => some (.equals (String.ofList c) v)
  | [.word c, .operator ['='], .word d] =>
    if c = deletedColumn.toList ∧ d = "false".toList then some .notDeleted else none
  | _ => none

@[simp] theorem read_lexemes (g : Guard) : read g.lexemes = some g := by
  cases g <;> simp [read, lexemes]

end Guard

/-! ## Commands -/

structure Command where
  table : String
  assignments : List Assignment
  clause : List (List Guard)
  returnsVersion : Bool

def isKeyword (keyword : String) : Lexeme → Bool
  | .word cs => String.ofList (cs.map Char.toLower) = keyword
  | _ => false

def splitCommas : List Lexeme → List (List Lexeme)
  | [] => [[]]
  | .mark ',' :: ls => [] :: splitCommas ls
  | l :: ls =>
    match splitCommas ls with
    | [] => [[l]]
    | part :: parts => (l :: part) :: parts

def readReturning : List Lexeme → Option Bool
  | [] => some false
  | [_, .word c] => if c = versionColumn.toList then some true else none
  | _ => none

/-- The command behind the name of the table. -/
def readRest (table : String) (ls : List Lexeme) : Option Command := do
  let assignments ← (splitCommas (ls.takeWhile fun l => !isKeyword "where" l)).mapM Assignment.read
  let ls := (ls.dropWhile fun l => !isKeyword "where" l).drop 1
  let clause ← (← alternatives (ls.takeWhile fun l => !isKeyword "returning" l)).mapM
    fun factors => factors.mapM Guard.read
  let returnsVersion ← readReturning (ls.dropWhile fun l => !isKeyword "returning" l)
  return { table, assignments, clause, returnsVersion }

def readLexemes : List Lexeme → Option Command
  | .word update :: .word table :: .word set :: ls =>
    if update = "UPDATE".toList ∧ set = "SET".toList then readRest (String.ofList table) ls else none
  | _ => none

def readCommand (s : Statement) : Option Command := (lexemes s.pieces).bind readLexemes

/-! ## Names -/

/-- The words that an unquoted column cannot be called. -/
def reserved : List String := ["where", "returning", "case", "end", "between", "and", "or"]

def lowered (name : String) : String := String.ofList (name.toList.map Char.toLower)

/-- A name that needs no quotes. -/
def IsColumn (name : String) : Prop := IsName name.toList ∧ lowered name ∉ reserved

instance (name : String) : Decidable (IsColumn name) := inferInstanceAs (Decidable (_ ∧ _))

theorem IsColumn.not_keyword {name keyword : String} (h : IsColumn name) (hk : keyword ∈ reserved) :
    isKeyword keyword (.word name.toList) = false := by
  simp only [isKeyword, decide_eq_false_iff_not]
  rintro heq
  exact h.2 (by rw [lowered, heq]; exact hk)

theorem IsColumn.role {name : String} (h : IsColumn name) :
    (Lexeme.word name.toList).role = .plain := by
  have hreserved := h.2
  simp only [reserved, lowered, List.mem_cons, List.not_mem_nil, or_false, not_or] at hreserved
  obtain ⟨-, -, hcase, hend, hbetween, hand, hor⟩ := hreserved
  unfold Lexeme.role roleOfWord
  split <;> simp_all

/-! ## What the texts are read as -/

theorem lexed_equals {column : String} (h : IsColumn column) (v : Value) :
    Lexed (column ++ " = ?").toList [v] [.word column.toList, .operator ['='], .value v] := by
  have hsign : Lexed ['='] [] [.operator ['=']] := ⟨by decide, rfl⟩
  have hvalue : Lexed ['?'] [v] [.value v] :=
    ⟨(show Aligned ['?'] [.null .bool] by decide).of_length rfl, rfl⟩
  rw [String.toList_append]
  exact (lexed_name h.1).append separates_blank (hsign.append separates_blank hvalue)

def Assignment.IsPlain : Assignment → Prop
  | .set c _ => IsColumn c
  | _ => True

def Guard.IsPlain : Guard → Prop
  | .equals c _ => IsColumn c
  | .notDeleted => True

theorem lexed_assignment {a : Assignment} (h : a.IsPlain) :
    Lexed a.text.toList a.values a.lexemes := by
  cases a with
  | set c v => exact lexed_equals h v
  | count => exact ⟨by decide, rfl⟩
  | touch => exact ⟨by decide, rfl⟩
  | mark => exact ⟨by decide, rfl⟩

theorem lexed_guard {g : Guard} (h : g.IsPlain) : Lexed g.text.toList g.values g.lexemes := by
  cases g with
  | equals c v => exact lexed_equals h v
  | notDeleted => exact ⟨by decide, rfl⟩

def commaLexemes (parts : List (List Lexeme)) : List Lexeme := [.mark ','].intercalate parts

theorem lexed_commaList {as : List Assignment} (h : ∀ a ∈ as, a.IsPlain) (hne : as ≠ []) :
    Lexed (commaList (as.map Assignment.text)).toList (as.flatMap Assignment.values)
      (commaLexemes (as.map Assignment.lexemes)) := by
  have hnil : Lexed [] [] [] := ⟨aligned_nil, rfl⟩
  induction as with
  | nil => exact absurd rfl hne
  | cons a as ih =>
    obtain ⟨ha, has⟩ := List.forall_mem_cons.mp h
    cases as with
    | nil => simpa [commaList, commaLexemes] using lexed_assignment ha
    | cons b as =>
      have hrest := (lexed_assignment ha).append separates_comma
        (hnil.append separates_blank (ih has (by simp)))
      simp only [commaList, commaLexemes, List.map_cons, String.intercalate_cons_cons,
        List.intercalate_cons_cons, List.flatMap_cons, String.toList_append] at hrest ⊢
      simpa using hrest

theorem splitCommas_of_not_mem {ls : List Lexeme} (h : .mark ',' ∉ ls) : splitCommas ls = [ls] := by
  induction ls with
  | nil => rfl
  | cons l ls ih =>
    simp only [List.mem_cons, not_or] at h
    rw [splitCommas.eq_3 _ _ (fun hl => h.1 hl.symm), ih h.2]

theorem splitCommas_append {ls : List Lexeme} (h : .mark ',' ∉ ls) (ms : List Lexeme) :
    splitCommas (ls ++ .mark ',' :: ms) = ls :: splitCommas ms := by
  induction ls with
  | nil => rfl
  | cons l ls ih =>
    simp only [List.mem_cons, not_or] at h
    rw [List.cons_append, splitCommas.eq_3 _ _ (fun hl => h.1 hl.symm), ih h.2]

theorem comma_not_mem (a : Assignment) : .mark ',' ∉ a.lexemes := by
  cases a <;> simp [Assignment.lexemes, Assignment.source]

theorem mapM_of_inverse {α β : Type} {f : β → Option α} {g : α → β} (h : ∀ a, f (g a) = some a)
    (as : List α) : (as.map g).mapM f = some as := by
  induction as with
  | nil => rfl
  | cons a as ih => simp [h, ih]

theorem read_commaLexemes {as : List Assignment} (hne : as ≠ []) :
    (splitCommas (commaLexemes (as.map Assignment.lexemes))).mapM Assignment.read = some as := by
  have hsplit : splitCommas (commaLexemes (as.map Assignment.lexemes)) = as.map Assignment.lexemes := by
    induction as with
    | nil => exact absurd rfl hne
    | cons a as ih =>
      cases as with
      | nil => simpa [commaLexemes] using splitCommas_of_not_mem (comma_not_mem a)
      | cons b as =>
        have hrest := splitCommas_append (comma_not_mem a)
          (commaLexemes ((b :: as).map Assignment.lexemes))
        rw [ih (by simp)] at hrest
        simpa [commaLexemes] using hrest
  rw [hsplit]
  exact mapM_of_inverse Assignment.read_lexemes as

theorem forall_mem_intercalate {α : Type} {p : α → Prop} {sep : List α} {parts : List (List α)}
    (hsep : ∀ x ∈ sep, p x) (hparts : ∀ part ∈ parts, ∀ x ∈ part, p x) :
    ∀ x ∈ sep.intercalate parts, p x := by
  induction parts with
  | nil => simp
  | cons part parts ih =>
    obtain ⟨hpart, hrest⟩ := List.forall_mem_cons.mp hparts
    cases parts with
    | nil => simpa using hpart
    | cons next parts =>
      intro x hx
      rw [List.intercalate_cons_cons, List.mem_append, List.mem_append] at hx
      rcases hx with (hx | hx) | hx
      · exact hpart x hx
      · exact hsep x hx
      · exact ih hrest x hx

/-! ## Clauses of guards -/

def andLexemes (parts : List (List Lexeme)) : List Lexeme := [.word "AND".toList].intercalate parts

theorem alternatives_guard {g : Guard} (h : g.IsPlain) :
    alternatives g.lexemes = some [[g.lexemes]] := by
  cases g with
  | equals c v =>
    have hrole : roleOfWord c.toList = .plain := IsColumn.role h
    simp [alternatives, alternativesFrom, Guard.lexemes, hrole, Lexeme.role, Nesting.next]
  | notDeleted => rfl

theorem alternatives_andLexemes {gs : List Guard} (h : ∀ g ∈ gs, g.IsPlain) (hne : gs ≠ []) :
    alternatives (andLexemes (gs.map Guard.lexemes)) = some [gs.map Guard.lexemes] := by
  induction gs with
  | nil => exact absurd rfl hne
  | cons g gs ih =>
    obtain ⟨hg, hgs⟩ := List.forall_mem_cons.mp h
    cases gs with
    | nil => simpa [andLexemes] using alternatives_guard hg
    | cons g' gs =>
      have hand : (Lexeme.word "AND".toList).role = .connects .and := rfl
      have hjoin := alternativesFrom_join hand (alternatives_guard hg) (ih hgs (by simp))
      simpa [andLexemes, alternatives, Connective.join, glue] using hjoin

theorem lexed_conditions {gs : List Guard} (h : ∀ g ∈ gs, g.IsPlain) (hne : gs ≠ []) :
    Lexed (" AND ".intercalate (gs.map Guard.text)).toList (gs.flatMap Guard.values)
      (andLexemes (gs.map Guard.lexemes)) := by
  induction gs with
  | nil => exact absurd rfl hne
  | cons g gs ih =>
    obtain ⟨hg, hgs⟩ := List.forall_mem_cons.mp h
    cases gs with
    | nil => simpa [andLexemes] using lexed_guard hg
    | cons g' gs =>
      have hand : Lexed "AND".toList [] [.word "AND".toList] := lexed_name (by decide)
      have hrest := (lexed_guard hg).append separates_blank
        (hand.append separates_blank (ih hgs (by simp)))
      simp only [andLexemes, List.map_cons, String.intercalate_cons_cons,
        List.intercalate_cons_cons, List.flatMap_cons, String.toList_append] at hrest ⊢
      simpa using hrest

/-! ## Whole updates -/

/-- The update that has the assignments and the guards. -/
def builder (table : String) (as : List Assignment) (gs : List Guard) (returnsVersion : Bool) :
    Update where
  table := table
  setters := as.map Assignment.text
  values := as.flatMap Assignment.values
  conditions := gs.map Guard.condition
  returning := if returnsVersion then [versionColumn] else []

def returningLexemes (returnsVersion : Bool) : List Lexeme :=
  if returnsVersion then [.word "RETURNING".toList, .word versionColumn.toList] else []

def updateLexemes (table : String) (as : List Assignment) (gs : List Guard) (returnsVersion : Bool) :
    List Lexeme :=
  .word "UPDATE".toList :: .word table.toList :: .word "SET".toList ::
    (commaLexemes (as.map Assignment.lexemes) ++ .word "WHERE".toList ::
      (andLexemes (gs.map Guard.lexemes) ++ returningLexemes returnsVersion))

section
variable {table : String} {as : List Assignment} {gs : List Guard}

theorem lexed_builder (htable : IsName table.toList) (has : ∀ a ∈ as, a.IsPlain) (hne : as ≠ [])
    (hgs : ∀ g ∈ gs, g.IsPlain) (hne' : gs ≠ []) (returnsVersion : Bool) :
    Lexed (builder table as gs returnsVersion).text.toList
      (as.flatMap Assignment.values ++ gs.flatMap Guard.values)
      (updateLexemes table as gs returnsVersion) := by
  have hupdate : Lexed "UPDATE".toList [] [.word "UPDATE".toList] := lexed_name (by decide)
  have hset : Lexed "SET".toList [] [.word "SET".toList] := lexed_name (by decide)
  have hwhere : Lexed "WHERE".toList [] [.word "WHERE".toList] := lexed_name (by decide)
  have hreturning : Lexed "RETURNING".toList [] [.word "RETURNING".toList] := lexed_name (by decide)
  have hversion : Lexed versionColumn.toList [] [.word versionColumn.toList] := lexed_name (by decide)
  have hclause := lexed_conditions hgs hne'
  have htail : Lexed ((" AND ".intercalate (gs.map Guard.text)).toList ++
      (returningClause (builder table as gs returnsVersion).returning).toList)
      (gs.flatMap Guard.values)
      (andLexemes (gs.map Guard.lexemes) ++ returningLexemes returnsVersion) := by
    cases returnsVersion with
    | false => simpa [builder, returningClause, returningLexemes] using hclause
    | true =>
      have hall := hclause.append separates_blank (hreturning.append separates_blank hversion)
      simpa [builder, returningClause, returningLexemes, commaList] using hall
  have hall := hupdate.append separates_blank ((lexed_name htable).append separates_blank
    (hset.append separates_blank ((lexed_commaList has hne).append separates_blank
      (hwhere.append separates_blank htail))))
  have htexts : (gs.map Guard.condition).map Condition.text = gs.map Guard.text := by
    simp [Guard.condition]
  simpa [Update.text, builder, whereClause, hne', htexts, updateLexemes] using hall

theorem not_where {a : Assignment} (h : a.IsPlain) :
    ∀ l ∈ a.lexemes, isKeyword "where" l = false := by
  cases a with
  | set c v =>
    have hcolumn := IsColumn.not_keyword h (by decide : "where" ∈ reserved)
    simpa [Assignment.lexemes, Assignment.source, Assignment.column] using ⟨hcolumn, rfl, rfl⟩
  | count => decide
  | touch => decide
  | mark => decide

theorem not_returning {g : Guard} (h : g.IsPlain) :
    ∀ l ∈ g.lexemes, isKeyword "returning" l = false := by
  cases g with
  | equals c v =>
    have hcolumn := IsColumn.not_keyword h (by decide : "returning" ∈ reserved)
    simpa [Guard.lexemes] using ⟨hcolumn, rfl, rfl⟩
  | notDeleted => decide

theorem takeWhile_dropWhile_keyword {keyword : String} {ls : List Lexeme}
    (h : ∀ l ∈ ls, isKeyword keyword l = false) (ms : List Lexeme)
    (hms : ∀ l ∈ ms.head?, isKeyword keyword l = true) :
    (ls ++ ms).takeWhile (fun l => !isKeyword keyword l) = ls ∧
      (ls ++ ms).dropWhile (fun l => !isKeyword keyword l) = ms := by
  have hls : ∀ l ∈ ls, (!isKeyword keyword l) = true := fun l hl => by rw [h l hl]; rfl
  refine ⟨takeWhile_append_stop hls fun l hl => by rw [hms l hl]; rfl, ?_⟩
  rw [List.dropWhile_append_of_pos hls]
  cases ms with
  | nil => rfl
  | cons l ms => rw [List.dropWhile_cons_of_neg (by simp [hms l rfl])]

theorem readReturning_lexemes (returnsVersion : Bool) :
    readReturning (returningLexemes returnsVersion) = some returnsVersion := by
  cases returnsVersion <;> simp [readReturning, returningLexemes]

theorem read_updateLexemes (has : ∀ a ∈ as, a.IsPlain) (hne : as ≠ [])
    (hgs : ∀ g ∈ gs, g.IsPlain) (hne' : gs ≠ []) (returnsVersion : Bool) :
    readLexemes (updateLexemes table as gs returnsVersion) =
      some ⟨table, as, [gs], returnsVersion⟩ := by
  have hcommas : ∀ l ∈ commaLexemes (as.map Assignment.lexemes), isKeyword "where" l = false :=
    forall_mem_intercalate (by decide) (by simpa using fun a ha => not_where (has a ha))
  have hands : ∀ l ∈ andLexemes (gs.map Guard.lexemes), isKeyword "returning" l = false :=
    forall_mem_intercalate (by decide) (by simpa using fun g hg => not_returning (hgs g hg))
  obtain ⟨hsetters, hrest⟩ := takeWhile_dropWhile_keyword hcommas
    (.word "WHERE".toList ::
      (andLexemes (gs.map Guard.lexemes) ++ returningLexemes returnsVersion))
    (fun l hl => by cases hl; decide)
  obtain ⟨hclause, hreturning⟩ := takeWhile_dropWhile_keyword hands
    (returningLexemes returnsVersion) (fun l hl => by
      cases returnsVersion <;> cases hl
      decide)
  rw [updateLexemes, readLexemes, if_pos ⟨rfl, rfl⟩, readRest, hsetters, hrest,
    read_commaLexemes hne]
  simp only [List.drop_succ_cons, List.drop_zero, hclause, hreturning, readReturning_lexemes,
    alternatives_andLexemes hgs hne', String.ofList_toList]
  simp [mapM_of_inverse Guard.read_lexemes]

theorem readCommand_builder (htable : IsName table.toList) (has : ∀ a ∈ as, a.IsPlain) (hne : as ≠ [])
    (hgs : ∀ g ∈ gs, g.IsPlain) (hne' : gs ≠ []) (returnsVersion : Bool) :
    readCommand (builder table as gs returnsVersion).build =
      some ⟨table, as, [gs], returnsVersion⟩ := by
  obtain ⟨haligned, hlexemes⟩ := lexed_builder htable has hne hgs hne' returnsVersion
  have hvalues : (builder table as gs returnsVersion).values ++
      conditionValues (builder table as gs returnsVersion).conditions =
      as.flatMap Assignment.values ++ gs.flatMap Guard.values := by
    simp [builder, conditionValues, List.flatMap_map, Guard.condition]
  rw [readCommand, Update.build, hvalues, pieces_ofMarked haligned, hlexemes, Option.bind_some,
    read_updateLexemes has hne hgs hne']

end

end RowMap.Store
