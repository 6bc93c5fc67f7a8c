import RowMap.Proofs.Sql.Reading
import RowMap.Proofs.Statement.Lexed
import RowMap.Statement.Select
import RowMap.Statement.Write

/-!
# The clause of a built statement

The builders write the word AND between the conditions and nothing around them. The clause is read
back from the built statement, with its values in the places of the markers: it has the
alternatives of the conditions glued together.
-/

namespace RowMap

open Sql

/-! ## Conditions -/

/-- A text is a complete clause, with a value for every marker. -/
def Reads (text : List Char) (values : List Value) (as : List Alternative) : Prop :=
  ∃ ls, Lexed text values ls ∧ alternatives ls = some as

namespace Condition

def Reads (c : Condition) (as : List Alternative) : Prop := RowMap.Reads c.text.toList c.values as

/-- The condition is true when the factors that hold are given. -/
def Keeps (c : Condition) (holds : Factor → Prop) : Prop := ∃ as, c.Reads as ∧ Sql.Keeps holds as

theorem Reads.unique {c : Condition} {as bs : List Alternative} (h : c.Reads as) (h' : c.Reads bs) :
    as = bs := by
  obtain ⟨ls, hls, has⟩ := h
  obtain ⟨ms, hms, hbs⟩ := h'
  rw [hls.unique hms] at has
  exact Option.some.inj (has.symm.trans hbs)

theorem Reads.keeps_iff {c : Condition} {as : List Alternative} (h : c.Reads as)
    {holds : Factor → Prop} : c.Keeps holds ↔ Sql.Keeps holds as :=
  ⟨fun ⟨_, h', hk⟩ => h.unique h' ▸ hk, fun hk => ⟨as, h, hk⟩⟩

end Condition

theorem parts_blank (text : List Char) : Parts (' ' :: text) := by
  intro c hc
  obtain rfl : ' ' = c := by simpa using hc
  decide

/-! ## Clauses -/

def Sql.Connective.text : Connective → String
  | .and => " AND "
  | .or => " OR "

theorem Reads.join (c : Connective) {text more : List Char} {vs ws : List Value}
    {as bs : List Alternative} (h : Reads text vs as) (hmore : Reads more ws bs) :
    Reads (text ++ (c.text.toList ++ more)) (vs ++ ws) (c.join as bs) := by
  obtain ⟨ls, hls, has⟩ := h
  obtain ⟨ms, hms, hbs⟩ := hmore
  obtain ⟨word, l, htext, hword, hl⟩ : ∃ word l, c.text.toList = ' ' :: (word ++ [' ']) ∧
      Lexed word [] [l] ∧ l.role = .connects c := by
    cases c with
    | and => exact ⟨"AND".toList, _, rfl, lexed_name (by decide), rfl⟩
    | or => exact ⟨"OR".toList, _, rfl, lexed_name (by decide), rfl⟩
  refine ⟨ls ++ l :: ms, ?_, alternativesFrom_join hl has hbs⟩
  have hlexed := hls.append separates_blank (hword.append separates_blank hms)
  simpa [htext] using hlexed

theorem reads_clause {cs : List Condition} {clauses : List (List Alternative)}
    (h : List.Forall₂ Condition.Reads cs clauses) (hne : cs ≠ []) :
    Reads (" AND ".intercalate (cs.map Condition.text)).toList (conditionValues cs)
      (conjunction clauses) := by
  induction h with
  | nil => exact absurd rfl hne
  | @cons c as cs clauses hc hrest ih =>
    cases hrest with
    | nil => simpa [conditionValues, conjunction, Condition.Reads] using hc
    | cons _ _ =>
      have hand := Reads.join .and hc (ih (by simp))
      rw [List.map_cons, List.map_cons, String.intercalate_cons_cons, String.append_assoc,
        String.toList_append, String.toList_append]
      exact hand

/-! ## Statements -/

/-- A statement of two parts with a clause between them, or with none, keeps a row. -/
def Statement.Keeps (s : Statement) (before after : List Piece) (holds : Factor → Prop) : Prop :=
  s.pieces = before ++ after ∨
    ∃ clause ls as, s.pieces = before ++ (" WHERE ".toList.map .char ++ (clause ++ after)) ∧
      lexemes clause = some ls ∧ alternatives ls = some as ∧ Sql.Keeps holds as

section
variable {before after : String} {vs ws : List Value} {cs : List Condition}
  {clauses : List (List Alternative)}

theorem pieces_of_clause (hbefore : Aligned before.toList vs) (hafter : Aligned after.toList ws)
    (hparts : Parts after.toList)
    (hclause : Aligned (" AND ".intercalate (cs.map Condition.text)).toList
      (conditionValues cs)) (hne : cs ≠ []) :
    (Statement.ofMarked (before ++ (whereClause cs ++ after))
        (vs ++ (conditionValues cs ++ ws))).pieces =
      fill before.toList vs ++ (" WHERE ".toList.map .char ++
        (fill (" AND ".intercalate (cs.map Condition.text)).toList (conditionValues cs) ++
          fill after.toList ws)) := by
  have htext : (before ++ (whereClause cs ++ after)).toList = before.toList ++
      (" WHERE ".toList ++ ((" AND ".intercalate (cs.map Condition.text)).toList ++ after.toList)) := by
    simp only [whereClause, List.isEmpty_iff, if_neg hne, String.toList_append, List.append_assoc]
  have hwhere : Aligned (" WHERE ".toList ++
      ((" AND ".intercalate (cs.map Condition.text)).toList ++ after.toList))
      (conditionValues cs ++ ws) :=
    .literal_append (by decide) (by decide) (hclause.append hafter hparts)
  have hblank : Parts (" WHERE ".toList ++
      ((" AND ".intercalate (cs.map Condition.text)).toList ++ after.toList)) := parts_blank _
  rw [pieces_ofMarked (by rw [htext]; exact hbefore.append hwhere hblank), htext,
    fill_append hbefore hblank, fill_literal_append (by decide), fill_append hclause hparts]

theorem pieces_without_clause (hbefore : Aligned before.toList vs)
    (hafter : Aligned after.toList ws) (hparts : Parts after.toList) :
    (Statement.ofMarked (before ++ (whereClause [] ++ after))
        (vs ++ (conditionValues [] ++ ws))).pieces =
      fill before.toList vs ++ fill after.toList ws := by
  have htext : (before ++ (whereClause [] ++ after)).toList = before.toList ++ after.toList := by
    simp [whereClause]
  rw [pieces_ofMarked (by rw [htext]; exact hbefore.append hafter hparts), htext]
  exact fill_append hbefore hparts ws

theorem keeps_ofMarked (hbefore : Aligned before.toList vs) (hafter : Aligned after.toList ws)
    (hparts : Parts after.toList) (h : List.Forall₂ Condition.Reads cs clauses)
    (holds : Factor → Prop) :
    (Statement.ofMarked (before ++ (whereClause cs ++ after))
        (vs ++ (conditionValues cs ++ ws))).Keeps (fill before.toList vs) (fill after.toList ws) holds ↔
      cs = [] ∨ Sql.Keeps holds (conjunction clauses) := by
  by_cases hne : cs = []
  · subst hne
    exact iff_of_true (Or.inl (pieces_without_clause hbefore hafter hparts)) (Or.inl rfl)
  · obtain ⟨ls, ⟨haligned, hls⟩, has⟩ := reads_clause h hne
    rw [Statement.Keeps, pieces_of_clause hbefore hafter hparts haligned hne]
    constructor
    · rintro (hnone | ⟨clause, ms, bs, hcut, hms, hbs, hkeeps⟩)
      · have hlength := congrArg List.length hnone
        simp only [List.length_append, List.length_map] at hlength
        have hwhere : " WHERE ".toList.length = 7 := rfl
        omega
      · -- The two parts leave only one place for the clause.
        have hcut := List.append_cancel_right (List.append_cancel_left (List.append_cancel_left hcut))
        rw [← hcut, hls] at hms
        cases hms
        rw [has] at hbs
        cases hbs
        exact Or.inr hkeeps
    · rintro (hnil | hkeeps)
      · exact absurd hnil hne
      · exact Or.inr ⟨_, ls, _, rfl, hls, has, hkeeps⟩

end

/-! ## Builders -/

/-- The query without its conditions and what follows them. -/
def Select.source (q : Select) : Select :=
  { q with conditions := [], order := [], limit := none, offset := none }

/-- The text that follows the conditions. -/
def Select.tail (q : Select) : String :=
  Select.orderClause q.order ++
    ((if q.limit.isSome then " LIMIT ?" else "") ++ if q.offset.isSome then " OFFSET ?" else "")

def Select.tailValues (q : Select) : List Value :=
  q.limit.toList.map ScalarType.int64.bind ++ q.offset.toList.map ScalarType.int64.bind

def Select.Keeps (q : Select) (holds : Factor → Prop) : Prop :=
  q.build.Keeps q.source.build.pieces (fill q.tail.toList q.tailValues) holds

/-- The names and expressions of the query bind no values. -/
structure Select.Plain (q : Select) : Prop where
  source : Aligned q.source.text.toList []
  order : Aligned (Select.orderClause q.order).toList []

/-- The update without its conditions and what follows them. -/
def Update.source (q : Update) : Update := { q with conditions := [], returning := [] }

def Update.Keeps (q : Update) (holds : Factor → Prop) : Prop :=
  q.build.Keeps q.source.build.pieces (fill (returningClause q.returning).toList []) holds

/-- The setters bind the values of the update, and the other names bind none. -/
structure Update.Plain (q : Update) : Prop where
  source : Aligned q.source.text.toList q.values
  returning : Aligned (returningClause q.returning).toList []

theorem aligned_optional {text : String} {α : Type} {bind : α → Value} (o : Option α)
    (h : Aligned text.toList [.null .bigInt]) :
    Aligned (if o.isSome then text else "").toList (o.toList.map bind) := by
  cases o with
  | none => exact aligned_nil
  | some x => exact h.of_length rfl

namespace Select

theorem parts_offset (q : Select) : Parts (if q.offset.isSome then " OFFSET ?" else "").toList := by
  cases q.offset with
  | none => simp [Parts]
  | some _ =>
    simp only [Option.isSome_some, if_true]
    exact parts_blank _

theorem parts_limit (q : Select) :
    Parts ((if q.limit.isSome then " LIMIT ?" else "") ++
      if q.offset.isSome then " OFFSET ?" else "").toList := by
  rw [String.toList_append]
  cases q.limit with
  | none => exact q.parts_offset
  | some _ =>
    simp only [Option.isSome_some, if_true]
    exact parts_blank _

theorem aligned_tail {q : Select} (h : q.Plain) : Aligned q.tail.toList q.tailValues := by
  have hlimit : Aligned ((if q.limit.isSome then " LIMIT ?" else "") ++
      if q.offset.isSome then " OFFSET ?" else "").toList q.tailValues := by
    rw [String.toList_append]
    exact (aligned_optional q.limit (by decide)).append (aligned_optional q.offset (by decide))
      q.parts_offset
  rw [tail, String.toList_append]
  exact h.order.append hlimit q.parts_limit

theorem parts_tail (q : Select) : Parts q.tail.toList := by
  rw [tail, String.toList_append]
  unfold orderClause
  split
  · exact q.parts_limit
  · rw [String.toList_append, List.append_assoc]
    exact parts_blank _

theorem keeps_iff {q : Select} (hplain : q.Plain) {clauses : List (List Alternative)}
    (h : List.Forall₂ Condition.Reads q.conditions clauses) (holds : Factor → Prop) :
    q.Keeps holds ↔ q.conditions = [] ∨ Sql.Keeps holds (conjunction clauses) := by
  have htext : q.text = q.source.text ++ (whereClause q.conditions ++ q.tail) := by
    have hwhere : whereClause [] = "" := rfl
    have horder : orderClause [] = "" := rfl
    delta text source tail
    simp only [hwhere, horder, Option.isSome_none, Bool.false_eq_true, if_false,
      String.append_empty, String.append_assoc]
  have hvalues : q.values = [] ++ (conditionValues q.conditions ++ q.tailValues) := by
    simp only [values, tailValues, List.nil_append, List.append_assoc]
  have hsource : q.source.build.pieces = fill q.source.text.toList [] := pieces_ofMarked hplain.source
  rw [Keeps, hsource, build, htext, hvalues]
  exact keeps_ofMarked hplain.source (aligned_tail hplain) q.parts_tail h holds

end Select

theorem Update.keeps_iff {q : Update} (hplain : q.Plain) {clauses : List (List Alternative)}
    (h : List.Forall₂ Condition.Reads q.conditions clauses) (holds : Factor → Prop) :
    q.Keeps holds ↔ q.conditions = [] ∨ Sql.Keeps holds (conjunction clauses) := by
  have htext : q.text = q.source.text ++ (whereClause q.conditions ++ returningClause q.returning) := by
    simp only [text, source, whereClause, returningClause, List.isEmpty_nil, if_true,
      String.append_empty, String.append_assoc]
  have hsource : q.source.build.pieces = fill q.source.text.toList q.values := by
    rw [build]
    exact (pieces_ofMarked (by simpa [source, conditionValues] using hplain.source)).trans
      (by simp [source, conditionValues])
  have hparts : Parts (returningClause q.returning).toList := by
    unfold returningClause
    split
    · simp [Parts]
    · rw [String.toList_append]
      exact parts_blank _
  have hkeeps := keeps_ofMarked hplain.source hplain.returning hparts h holds
  rw [Keeps, hsource, build, htext]
  simpa using hkeeps

end RowMap
