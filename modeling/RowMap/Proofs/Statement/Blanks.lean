import RowMap.Proofs.Record.Coherence
import RowMap.Proofs.Statement.Construction
import RowMap.Proofs.Statement.Template

/-!
# Texts without values

A statement is put together from texts and values, and its text has nothing of the values. For a
template that is said of the names that are bound, for a builder of its calls with a blank for every
value: what a builder has become with the blanks is what the blanked calls make of it.
-/

namespace RowMap

/-! ## Templates -/

namespace Parameters

/-- The same names are bound, to whatever values. -/
def SameNames (p q : Parameters) : Prop := ∀ name, p.contains name = q.contains name

theorem lookup_cons (key name : String) (v : Value) (entries : List (String × Value)) :
    ((key, v) :: entries).lookup name = if name = key then some v else entries.lookup name := by
  by_cases h : name = key <;> simp [h, List.lookup_cons, beq_eq_false_iff_ne.mpr]

theorem lookup_insertEntry (name other : String) (v : Value) (entries : List (String × Value)) :
    (insertEntry name v entries).lookup other =
      if other = name then some v else entries.lookup other := by
  induction entries with
  | nil => exact lookup_cons name other v []
  | cons entry entries ih =>
    obtain ⟨key, old⟩ := entry
    by_cases hname : name = key
    · subst hname
      rw [insertEntry, if_pos rfl, lookup_cons, lookup_cons]
      split <;> rfl
    · rw [insertEntry, if_neg hname, lookup_cons, lookup_cons, ih]
      by_cases h : other = name
      · rw [if_pos h, if_pos h, if_neg (h ▸ hname)]
      · rw [if_neg h, if_neg h]

theorem contains_bind (p : Parameters) (name other : String) (v : Value) :
    (p.bind name v).contains other = (decide (other = name) || p.contains other) := by
  rw [contains, get?, bind, lookup_insertEntry]
  by_cases h : other = name <;> simp [h, contains, get?]

theorem SameNames.bind {p q : Parameters} (h : p.SameNames q) (name : String) (v w : Value) :
    (p.bind name v).SameNames (q.bind name w) := by
  intro other
  rw [contains_bind, contains_bind, h other]

theorem sameNames_ofList {entries others : List (String × Value)}
    (h : entries.map Prod.fst = others.map Prod.fst) :
    (ofList entries).SameNames (ofList others) := by
  suffices hfrom : ∀ p q : Parameters, p.SameNames q →
      (entries.foldl (fun p entry => p.bind entry.1 entry.2) p).SameNames
        (others.foldl (fun p entry => p.bind entry.1 entry.2) q) from hfrom _ _ fun _ => rfl
  induction entries generalizing others with
  | nil =>
    obtain rfl := List.map_eq_nil_iff.mp h.symm
    exact fun _ _ hpq => hpq
  | cons entry entries ih =>
    cases others with
    | nil => cases h
    | cons other others =>
      obtain ⟨name, v⟩ := entry
      obtain ⟨name', w⟩ := other
      obtain ⟨rfl, hrest⟩ := List.cons_eq_cons.mp h
      exact fun p q hpq => ih hrest _ _ (hpq.bind name v w)

end Parameters

namespace Template

/-- The text that a template becomes when all of its names are bound. -/
def numbered (template : String) : String := String.ofList (copied (tokens template.toList))

/-- The first name of a template that is not bound. -/
def missing? (p : Parameters) (template : String) : Option String :=
  (names (tokens template.toList)).find? fun name => (p.get? name).isNone

theorem statement_of_missing {p : Parameters} {template name : String}
    (h : missing? p template = some name) :
    p.statement template = .error (.missingParameter name) := by
  rw [Parameters.statement, number_of_unbound p 1 h]
  rfl

theorem statement_of_bound {p : Parameters} {template : String} (h : missing? p template = none) :
    ∃ values, p.statement template = .ok ⟨numbered template, values⟩ ∧
      values.map some = (names (tokens template.toList)).map p.get? := by
  have hbound : ∀ name ∈ names (tokens template.toList), (p.get? name).isSome := by
    intro name hname
    have hn := List.find?_eq_none.mp h name hname
    simpa [Option.isSome_iff_ne_none] using hn
  rw [Parameters.statement, number_of_bound p 1 hbound, numbered, copied_eq]
  exact ⟨_, rfl, map_some_filterMap hbound⟩

theorem eq_of_statement {p : Parameters} {template : String} {stmt : Statement}
    (h : p.statement template = .ok stmt) : stmt.sql = numbered template ∧
      stmt.values.map some = (names (tokens template.toList)).map p.get? := by
  cases hmissing : missing? p template with
  | some name =>
    rw [statement_of_missing hmissing] at h
    cases h
  | none =>
    obtain ⟨values, hstmt, hvalues⟩ := statement_of_bound hmissing
    rw [hstmt] at h
    cases h
    exact ⟨rfl, hvalues⟩

theorem sql_of_statement {p : Parameters} {template : String} {stmt : Statement}
    (h : p.statement template = .ok stmt) : stmt.sql = numbered template := (eq_of_statement h).1

theorem missing?_congr {p q : Parameters} (h : p.SameNames q) (template : String) :
    missing? p template = missing? q template := by
  have hisNone : (fun name => (p.get? name).isNone) = fun name => (q.get? name).isNone := by
    funext name
    rw [← Option.not_isSome, ← Option.not_isSome]
    exact congrArg (!·) (h name)
  rw [missing?, missing?, hisNone]

/-- Which names are bound decides the text, and else which of them is complained about. -/
theorem statement_sameNames {p q : Parameters} (h : p.SameNames q) (template : String) :
    (∃ stmt stmt', p.statement template = .ok stmt ∧ q.statement template = .ok stmt' ∧
      stmt.sql = stmt'.sql) ∨
    ∃ name, p.statement template = .error (.missingParameter name) ∧
      q.statement template = .error (.missingParameter name) := by
  have hmissing := missing?_congr h template
  cases hq : missing? q template with
  | some name =>
    exact .inr ⟨name, statement_of_missing (hmissing.trans hq), statement_of_missing hq⟩
  | none =>
    obtain ⟨values, hp, -⟩ := statement_of_bound (hmissing.trans hq)
    obtain ⟨values', hq, -⟩ := statement_of_bound hq
    exact .inl ⟨_, _, hp, hq, rfl⟩

end Template

/-! ## Blanks -/

/-- What stands in the place of a value. -/
def Value.blank : Value := .null .bool

def Condition.blanked (c : Condition) : Condition := ⟨c.text, []⟩

theorem Column.blanked_compare (c : Column) (k : Comparison) (v w : Value) :
    (c.compare k v).blanked = (c.compare k w).blanked := rfl

theorem whereClause_blanked (conditions : List Condition) :
    whereClause (conditions.map Condition.blanked) = whereClause conditions := by
  rw [whereClause, whereClause, List.isEmpty_map, List.map_map]
  rfl

/-! ## Queries -/

namespace Select

def blanked (q : Select) : Select :=
  { q with
    conditions := q.conditions.map Condition.blanked
    limit := q.limit.map fun _ => 0
    offset := q.offset.map fun _ => 0 }

def Call.blanked : Call → Call
  | .filter c => .filter c.blanked
  | .limit _ => .limit 0
  | .offset _ => .offset 0
  | c => c

theorem text_blanked (q : Select) : q.blanked.text = q.text := by
  simp only [text, blanked, whereClause_blanked, Option.isSome_map]
  rfl

theorem blanked_apply (q : Select) (c : Call) :
    (c.apply q).blanked = c.blanked.apply q.blanked := by
  cases c with
  | filter c => simp [Call.apply, Call.blanked, blanked, filter]
  | _ => rfl

theorem blanked_run (q : Select) (calls : List Call) :
    (q.run calls).blanked = q.blanked.run (calls.map Call.blanked) := by
  rw [run, run, List.foldl_map]
  exact (List.foldl_hom blanked fun q c => (blanked_apply q c).symm).symm

theorem sql_of_blanked {q q' : Select} (h : q.blanked = q'.blanked) :
    q.build.sql = q'.build.sql := by
  have htext : q.text = q'.text := by rw [← text_blanked, h, text_blanked]
  simp only [build, Statement.ofMarked, htext]

end Select

/-! ## Insertions -/

namespace Insert

def blanked (q : Insert) : Insert := { q with values := q.values.map fun _ => .blank }

def Call.blanked : Call → Call
  | .value column _ => .value column .blank
  | .returning columns => .returning columns

theorem blanked_apply (q : Insert) (c : Call) :
    (c.apply q).blanked = c.blanked.apply q.blanked := by
  cases c with
  | value column v => simp [Call.apply, Call.blanked, blanked, value]
  | returning columns => rfl

theorem blanked_run (q : Insert) (calls : List Call) :
    (q.run calls).blanked = q.blanked.run (calls.map Call.blanked) := by
  rw [run, run, List.foldl_map]
  exact (List.foldl_hom blanked fun q c => (blanked_apply q c).symm).symm

theorem sql_of_blanked {q q' : Insert} (h : q.blanked = q'.blanked) :
    q.build.sql = q'.build.sql := by
  have htext : q.text = q'.text := show q.blanked.text = q'.blanked.text by rw [h]
  simp only [build, Statement.ofMarked, htext]

theorem length_values_of_blanked {q q' : Insert} (h : q.blanked = q'.blanked) :
    q.build.values.length = q'.build.values.length := by
  simpa [blanked, build, Statement.ofMarked] using congrArg (fun q => q.values.length) h

end Insert

/-! ## Updates -/

namespace Update

def blanked (q : Update) : Update :=
  { q with
    values := q.values.map fun _ => .blank
    conditions := q.conditions.map Condition.blanked }

def Call.blanked : Call → Call
  | .set column _ => .set column .blank
  | .setRaw setter => .setRaw setter
  | .filter c => .filter c.blanked
  | .returning columns => .returning columns

theorem text_blanked (q : Update) : q.blanked.text = q.text := by
  simp only [text, blanked, whereClause_blanked]

theorem blanked_apply (q : Update) (c : Call) :
    (c.apply q).blanked = c.blanked.apply q.blanked := by
  cases c with
  | set column v => simp [Call.apply, Call.blanked, blanked, set]
  | filter c => simp [Call.apply, Call.blanked, blanked, filter]
  | setRaw setter => rfl
  | returning columns => rfl

theorem blanked_run (q : Update) (calls : List Call) :
    (q.run calls).blanked = q.blanked.run (calls.map Call.blanked) := by
  rw [run, run, List.foldl_map]
  exact (List.foldl_hom blanked fun q c => (blanked_apply q c).symm).symm

theorem sql_of_blanked {q q' : Update} (h : q.blanked = q'.blanked) :
    q.build.sql = q'.build.sql := by
  have htext : q.text = q'.text := by rw [← text_blanked, h, text_blanked]
  simp only [build, Statement.ofMarked, htext]

end Update

/-! ## Records -/

section
variable {s : Shape}

theorem Record.writableColumns_congr (hkeys : s.fields.KeysHaveColumns) (r r' : Record s) :
    r.writableValues.map Prod.fst = r'.writableValues.map Prod.fst := by
  rw [writableValues, writableValues, List.map_filterMap, List.map_filterMap]
  refine List.filterMap_congr fun column _ => ?_
  have hvalue : (r.columnValue? column.1).isSome ↔ (r'.columnValue? column.1).isSome :=
    (r.columnValue?_isSome_iff hkeys _).trans (r'.columnValue?_isSome_iff hkeys _).symm
  cases h : r.columnValue? column.1 <;> cases h' : r'.columnValue? column.1 <;>
    simp [h, h'] at hvalue ⊢

theorem Insert.blanked_ofRecord (hkeys : s.fields.KeysHaveColumns) (r r' : Record s) :
    (Insert.ofRecord r).blanked = (Insert.ofRecord r').blanked := by
  have hcolumns := r.writableColumns_congr hkeys r'
  have hlength : r.writableValues.length = r'.writableValues.length := by
    simpa using congrArg List.length hcolumns
  simp [blanked, ofRecord_eq, hcolumns, Function.comp_def, List.map_const', hlength]

theorem Update.blanked_ofRecord (hkeys : s.fields.KeysHaveColumns) (r r' : Record s) :
    (Update.ofRecord r).blanked = (Update.ofRecord r').blanked := by
  have hcalls (r : Record s) : (r.writableValues.map fun w => Call.set w.1 w.2).map Call.blanked =
      (r.writableValues.map Prod.fst).map fun c => .set c .blank := by
    rw [List.map_map, List.map_map]
    rfl
  rw [ofRecord_eq_run, ofRecord_eq_run, blanked_run, blanked_run, hcalls, hcalls,
    r.writableColumns_congr hkeys r']

theorem Update.length_values_ofRecord (r : Record s) :
    (Update.ofRecord r).build.values.length = r.writableValues.length := by
  rw [ofRecord_eq, build]
  simp [Statement.ofMarked, conditionValues]

theorem Record.statements_congr (hkeys : s.fields.KeysHaveColumns) (r r' : Record s) :
    ((Insert.ofRecord r).build.sql = (Insert.ofRecord r').build.sql ∧
      (Insert.ofRecord r).build.values.length = (Insert.ofRecord r').build.values.length) ∧
    (Update.ofRecord r).build.sql = (Update.ofRecord r').build.sql ∧
      (Update.ofRecord r).build.values.length = (Update.ofRecord r').build.values.length := by
  have hinsert := Insert.blanked_ofRecord hkeys r r'
  refine ⟨⟨Insert.sql_of_blanked hinsert, Insert.length_values_of_blanked hinsert⟩,
    Update.sql_of_blanked (Update.blanked_ofRecord hkeys r r'), ?_⟩
  rw [Update.length_values_ofRecord, Update.length_values_ofRecord]
  simpa using congrArg List.length (r.writableColumns_congr hkeys r')

end

/-! ## Any construction -/

namespace Construction

/-- The same calls with other values, on the same table or on records of one type. -/
inductive Alike : Construction → Construction → Prop
  | select (table : String) {calls calls' : List Select.Call} :
      calls.map Select.Call.blanked = calls'.map Select.Call.blanked →
      Alike (.select table calls) (.select table calls')
  | insert {s : Shape} (hkeys : s.fields.KeysHaveColumns) (r r' : Record s)
      {calls calls' : List Insert.Call} :
      calls.map Insert.Call.blanked = calls'.map Insert.Call.blanked →
      Alike (.insert r calls) (.insert r' calls')
  | update (table : String) {calls calls' : List Update.Call} :
      calls.map Update.Call.blanked = calls'.map Update.Call.blanked →
      Alike (.update table calls) (.update table calls')
  | updateOf {s : Shape} (hkeys : s.fields.KeysHaveColumns) (r r' : Record s)
      {calls calls' : List Update.Call} :
      calls.map Update.Call.blanked = calls'.map Update.Call.blanked →
      Alike (.updateOf r calls) (.updateOf r' calls')

theorem Alike.sql_eq {b b' : Construction} (h : b.Alike b') : b.build.sql = b'.build.sql := by
  cases h with
  | select table hcalls =>
    refine Select.sql_of_blanked ?_
    rw [Select.blanked_run, Select.blanked_run, hcalls]
  | insert hkeys r r' hcalls =>
    refine Insert.sql_of_blanked ?_
    rw [Insert.blanked_run, Insert.blanked_run, hcalls, Insert.blanked_ofRecord hkeys r r']
  | update table hcalls =>
    refine Update.sql_of_blanked ?_
    rw [Update.blanked_run, Update.blanked_run, hcalls]
  | updateOf hkeys r r' hcalls =>
    refine Update.sql_of_blanked ?_
    rw [Update.blanked_run, Update.blanked_run, hcalls, Update.blanked_ofRecord hkeys r r']

end Construction

end RowMap
