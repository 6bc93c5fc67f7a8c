import RowMap.Proofs.Statement.Clauses
import RowMap.Statement.Write

/-!
# Insertions and updates in parts

The builders keep the names of columns and the values in two lists. The parts put each value back
to the name that it was supplied with.
-/

namespace RowMap

/-! ## Insertions -/

namespace Insert

inductive Call
  | value (column : String) (v : Value)
  | returning (columns : List String)

namespace Call

def apply (q : Insert) : Call → Insert
  | .value column v => q.value column v
  | .returning columns => q.withReturning columns

def entry? : Call → Option (String × Value)
  | .value column v => some (column, v)
  | .returning _ => none

def returned : Call → List String
  | .value _ _ => []
  | .returning columns => columns

/-- What the caller supplies. -/
def supplied : Call → List Fragment
  | .value column _ => [.plain column]
  | .returning columns => columns.map .plain

end Call

def run (q : Insert) (calls : List Call) : Insert := calls.foldl Call.apply q

theorem run_eq (q : Insert) (calls : List Call) :
    q.run calls = { q with
      columns := q.columns ++ (calls.filterMap Call.entry?).map Prod.fst
      values := q.values ++ (calls.filterMap Call.entry?).map Prod.snd
      returning := q.returning ++ calls.flatMap Call.returned } := by
  induction calls using List.reverseRecOn with
  | nil => simp [run]
  | append_singleton calls c ih =>
    have hrun : q.run (calls ++ [c]) = c.apply (q.run calls) := List.foldl_concat ..
    rw [hrun, ih, List.filterMap_append, List.flatMap_append]
    cases c <;> simp [Call.apply, Call.entry?, Call.returned, value, withReturning]

/-- One column and one marker for every entry. -/
def entryParts : List (String × Value) → List Part
  | [] => [{ Fragment.plain "" with lead := " DEFAULT VALUES" }]
  | entries =>
    Part.listed " (" ", " (by decide) isLead_comma (entries.map fun (c, _) => .plain c) ++
      Part.listed ") VALUES (" ", " (by decide) isLead_comma (entries.map fun (_, v) => .bound v) ++
      [{ Fragment.plain "" with lead := ")" }]

def layout (table : String) (entries : List (String × Value)) (returning : List String) :
    List Part :=
  { Fragment.plain table with lead := "INSERT INTO " } :: entryParts entries ++
    returningParts returning

theorem text_eq {q : Insert} {entries : List (String × Value)}
    (hcolumns : q.columns = entries.map Prod.fst) :
    q.text = Part.marked (layout q.table entries q.returning) := by
  have hlayout : Part.marked (layout q.table entries q.returning) =
      "INSERT INTO " ++ q.table ++ Part.marked (entryParts entries) ++
        returningClause q.returning := by
    rw [layout, Part.marked_append, marked_returningParts]
    simp only [Part.marked, List.map_cons, String.join_cons]
    rfl
  rw [hlayout, text, hcolumns]
  cases entries with
  | nil => rfl
  | cons e entries =>
    have hnames : ((e :: entries).map fun (c, _) => Fragment.plain c).map Fragment.text =
        (e :: entries).map Prod.fst := by
      rw [List.map_map]
      rfl
    have hmarkers : ((e :: entries).map fun (_, v) => Fragment.bound v).map Fragment.text =
        ((e :: entries).map Prod.fst).map fun _ => "?" := by
      rw [List.map_map, List.map_map]
      rfl
    have hclose : Part.marked [{ Fragment.plain "" with lead := ")" }] = ")" := rfl
    simp only [entryParts, Part.marked_append, Part.marked_listed, hnames, hmarkers, hclose,
      List.isEmpty_map, List.isEmpty_cons, Bool.false_eq_true, if_false, commaList,
      String.append_assoc]

theorem allValues_layout (table : String) (entries : List (String × Value))
    (returning : List String) :
    Part.allValues (layout table entries returning) = entries.map Prod.snd := by
  have hentries : Part.allValues (entryParts entries) = entries.map Prod.snd := by
    cases entries with
    | nil => rfl
    | cons e entries =>
      simp only [entryParts, Part.allValues_append, Part.allValues_listed, List.flatMap_map]
      simp [Part.allValues, Fragment.plain, Fragment.bound, ← List.map_eq_flatMap]
  rw [layout, Part.allValues_append, allValues_returningParts, List.append_nil]
  exact hentries

theorem allAligned_layout {table : String} {entries : List (String × Value)}
    {returning : List String} (htable : Raw table) (hentries : ∀ e ∈ entries, Raw e.1)
    (hreturning : ∀ c ∈ returning, Raw c) : Part.AllAligned (layout table entries returning) := by
  have hparts : Part.AllAligned (entryParts entries) := by
    cases entries with
    | nil => exact List.forall_mem_singleton.mpr (by decide)
    | cons e entries =>
      refine ((Part.allAligned_listed fun f hf => ?_).append
        (Part.allAligned_listed fun f hf => ?_)).append (List.forall_mem_singleton.mpr (by decide))
      · obtain ⟨e, he, rfl⟩ := List.mem_map.mp hf
        exact hentries e he
      · obtain ⟨e, _, rfl⟩ := List.mem_map.mp hf
        exact aligned_bound e.2
  exact List.forall_mem_cons.mpr ⟨htable, hparts.append (allAligned_returningParts hreturning)⟩

theorem ofRecord_eq {s : Shape} (r : Record s) : ofRecord r =
    { table := s.table, columns := r.writableValues.map Prod.fst,
      values := r.writableValues.map Prod.snd } := by
  simp only [ofRecord, List.unzip_eq_map]

end Insert

/-! ## Updates -/

namespace Update

inductive Call
  | set (column : String) (v : Value)
  | setRaw (setter : String)
  | filter (c : Condition)
  | returning (columns : List String)

namespace Call

def apply (q : Update) : Call → Update
  | .set column v => q.set column v
  | .setRaw setter => q.setRaw setter
  | .filter c => q.filter c
  | .returning columns => q.withReturning columns

def setter? : Call → Option Fragment
  | .set column v => some { text := column ++ " = ?", values := [v] }
  | .setRaw setter => some (.plain setter)
  | _ => none

def condition? : Call → Option Condition
  | .filter c => some c
  | _ => none

def returned : Call → List String
  | .returning columns => columns
  | _ => []

/-- What the caller supplies. -/
def supplied : Call → List Fragment
  | .set column _ => [.plain column]
  | .setRaw setter => [.plain setter]
  | .filter c => [c.fragment]
  | .returning columns => columns.map .plain

end Call

def run (q : Update) (calls : List Call) : Update := calls.foldl Call.apply q

theorem run_ofTable (table : String) (calls : List Call) :
    (ofTable table).run calls =
      { table
        setters := (calls.filterMap Call.setter?).map Fragment.text
        values := (calls.filterMap Call.setter?).flatMap Fragment.values
        conditions := calls.filterMap Call.condition?
        returning := calls.flatMap Call.returned } := by
  induction calls using List.reverseRecOn with
  | nil => simp [run, ofTable]
  | append_singleton calls c ih =>
    have hrun : (ofTable table).run (calls ++ [c]) = c.apply ((ofTable table).run calls) :=
      List.foldl_concat ..
    rw [hrun, ih, List.filterMap_append, List.filterMap_append, List.flatMap_append]
    cases c <;> simp [Call.apply, Call.setter?, Call.condition?, Call.returned, set, setRaw, filter,
      withReturning, Fragment.plain]

theorem ofRecord_eq_run {s : Shape} (r : Record s) : ofRecord r =
    (ofTable s.table).run (r.writableValues.map fun w => .set w.1 w.2) := by
  rw [run, List.foldl_map]
  rfl

theorem ofRecord_eq {s : Shape} (r : Record s) : ofRecord r =
    { table := s.table
      setters := (r.writableValues.map Prod.fst).map fun c => c ++ " = ?"
      values := r.writableValues.map Prod.snd } := by
  rw [ofRecord_eq_run, run_ofTable]
  simp [List.filterMap_map, Function.comp_def, Call.setter?, Call.condition?, Call.returned,
    List.flatMap_map, ← List.map_eq_flatMap]

def setterParts (setters : List Fragment) : List Part :=
  Part.listed " SET " ", " (by decide) isLead_comma
    (if setters.isEmpty then [.plain ""] else setters)

def layout (table : String) (setters : List Fragment) (conditions : List Condition)
    (returning : List String) : List Part :=
  { Fragment.plain table with lead := "UPDATE " } :: setterParts setters ++
    whereParts conditions ++ returningParts returning

theorem text_eq {q : Update} {setters : List Fragment}
    (hsetters : q.setters = setters.map Fragment.text) :
    q.text = Part.marked (layout q.table setters q.conditions q.returning) := by
  have hset : Part.marked (setterParts setters) = " SET " ++ commaList q.setters := by
    rw [setterParts, Part.marked_listed, hsetters]
    cases setters <;> rfl
  have htable (ps : List Part) :
      Part.marked ({ Fragment.plain q.table with lead := "UPDATE " } :: ps) =
        "UPDATE " ++ q.table ++ Part.marked ps := by
    simp only [Part.marked, List.map_cons, String.join_cons]
    rfl
  rw [layout, List.cons_append, List.cons_append, htable]
  simp only [Part.marked_append, marked_whereParts, marked_returningParts, hset, text,
    String.append_assoc]

theorem allValues_layout (table : String) (setters : List Fragment) (conditions : List Condition)
    (returning : List String) :
    Part.allValues (layout table setters conditions returning) =
      setters.flatMap Fragment.values ++ conditionValues conditions := by
  have hset : Part.allValues (setterParts setters) = setters.flatMap Fragment.values := by
    rw [setterParts, Part.allValues_listed]
    cases setters <;> rfl
  rw [layout, Part.allValues_append, Part.allValues_append, allValues_whereParts,
    allValues_returningParts, List.append_nil]
  exact congrArg (· ++ conditionValues conditions) hset

theorem allAligned_layout {table : String} {setters : List Fragment} {conditions : List Condition}
    {returning : List String} (htable : Raw table)
    (hsetters : ∀ f ∈ setters, Aligned f.text.toList f.values)
    (hconditions : ∀ c ∈ conditions, Aligned c.text.toList c.values)
    (hreturning : ∀ c ∈ returning, Raw c) :
    Part.AllAligned (layout table setters conditions returning) := by
  have hset : Part.AllAligned (setterParts setters) := by
    refine Part.allAligned_listed fun f hf => ?_
    split at hf
    · obtain rfl := List.mem_singleton.mp hf
      decide
    · exact hsetters f hf
  exact List.forall_mem_cons.mpr ⟨htable, (hset.append (allAligned_whereParts hconditions)).append
    (allAligned_returningParts hreturning)⟩

theorem aligned_setter {column : String} (h : Raw column) (v : Value) :
    Aligned (column ++ " = ?").toList [v] := by
  have hwords : Aligned " = ?".toList [.null .bool] := by decide
  have hparts : Parts (" = ".toList ++ ['?']) := Part.parts_lead (by decide) _
  exact aligned_followed h (hwords.of_length rfl) hparts

end Update

end RowMap
