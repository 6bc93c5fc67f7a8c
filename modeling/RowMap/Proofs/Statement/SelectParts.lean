import RowMap.Proofs.Statement.Clauses
import RowMap.Statement.Select

/-!
# Queries in parts

A query is what its calls made of it. Its text consists of the fragments that the calls supplied,
and its values are those of its conditions and its bounds.
-/

namespace RowMap.Select

inductive Call
  | named (name : String)
  | columns (names : List String)
  | columnsOf (s : Shape)
  | aliasedColumnsOf (s : Shape) (name : String)
  | selectAll
  | join (clause : String)
  | filter (c : Condition)
  | orderBy (expression : String) (d : SortDirection)
  | limit (count : Int64)
  | offset (count : Int64)

namespace Call

def apply (q : Select) : Call → Select
  | .named name => q.withAlias name
  | .columns names => q.withColumns names
  | .columnsOf s => q.columnsOf s
  | .aliasedColumnsOf s name => q.aliasedColumnsOf s name
  | .selectAll => q.selectAll
  | .join clause => q.join clause
  | .filter c => q.filter c
  | .orderBy expression d => q.orderBy expression d
  | .limit count => q.withLimit count
  | .offset count => q.withOffset count

/-- What the caller supplies. -/
def supplied : Call → List Fragment
  | .named name => [.plain name]
  | .columns names => names.map .plain
  | .columnsOf s => s.columns.map fun (_, c) => .plain c
  | .aliasedColumnsOf s name => .plain name :: s.columns.map fun (_, c) => .plain c
  | .selectAll => []
  | .join clause => [.plain clause]
  | .filter c => [c.fragment]
  | .orderBy expression _ => [.plain expression]
  | .limit _ => []
  | .offset _ => []

def condition? : Call → Option Condition
  | .filter c => some c
  | _ => none

def limit? : Call → Option Int64
  | .limit count => some count
  | _ => none

def offset? : Call → Option Int64
  | .offset count => some count
  | _ => none

end Call

def run (q : Select) (calls : List Call) : Select := calls.foldl Call.apply q

def columnParts (columns : List String) : List Part :=
  Part.listed "SELECT " ", " (by decide) isLead_comma
    ((if columns.isEmpty then ["*"] else columns).map .plain)

def sourceParts (q : Select) : List Part :=
  { Fragment.plain q.table with lead := " FROM " } ::
    (q.tableAlias.toList ++ q.joins).map fun text => { Fragment.plain text with lead := " " }

def orderParts (order : List (String × SortDirection)) : List Part :=
  Part.listed " ORDER BY " ", " (by decide) isLead_comma
    (order.map fun (e, d) => .plain (e ++ " " ++ d.keyword))

/-- One number with words in front of it, or nothing. -/
def boundParts (lead : String) (h : IsLead lead) (count : Option Int64) : List Part :=
  count.toList.map fun n => ⟨.bound (ScalarType.int64.bind n), lead, h⟩

/-- The parts of a query with these conditions and bounds. -/
def layout (q : Select) (conditions : List Condition) (limit offset : Option Int64) : List Part :=
  columnParts q.columns ++ q.sourceParts ++ whereParts conditions ++ orderParts q.order ++
    boundParts " LIMIT " (by decide) limit ++ boundParts " OFFSET " (by decide) offset

theorem marked_columnParts (columns : List String) :
    Part.marked (columnParts columns) =
      "SELECT " ++ if columns.isEmpty then "*" else commaList columns := by
  rw [columnParts, Part.marked_listed, map_text_plain, List.isEmpty_map]
  cases columns with
  | nil => rfl
  | cons c cs => rfl

theorem marked_sourceParts (q : Select) :
    Part.marked q.sourceParts = " FROM " ++ q.table ++
      (match q.tableAlias with
        | some name => " " ++ name
        | none => "") ++
      String.join (q.joins.map fun clause => " " ++ clause) := by
  unfold sourceParts
  cases q.tableAlias <;>
    simp [Part.marked, Fragment.plain, Function.comp_def, String.append_assoc]

theorem marked_orderParts (order : List (String × SortDirection)) :
    Part.marked (orderParts order) = orderClause order := by
  rw [orderParts, Part.marked_listed, List.map_map, List.isEmpty_map]
  rfl

theorem marked_boundParts (lead : String) (h : IsLead lead) (count : Option Int64) :
    Part.marked (boundParts lead h count) = if count.isSome then lead ++ "?" else "" := by
  cases count with
  | none => rfl
  | some n => exact String.empty_append

theorem text_eq (q : Select) : q.text = Part.marked (q.layout q.conditions q.limit q.offset) := by
  simp only [layout, Part.marked_append, marked_columnParts, marked_sourceParts, marked_whereParts,
    marked_orderParts, marked_boundParts]
  delta text
  simp only [String.append_assoc]
  rfl

theorem allValues_sourceParts (q : Select) : Part.allValues q.sourceParts = [] :=
  List.flatMap_eq_nil_iff.mpr fun p hp => by
    rcases List.mem_cons.mp hp with rfl | hp
    · rfl
    · obtain ⟨text, _, rfl⟩ := List.mem_map.mp hp
      rfl

theorem allValues_orderParts (order : List (String × SortDirection)) :
    Part.allValues (orderParts order) = [] := by
  rw [orderParts, Part.allValues_listed, List.flatMap_map]
  exact List.flatMap_eq_nil_iff.mpr fun _ _ => rfl

theorem allValues_boundParts (lead : String) (h : IsLead lead) (count : Option Int64) :
    Part.allValues (boundParts lead h count) = count.toList.map ScalarType.int64.bind := by
  cases count <;> rfl

theorem values_eq (q : Select) :
    q.values = Part.allValues (q.layout q.conditions q.limit q.offset) := by
  simp only [layout, Part.allValues_append, columnParts, Part.allValues_listed,
    flatMap_values_plain, allValues_sourceParts, allValues_whereParts, allValues_orderParts,
    allValues_boundParts, List.nil_append, List.append_nil]
  rfl

/-- What the query has got so far is aligned, piece by piece. -/
structure Clean (q : Select) : Prop where
  table : Raw q.table
  tableAlias : ∀ name ∈ q.tableAlias, Raw name
  columns : ∀ c ∈ q.columns, Raw c
  joins : ∀ clause ∈ q.joins, Raw clause
  conditions : ∀ c ∈ q.conditions, Aligned c.text.toList c.values
  order : ∀ e ∈ q.order, Raw e.1

theorem raw_sorted {expression : String} (h : Raw expression) (d : SortDirection) :
    Raw (expression ++ " " ++ d.keyword) := by
  rw [String.append_assoc]
  have hwords : Aligned (" " ++ d.keyword).toList [] := by cases d <;> decide
  have hparts : Parts (" " ++ d.keyword).toList := by
    rw [String.toList_append]
    exact Part.parts_lead (by decide) _
  exact aligned_followed h hwords hparts

theorem Clean.allAligned {q : Select} (h : q.Clean) :
    Part.AllAligned (q.layout q.conditions q.limit q.offset) := by
  have hcolumns : Part.AllAligned (columnParts q.columns) := by
    refine Part.allAligned_listed (aligned_plain fun c hc => ?_)
    split at hc
    · obtain rfl := List.mem_singleton.mp hc
      decide
    · exact h.columns c hc
  have hsource : Part.AllAligned q.sourceParts := by
    refine List.forall_mem_cons.mpr ⟨h.table, fun p hp => ?_⟩
    obtain ⟨text, htext, rfl⟩ := List.mem_map.mp hp
    rcases List.mem_append.mp htext with hname | hclause
    · exact h.tableAlias text (Option.mem_toList.mp hname)
    · exact h.joins text hclause
  have horder : Part.AllAligned (orderParts q.order) := by
    refine Part.allAligned_listed fun f hf => ?_
    obtain ⟨⟨expression, d⟩, he, rfl⟩ := List.mem_map.mp hf
    exact raw_sorted (h.order _ he) d
  have hbound (lead : String) (hlead : IsLead lead) (count : Option Int64) :
      Part.AllAligned (boundParts lead hlead count) := by
    intro p hp
    obtain ⟨n, _, rfl⟩ := List.mem_map.mp hp
    exact aligned_bound _
  exact ((((hcolumns.append hsource).append (allAligned_whereParts h.conditions)).append
    horder).append (hbound _ _ _)).append (hbound _ _ _)

/-! ### What the calls add up to -/

theorem Clean.raw_qualifier {q : Select} (h : q.Clean) : Raw q.qualifier := by
  unfold qualifier
  cases hname : q.tableAlias with
  | none => exact h.table
  | some name => exact h.tableAlias name hname

theorem Clean.withColumns {q : Select} (h : q.Clean) {columns : List String}
    (hcolumns : ∀ c ∈ columns, Raw c) : (q.withColumns columns).Clean :=
  { h with columns := List.forall_mem_append.mpr ⟨h.columns, hcolumns⟩ }

theorem Clean.aliasedColumnsOf {q : Select} (h : q.Clean) {s : Shape} {name : String}
    (hname : Raw name)
    (hs : ∀ f ∈ s.columns.map fun (_, c) => Fragment.plain c, f.Sound) :
    (q.aliasedColumnsOf s name).Clean := by
  refine h.withColumns fun c hc => ?_
  obtain ⟨⟨i, column⟩, hcolumn, rfl⟩ := List.mem_map.mp hc
  exact raw_qualified hname (hs _ (List.mem_map_of_mem hcolumn)).raw

theorem Clean.apply {q : Select} (h : q.Clean) {c : Call} (hc : ∀ f ∈ c.supplied, f.Sound) :
    (c.apply q).Clean := by
  cases c with
  | named name =>
    have hname : Raw name := (hc _ (by simp [Call.supplied])).raw
    exact { h with tableAlias := fun n hn => by obtain rfl := Option.some.inj hn; exact hname }
  | columns names =>
    exact h.withColumns fun c hm => (hc _ (List.mem_map_of_mem hm)).raw
  | columnsOf s => exact h.aliasedColumnsOf h.raw_qualifier hc
  | aliasedColumnsOf s name =>
    obtain ⟨hname, hs⟩ := List.forall_mem_cons.mp hc
    exact h.aliasedColumnsOf hname.raw hs
  | selectAll =>
    exact h.withColumns fun c hm => by obtain rfl := List.mem_singleton.mp hm; decide
  | join clause =>
    have hclause : Raw clause := (hc _ (by simp [Call.supplied])).raw
    exact { h with joins := List.forall_mem_append.mpr ⟨h.joins, by simpa using hclause⟩ }
  | filter c =>
    have hcondition : Aligned c.text.toList c.values :=
      (hc c.fragment (by simp [Call.supplied])).aligned
    exact { h with
      conditions := List.forall_mem_append.mpr ⟨h.conditions, by simpa using hcondition⟩ }
  | orderBy expression d =>
    have hexpression : Raw expression := (hc _ (by simp [Call.supplied])).raw
    exact { h with order := List.forall_mem_append.mpr ⟨h.order, by simpa using hexpression⟩ }
  | limit count => exact { h with }
  | offset count => exact { h with }

theorem Clean.run {q : Select} (h : q.Clean) {calls : List Call}
    (hcalls : ∀ f ∈ calls.flatMap Call.supplied, f.Sound) : (q.run calls).Clean := by
  induction calls generalizing q with
  | nil => exact h
  | cons c calls ih =>
    obtain ⟨hc, hrest⟩ := List.forall_mem_append.mp hcalls
    exact ih (h.apply hc) hrest

theorem run_snoc (q : Select) (calls : List Call) (c : Call) :
    q.run (calls ++ [c]) = c.apply (q.run calls) := by
  rw [run, List.foldl_concat]
  rfl

theorem run_ofTable (table : String) (calls : List Call) :
    ((ofTable table).run calls).conditions = calls.filterMap Call.condition? ∧
      ((ofTable table).run calls).limit = calls.reverse.findSome? Call.limit? ∧
      ((ofTable table).run calls).offset = calls.reverse.findSome? Call.offset? := by
  induction calls using List.reverseRecOn with
  | nil => exact ⟨rfl, rfl, rfl⟩
  | append_singleton calls c ih =>
    obtain ⟨hconditions, hlimit, hoffset⟩ := ih
    rw [run_snoc, List.filterMap_append, List.reverse_concat, List.findSome?_cons,
      List.findSome?_cons, ← hconditions, ← hlimit, ← hoffset]
    cases c with
    | filter c => exact ⟨rfl, rfl, rfl⟩
    | _ => exact ⟨(List.append_nil _).symm, rfl, rfl⟩

end RowMap.Select
