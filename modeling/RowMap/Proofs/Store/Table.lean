import RowMap.Proofs.Store.Command
import RowMap.Session.Script

/-!
# A table of versioned rows

A table executes an update at once, on exactly the rows that all guards of one alternative hold
for. Where something cannot be assigned, as a version that no integer is left for, nothing is
changed at all. The rows stay in their places.
-/

namespace RowMap.Store

/-- A row. Other columns are found by their names in lower case. -/
structure Stored where
  key : Value
  version : Int32
  deleted : Bool
  cells : String → Value

structure Table where
  name : String
  /-- The column of the primary key. -/
  key : String
  /-- The store calls two values equal. -/
  equal : Value → Value → Bool
  now : Value
  key_plain : lowered key ∉ [versionColumn, touchedColumn, deletedColumn]
  equal_version : ∀ a b : Int32, equal (.of (.int a)) (.of (.int b)) = decide (a = b)
  equal_trans : ∀ a b v, equal a v = true → equal b v = true → equal a b = true

namespace Table

def cell (T : Table) (r : Stored) (column : String) : Value :=
  if lowered column = lowered T.key then r.key
  else if lowered column = versionColumn then .of (.int r.version)
  else if lowered column = deletedColumn then .of (.bool r.deleted)
  else r.cells (lowered column)

/-! ## Executing a command -/

def holds (T : Table) (r : Stored) : Guard → Bool
  | .equals c v => T.equal (T.cell r c) v
  | .notDeleted => !r.deleted

def satisfies (T : Table) (clause : List (List Guard)) (r : Stored) : Bool :=
  clause.any fun guards => guards.all (T.holds r)

def put (r : Stored) (column : String) (v : Value) : Stored :=
  { r with cells := fun c => if c = column then v else r.cells c }

def setCell (T : Table) (column : String) (v : Value) (r : Stored) : Option Stored :=
  if lowered column = lowered T.key then some { r with key := v }
  else if lowered column = versionColumn then
    match v with
    | .of (.int i) => some { r with version := i }
    | _ => none
  else if lowered column = deletedColumn then
    match v with
    | .of (.bool b) => some { r with deleted := b }
    | _ => none
  else some (put r (lowered column) v)

def assign (T : Table) (r : Stored) : Assignment → Option Stored
  | .set c v => T.setCell c v r
  | .count => if r.version = Int32.maxValue then none else some { r with version := r.version + 1 }
  | .touch => some (put r touchedColumn T.now)
  | .mark => some { r with deleted := true }

/-- All assignments of an update. No column is assigned twice, so their order does not matter. -/
def assignAll (T : Table) (as : List Assignment) (r : Stored) : Option Stored := as.foldlM T.assign r

/-- The versions of the rows that were changed, and all rows. -/
def change (T : Table) (c : Command) : List Stored → Option (List Int32 × List Stored)
  | [] => some ([], [])
  | r :: rest =>
    match T.change c rest with
    | none => none
    | some (versions, rest) =>
      if T.satisfies c.clause r then
        (T.assignAll c.assignments r).map fun r => (r.version :: versions, r :: rest)
      else some (versions, r :: rest)

def refusal (message : String) : Script.Reply := .failure (.query message)

def perform (T : Table) (c : Command) (rows : List Stored) : Script.Reply × List Stored :=
  if lowered c.table ≠ lowered T.name then (refusal "no such table", rows)
  else if ¬ (c.assignments.map fun a => lowered a.column).Nodup then
    (refusal "a column is assigned twice", rows)
  else
    match T.change c rows with
    | none => (refusal "a value is out of range", rows)
    | some (versions, rows) =>
      if c.returnsVersion then (.rows (versions.map fun v => [.of (.int v)]), rows)
      else (.affected versions.length, rows)

/-- The statement sets something for the transaction and does not touch the table. -/
def isSetting (s : Statement) : Bool := "SET LOCAL ".toList.isPrefixOf s.sql.toList

def answer (T : Table) (s : Statement) (rows : List Stored) : Script.Reply × List Stored :=
  if isSetting s then (.affected 0, rows)
  else
    match readCommand s with
    | none => (refusal "syntax error", rows)
    | some c => T.perform c rows

theorem answer_of_read (T : Table) {s : Statement} {c : Command} (hset : isSetting s = false)
    (hread : readCommand s = some c) (rows : List Stored) : T.answer s rows = T.perform c rows := by
  rw [answer, if_neg (by simp [hset]), hread]

/-! ## At most one row -/

/-- No two rows have the same key. -/
def Unique (T : Table) (rows : List Stored) : Prop :=
  rows.Pairwise fun r s => T.equal r.key s.key = false

theorem change_of_none {T : Table} {c : Command} {rows : List Stored}
    (h : ∀ r ∈ rows, T.satisfies c.clause r = false) : T.change c rows = some ([], rows) := by
  induction rows with
  | nil => rfl
  | cons r rows ih =>
    obtain ⟨hr, hrows⟩ := List.forall_mem_cons.mp h
    simp only [change, ih hrows, hr, Bool.false_eq_true, if_false]

theorem change_of_one {T : Table} {c : Command} {before after : List Stored} {r : Stored}
    (hbefore : ∀ s ∈ before, T.satisfies c.clause s = false)
    (hafter : ∀ s ∈ after, T.satisfies c.clause s = false) (hr : T.satisfies c.clause r = true) :
    T.change c (before ++ r :: after) =
      (T.assignAll c.assignments r).map fun r' => ([r'.version], before ++ r' :: after) := by
  induction before with
  | nil => simp only [List.nil_append, change, change_of_none hafter, hr, if_true]
  | cons s before ih =>
    obtain ⟨hs, hbefore⟩ := List.forall_mem_cons.mp hbefore
    rw [List.cons_append, change, ih hbefore]
    cases T.assignAll c.assignments r with
    | none => rfl
    | some r' => simp only [Option.map_some, hs, Bool.false_eq_true, if_false, List.cons_append]

/-- The guards ask for one key. -/
def AsksFor (T : Table) (key : Value) (guards : List Guard) : Prop :=
  ∃ column, lowered column = lowered T.key ∧ .equals column key ∈ guards

theorem equal_of_satisfies {T : Table} {key : Value} {guards : List Guard} {r : Stored}
    (h : T.AsksFor key guards) (hr : T.satisfies [guards] r = true) : T.equal r.key key = true := by
  obtain ⟨column, hcolumn, hmem⟩ := h
  have hall : guards.all (T.holds r) = true := by simpa [satisfies] using hr
  have hholds := List.all_eq_true.mp hall _ hmem
  simpa [holds, cell, hcolumn] using hholds

theorem Unique.others {T : Table} {before after : List Stored} {r : Stored} {key : Value}
    (h : T.Unique (before ++ r :: after)) (hr : T.equal r.key key = true) :
    (∀ s ∈ before, T.equal s.key key = false) ∧ ∀ s ∈ after, T.equal s.key key = false := by
  obtain ⟨-, hafter, hcross⟩ := List.pairwise_append.mp h
  obtain ⟨hafter, -⟩ := List.pairwise_cons.mp hafter
  constructor
  · intro s hs
    refine Bool.eq_false_iff.mpr fun hkey => ?_
    have hequal := T.equal_trans _ _ _ hkey hr
    rw [hcross s hs r List.mem_cons_self] at hequal
    cases hequal
  · intro s hs
    refine Bool.eq_false_iff.mpr fun hkey => ?_
    have hequal := T.equal_trans _ _ _ hr hkey
    rw [hafter s hs] at hequal
    cases hequal

theorem satisfied_cases {T : Table} {key : Value} {guards : List Guard} {rows : List Stored}
    (hunique : T.Unique rows) (h : T.AsksFor key guards) :
    (∀ r ∈ rows, T.satisfies [guards] r = false) ∨
      ∃ before r after, rows = before ++ r :: after ∧ T.satisfies [guards] r = true ∧
        (∀ s ∈ before, T.satisfies [guards] s = false) ∧
        ∀ s ∈ after, T.satisfies [guards] s = false := by
  by_cases hnone : ∀ r ∈ rows, T.satisfies [guards] r = false
  · exact Or.inl hnone
  · push Not at hnone
    obtain ⟨r, hr, hsat⟩ := hnone
    rw [ne_eq, Bool.not_eq_false] at hsat
    obtain ⟨before, after, rfl⟩ := List.append_of_mem hr
    have hother {s : Stored} (hs : T.equal s.key key = false) : T.satisfies [guards] s = false := by
      refine Bool.eq_false_iff.mpr fun hsat' => ?_
      rw [equal_of_satisfies h hsat'] at hs
      cases hs
    obtain ⟨hbefore, hafter⟩ := hunique.others (equal_of_satisfies h hsat)
    exact Or.inr ⟨before, r, after, rfl, hsat, fun s hs => hother (hbefore s hs),
      fun s hs => hother (hafter s hs)⟩

/-- Executing a command for one key changes the one row that satisfies it, or nothing. -/
theorem perform_cases {T : Table} {key : Value} {as : List Assignment} {guards : List Guard}
    {rows : List Stored} (hunique : T.Unique rows) (h : T.AsksFor key guards)
    (table : String) (returnsVersion : Bool) :
    (∃ before r after r', rows = before ++ r :: after ∧ T.satisfies [guards] r = true ∧
      T.assignAll as r = some r' ∧
      T.perform ⟨table, as, [guards], returnsVersion⟩ rows =
        (if returnsVersion then .rows [[.of (.int r'.version)]] else .affected 1,
          before ++ r' :: after)) ∨
    T.perform ⟨table, as, [guards], returnsVersion⟩ rows =
      (if returnsVersion then .rows [] else .affected 0, rows) ∨
    ∃ e, T.perform ⟨table, as, [guards], returnsVersion⟩ rows = (.failure e, rows) := by
  unfold perform
  split
  · exact Or.inr (Or.inr ⟨_, rfl⟩)
  · split
    · exact Or.inr (Or.inr ⟨_, rfl⟩)
    · rcases satisfied_cases hunique h with hnone | ⟨before, r, after, rfl, hsat, hbefore, hafter⟩
      · rw [change_of_none hnone]
        refine Or.inr (Or.inl ?_)
        cases returnsVersion <;> rfl
      · rw [change_of_one hbefore hafter hsat]
        cases hassign : T.assignAll as r with
        | none => exact Or.inr (Or.inr ⟨_, rfl⟩)
        | some r' =>
          refine Or.inl ⟨before, r, after, r', rfl, hsat, hassign, ?_⟩
          cases returnsVersion <;> rfl

end Table

end RowMap.Store
