import RowMap.Proofs.Store.Table
import RowMap.Proofs.Statement.WriteParts
import RowMap.Writer

/-!
# What the writer's statements do to a table

The update of a version changes the row of its key, if that row has the version, is not deleted
and belongs to the owner, and raises its version by one. The deletion marks such a row of any
version. Otherwise both leave the table as it was.
-/

namespace RowMap.Store

/-! ## The statements as commands -/

def recordAssignments {s : Shape} (r : Record s) : List Assignment :=
  r.writableValues.map fun (column, v) => .set column v

theorem ofRecord_eq {s : Shape} (r : Record s) :
    Update.ofRecord r = { table := s.table
                          setters := (recordAssignments r).map Assignment.text
                          values := (recordAssignments r).flatMap Assignment.values } := by
  rw [Update.ofRecord_eq, recordAssignments, List.map_map, List.map_map, List.flatMap_map,
    List.map_eq_flatMap (f := Prod.snd)]
  rfl

theorem ofRecord_set {s : Shape} (r : Record s) (column : String) (v : Value) :
    (Update.ofRecord r).set column v =
      { table := s.table
        setters := (recordAssignments r ++ [Assignment.set column v]).map Assignment.text
        values := (recordAssignments r ++ [Assignment.set column v]).flatMap Assignment.values } := by
  rw [ofRecord_eq]
  simp [Update.set, Assignment.text, Assignment.values]

theorem bare_equals (column : String) (v : Value) :
    (Column.bare column).compare .eq v = (Guard.equals column v).condition := by
  have hsign : (" " ++ Comparison.eq.sign ++ " ?" : String) = " = ?" := rfl
  simp only [Column.compare, Guard.condition, Guard.text, Guard.values, ← hsign]
  simp [Column.qualified, Column.bare, String.append_assoc]

def updateGuards (keyColumn : String) (key : Value) (version : Int32) (owner : Ownership) :
    List Guard :=
  [.equals keyColumn key, .equals versionColumn (.of (.int version)), .notDeleted,
    .equals owner.column owner.value]

theorem versionedUpdate_builder (table : String) (as : List Assignment) (keyColumn : String)
    (key : Value) (version : Int32) (owner : Ownership) :
    Writer.versionedUpdate
        { table
          setters := as.map Assignment.text
          values := as.flatMap Assignment.values } keyColumn key version (some owner) =
      builder table (as ++ [.count, .touch]) (updateGuards keyColumn key version owner) true := by
  simp [Writer.versionedUpdate, Update.setRaw, Update.filter, Update.withReturning, builder,
    updateGuards, Guard.condition, Guard.text, Guard.values, Assignment.text, Assignment.values,
    Ownership.condition, versionColumn, bare_equals]
  rfl

theorem versionedUpdate_eq {s : Shape} (r : Record s) (keyColumn : String) (key : Value)
    (version : Int32) (owner : Ownership) :
    Writer.versionedUpdate (.ofRecord r) keyColumn key version (some owner) =
      builder s.table (recordAssignments r ++ [.count, .touch])
        (updateGuards keyColumn key version owner) true := by
  rw [ofRecord_eq, versionedUpdate_builder]

def deletionGuards (keyColumn : String) (key : Value) (owner : Ownership) : List Guard :=
  [.equals keyColumn key, .notDeleted, .equals owner.column owner.value]

theorem deletion_eq (s : Shape) (keyColumn : String) (id : Value) (owner : Ownership) :
    Writer.deletion s keyColumn id (some owner) =
      builder s.table [.mark, .touch] (deletionGuards keyColumn id owner) false := by
  simp [Writer.deletion, Update.ofTable, Update.setRaw, Update.filter, builder, deletionGuards,
    Guard.condition, Guard.text, Guard.values, Assignment.text, Assignment.values,
    Ownership.condition, bare_equals]

/-- The command that the update of a version is meant as. -/
def updateCommand {s : Shape} (r : Record s) (keyColumn : String) (key : Value) (version : Int32)
    (owner : Ownership) : Command where
  table := s.table
  assignments := recordAssignments r ++ [.count, .touch]
  clause := [updateGuards keyColumn key version owner]
  returnsVersion := true

def deletionCommand (s : Shape) (keyColumn : String) (id : Value) (owner : Ownership) : Command where
  table := s.table
  assignments := [.mark, .touch]
  clause := [deletionGuards keyColumn id owner]
  returnsVersion := false

/-! ## Names that fit -/

/-- The names of a record type are plain, and it writes neither the key nor the version itself. -/
structure Table.Fits (T : Table) (s : Shape) : Prop where
  table : IsName s.table.toList
  key : ∀ column, Writer.keyColumn? s = some column → IsColumn column ∧ lowered column = lowered T.key
  columns : ∀ column ∈ s.writableColumns.map Prod.snd,
    IsColumn column ∧ lowered column ≠ versionColumn ∧ lowered column ≠ lowered T.key

theorem recordAssignments_mem {s : Shape} {r : Record s} {a : Assignment}
    (h : a ∈ recordAssignments r) :
    ∃ column v, a = .set column v ∧ column ∈ s.writableColumns.map Prod.snd := by
  obtain ⟨⟨column, v⟩, hm, rfl⟩ := List.mem_map.mp h
  obtain ⟨⟨i, c⟩, hi, hc⟩ := List.mem_filterMap.mp hm
  obtain ⟨_, -, hc⟩ := Option.map_eq_some_iff.mp hc
  cases hc
  exact ⟨column, v, rfl, List.mem_map.mpr ⟨(i, column), hi, rfl⟩⟩

/-! ## Rows before and after -/

/-- The row of a key that a write of an owner may change. -/
structure Table.Admits (T : Table) (key : Value) (owner : Ownership) (r : Stored) : Prop where
  key : T.equal r.key key = true
  present : r.deleted = false
  owner : T.equal (T.cell r owner.column) owner.value = true

structure Raised (r r' : Stored) : Prop where
  key : r'.key = r.key
  version : r'.version.toInt = r.version.toInt + 1

structure Marked (r r' : Stored) : Prop where
  key : r'.key = r.key
  version : r'.version = r.version
  deleted : r'.deleted = true

theorem toInt_succ {v : Int32} (h : v ≠ Int32.maxValue) : (v + 1).toInt = v.toInt + 1 := by
  have hne : v.toInt ≠ 2147483647 := fun heq => h (Int32.toInt_inj.mp heq)
  have hle := Int32.toInt_le v
  have hge := Int32.le_toInt v
  have hmax : Int32.maxValue.toInt = 2147483647 := rfl
  have hmin : Int32.minValue.toInt = -2147483648 := rfl
  have hone : (1 : Int32).toInt = 1 := rfl
  rw [Int32.toInt_add, hone]
  exact Int.bmod_eq_of_le (by omega) (by omega)

section
variable {T : Table} {s : Shape}

theorem cell_version (r : Stored) : T.cell r versionColumn = .of (.int r.version) := by
  have hlowered : lowered versionColumn = versionColumn := rfl
  have hkey : versionColumn ≠ lowered T.key := by
    intro heq
    exact T.key_plain (by simp [← heq])
  rw [Table.cell, hlowered, if_neg hkey, if_pos rfl]

theorem assign_set_frame {r r' : Stored} {column : String} {v : Value}
    (hversion : lowered column ≠ versionColumn) (hkey : lowered column ≠ lowered T.key)
    (h : T.assign r (.set column v) = some r') : r'.key = r.key ∧ r'.version = r.version := by
  simp only [Table.assign] at h
  unfold Table.setCell at h
  rw [if_neg hkey, if_neg hversion] at h
  split at h
  · split at h
    · cases h
      exact ⟨rfl, rfl⟩
    · cases h
  · cases h
    exact ⟨rfl, rfl⟩

theorem assignAll_append (as bs : List Assignment) (r : Stored) :
    T.assignAll (as ++ bs) r = (T.assignAll as r).bind (T.assignAll bs) := by
  simp [Table.assignAll, List.foldlM_append]
  rfl

theorem assignAll_sets_frame {as : List Assignment}
    (has : ∀ a ∈ as, ∃ column v, a = .set column v ∧ lowered column ≠ versionColumn ∧
      lowered column ≠ lowered T.key) {r r' : Stored} (h : T.assignAll as r = some r') :
    r'.key = r.key ∧ r'.version = r.version := by
  induction as generalizing r with
  | nil =>
    cases h
    exact ⟨rfl, rfl⟩
  | cons a as ih =>
    obtain ⟨⟨column, v, rfl, hversion, hkey⟩, hrest⟩ := List.forall_mem_cons.mp has
    obtain ⟨r₁, hstep, h⟩ := Option.bind_eq_some_iff.mp h
    have hframe := assign_set_frame hversion hkey hstep
    have hframe' := ih hrest h
    exact ⟨hframe'.1.trans hframe.1, hframe'.2.trans hframe.2⟩

theorem assignAll_update (hfits : T.Fits s) {m : Record s} {r r' : Stored}
    (h : T.assignAll (recordAssignments m ++ [.count, .touch]) r = some r') : Raised r r' := by
  rw [assignAll_append] at h
  obtain ⟨r₁, hsets, h⟩ := Option.bind_eq_some_iff.mp h
  have hframe : r₁.key = r.key ∧ r₁.version = r.version := by
    refine assignAll_sets_frame (fun a ha => ?_) hsets
    obtain ⟨column, v, rfl, hcolumn⟩ := recordAssignments_mem ha
    obtain ⟨-, hversion, hkey⟩ := hfits.columns column hcolumn
    exact ⟨column, v, rfl, hversion, hkey⟩
  obtain ⟨r₂, hcount, h⟩ := Option.bind_eq_some_iff.mp h
  rw [Table.assign] at hcount
  split at hcount
  · cases hcount
  · next hmax =>
    cases hcount
    cases h
    exact ⟨hframe.1, by rw [← hframe.2]; exact toInt_succ hmax⟩

theorem assignAll_deletion {r r' : Stored} (h : T.assignAll [.mark, .touch] r = some r') :
    Marked r r' := by
  cases h
  exact ⟨rfl, rfl, rfl⟩

/-! ## Guards -/

theorem satisfies_update {keyColumn : String} {key : Value} {version : Int32} {owner : Ownership}
    {r : Stored} (hkey : lowered keyColumn = lowered T.key)
    (h : T.satisfies [updateGuards keyColumn key version owner] r = true) :
    T.Admits key owner r ∧ r.version = version := by
  simp only [Table.satisfies, updateGuards, List.any_cons, List.any_nil, Bool.or_false,
    List.all_cons, List.all_nil, Bool.and_true, Bool.and_eq_true, Table.holds, cell_version,
    T.equal_version, decide_eq_true_eq, Bool.not_eq_true'] at h
  obtain ⟨hk, hversion, hdeleted, howner⟩ := h
  rw [Table.cell, if_pos hkey] at hk
  exact ⟨⟨hk, hdeleted, howner⟩, hversion⟩

theorem satisfies_deletion {keyColumn : String} {key : Value} {owner : Ownership} {r : Stored}
    (hkey : lowered keyColumn = lowered T.key)
    (h : T.satisfies [deletionGuards keyColumn key owner] r = true) : T.Admits key owner r := by
  simp only [Table.satisfies, deletionGuards, List.any_cons, List.any_nil, Bool.or_false,
    List.all_cons, List.all_nil, Bool.and_true, Bool.and_eq_true, Table.holds,
    Bool.not_eq_true'] at h
  obtain ⟨hk, hdeleted, howner⟩ := h
  rw [Table.cell, if_pos hkey] at hk
  exact ⟨hk, hdeleted, howner⟩

/-! ## Answers -/

theorem isSetting_builder (table : String) (as : List Assignment) (gs : List Guard)
    (returnsVersion : Bool) : Table.isSetting (builder table as gs returnsVersion).build = false := by
  have hupdate : "UPDATE ".toList = 'U' :: "PDATE ".toList := by decide
  have hset : "SET LOCAL ".toList = 'S' :: "ET LOCAL ".toList := by decide
  obtain ⟨rest, hrest⟩ : ∃ rest, (builder table as gs returnsVersion).text.toList = 'U' :: rest := by
    simp only [Update.text, String.toList_append, List.append_assoc, hupdate, List.cons_append]
    exact ⟨_, rfl⟩
  have hsql : (builder table as gs returnsVersion).build.sql.toList = 'U' :: renumberFrom 1 rest := by
    rw [Update.build, Statement.ofMarked, String.toList_ofList, hrest, renumber,
      renumberFrom.eq_4 _ _ _ (by simp) (by simp)]
  rw [Table.isSetting, hsql, hset, List.isPrefixOf_cons_cons]
  rfl

theorem isSetting_timeout (w : Writer) : Table.isSetting ⟨w.timeoutSql, []⟩ = true := by
  have hsplit : "SET LOCAL statement_timeout = ".toList =
      "SET LOCAL ".toList ++ "statement_timeout = ".toList := by decide
  have hsql : w.timeoutSql.toList =
      "SET LOCAL statement_timeout = ".toList ++ (toString w.timeout).toList := by
    delta Writer.timeoutSql
    exact String.toList_append
  rw [Table.isSetting, List.isPrefixOf_iff_prefix, hsql, hsplit, List.append_assoc]
  exact List.prefix_append _ _

theorem answer_timeout (w : Writer) (rows : List Stored) :
    T.answer ⟨w.timeoutSql, []⟩ rows = (.affected 0, rows) := by
  rw [Table.answer, if_pos (isSetting_timeout w)]

theorem read_update (hfits : T.Fits s) (m : Record s) {keyColumn : String}
    (hcolumn : Writer.keyColumn? s = some keyColumn) (key : Value) (version : Int32)
    {owner : Ownership} (howner : IsColumn owner.column) :
    readCommand (Writer.versionedUpdate (.ofRecord m) keyColumn key version (some owner)).build =
      some (updateCommand m keyColumn key version owner) := by
  obtain ⟨hplain, -⟩ := hfits.key _ hcolumn
  have has : ∀ a ∈ recordAssignments m ++ [.count, .touch], a.IsPlain := by
    intro a ha
    rcases List.mem_append.mp ha with ha | ha
    · obtain ⟨column, v, rfl, hm⟩ := recordAssignments_mem ha
      exact (hfits.columns column hm).1
    · simp only [List.mem_cons, List.not_mem_nil, or_false] at ha
      rcases ha with rfl | rfl <;> trivial
  have hgs : ∀ g ∈ updateGuards keyColumn key version owner, g.IsPlain := by
    have hversion : IsColumn versionColumn := by decide
    simpa [updateGuards, Guard.IsPlain] using ⟨hplain, hversion, howner⟩
  rw [versionedUpdate_eq]
  exact readCommand_builder hfits.table has (by simp) hgs (by simp [updateGuards]) true

theorem read_deletion (hfits : T.Fits s) {keyColumn : String}
    (hcolumn : Writer.keyColumn? s = some keyColumn) (id : Value) {owner : Ownership}
    (howner : IsColumn owner.column) :
    readCommand (Writer.deletion s keyColumn id (some owner)).build =
      some (deletionCommand s keyColumn id owner) := by
  obtain ⟨hplain, -⟩ := hfits.key _ hcolumn
  have has : ∀ a ∈ [Assignment.mark, .touch], a.IsPlain := by
    intro a ha
    simp only [List.mem_cons, List.not_mem_nil, or_false] at ha
    rcases ha with rfl | rfl <;> trivial
  have hgs : ∀ g ∈ deletionGuards keyColumn id owner, g.IsPlain := by
    simpa [deletionGuards, Guard.IsPlain] using ⟨hplain, howner⟩
  rw [deletion_eq]
  exact readCommand_builder hfits.table has (by simp) hgs (by simp [deletionGuards]) false

theorem isSetting_update (m : Record s) (keyColumn : String) (key : Value) (version : Int32)
    (owner : Ownership) :
    Table.isSetting
      (Writer.versionedUpdate (.ofRecord m) keyColumn key version (some owner)).build = false := by
  rw [versionedUpdate_eq]
  exact isSetting_builder _ _ _ true

theorem isSetting_deletion (keyColumn : String) (id : Value) (owner : Ownership) :
    Table.isSetting (Writer.deletion s keyColumn id (some owner)).build = false := by
  rw [deletion_eq]
  exact isSetting_builder _ _ _ false

/-- What an update does to a table: one row is raised, or nothing is changed. -/
theorem answer_update (hfits : T.Fits s) {rows : List Stored} (hunique : T.Unique rows)
    (m : Record s) {keyColumn : String} (hcolumn : Writer.keyColumn? s = some keyColumn)
    (key : Value) (version : Int32) {owner : Ownership} (howner : IsColumn owner.column) :
    let stmt := (Writer.versionedUpdate (.ofRecord m) keyColumn key version (some owner)).build
    (∃ before r after r', rows = before ++ r :: after ∧ T.Admits key owner r ∧
      r.version = version ∧ Raised r r' ∧
      T.answer stmt rows = (.rows [[.of (.int r'.version)]], before ++ r' :: after)) ∨
    T.answer stmt rows = (.rows [], rows) ∨
    ∃ e, T.answer stmt rows = (.failure e, rows) := by
  intro stmt
  have hkey := (hfits.key _ hcolumn).2
  have hasks : T.AsksFor key (updateGuards keyColumn key version owner) :=
    ⟨keyColumn, hkey, List.mem_cons_self⟩
  have hanswer := T.answer_of_read (isSetting_update m keyColumn key version owner)
    (read_update hfits m hcolumn key version howner) rows
  rcases Table.perform_cases hunique hasks s.table true with
    ⟨before, r, after, r', hrows, hsat, hassign, hperform⟩ | hperform | ⟨e, hperform⟩
  · obtain ⟨hadmits, hversion⟩ := satisfies_update hkey hsat
    exact Or.inl ⟨before, r, after, r', hrows, hadmits, hversion,
      assignAll_update hfits hassign, hanswer.trans hperform⟩
  · exact Or.inr (Or.inl (hanswer.trans hperform))
  · exact Or.inr (Or.inr ⟨e, hanswer.trans hperform⟩)

/-- What a deletion does to a table: one row is marked, or nothing is changed. -/
theorem answer_deletion (hfits : T.Fits s) {rows : List Stored} (hunique : T.Unique rows)
    {keyColumn : String} (hcolumn : Writer.keyColumn? s = some keyColumn) (id : Value)
    {owner : Ownership} (howner : IsColumn owner.column) :
    let stmt := (Writer.deletion s keyColumn id (some owner)).build
    (∃ before r after r', rows = before ++ r :: after ∧ T.Admits id owner r ∧ Marked r r' ∧
      T.answer stmt rows = (.affected 1, before ++ r' :: after)) ∨
    T.answer stmt rows = (.affected 0, rows) ∨
    ∃ e, T.answer stmt rows = (.failure e, rows) := by
  intro stmt
  have hkey := (hfits.key _ hcolumn).2
  have hasks : T.AsksFor id (deletionGuards keyColumn id owner) :=
    ⟨keyColumn, hkey, List.mem_cons_self⟩
  have hanswer := T.answer_of_read (isSetting_deletion keyColumn id owner)
    (read_deletion hfits hcolumn id howner) rows
  rcases Table.perform_cases hunique hasks s.table false with
    ⟨before, r, after, r', hrows, hsat, hassign, hperform⟩ | hperform | ⟨e, hperform⟩
  · exact Or.inl ⟨before, r, after, r', hrows, satisfies_deletion hkey hsat,
      assignAll_deletion hassign, hanswer.trans hperform⟩
  · exact Or.inr (Or.inl (hanswer.trans hperform))
  · exact Or.inr (Or.inr ⟨e, hanswer.trans hperform⟩)

end

end RowMap.Store
