import RowMap.Proofs.Record.Coherence
import RowMap.Proofs.Record.Counterpart
import RowMap.Proofs.Statement.Blanks

/-!
# What statements write of a record

An insertion and an update of one record write the same columns, and the same value into each: the
datum of a scalar, the key of a record, or their null.
-/

namespace RowMap

open Conversion (IsFirst isFirst_iff)
open RowMap.Tree (Entry)

namespace Field

/-- The tag `db` names the column, and the column can hold the field's type. -/
def StoredIn (f : Field) (column : String) : Prop :=
  f.info.tag? "db" = some column ∧ column ≠ "" ∧ column ≠ "-" ∧ f.description.storable = true

/-- Neither the key nor assigned by the store, and with a key to refer to if it is a record. -/
structure Written (f : Field) : Prop where
  stored : ∃ column, f.StoredIn column
  notKey : ¬ IsKey f.info
  notGenerated : f.info.generated = false
  refers : ∀ inner, f.inner? = some inner → inner.HasKey

end Field

/-- The value that a column has for a field: of several keys the first one counts. -/
inductive Tree.Entry.Stores : Entry → Value → Prop
  | scalar {e : Entry} {t : ScalarType} {x : t.Carrier} (hx : e.view = .scalar (.scalar t) x) :
    Stores e (t.bind x)
  | absent {e : Entry} {t : ScalarType} (habsent : e.view = .absent)
    (ht : e.field.type? = some (.scalar t)) : Stores e t.null
  | record {e key : Entry} {shape : Shape} {r : Record shape} {v : Value}
    (hr : e.view = .record shape r)
    (hkey : IsFirst (fun e : Entry => IsKey e.field.info) (entries shape.fields r) key)
    (h : Stores key v) : Stores e v
  | absentRecord {e : Entry} {inner : Fields} {key : Field} {t : ScalarType}
    (habsent : e.view = .absent) (hinner : e.field.inner? = some inner)
    (hkey : IsFirst (fun f : Field => IsKey f.info) inner.all key)
    (ht : key.type? = some (.scalar t)) : Stores e t.null

namespace Field

theorem toFieldInfo_description (f : Field) : f.description.toFieldInfo = f.info := by
  cases f <;> rfl

theorem column_eq_some_iff (f : Field) (c : String) :
    f.description.column = some c ↔ f.StoredIn c := by
  rw [FieldMeta.column, FieldInfo.column?, toFieldInfo_description, StoredIn]
  cases f.info.tag? "db" with
  | none => simp
  | some name =>
    by_cases hstorable : f.description.storable = true
    · simp only [hstorable, if_true, Option.some.injEq, and_true, Bool.or_eq_true,
        String.isEmpty_iff, decide_eq_true_eq]
      split <;> grind
    · simp [hstorable]

theorem written_iff (f : Field) : f.Written ↔
    f.description.isWritable = true ∧ ∀ inner, f.inner? = some inner → inner.HasKey := by
  have hcolumn : f.description.column.isSome ↔ ∃ c, f.StoredIn c := by
    simp only [Option.isSome_iff_exists, column_eq_some_iff]
  rw [FieldMeta.isWritable, Bool.and_eq_true, Bool.and_eq_true, hcolumn, Bool.not_eq_true',
    Bool.not_eq_true', toFieldInfo_description]
  constructor
  · intro h
    exact ⟨⟨⟨h.stored, Bool.eq_false_iff.mpr h.notKey⟩, h.notGenerated⟩, h.refers⟩
  · rintro ⟨⟨⟨hstored, hkey⟩, hgenerated⟩, hrefers⟩
    exact ⟨hstored, Bool.eq_false_iff.mp hkey, hgenerated, hrefers⟩

instance : DecidablePred Written := fun f =>
  match h : f.inner? with
  | none => decidable_of_iff (f.description.isWritable = true) (by simp [written_iff, h])
  | some inner => decidable_of_iff (f.description.isWritable = true ∧ inner.HasKey)
      (by simp [written_iff, h])

end Field

/-! ## One value for each field -/

theorem Conversion.IsFirst.unique {α : Type} {p : α → Prop} {l : List α} {x y : α}
    (hx : IsFirst p l x) (hy : IsFirst p l y) : x = y := by
  classical
  exact Option.some.inj ((isFirst_iff.mp hx).symm.trans (isFirst_iff.mp hy))

theorem Conversion.IsFirst.cons {α : Type} {p : α → Prop} {l : List α} {x y : α} (hy : ¬ p y)
    (hx : IsFirst p l x) : IsFirst p (y :: l) x := by
  obtain ⟨before, after, rfl, hpx, hbefore⟩ := hx
  exact ⟨y :: before, after, rfl, hpx, List.forall_mem_cons.mpr ⟨hy, hbefore⟩⟩

namespace Tree

theorem Entry.Stores.unique {e : Entry} {v w : Value} (hv : e.Stores v) (hw : e.Stores w) :
    v = w := by
  have hscalar {f : Field} {inner : Fields} {t : FieldType} (hinner : f.inner? = some inner) :
      f.type? ≠ some t := by
    cases f with
    | scalar | optional => cases hinner
    | record | reference => exact nofun
  induction hv generalizing w with
  | scalar hx =>
    cases hw with
    | scalar hy =>
      obtain ⟨ht, hxy⟩ := View.scalar.inj (hx.symm.trans hy)
      cases ht
      cases hxy
      rfl
    | absent h | record h | absentRecord h => cases hx.symm.trans h
  | absent ha ht =>
    cases hw with
    | scalar h | record h => cases ha.symm.trans h
    | absent _ ht' =>
      cases ht.symm.trans ht'
      rfl
    | absentRecord _ hinner => exact absurd ht (hscalar hinner)
  | record hr hkey _ ih =>
    cases hw with
    | scalar h | absent h | absentRecord h => cases hr.symm.trans h
    | record hr' hkey' h' =>
      cases hr.symm.trans hr'
      obtain rfl := hkey.unique hkey'
      exact ih h'
  | absentRecord ha hinner hkey ht =>
    cases hw with
    | scalar h | record h => cases ha.symm.trans h
    | absent _ ht' => exact absurd ht' (hscalar hinner)
    | absentRecord _ hinner' hkey' ht' =>
      cases hinner.symm.trans hinner'
      obtain rfl := hkey.unique hkey'
      cases ht.symm.trans ht'
      rfl

/-! ## Keys -/

variable {fs : Fields}

theorem stores_of_keyValue? (hkeys : fs.KeysHaveColumns) {r : Tree fs} {v : Value}
    (h : keyValue? fs r = some v) :
    ∃ key, IsFirst (fun e : Entry => IsKey e.field.info) (entries fs r) key ∧ key.Stores v := by
  induction fs with
  | nil => cases h
  | scalar info t rest ih =>
    obtain ⟨x, more⟩ := r
    by_cases hp : info.primaryKey = true
    · obtain ⟨u, rfl, -⟩ := scalar_of_column (hkeys.1 hp)
      rw [keyValue?, if_pos hp] at h
      cases h
      exact ⟨_, ⟨[], _, rfl, hp, List.forall_mem_nil _⟩, .scalar rfl⟩
    · rw [keyValue?, if_neg hp] at h
      obtain ⟨key, hkey, hstores⟩ := ih hkeys.2 h
      exact ⟨key, hkey.cons hp, hstores⟩
  | optional info t rest ih =>
    obtain ⟨x, more⟩ := r
    by_cases hp : info.primaryKey = true
    · obtain ⟨u, rfl, -⟩ := scalar_of_column (hkeys.1 hp)
      rw [keyValue?, if_pos hp] at h
      refine ⟨_, ⟨[], _, rfl, hp, List.forall_mem_nil _⟩, ?_⟩
      cases x with
      | none =>
        cases h
        exact .absent rfl rfl
      | some x =>
        cases h
        exact .scalar rfl
    · rw [keyValue?, if_neg hp] at h
      obtain ⟨key, hkey, hstores⟩ := ih hkeys.2 h
      exact ⟨key, hkey.cons hp, hstores⟩
  | record info _ _ inner rest _ ih | reference info _ _ inner rest _ ih =>
    obtain ⟨x, more⟩ := r
    obtain ⟨hp, -, hrest⟩ := hkeys
    have hp : ¬ info.primaryKey = true := Bool.eq_false_iff.mp hp
    rw [keyValue?, if_neg hp] at h
    obtain ⟨key, hkey, hstores⟩ := ih hrest h
    exact ⟨key, hkey.cons hp, hstores⟩

theorem type_of_nullKey? (hkeys : fs.KeysHaveColumns) {v : Value} (h : nullKey? fs = some v) :
    ∃ key t, IsFirst (fun f : Field => IsKey f.info) fs.all key ∧
      key.type? = some (.scalar t) ∧ v = t.null := by
  induction fs with
  | nil => cases h
  | scalar info t rest ih | optional info t rest ih =>
    by_cases hp : info.primaryKey = true
    · obtain ⟨u, rfl, -⟩ := scalar_of_column (hkeys.1 hp)
      rw [nullKey?, if_pos hp] at h
      cases h
      exact ⟨_, u, ⟨[], _, rfl, hp, List.forall_mem_nil _⟩, rfl, rfl⟩
    · rw [nullKey?, if_neg hp] at h
      obtain ⟨key, u, hkey, ht, hv⟩ := ih hkeys.2 h
      exact ⟨key, u, hkey.cons hp, ht, hv⟩
  | record info _ _ inner rest _ ih | reference info _ _ inner rest _ ih =>
    obtain ⟨hp, -, hrest⟩ := hkeys
    have hp : ¬ info.primaryKey = true := Bool.eq_false_iff.mp hp
    rw [nullKey?, if_neg hp] at h
    obtain ⟨key, u, hkey, ht, hv⟩ := ih hrest h
    exact ⟨key, u, hkey.cons hp, ht, hv⟩

/-! ## Slots and entries -/

namespace Slot

variable {gs : Fields}

/-- The field of a slot with what it holds. -/
def entry : Slot fs → Entry
  | .scalar info t x _ => ⟨.scalar info t, x⟩
  | .optional info t x _ => ⟨.optional info t, x⟩
  | .record info shape r _ => ⟨.record info shape.typeName shape.table shape.fields, r⟩
  | .reference info shape r _ => ⟨.reference info shape.typeName shape.table shape.fields, r⟩

theorem entry_within (f : Tree fs → Tree gs) (slot : Slot fs) :
    (slot.within f).entry = slot.entry := by
  cases slot <;> rfl

theorem description_entry (slot : Slot fs) : slot.entry.field.description = slot.fieldMeta := by
  cases slot <;> rfl

theorem inner?_entry (slot : Slot fs) :
    slot.entry.field.inner? = slot.shape?.map Shape.fields := by
  cases slot <;> rfl

theorem stores_of_columnValue? {slot : Slot fs}
    (hkeys : ∀ inner, slot.shape? = some inner → inner.fields.KeysHaveColumns) {v : Value}
    (h : slot.columnValue? = some v) : slot.entry.Stores v := by
  cases slot with
  | scalar info t x put =>
    by_cases hc : (t.column info).isSome
    · obtain ⟨u, rfl, -⟩ := scalar_of_column hc
      rw [columnValue?, if_pos hc] at h
      cases h
      exact .scalar rfl
    · cases (if_neg hc).symm.trans h
  | optional info t x put =>
    by_cases hc : (t.column info).isSome
    · obtain ⟨u, rfl, -⟩ := scalar_of_column hc
      rw [columnValue?, if_pos hc] at h
      cases x with
      | none =>
        cases h
        exact .absent rfl rfl
      | some x =>
        cases h
        exact .scalar rfl
    · cases (if_neg hc).symm.trans h
  | record info shape a put =>
    by_cases hc : info.column?.isSome
    · rw [columnValue?, if_pos hc] at h
      obtain ⟨key, hkey, hstores⟩ := stores_of_keyValue? (hkeys shape rfl) h
      exact .record rfl hkey hstores
    · cases (if_neg hc).symm.trans h
  | reference info shape a put =>
    by_cases hc : info.column?.isSome
    · cases a with
      | none =>
        rw [columnValue?, if_pos hc] at h
        obtain ⟨key, t, hkey, ht, rfl⟩ := type_of_nullKey? (hkeys shape rfl) h
        exact .absentRecord rfl rfl hkey ht
      | some a =>
        rw [columnValue?, if_pos hc] at h
        obtain ⟨key, hkey, hstores⟩ := stores_of_keyValue? (hkeys shape rfl) h
        exact .record rfl hkey hstores
    · cases a <;> cases (if_neg hc).symm.trans h

end Slot

theorem getElem?_entries (fs : Fields) (r : Tree fs) (i : Nat) :
    (entries fs r)[i]? = (slot? fs r i).map Slot.entry := by
  fun_induction slot? fs r i with
  | case1 | case2 | case3 | case4 | case5 => rfl
  | case6 _ _ _ _ _ _ ih | case7 _ _ _ _ _ _ ih | case8 _ _ _ _ _ _ _ _ ih
  | case9 _ _ _ _ _ _ _ _ ih =>
    exact ih.trans (map_within (Slot.entry_within _) _).symm

end Tree

/-! ## Columns and values side by side -/

theorem forall₂_filterMap {α β : Type} {p : α → Prop} [DecidablePred p] {R : α → β → Prop}
    {f : α → Option β} {l : List α} (htaken : ∀ a ∈ l, p a → ∃ b, f a = some b ∧ R a b)
    (hleft : ∀ a ∈ l, ¬ p a → f a = none) : List.Forall₂ R (l.filter (p ·)) (l.filterMap f) := by
  induction l with
  | nil => exact .nil
  | cons a l ih =>
    obtain ⟨htaken, htakens⟩ := List.forall_mem_cons.mp htaken
    obtain ⟨hleft, hlefts⟩ := List.forall_mem_cons.mp hleft
    by_cases ha : p a
    · obtain ⟨b, hb, hab⟩ := htaken ha
      rw [List.filter_cons_of_pos (by simpa using ha), List.filterMap_cons_some hb]
      exact .cons hab (ih htakens hlefts)
    · rw [List.filter_cons_of_neg (by simpa using ha), List.filterMap_cons_none (hleft ha)]
      exact ih htakens hlefts

variable {s : Shape}

namespace Record

/-- The fields that statements write, in the order of their declaration. -/
def written (r : Record s) : List Entry := (Tree.entries s.fields r).filter (·.field.Written)

/-- Columns and values for the fields that statements write, one of each for each field. -/
structure Fills (r : Record s) (columns : List String) (values : List Value) : Prop where
  named : List.Forall₂ (fun e c => e.field.StoredIn c) r.written columns
  bound : List.Forall₂ Entry.Stores r.written values

theorem Fills.unique {r : Record s} {columns columns' : List String} {values values' : List Value}
    (h : r.Fills columns values) (h' : r.Fills columns' values') :
    columns = columns' ∧ values = values' := by
  refine ⟨List.right_unique_forall₂' (fun _ _ _ hc hc' => ?_) h.named h'.named,
    List.right_unique_forall₂' (fun _ _ _ hv hv' => hv.unique hv') h.bound h'.bound⟩
  exact Option.some.inj (hc.1.symm.trans hc'.1)

/-- The column of an entry and its value, if statements write it. -/
def writes? (r : Record s) (e : Entry × Nat) : Option (String × Value) :=
  if e.1.field.description.isWritable then
    e.1.field.description.column.bind fun c => (r.columnValue? e.2).map fun v => (c, v)
  else none

theorem writableValues_eq (r : Record s) :
    r.writableValues = (Tree.entries s.fields r).zipIdx.filterMap r.writes? := by
  rw [writableValues, Shape.writableColumns, List.filterMap_filterMap, Shape.metas,
    ← Tree.map_description_entries s.fields r, List.zipIdx_map, List.filterMap_map]
  refine List.filterMap_congr fun e _ => ?_
  simp only [writes?, Function.comp_apply, Prod.map]
  split
  · cases e.1.field.description.column <;> rfl
  · rfl

variable {r : Record s} {e : Entry} {i : Nat}

theorem writes?_of_written (hkeys : s.fields.KeysHaveColumns)
    (he : (Tree.entries s.fields r)[i]? = some e) (h : e.field.Written) :
    ∃ w, r.writes? (e, i) = some w ∧ e.field.StoredIn w.1 ∧ e.Stores w.2 := by
  obtain ⟨slot, hslot, rfl⟩ :=
    Option.map_eq_some_iff.mp ((Tree.getElem?_entries s.fields r i).symm.trans he)
  have hinner := keysHaveColumns_of_slot? hkeys (r := r) hslot
  obtain ⟨hwritable, hrefers⟩ := (Field.written_iff _).mp h
  obtain ⟨c, hc⟩ := h.stored
  have hcolumn := (Field.column_eq_some_iff _ _).mpr hc
  have hsome : slot.columnValue?.isSome := by
    rw [Tree.Slot.columnValue?_isSome_iff hinner, ← slot.description_entry, hcolumn]
    refine ⟨rfl, fun inner h => hrefers inner.fields ?_⟩
    rw [slot.inner?_entry, h]
    rfl
  obtain ⟨v, hv⟩ := Option.isSome_iff_exists.mp hsome
  have hvalue : r.columnValue? i = some v := by
    rw [r.columnValue?_eq_slot?, slot?, hslot]
    exact hv
  refine ⟨(c, v), ?_, hc, slot.stores_of_columnValue? hinner hv⟩
  simp only [writes?, hwritable, if_true, hcolumn, Option.bind_some, hvalue, Option.map_some]

theorem writes?_of_not_written (hkeys : s.fields.KeysHaveColumns)
    (he : (Tree.entries s.fields r)[i]? = some e) (h : ¬ e.field.Written) :
    r.writes? (e, i) = none := by
  obtain ⟨slot, hslot, rfl⟩ :=
    Option.map_eq_some_iff.mp ((Tree.getElem?_entries s.fields r i).symm.trans he)
  have hinner := keysHaveColumns_of_slot? hkeys (r := r) hslot
  rw [writes?]
  split
  · next hwritable =>
    -- Writable, so it can only be a record without a key.
    have hnone : r.columnValue? i = none := by
      rw [r.columnValue?_eq_slot?, slot?, hslot]
      refine Option.not_isSome_iff_eq_none.mp fun hsome => h ?_
      refine (Field.written_iff _).mpr ⟨hwritable, fun inner hfields => ?_⟩
      rw [slot.inner?_entry, Option.map_eq_some_iff] at hfields
      obtain ⟨shape, hshape, rfl⟩ := hfields
      exact ((Tree.Slot.columnValue?_isSome_iff hinner).mp hsome).2 shape hshape
    rw [hnone]
    exact Option.bind_eq_none_iff.mpr fun _ _ => rfl
  · rfl

theorem fills_writableValues (hkeys : s.fields.KeysHaveColumns) (r : Record s) :
    r.Fills (r.writableValues.map Prod.fst) (r.writableValues.map Prod.snd) := by
  have hside : List.Forall₂ (fun e w => e.1.field.StoredIn w.1 ∧ e.1.Stores w.2)
      ((Tree.entries s.fields r).zipIdx.filter (·.1.field.Written)) r.writableValues := by
    rw [writableValues_eq]
    refine forall₂_filterMap (fun e he => ?_) fun e he => ?_
    · exact writes?_of_written hkeys (List.mem_zipIdx_iff_getElem?.mp he)
    · exact writes?_of_not_written hkeys (List.mem_zipIdx_iff_getElem?.mp he)
  have hwritten : r.written =
      ((Tree.entries s.fields r).zipIdx.filter (·.1.field.Written)).map Prod.fst := by
    rw [written, ← List.zipIdx_map_fst 0 (Tree.entries s.fields r), List.filter_map,
      List.zipIdx_map_fst]
    rfl
  constructor <;> rw [hwritten, List.forall₂_map_left_iff, List.forall₂_map_right_iff]
  · exact hside.imp fun _ _ h => h.1
  · exact hside.imp fun _ _ h => h.2

/-- An insertion and an update of a record write the same values into the same columns, one for each
field that statements write. -/
theorem insertion_and_update_agree (hkeys : s.fields.KeysHaveColumns) (r : Record s) :
    ∃ columns values, Insert.ofRecord r = { table := s.table, columns, values } ∧
      Update.ofRecord r =
        { table := s.table, setters := columns.map fun c => c ++ " = ?", values } ∧
      (Insert.ofRecord r).build.values = values ∧ (Update.ofRecord r).build.values = values ∧
      columns.length = values.length ∧
      ∀ columns' values', r.Fills columns' values' ↔ columns' = columns ∧ values' = values := by
  have hinsert := Insert.ofRecord_eq r
  have hupdate := Update.ofRecord_eq r
  have hfills := fills_writableValues hkeys r
  refine ⟨_, _, hinsert, hupdate, by rw [hinsert]; rfl, ?_, by simp, fun columns values => ?_⟩
  · rw [hupdate]
    exact List.append_nil _
  · constructor
    · exact fun h => h.unique hfills
    · rintro ⟨rfl, rfl⟩
      exact hfills

end Record

namespace Bookshelf

theorem bookless_written :
    let plan := Mapped.toRecord { summerPlan with book := none }
    (Mapped.shape ReadingPlan).fields.KeysHaveColumns ∧
      (Insert.ofRecord plan).columns = ["status", "start_date", "target_date", "priority",
        "pages_per_day", "minutes_per_day", "book_id", "user_id"] ∧
      (Update.ofRecord plan).values = [.of (.int 2), .null .instant, .null .instant, .null .int,
        .of (.int 0), .of (.int 30), .null .bigInt, .of (.bigInt 3)] ∧
      plan.Fills (Insert.ofRecord plan).columns (Update.ofRecord plan).values := by
  intro plan
  have hkeys : (Mapped.shape ReadingPlan).fields.KeysHaveColumns := by decide
  obtain ⟨columns, values, hinsert, hupdate, -, -, -, hfills⟩ :=
    Record.insertion_and_update_agree hkeys plan
  refine ⟨hkeys, rfl, rfl, ?_⟩
  rw [hinsert, hupdate]
  exact (hfills columns values).mpr ⟨rfl, rfl⟩

end Bookshelf

end RowMap
