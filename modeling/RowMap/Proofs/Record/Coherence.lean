import RowMap.Proofs.Declaration.Keys
import RowMap.Proofs.Record.Rescan

/-!
# Records agree with their descriptions

The description of a field says which column stores it, and whether it is the primary key. What a
record answers at an index follows from the description there, as long as its keys are what
declarations accept as keys.
-/

namespace RowMap

namespace Tree

/-! ## Why a value is refused -/

theorem conversion_ne_noColumn (rest : String) (typeName : String) (index : Nat) :
    ExtractionError.conversion ("unknown " ++ rest) ≠ noColumn typeName index := by
  intro h
  have htext := congrArg String.toList (ExtractionError.conversion.inj h)
  simp [String.toList_append] at htext

theorem extract_ne_noColumn (t : ScalarType) (v : Value) (typeName : String) (index : Nat) :
    t.extract v ≠ .error (noColumn typeName index) := by
  intro h
  cases v with
  | null u =>
    rw [ScalarType.extract_null_eq] at h
    split at h <;> cases h
  | of d =>
    cases t with
    | coded e =>
      cases d with
      | int c =>
        simp only [ScalarType.extract] at h
        split at h
        · cases h
        · refine conversion_ne_noColumn (e.noun ++ " code " ++ toString c.toInt) typeName index ?_
          simpa only [String.append_assoc] using Except.error.inj h
      | _ => cases h
    | _ => cases d <;> cases h

theorem extractOption_ne_noColumn (t : ScalarType) (v : Value) (typeName : String) (index : Nat) :
    t.extractOption v ≠ .error (noColumn typeName index) := by
  intro h
  unfold ScalarType.extractOption at h
  split at h
  · cases h
  · cases h
  · next he =>
    cases h
    exact extract_ne_noColumn t v typeName index he

theorem map_ne_error {ε α β : Type} {x : Except ε α} {f : α → β} {e : ε} (h : x ≠ .error e) :
    x.map f ≠ .error e := by
  cases x with
  | error e' =>
    intro heq
    cases heq
    exact h rfl
  | ok a => exact nofun

theorem scanScalar_ne_noColumn {info : FieldInfo} {t : FieldType} (hcolumn : (t.column info).isSome)
    (v : Value) (name : String) (k : Nat) (typeName : String) (index : Nat) :
    scanScalar name k info t v ≠ .error (noColumn typeName index) := by
  obtain ⟨u, rfl, hc⟩ := scalar_of_column hcolumn
  have hscan : scanScalar name k info (.scalar u) v = u.extract v := if_pos hc
  rw [hscan]
  exact extract_ne_noColumn u v typeName index

theorem scanOptional_ne_noColumn {info : FieldInfo} {t : FieldType}
    (hcolumn : (t.column info).isSome) (v : Value) (name : String) (k : Nat) (typeName : String)
    (index : Nat) : scanOptional name k info t v ≠ .error (noColumn typeName index) := by
  obtain ⟨u, rfl, hc⟩ := scalar_of_column hcolumn
  have hscan : scanOptional name k info (.scalar u) v = u.extractOption v := if_pos hc
  rw [hscan]
  exact extractOption_ne_noColumn u v typeName index

theorem scanKey_ne_noColumn {fs : Fields} (hkeys : fs.KeysHaveColumns) (r : Tree fs) (v : Value)
    (name : String) (k : Nat) (typeName : String) (index : Nat) :
    scanKey name k v fs r ≠ .error (noColumn typeName index) := by
  induction fs generalizing k with
  | nil => exact nofun
  | scalar info t rest ih =>
    obtain ⟨x, more⟩ := r
    rw [scanKey]
    split
    · next hp => exact map_ne_error (scanScalar_ne_noColumn (hkeys.1 hp) v name k typeName index)
    · exact map_ne_error (ih hkeys.2 more (k + 1))
  | optional info t rest ih =>
    obtain ⟨x, more⟩ := r
    rw [scanKey]
    split
    · next hp => exact map_ne_error (scanOptional_ne_noColumn (hkeys.1 hp) v name k typeName index)
    · exact map_ne_error (ih hkeys.2 more (k + 1))
  | record info _ _ inner rest _ ih | reference info _ _ inner rest _ ih =>
    obtain ⟨a, more⟩ := r
    obtain ⟨hp, -, hrest⟩ := hkeys
    simp only [scanKey, hp, Bool.false_eq_true, if_false]
    exact map_ne_error (ih hrest more (k + 1))

/-! ## A slot and its description -/

/-- What is seen of a field fits its kind. -/
def View.Fits : View → FieldKind → Prop
  | .absent, k => k.isOptional = true
  | .scalar _ _, k => k.isRecord = false
  | .record _ _, k => k.isRecord = true

namespace Slot

variable {fs : Fields} {slot : Slot fs}

theorem view_fits (slot : Slot fs) : slot.view.Fits slot.fieldMeta.kind := by
  rcases slot with _ | ⟨_, _, _ | _, _⟩ | _ | ⟨_, _, _ | _, _⟩ <;> rfl

theorem isAbsent_view (slot : Slot fs) : slot.view.isAbsent = slot.isNone := by
  rcases slot with _ | ⟨_, _, _ | _, _⟩ | _ | ⟨_, _, _ | _, _⟩ <;> rfl

theorem bind?_isSome {info : FieldInfo} {t : FieldType} (h : (t.column info).isSome)
    (x : t.Carrier) : (t.bind? x).isSome := by
  obtain ⟨u, rfl, -⟩ := scalar_of_column h
  rfl

theorem bindOption?_isSome {info : FieldInfo} {t : FieldType} (h : (t.column info).isSome)
    (x : Option t.Carrier) : (t.bindOption? x).isSome := by
  obtain ⟨u, rfl, -⟩ := scalar_of_column h
  rfl

theorem columnValue?_isSome_iff
    (hkeys : ∀ inner, slot.shape? = some inner → inner.fields.KeysHaveColumns) :
    slot.columnValue?.isSome ↔ slot.fieldMeta.column.isSome ∧
      ∀ inner, slot.shape? = some inner → inner.fields.HasKey := by
  cases slot with
  | scalar info t x put =>
    by_cases hc : (t.column info).isSome
    · simp only [columnValue?, if_pos hc]
      exact iff_of_true (bind?_isSome hc x) ⟨hc, nofun⟩
    · simp only [columnValue?, if_neg hc]
      exact iff_of_false nofun fun h => hc h.1
  | optional info t x put =>
    by_cases hc : (t.column info).isSome
    · simp only [columnValue?, if_pos hc]
      exact iff_of_true (bindOption?_isSome hc x) ⟨hc, nofun⟩
    · simp only [columnValue?, if_neg hc]
      exact iff_of_false nofun fun h => hc h.1
  | record info shape a put =>
    have hkey := keyValue?_isSome_iff shape.fields (hkeys shape rfl) a
    by_cases hc : info.column?.isSome
    · simp only [columnValue?, if_pos hc, hkey]
      exact ⟨fun h => ⟨hc, fun _ hinner => by cases hinner; exact h⟩, fun h => h.2 _ rfl⟩
    · simp only [columnValue?, if_neg hc]
      exact iff_of_false nofun fun h => hc h.1
  | reference info shape a put =>
    by_cases hc : info.column?.isSome
    · have hkey : (columnValue? (.reference info shape a put)).isSome ↔ shape.fields.HasKey := by
        cases a with
        | none =>
          simp only [columnValue?, if_pos hc]
          exact nullKey?_isSome_iff shape.fields (hkeys shape rfl)
        | some a =>
          simp only [columnValue?, if_pos hc]
          exact keyValue?_isSome_iff shape.fields (hkeys shape rfl) a
      rw [hkey]
      exact ⟨fun h => ⟨hc, fun _ hinner => by cases hinner; exact h⟩, fun h => h.2 _ rfl⟩
    · have hnone : columnValue? (.reference info shape a put) = none := by
        cases a <;> exact if_neg hc
      rw [hnone]
      exact iff_of_false nofun fun h => hc h.1

theorem scan_noColumn_iff
    (hkeys : ∀ inner, slot.shape? = some inner → inner.fields.KeysHaveColumns)
    (typeName : String) (index : Nat) (v : Value) :
    slot.scan typeName index v = .error (noColumn typeName index) ↔
      slot.fieldMeta.column = none := by
  cases slot with
  | scalar info t x put =>
    by_cases hc : (t.column info).isSome
    · exact iff_of_false (map_ne_error (scanScalar_ne_noColumn hc v typeName index typeName index))
        fun h => by simp [show t.column info = none from h] at hc
    · refine iff_of_true ?_ (Option.not_isSome_iff_eq_none.mp hc)
      cases t with
      | texts => rfl
      | scalar u => exact congrArg (Except.map put) (if_neg hc)
  | optional info t x put =>
    by_cases hc : (t.column info).isSome
    · exact iff_of_false
        (map_ne_error (scanOptional_ne_noColumn hc v typeName index typeName index))
        fun h => by simp [show t.column info = none from h] at hc
    · refine iff_of_true ?_ (Option.not_isSome_iff_eq_none.mp hc)
      cases t with
      | texts => rfl
      | scalar u => exact congrArg (Except.map put) (if_neg hc)
  | record info shape a put =>
    have hkey := scanKey_ne_noColumn (hkeys shape rfl) a v shape.typeName 0 typeName index
    by_cases hc : info.column?.isSome
    · simp only [scan, if_pos hc]
      exact iff_of_false (map_ne_error hkey)
        fun h => by simp [show info.column? = none from h] at hc
    · simp only [scan, if_neg hc]
      exact iff_of_true trivial (Option.not_isSome_iff_eq_none.mp hc)
  | reference info shape a put =>
    by_cases hc : info.column?.isSome
    · refine iff_of_false ?_ fun h => by simp [show info.column? = none from h] at hc
      cases a with
      | none =>
        rw [scan, if_pos hc]
        exact fun h => by cases h
      | some a =>
        simp only [scan, if_pos hc]
        exact map_ne_error
          (scanKey_ne_noColumn (hkeys shape rfl) a v shape.typeName 0 typeName index)
    · refine iff_of_true ?_ (Option.not_isSome_iff_eq_none.mp hc)
      cases a <;> exact if_neg hc

/-- A scan takes the value into the field: a scalar, or a record that is there and has a key. -/
def Takes (slot : Slot fs) : Prop :=
  slot.fieldMeta.kind.isRecord = false ∨
    ∃ inner a, slot.view = .record inner a ∧ inner.fields.HasKey

theorem column_of_scanScalar {typeName : String} {index : Nat} {info : FieldInfo} {t : FieldType}
    {v : Value} {x : t.Carrier} (h : scanScalar typeName index info t v = .ok x) :
    (t.column info).isSome := by
  by_contra hc
  cases t with
  | texts => cases h
  | scalar u => cases (if_neg hc).symm.trans h

theorem column_of_scanOptional {typeName : String} {index : Nat} {info : FieldInfo} {t : FieldType}
    {v : Value} {x : Option t.Carrier} (h : scanOptional typeName index info t v = .ok x) :
    (t.column info).isSome := by
  by_contra hc
  cases t with
  | texts => cases h
  | scalar u => cases (if_neg hc).symm.trans h

theorem keyValue?_of_scanKey_of_hasKey {inner : Fields} (hkeys : inner.KeysHaveColumns)
    (hkey : inner.HasKey) {a b : Tree inner} {name : String} {v : Value}
    (h : scanKey name 0 v inner a = .ok b) : Tree.keyValue? inner b = some v := by
  rcases keyValue?_of_scanKey h with hv | ⟨-, hnone⟩
  · exact hv
  · have hsome := (keyValue?_isSome_iff inner hkeys a).mpr hkey
    rw [hnone] at hsome
    cases hsome

theorem put_of_scan (hkeys : ∀ inner, slot.shape? = some inner → inner.fields.KeysHaveColumns)
    {typeName : String} {index : Nat} {v : Value} {r' : Tree fs}
    (h : slot.scan typeName index v = .ok r') :
    ∃ slot', slot.Put slot' r' ∧ (slot.Takes → slot'.columnValue? = some v) ∧
      ∀ inner a, slot.view = .record inner a →
        ∃ b, slot'.view = .record inner b ∧ SameBut inner.fields IsKey a b := by
  cases slot with
  | scalar info t x put =>
    obtain ⟨y, hy, rfl⟩ := map_eq_ok h
    refine ⟨_, .scalar info t x y put, fun _ => ?_, fun _ _ hview => by cases hview⟩
    exact (if_pos (column_of_scanScalar hy)).trans (bind?_of_scanScalar hy)
  | optional info t x put =>
    obtain ⟨y, hy, rfl⟩ := map_eq_ok h
    refine ⟨_, .optional info t x y put, fun _ => ?_, ?_⟩
    · exact (if_pos (column_of_scanOptional hy)).trans (bindOption?_of_scanOptional hy)
    · intro inner c hview
      cases x <;> cases hview
  | record info shape a put =>
    by_cases hc : info.column?.isSome
    · rw [scan, if_pos hc] at h
      obtain ⟨b, hb, rfl⟩ := map_eq_ok h
      refine ⟨_, .record info shape a b put, ?_, ?_⟩
      · rintro (hkind | ⟨inner, c, hview, hkey⟩)
        · cases hkind
        · cases hview
          exact (if_pos hc).trans (keyValue?_of_scanKey_of_hasKey (hkeys shape rfl) hkey hb)
      · intro inner c hview
        cases hview
        exact ⟨b, rfl, sameBut_scanKey hb⟩
    · rw [scan, if_neg hc] at h
      cases h
  | reference info shape a put =>
    by_cases hc : info.column?.isSome
    · cases a with
      | none =>
        rw [scan, if_pos hc] at h
        cases h
        refine ⟨_, .reference info shape none none put, ?_, fun _ _ hview => by cases hview⟩
        rintro (hkind | ⟨inner, c, hview, -⟩)
        · cases hkind
        · cases hview
      | some a =>
        rw [scan, if_pos hc] at h
        obtain ⟨b, hb, rfl⟩ := map_eq_ok h
        refine ⟨_, .reference info shape (some a) (some b) put, ?_, ?_⟩
        · rintro (hkind | ⟨inner, c, hview, hkey⟩)
          · cases hkind
          · cases hview
            exact (if_pos hc).trans (keyValue?_of_scanKey_of_hasKey (hkeys shape rfl) hkey hb)
        · intro inner c hview
          cases hview
          exact ⟨b, rfl, sameBut_scanKey hb⟩
    · cases a <;> cases (if_neg hc).symm.trans h

end Slot

/-! ## Keys and their columns -/

theorem keyValue?_eq_columnValue? (fs : Fields) (hkeys : fs.KeysHaveColumns) (r : Tree fs) :
    keyValue? fs r = (fs.metas.findIdx? fun m => m.primaryKey).bind (columnValue? fs r) := by
  induction fs with
  | nil => rfl
  | scalar info t rest ih | optional info t rest ih =>
    obtain ⟨x, more⟩ := r
    rw [Fields.metas, List.findIdx?_cons]
    by_cases hp : info.primaryKey = true
    · simp only [keyValue?, hp, if_true, Option.bind_some, columnValue?, hkeys.1 hp]
    · simp only [keyValue?, hp, Bool.false_eq_true, if_false, Option.bind_map]
      exact ih hkeys.2 more
  | record info name table inner rest _ ih | reference info name table inner rest _ ih =>
    obtain ⟨a, more⟩ := r
    obtain ⟨hp, -, hrest⟩ := hkeys
    rw [Fields.metas, List.findIdx?_cons]
    simp only [keyValue?, hp, Bool.false_eq_true, if_false, Option.bind_map]
    exact ih hrest more

end Tree

namespace Record

variable {s : Shape}

/-- Write access to the field at an index. -/
def slot? (r : Record s) (i : Nat) : Option (Tree.Slot s.fields) := Tree.slot? s.fields r i

theorem metas_eq_slot? (r : Record s) (i : Nat) :
    s.metas[i]? = (r.slot? i).map Tree.Slot.fieldMeta := Tree.metas_eq_slot? s.fields r i

theorem shapeAt?_eq_slot? (r : Record s) (i : Nat) :
    s.fields.shapeAt? i = (r.slot? i).bind Tree.Slot.shape? := Tree.shapeAt?_eq_slot? s.fields r i

theorem view?_eq_slot? (r : Record s) (i : Nat) : r.view? i = (r.slot? i).map Tree.Slot.view :=
  Tree.view?_eq_slot? s.fields r i

theorem columnValue?_eq_slot? (r : Record s) (i : Nat) :
    r.columnValue? i = (r.slot? i).bind Tree.Slot.columnValue? :=
  Tree.columnValue?_eq_slot? s.fields r i

theorem scanField_eq_slot? (r : Record s) (i : Nat) (v : Value) : r.scanField i v =
    (r.slot? i).elim (.error (Tree.noColumn s.typeName i)) (Tree.Slot.scan s.typeName i v) := by
  have h := Tree.scanField_eq_slot? s.typeName 0 v s.fields r i
  rw [Nat.zero_add] at h
  exact h

theorem hasKey_iff_primaryKey? (s : Shape) : s.fields.HasKey ↔ s.primaryKey?.isSome := by
  rw [Shape.primaryKey?, List.find?_isSome]
  rfl

theorem slot?_isSome_iff (r : Record s) (i : Nat) : (r.slot? i).isSome ↔ i < s.metas.length := by
  have hmetas := isSome_getElem? s.metas i
  rw [r.metas_eq_slot? i, Option.isSome_map] at hmetas
  exact iff_of_eq hmetas

theorem keysHaveColumns_of_slot? (hkeys : s.fields.KeysHaveColumns) {r : Record s} {i : Nat}
    {slot : Tree.Slot s.fields} (h : r.slot? i = some slot) (inner : Shape)
    (hinner : slot.shape? = some inner) : inner.fields.KeysHaveColumns := by
  refine ((Fields.keysHaveColumns_iff s.fields).mp hkeys).2 i inner ?_
  rw [r.shapeAt?_eq_slot? i, h]
  exact hinner

theorem columnValue?_isSome_iff (hkeys : s.fields.KeysHaveColumns) (r : Record s) (i : Nat) :
    (r.columnValue? i).isSome ↔ (∃ m, s.metas[i]? = some m ∧ m.column.isSome) ∧
      ∀ inner, s.fields.shapeAt? i = some inner → inner.primaryKey?.isSome := by
  rw [r.columnValue?_eq_slot?, r.metas_eq_slot?, r.shapeAt?_eq_slot?]
  cases hslot : r.slot? i with
  | none => exact iff_of_false nofun nofun
  | some slot =>
    simp only [Option.bind_some, Option.map_some, Option.some.injEq, exists_eq_left',
      ← hasKey_iff_primaryKey?]
    exact Tree.Slot.columnValue?_isSome_iff (keysHaveColumns_of_slot? hkeys hslot)

theorem scanField_noColumn_iff (hkeys : s.fields.KeysHaveColumns) (r : Record s) (i : Nat)
    (v : Value) : r.scanField i v = .error (Tree.noColumn s.typeName i) ↔
      ∀ m, s.metas[i]? = some m → m.column = none := by
  rw [r.scanField_eq_slot?, r.metas_eq_slot?]
  cases hslot : r.slot? i with
  | none => exact iff_of_true rfl nofun
  | some slot =>
    simp only [Option.map_some, Option.some.injEq, forall_eq']
    exact Tree.Slot.scan_noColumn_iff (keysHaveColumns_of_slot? hkeys hslot) s.typeName i v

theorem scanField_ok (hkeys : s.fields.KeysHaveColumns) {r r' : Record s} {i : Nat} {v : Value}
    (h : r.scanField i v = .ok r') : ∃ slot slot', r.slot? i = some slot ∧ r'.slot? i = some slot' ∧
      (∀ j, j ≠ i → r'.view? j = r.view? j) ∧ (slot.Takes → slot'.columnValue? = some v) ∧
      ∀ inner a, slot.view = .record inner a →
        ∃ b, slot'.view = .record inner b ∧ Tree.SameBut inner.fields IsKey a b := by
  rw [r.scanField_eq_slot?] at h
  cases hslot : r.slot? i with
  | none =>
    rw [hslot] at h
    cases h
  | some slot =>
    rw [hslot] at h
    obtain ⟨slot', hput, htaken, hsame⟩ :=
      Tree.Slot.put_of_scan (keysHaveColumns_of_slot? hkeys hslot) h
    obtain ⟨hslot', hothers⟩ := Tree.slot?_of_put hslot hput
    exact ⟨slot, slot', rfl, hslot', hothers, htaken, hsame⟩

/-- What a record answers at an index is what the description there says. -/
theorem coherent_with_metas (hkeys : s.fields.KeysHaveColumns) (r : Record s) (i : Nat) :
    -- Both views of a field are there when its index is, and they fit the kind.
    ((r.view? i).isSome ↔ i < s.metas.length) ∧ ((r.slot? i).isSome ↔ i < s.metas.length) ∧
    (∀ slot, r.slot? i = some slot → s.metas[i]? = some slot.fieldMeta ∧
      r.view? i = some slot.view ∧ slot.view.Fits slot.fieldMeta.kind ∧
      slot.view.isAbsent = slot.isNone) ∧
    -- A field is changed through its slot.
    (∀ (t : FieldType) (x : t.Carrier), r.assign? i x = (r.slot? i).bind (Tree.Slot.assign? x)) ∧
    (∀ content, Tree.setReference? content s.fields r i =
      (r.slot? i).bind (Tree.Slot.setReference? content)) ∧
    -- A column has a value, unless it refers to a record without a key.
    ((∀ inner, s.fields.shapeAt? i = some inner → inner.primaryKey?.isSome) →
      ((r.columnValue? i).isSome ↔ ∃ m, s.metas[i]? = some m ∧ m.column.isSome)) ∧
    (∀ inner, s.fields.shapeAt? i = some inner → inner.primaryKey? = none →
      r.columnValue? i = none) ∧
    (∀ v, r.scanField i v = .error (Tree.noColumn s.typeName i) ↔
      ∀ m, s.metas[i]? = some m → m.column = none) ∧
    -- The key is the value of its column.
    (r.keyValue?.isSome ↔ s.primaryKey?.isSome) ∧
    ((Tree.nullKey? s.fields).isSome ↔ s.primaryKey?.isSome) ∧
    r.keyValue? = s.primaryKeyIndex?.bind r.columnValue? ∧
    -- A value that is taken is the value of the column, and no other field changes.
    (∀ v r', r.scanField i v = .ok r' → (∀ j, j ≠ i → r'.view? j = r.view? j) ∧
      (((∃ m, s.metas[i]? = some m ∧ m.kind.isRecord = false) ∨
        ∃ inner a, r.view? i = some (.record inner a) ∧ inner.primaryKey?.isSome) →
        r'.columnValue? i = some v) ∧
      ∀ inner a, r.view? i = some (.record inner a) →
        ∃ b, r'.view? i = some (.record inner b) ∧ Tree.SameBut inner.fields IsKey a b) := by
  have hslot := r.slot?_isSome_iff i
  have hview := r.view?_eq_slot? i
  have hvalue := columnValue?_isSome_iff hkeys r i
  refine ⟨by rw [hview, Option.isSome_map, hslot], hslot, fun slot h => ?_,
    fun _ x => Tree.assign?_eq_slot? x s.fields r i,
    fun content => Tree.setReference?_eq_slot? content s.fields r i,
    fun hkey => hvalue.trans (and_iff_left hkey), fun inner hinner hkeyless => ?_,
    scanField_noColumn_iff hkeys r i,
    (Tree.keyValue?_isSome_iff s.fields hkeys r).trans (hasKey_iff_primaryKey? s),
    (Tree.nullKey?_isSome_iff s.fields hkeys).trans (hasKey_iff_primaryKey? s),
    Tree.keyValue?_eq_columnValue? s.fields hkeys r, fun v r' h => ?_⟩
  · rw [hview, r.metas_eq_slot?, h]
    exact ⟨rfl, rfl, slot.view_fits, slot.isAbsent_view⟩
  · refine Option.not_isSome_iff_eq_none.mp fun hsome => ?_
    have hkey := (hvalue.mp hsome).2 inner hinner
    rw [hkeyless] at hkey
    cases hkey
  · obtain ⟨slot, slot', hslot, hslot', hothers, htaken, hsame⟩ := scanField_ok hkeys h
    refine ⟨hothers, fun htakes => ?_, fun inner a hrecord => ?_⟩
    · rw [r'.columnValue?_eq_slot?, hslot']
      refine htaken ?_
      rw [r.metas_eq_slot?, hview, hslot] at htakes
      simpa only [Tree.Slot.Takes, Option.map_some, Option.some.injEq, exists_eq_left',
        ← hasKey_iff_primaryKey?] using htakes
    · rw [hview, hslot] at hrecord
      obtain ⟨b, hb, hkept⟩ := hsame inner a (Option.some.inj hrecord)
      refine ⟨b, ?_, hkept⟩
      rw [r'.view?_eq_slot?, hslot', Option.map_some, hb]

end Record

namespace Bookshelf

theorem summerPlan_takes_book :
    (Mapped.shape ReadingPlan).fields.KeysHaveColumns ∧
    ∃ r', (Mapped.toRecord summerPlan).scanField 9 (.of (.bigInt 17)) = .ok r' ∧
      r'.columnValue? 9 = some (.of (.bigInt 17)) ∧
      ∀ j, j ≠ 9 → r'.view? j = (Mapped.toRecord summerPlan).view? j := by
  have hkeys : (Mapped.shape ReadingPlan).fields.KeysHaveColumns := by decide
  obtain ⟨-, -, -, -, -, -, -, -, -, -, -, hscans⟩ :=
    Record.coherent_with_metas hkeys (Mapped.toRecord summerPlan) 9
  obtain ⟨hothers, htaken, -⟩ := hscans (.of (.bigInt 17)) _ rfl
  exact ⟨hkeys, _, rfl, htaken (.inr ⟨_, _, rfl, rfl⟩), hothers⟩

end Bookshelf

end RowMap
