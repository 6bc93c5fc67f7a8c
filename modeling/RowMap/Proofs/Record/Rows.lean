import RowMap.Proofs.Record.Binding
import RowMap.Record.Scan

/-!
# Rows of records

The row of a record has the values of its own columns and then, one after the other, the rows of the
records inside it. A type is keyed when its foreign keys have something to refer to; every record of
such a type has a row.
-/

namespace RowMap

def Fields.HasKey (fs : Fields) : Prop := ∃ m ∈ fs.metas, m.primaryKey = true

instance (fs : Fields) : Decidable fs.HasKey :=
  inferInstanceAs (Decidable (∃ m ∈ fs.metas, m.primaryKey = true))

/-- Only scalars with a column are primary keys, at every level. -/
def Fields.KeysHaveColumns : Fields → Prop
  | .nil => True
  | .scalar info t rest =>
    (info.primaryKey = true → (t.column info).isSome) ∧ rest.KeysHaveColumns
  | .optional info t rest =>
    (info.primaryKey = true → (t.column info).isSome) ∧ rest.KeysHaveColumns
  | .record info _ _ inner rest =>
    info.primaryKey = false ∧ inner.KeysHaveColumns ∧ rest.KeysHaveColumns
  | .reference info _ _ inner rest =>
    info.primaryKey = false ∧ inner.KeysHaveColumns ∧ rest.KeysHaveColumns

instance Fields.decidableKeysHaveColumns : (fs : Fields) → Decidable fs.KeysHaveColumns
  | .nil => inferInstanceAs (Decidable True)
  | .scalar _ _ rest | .optional _ _ rest =>
    have := decidableKeysHaveColumns rest
    inferInstanceAs (Decidable (_ ∧ _))
  | .record _ _ _ inner rest | .reference _ _ _ inner rest =>
    have := decidableKeysHaveColumns inner
    have := decidableKeysHaveColumns rest
    inferInstanceAs (Decidable (_ ∧ _ ∧ _))

/-- Only scalars with a column are primary keys, and what a column refers to has a key, at every
level. -/
def Fields.Keyed : Fields → Prop
  | .nil => True
  | .scalar info t rest => (info.primaryKey = true → (t.column info).isSome) ∧ rest.Keyed
  | .optional info t rest => (info.primaryKey = true → (t.column info).isSome) ∧ rest.Keyed
  | .record info _ _ inner rest =>
    info.primaryKey = false ∧ (info.column?.isSome → inner.HasKey) ∧ inner.Keyed ∧ rest.Keyed
  | .reference info _ _ inner rest =>
    info.primaryKey = false ∧ (info.column?.isSome → inner.HasKey) ∧ inner.Keyed ∧ rest.Keyed

instance Fields.decidableKeyed : (fs : Fields) → Decidable fs.Keyed
  | .nil => inferInstanceAs (Decidable True)
  | .scalar _ _ rest | .optional _ _ rest =>
    have := decidableKeyed rest
    inferInstanceAs (Decidable (_ ∧ _))
  | .record _ _ _ inner rest | .reference _ _ _ inner rest =>
    have := decidableKeyed inner
    have := decidableKeyed rest
    inferInstanceAs (Decidable (_ ∧ _ ∧ _ ∧ _))

theorem Fields.Keyed.keysHaveColumns {fs : Fields} (h : fs.Keyed) : fs.KeysHaveColumns := by
  induction fs with
  | nil => trivial
  | scalar info t rest ih | optional info t rest ih => exact ⟨h.1, ih h.2⟩
  | record info name table inner rest ihInner ih | reference info name table inner rest ihInner ih =>
    obtain ⟨hp, -, hinner, hrest⟩ := h
    exact ⟨hp, ihInner hinner, ih hrest⟩

namespace Tree

/-- The values of the own columns, in the order of their declaration. -/
def ownValues? (fs : Fields) (r : Tree fs) : Option (List Value) :=
  (Shape.columns ⟨"", "", fs⟩).mapM fun column => columnValue? fs r column.1

/-- The rows of the records inside a record. -/
def innerRows? : (fs : Fields) → Tree fs → Option (List Value)
  | .nil, _ => some []
  | .scalar _ _ rest, (_, more) => innerRows? rest more
  | .optional _ _ rest, (_, more) => innerRows? rest more
  | .record _ _ _ inner rest, (r, more) => do
    return (← ownValues? inner r) ++ (← innerRows? inner r) ++ (← innerRows? rest more)
  | .reference _ _ _ inner rest, (some r, more) => do
    return (← ownValues? inner r) ++ (← innerRows? inner r) ++ (← innerRows? rest more)
  | .reference _ _ _ _ rest, (none, more) => innerRows? rest more

end Tree

/-- The row that a query for the columns of a record and of the records inside it returns. -/
def Record.rowValues? {s : Shape} (r : Record s) : Option (List Value) := do
  return (← Tree.ownValues? s.fields r) ++ (← Tree.innerRows? s.fields r)

namespace Tree

/-! ## Own columns, field by field -/

theorem columns_cons {fs rest : Fields} {m : FieldMeta} (h : fs.metas = m :: rest.metas) :
    Shape.columns ⟨"", "", fs⟩ = (m.column.map fun c => (0, c)).toList ++
      (Shape.columns ⟨"", "", rest⟩).map (Prod.map (· + 1) id) := by
  let columnAt (field : FieldMeta × Nat) : Option (Nat × String) :=
    field.1.column.map fun c => (field.2, c)
  have hshift : (rest.metas.zipIdx 1).filterMap columnAt =
      (rest.metas.zipIdx.filterMap columnAt).map (Prod.map (· + 1) id) := by
    rw [List.zipIdx_succ, List.filterMap_map, List.map_filterMap]
    refine List.filterMap_congr fun field _ => ?_
    simp only [columnAt, Function.comp_apply, Option.map_map]
    rfl
  show fs.metas.zipIdx.filterMap columnAt = _ ++ (rest.metas.zipIdx.filterMap columnAt).map _
  rw [h, List.zipIdx_cons, List.filterMap_cons, Nat.zero_add, hshift]
  simp only [columnAt]
  cases m.column <;> rfl

theorem mapM_shifted {fs rest : Fields} {r : Tree fs} {more : Tree rest}
    (hmore : ∀ i, columnValue? fs r (i + 1) = columnValue? rest more i) :
    ((Shape.columns ⟨"", "", rest⟩).map (Prod.map (· + 1) id)).mapM
      (fun column => columnValue? fs r column.1) = ownValues? rest more := by
  rw [List.mapM_map]
  exact congrArg (List.mapM · _) (funext fun column => hmore column.1)

theorem ownValues?_skip {fs rest : Fields} {r : Tree fs} {more : Tree rest} {m : FieldMeta}
    (h : fs.metas = m :: rest.metas)
    (hmore : ∀ i, columnValue? fs r (i + 1) = columnValue? rest more i)
    (hcolumn : ¬ m.column.isSome) {vs : List Value} (hvs : ownValues? rest more = some vs) :
    ownValues? fs r = some vs := by
  have hnone : m.column = none := Option.not_isSome_iff_eq_none.mp hcolumn
  rw [ownValues?, columns_cons h, hnone]
  exact (mapM_shifted hmore).trans hvs

theorem ownValues?_cons {fs rest : Fields} {r : Tree fs} {more : Tree rest} {m : FieldMeta}
    (h : fs.metas = m :: rest.metas)
    (hmore : ∀ i, columnValue? fs r (i + 1) = columnValue? rest more i)
    (hcolumn : m.column.isSome) {v : Value} (hv : columnValue? fs r 0 = some v)
    {vs : List Value} (hvs : ownValues? rest more = some vs) :
    ownValues? fs r = some (v :: vs) := by
  obtain ⟨c, hc⟩ := Option.isSome_iff_exists.mp hcolumn
  rw [ownValues?, columns_cons h, hc, Option.map_some, Option.toList_some, List.singleton_append,
    List.mapM_cons, mapM_shifted hmore, hvs]
  dsimp only
  rw [hv]
  rfl

/-! ## Keys -/

theorem scalar_of_column {info : FieldInfo} {t : FieldType} (h : (t.column info).isSome) :
    ∃ u, t = .scalar u ∧ info.column?.isSome := by
  cases t with
  | scalar u => exact ⟨u, rfl, h⟩
  | texts => cases h

theorem hasKey_nil : ¬ Fields.nil.HasKey := by
  rintro ⟨m, hm, -⟩
  cases hm

theorem hasKey_cons {fs rest : Fields} {m : FieldMeta} (h : fs.metas = m :: rest.metas) :
    fs.HasKey ↔ m.primaryKey = true ∨ rest.HasKey := by
  simp only [Fields.HasKey, h, List.exists_mem_cons_iff]

theorem keyValue?_isSome_iff (fs : Fields) (hkeys : fs.KeysHaveColumns) (r : Tree fs) :
    (keyValue? fs r).isSome ↔ fs.HasKey := by
  induction fs with
  | nil => exact iff_of_false nofun hasKey_nil
  | scalar info t rest ih | optional info t rest ih =>
    obtain ⟨x, more⟩ := r
    rw [hasKey_cons rfl]
    by_cases hp : info.primaryKey = true
    · obtain ⟨u, rfl, -⟩ := scalar_of_column (hkeys.1 hp)
      simp only [keyValue?, if_pos hp]
      exact iff_of_true rfl (.inl hp)
    · simp only [keyValue?, if_neg hp]
      exact (ih hkeys.2 more).trans (or_iff_right hp).symm
  | record info name table inner rest _ ih | reference info name table inner rest _ ih =>
    obtain ⟨x, more⟩ := r
    obtain ⟨hp, -, hrest⟩ := hkeys
    have hp' : ¬ info.primaryKey = true := by simp [hp]
    rw [hasKey_cons rfl]
    simp only [keyValue?, if_neg hp']
    exact (ih hrest more).trans (or_iff_right hp').symm

theorem nullKey?_isSome_iff (fs : Fields) (hkeys : fs.KeysHaveColumns) :
    (nullKey? fs).isSome ↔ fs.HasKey := by
  induction fs with
  | nil => exact iff_of_false nofun hasKey_nil
  | scalar info t rest ih | optional info t rest ih =>
    rw [hasKey_cons rfl]
    by_cases hp : info.primaryKey = true
    · obtain ⟨u, rfl, -⟩ := scalar_of_column (hkeys.1 hp)
      simp only [nullKey?, if_pos hp]
      exact iff_of_true rfl (.inl hp)
    · simp only [nullKey?, if_neg hp]
      exact (ih hkeys.2).trans (or_iff_right hp).symm
  | record info name table inner rest _ ih | reference info name table inner rest _ ih =>
    obtain ⟨hp, -, hrest⟩ := hkeys
    have hp' : ¬ info.primaryKey = true := by simp [hp]
    rw [hasKey_cons rfl]
    simp only [nullKey?, if_neg hp']
    exact (ih hrest).trans (or_iff_right hp').symm

end Tree

end RowMap
