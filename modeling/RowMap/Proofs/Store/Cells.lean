import RowMap.Proofs.Store.Writes

/-!
# What an update leaves in the cells

An assignment puts its value into its own column and leaves the other columns alone. No column is
assigned twice, so in a row that was changed every assigned column has the value that was assigned
to it.
-/

namespace RowMap.Store

namespace Table

variable {T : Table} {r r' : Stored} {column : String}

/-! ## One assignment -/

theorem cell_withKey (v : Value) (h : lowered column ≠ lowered T.key) :
    T.cell { r with key := v } column = T.cell r column := by
  simp [cell, h]

theorem cell_withVersion (version : Int32) (h : lowered column ≠ versionColumn) :
    T.cell { r with version := version } column = T.cell r column := by
  simp [cell, h]

theorem cell_withDeleted (deleted : Bool) (h : lowered column ≠ deletedColumn) :
    T.cell { r with deleted := deleted } column = T.cell r column := by
  simp [cell, h]

theorem cell_put {name : String} (v : Value) (h : lowered column ≠ name) :
    T.cell (put r name v) column = T.cell r column := by
  simp [cell, put, h]

theorem cell_setCell {v : Value} (h : T.setCell column v r = some r') : T.cell r' column = v := by
  unfold setCell at h
  unfold cell
  by_cases hkey : lowered column = lowered T.key
  · rw [if_pos hkey] at h ⊢
    cases h
    rfl
  by_cases hversion : lowered column = versionColumn
  · rw [if_neg hkey, if_pos hversion] at h ⊢
    split at h <;> cases h
    rfl
  by_cases hdeleted : lowered column = deletedColumn
  · rw [if_neg hkey, if_neg hversion, if_pos hdeleted] at h ⊢
    split at h <;> cases h
    rfl
  · rw [if_neg hkey, if_neg hversion, if_neg hdeleted] at h ⊢
    cases h
    exact if_pos rfl

theorem cell_setCell_other {name : String} {v : Value} (h : T.setCell name v r = some r')
    (hother : lowered name ≠ lowered column) : T.cell r' column = T.cell r column := by
  unfold setCell at h
  split at h
  · next hkey =>
    cases h
    exact cell_withKey v (hkey ▸ hother.symm)
  split at h
  · next hversion =>
    split at h <;> cases h
    exact cell_withVersion _ (hversion ▸ hother.symm)
  split at h
  · next hdeleted =>
    split at h <;> cases h
    exact cell_withDeleted _ (hdeleted ▸ hother.symm)
  · cases h
    exact cell_put v hother.symm

theorem cell_assign_other {a : Assignment} (h : T.assign r a = some r')
    (hother : lowered a.column ≠ lowered column) : T.cell r' column = T.cell r column := by
  have hversion : lowered versionColumn = versionColumn := rfl
  have htouched : lowered touchedColumn = touchedColumn := rfl
  have hdeleted : lowered deletedColumn = deletedColumn := rfl
  cases a with
  | set name v => exact cell_setCell_other h hother
  | count =>
    simp only [assign] at h
    split at h <;> cases h
    exact cell_withVersion _ (hversion ▸ hother.symm)
  | touch =>
    cases h
    exact cell_put T.now (htouched ▸ hother.symm)
  | mark =>
    cases h
    exact cell_withDeleted true (hdeleted ▸ hother.symm)

/-! ## All assignments -/

theorem cell_assignAll_other {as : List Assignment} (h : T.assignAll as r = some r')
    (hother : ∀ a ∈ as, lowered a.column ≠ lowered column) : T.cell r' column = T.cell r column := by
  induction as generalizing r with
  | nil =>
    cases h
    rfl
  | cons a as ih =>
    obtain ⟨ha, has⟩ := List.forall_mem_cons.mp hother
    obtain ⟨r₁, hstep, h⟩ := Option.bind_eq_some_iff.mp h
    rw [ih h has, cell_assign_other hstep ha]

theorem cell_assignAll {as : List Assignment} (hnodup : (as.map fun a => lowered a.column).Nodup)
    {v : Value} (hset : .set column v ∈ as) (h : T.assignAll as r = some r') :
    T.cell r' column = v := by
  induction as generalizing r with
  | nil => simp at hset
  | cons a as ih =>
    rw [List.map_cons, List.nodup_cons, List.mem_map] at hnodup
    obtain ⟨hfresh, hnodup⟩ := hnodup
    obtain ⟨r₁, hstep, hrest⟩ := Option.bind_eq_some_iff.mp h
    rcases List.mem_cons.mp hset with rfl | hset
    · have hkept : T.cell r' column = T.cell r₁ column :=
        cell_assignAll_other hrest fun b hb heq => hfresh ⟨b, hb, heq⟩
      rw [hkept]
      exact cell_setCell hstep
    · exact ih hnodup hset hrest

/-! ## All rows -/

/-- A row stays, or the guards of one alternative hold for it and everything is assigned to it. -/
def Changes (T : Table) (c : Command) (r r' : Stored) : Prop :=
  r' = r ∨ T.satisfies c.clause r = true ∧
    (c.assignments.map fun a => lowered a.column).Nodup ∧ T.assignAll c.assignments r = some r'

theorem change_changes {c : Command} (hnodup : (c.assignments.map fun a => lowered a.column).Nodup)
    {rows rows' : List Stored} {versions : List Int32}
    (h : T.change c rows = some (versions, rows')) :
    List.Forall₂ (T.Changes c) rows rows' := by
  induction rows generalizing rows' versions with
  | nil =>
    cases h
    exact .nil
  | cons r rows ih =>
    rw [change] at h
    split at h
    · cases h
    · next versions rest hrest =>
      split at h
      · next hsat =>
        obtain ⟨r', hassign, h⟩ := Option.map_eq_some_iff.mp h
        cases h
        exact .cons (.inr ⟨hsat, hnodup, hassign⟩) (ih hrest)
      · cases h
        exact .cons (.inl rfl) (ih hrest)

theorem perform_changes (c : Command) (rows : List Stored) :
    List.Forall₂ (T.Changes c) rows (T.perform c rows).2 := by
  have hsame : List.Forall₂ (T.Changes c) rows rows :=
    List.forall₂_same.mpr fun r _ => .inl rfl
  unfold perform
  split
  · exact hsame
  split
  · exact hsame
  · next hnodup =>
    split
    · exact hsame
    · next versions rows' hchange =>
      have hchanged := change_changes (not_not.mp hnodup) hchange
      split <;> exact hchanged

end Table

end RowMap.Store
