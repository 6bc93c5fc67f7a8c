import RowMap.Proofs.Declaration.Acceptance
import RowMap.Proofs.Record.Rows
import RowMap.Proofs.Record.Slots
import Mathlib.Order.Basic

/-!
# The keys of declared records

A declaration is accepted only when its primary key is no record and has a column. A type all of
whose levels are declared so has keys that can be bound, scanned and referred to.
-/

namespace RowMap

/-- A primary key is no record and has a column. -/
def FieldMeta.KeyAllowed (m : FieldMeta) : Prop :=
  m.primaryKey = true → m.kind.isRecord = false ∧ m.column.isSome

namespace Declaration

theorem Field.keyAllowed_of_describe {f : Field} {m : FieldMeta} (h : f.describe = .ok m) :
    m.KeyAllowed := by
  obtain ⟨hwell, rfl⟩ := (f.describe_eq_ok_iff m).mp h
  have hdescribes := f.describes_description
  intro hkey
  obtain ⟨hrecord, hcolumn⟩ := hwell.key (hdescribes.primaryKey.mp hkey)
  exact ⟨Bool.eq_false_iff.mpr (mt hdescribes.record.mp hrecord),
    (column_isSome_iff hwell.distinct).mpr hcolumn⟩

/-- The keys of an accepted declaration are allowed. -/
theorem keyAllowed_of_describe {d : Declaration} {description : Description}
    (h : d.describe = .ok description) {m : FieldMeta} (hm : m ∈ description.fields) :
    m.KeyAllowed := by
  obtain ⟨hwell, rfl⟩ := (d.describe_eq_ok_iff description).mp h
  obtain ⟨f, hf, rfl⟩ := List.mem_map.mp hm
  exact f.keyAllowed_of_describe ((f.describe_eq_ok_iff _).mpr ⟨hwell.fields f hf, rfl⟩)

end Declaration

theorem Fields.keysHaveColumns_iff (fs : Fields) : fs.KeysHaveColumns ↔
    (∀ m ∈ fs.metas, m.KeyAllowed) ∧
      ∀ i inner, fs.shapeAt? i = some inner → inner.fields.KeysHaveColumns := by
  induction fs with
  | nil => exact iff_of_true trivial ⟨nofun, nofun⟩
  | scalar info t rest ih | optional info t rest ih =>
    rw [KeysHaveColumns, metas, List.forall_mem_cons, ← Nat.and_forall_add_one, ih]
    constructor
    · rintro ⟨hkey, hmetas, hinner⟩
      exact ⟨⟨fun h => ⟨rfl, hkey h⟩, hmetas⟩, nofun, hinner⟩
    · rintro ⟨⟨hkey, hmetas⟩, -, hinner⟩
      exact ⟨fun h => (hkey h).2, hmetas, hinner⟩
  | record info name table inner rest ihInner ih
  | reference info name table inner rest ihInner ih =>
    rw [KeysHaveColumns, metas, List.forall_mem_cons, ← Nat.and_forall_add_one, ih]
    constructor
    · rintro ⟨hkey, hhere, hmetas, hinner⟩
      refine ⟨⟨fun h => absurd (hkey.symm.trans h) nofun, hmetas⟩, fun shape h => ?_, hinner⟩
      cases h
      exact hhere
    · rintro ⟨⟨hkey, hmetas⟩, hhere, hinner⟩
      refine ⟨Bool.eq_false_iff.mpr fun h => ?_, hhere _ rfl, hmetas, hinner⟩
      exact absurd (hkey h).1 nofun

end RowMap
