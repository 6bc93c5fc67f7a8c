import RowMap.Proofs.Record.Binding

/-!
# Two ways back from a value

What a scalar type admits and what it extracts are the same: the values that it binds, each for one
datum only. Nulls, other variants and codes without a label are refused on both ways.
-/

namespace RowMap.ScalarType

/-! ## One datum -/

theorem extract_eq_ok_iff {t : ScalarType} {v : Value} {x : t.Carrier} :
    t.extract v = .ok x ↔ v = t.bind x := by
  constructor
  · intro h
    exact (bind_of_extract h).symm
  · rintro rfl
    exact t.extract_bind x

theorem datum_of_ofDatum? {t : ScalarType} {d : Datum} {x : t.Carrier} (h : t.ofDatum? d = some x) :
    t.datum x = d := by
  cases t with
  | coded e =>
    cases d with
    | int c => exact congrArg Datum.int (Enumeration.code_of_ofCode? h)
    | _ => cases h
  | _ =>
    cases d <;> cases h
    rfl

theorem fromValue?_eq_some_iff {t : ScalarType} {v : Value} {x : t.Carrier} :
    t.fromValue? v = some x ↔ v = t.bind x := by
  constructor
  · intro h
    cases v with
    | null u => cases h
    | of d => exact congrArg Value.of (datum_of_ofDatum? h).symm
  · rintro rfl
    exact t.ofDatum?_datum x

/-! ## A datum or its absence -/

theorem extractOption_eq_ok_iff {t : ScalarType} {v : Value} {x : Option t.Carrier} :
    t.extractOption v = .ok x ↔ v = t.bindOption x := by
  constructor
  · intro h
    exact (bindOption_of_extractOption h).symm
  · rintro rfl
    exact t.extractOption_bindOption x

@[simp]
theorem fromValueOption?_bind (t : ScalarType) (x : t.Carrier) :
    t.fromValueOption? (t.bind x) = some (some x) := by
  have h : t.fromValue? (t.bind x) = some x := fromValue?_eq_some_iff.mpr rfl
  simp only [fromValueOption?, h]

theorem fromValueOption?_eq_some_iff {t : ScalarType} {v : Value} {x : Option t.Carrier} :
    t.fromValueOption? v = some x ↔ v = t.bindOption x := by
  constructor
  · intro h
    unfold fromValueOption? at h
    split at h
    · next hv =>
      cases h
      exact fromValue?_eq_some_iff.mp hv
    · next u _ =>
      -- Of the nulls only the type's own is admitted.
      split at h
      · next hu =>
        cases h
        rw [hu]
        rfl
      · cases h
    · cases h
  · rintro rfl
    cases x with
    | none => exact if_pos rfl
    | some x => exact t.fromValueOption?_bind x

/-! ## The two ways agree -/

/-- What a type admits is what it extracts, also when the datum may be absent, and what it binds
comes back on both ways. -/
theorem extraction_agrees_with_binding (t : ScalarType) :
    (∀ v x, t.fromValue? v = some x ↔ t.extract v = .ok x) ∧
      (∀ v x, t.fromValueOption? v = some x ↔ t.extractOption v = .ok x) ∧
      ∀ x, t.extractOption (t.bindOption x) = .ok x ∧
        t.fromValueOption? (t.bindOption x) = some x := by
  refine ⟨fun v x => ?_, fun v x => ?_, fun x => ⟨?_, ?_⟩⟩
  · exact fromValue?_eq_some_iff.trans extract_eq_ok_iff.symm
  · exact fromValueOption?_eq_some_iff.trans extractOption_eq_ok_iff.symm
  · exact t.extractOption_bindOption x
  · exact fromValueOption?_eq_some_iff.mpr rfl

end RowMap.ScalarType
