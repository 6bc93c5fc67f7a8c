import RowMap.Value.Scalar
import Mathlib.Data.List.Nodup

/-!
# Bound data come back

What a scalar type binds, it extracts again, bit for bit, also when the datum is absent. For labels
this needs that no two of them have the same code. And what it extracts, it binds to the value that
the datum came from.
-/

namespace RowMap

namespace Enumeration

variable {e : Enumeration}

theorem ofCode?_code (k : e.Case) : e.ofCode? k.code = some k := by
  have hfound : (e.cases.findIdx fun entry => entry.2 = k.code) = k.index := by
    refine (List.findIdx_eq k.index.isLt).mpr ⟨decide_eq_true rfl, fun j hj => ?_⟩
    rw [decide_eq_false_iff_not]
    intro hsame
    have hdistinct : (e.cases.map Prod.snd).Nodup := e.distinct
    have hj' : j < (e.cases.map Prod.snd).length := by simp; omega
    have hk' : (k.index : Nat) < (e.cases.map Prod.snd).length := by simp
    have heq : (e.cases.map Prod.snd)[j] = (e.cases.map Prod.snd)[(k.index : Nat)] := by
      simpa [Case.code] using hsame
    exact absurd ((hdistinct.getElem_inj_iff).mp heq) (Nat.ne_of_lt hj)
  simp only [ofCode?, find?]
  rw [dif_pos (by rw [hfound]; exact k.index.isLt)]
  congr 2
  exact Fin.ext hfound

theorem code_of_ofCode? {c : Int32} {k : e.Case} (h : e.ofCode? c = some k) : k.code = c := by
  unfold ofCode? find? at h
  split at h
  · next hfound =>
    cases h
    exact of_decide_eq_true (List.findIdx_getElem (w := hfound))
  · cases h

end Enumeration

namespace ScalarType

theorem ofDatum?_datum (t : ScalarType) (x : t.Carrier) : t.ofDatum? (t.datum x) = some x := by
  cases t with
  | coded e => exact Enumeration.ofCode?_code x
  | _ => rfl

@[simp]
theorem extract_bind (t : ScalarType) (x : t.Carrier) : t.extract (t.bind x) = .ok x := by
  cases t with
  | coded e =>
    have hcode : e.ofCode? (Enumeration.Case.code x) = some x := Enumeration.ofCode?_code x
    simp only [bind, datum, extract, hcode]
  | _ => rfl

theorem extract_null (t : ScalarType) : t.extract t.null = .error .nullValue := by
  cases t <;> rfl

@[simp]
theorem extractOption_bindOption (t : ScalarType) (x : Option t.Carrier) :
    t.extractOption (t.bindOption x) = .ok x := by
  cases x with
  | none => simp only [bindOption, extractOption, extract_null]
  | some x => simp only [bindOption, extractOption, extract_bind]

/-! ## Back to the value -/

theorem extract_null_eq (t : ScalarType) (u : Variant) : t.extract (.null u) =
    .error (if u = t.variant then .nullValue else t.mismatch (.null u)) := by
  cases t <;> rfl

theorem extract_of_ne_null (t : ScalarType) (d : Datum) :
    t.extract (.of d) ≠ .error .nullValue := by
  intro h
  cases t with
  | coded e =>
    cases d with
    | int c =>
      simp only [extract] at h
      split at h <;> cases h
    | _ => cases h
  | _ => cases d <;> cases h

theorem bind_of_extract {t : ScalarType} {v : Value} {x : t.Carrier} (h : t.extract v = .ok x) :
    t.bind x = v := by
  cases v with
  | null u => cases t <;> cases h
  | of d =>
    cases t with
    | coded e =>
      cases d with
      | int c =>
        simp only [extract] at h
        split at h
        · next k hk =>
          cases h
          exact congrArg (fun c => Value.of (.int c)) (Enumeration.code_of_ofCode? hk)
        · cases h
      | _ => cases h
    | _ =>
      -- Each of these types admits the data of one variant only.
      cases d <;> cases h
      rfl

theorem bindOption_of_extractOption {t : ScalarType} {v : Value} {x : Option t.Carrier}
    (h : t.extractOption v = .ok x) : t.bindOption x = v := by
  unfold extractOption at h
  split at h
  · next hv =>
    cases h
    exact bind_of_extract hv
  · next hv =>
    cases h
    cases v with
    | of d => exact absurd hv (t.extract_of_ne_null d)
    | null u =>
      rw [extract_null_eq] at hv
      split at hv
      · next hu =>
        rw [hu]
        rfl
      · cases hv
  · cases h

end ScalarType

end RowMap
