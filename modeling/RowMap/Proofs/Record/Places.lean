import RowMap.Record.Scan

/-!
# Reading a row place by place

A place takes one value of a row, or refuses it. A read goes through a list of places from left to
right and stops at the first one whose value is missing or refused.
-/

namespace RowMap

/-- Where a value of a row goes: the field of a record, and what that field says of a value. -/
structure Place where
  typeName : String
  field : String
  verdict : Value → Except ExtractionError Unit

/-- Whether there is a result, and why not. -/
def verdictOf {α : Type} (x : Except ExtractionError α) : Except ExtractionError Unit :=
  x.map fun _ => ()

theorem verdictOf_map {α β : Type} (x : Except ExtractionError α) (f : α → β) :
    verdictOf (x.map f) = verdictOf x := by
  cases x <;> rfl

theorem verdict_map {α α' β β' : Type} {x : Except ExtractionError α}
    {y : Except ExtractionError α'} (h : verdictOf x = verdictOf y) (f : α → β) (g : α' → β') :
    verdictOf (x.map f) = verdictOf (y.map g) :=
  (verdictOf_map x f).trans (h.trans (verdictOf_map y g).symm)

namespace Cursor

/-- Reads a value for each place, up to the first one that is missing or refused. -/
def read (c : Cursor) : List Place → Cursor × Option StoreError
  | [] => (c, none)
  | place :: places =>
    match c.next with
    | (.error e, c) => (c, some (scanError place.typeName place.field e))
    | (.ok v, c) =>
      match place.verdict v with
      | .error e => (c, some (scanError place.typeName place.field e))
      | .ok () => c.read places

/-- Another cursor at the same position, with the same values in the next places. -/
structure Agrees (c d : Cursor) (count : Nat) : Prop where
  position : d.position = c.position
  ahead : ∀ k < count, d.row.get? (c.position + k) = c.row.get? (c.position + k)

variable {c d : Cursor}

theorem next_of_get? {v : Value} (h : c.row.get? c.position = some v) :
    c.next = (.ok v, c.skip 1) := by
  simp only [next, h]
  rfl

theorem next_of_missing (h : c.row.get? c.position = none) :
    c.next = (.error (.missingColumn c.position), c) := by
  simp only [next, h]

theorem skip_skip (m n : Nat) : (c.skip m).skip n = c.skip (m + n) := by
  simp only [skip, Nat.add_assoc]

theorem Agrees.mono {m n : Nat} (h : c.Agrees d n) (hmn : m ≤ n) : c.Agrees d m :=
  ⟨h.position, fun k hk => h.ahead k (by omega)⟩

theorem Agrees.skip {m n : Nat} (h : c.Agrees d (m + n)) : (c.skip m).Agrees (d.skip m) n := by
  refine ⟨congrArg (· + m) h.position, fun k hk => ?_⟩
  have := h.ahead (m + k) (by omega)
  simpa only [Cursor.skip, Nat.add_assoc] using this

theorem Agrees.get? {n : Nat} (h : c.Agrees d (n + 1)) :
    d.row.get? d.position = c.row.get? c.position := by
  rw [h.position]
  exact h.ahead 0 (by omega)

theorem read_append (ps qs : List Place) : c.read (ps ++ qs) =
    match c.read ps with
    | (c, none) => c.read qs
    | stopped => stopped := by
  induction ps generalizing c with
  | nil => rfl
  | cons place ps ih =>
    simp only [List.cons_append, read]
    rcases c.next with ⟨e | v, c⟩
    · rfl
    · dsimp only
      rcases place.verdict v with e | ⟨⟩
      · rfl
      · exact ih

theorem read_done {ps : List Place} (h : (c.read ps).2 = none) :
    (c.read ps).1 = c.skip ps.length := by
  induction ps generalizing c with
  | nil => rfl
  | cons place ps ih =>
    cases hget : c.row.get? c.position with
    | none => simp only [read, next_of_missing hget, reduceCtorEq] at h
    | some v =>
      simp only [read, next_of_get? hget] at h ⊢
      split at h
      · cases h
      · exact (ih h).trans (by rw [skip_skip, List.length_cons, Nat.add_comm 1])

theorem Agrees.read {ps : List Place} (h : c.Agrees d ps.length) :
    (d.read ps).2 = (c.read ps).2 ∧ (d.read ps).1.position = (c.read ps).1.position := by
  induction ps generalizing c d with
  | nil => exact ⟨rfl, h.position⟩
  | cons place ps ih =>
    have hget := h.get?
    cases hc : c.row.get? c.position with
    | none =>
      rw [hc] at hget
      simp only [Cursor.read, next_of_missing hget, next_of_missing hc, h.position, and_self]
    | some v =>
      rw [hc] at hget
      simp only [Cursor.read, next_of_get? hget, next_of_get? hc]
      rcases place.verdict v with e | ⟨⟩
      · exact ⟨rfl, congrArg (· + 1) h.position⟩
      · exact ih (Agrees.skip (m := 1) (by rwa [Nat.add_comm]))

end Cursor

/-! ## Where a read stops -/

/-- What a place says of the value some places ahead, also when there is none. -/
def Cursor.verdict (c : Cursor) (k : Nat) (place : Place) : Except ExtractionError Unit :=
  match c.row.get? (c.position + k) with
  | some v => place.verdict v
  | none => .error (.missingColumn (c.position + k))

/-- The first place whose value is missing or refused, and the reason. -/
structure StopsAt (c : Cursor) (places : List Place) (k : Nat) (place : Place)
    (why : ExtractionError) : Prop where
  here : places[k]? = some place
  reason : c.verdict k place = .error why
  first (j : Nat) (hj : j < k) (earlier : Place) (h : places[j]? = some earlier) :
    c.verdict j earlier = .ok ()

namespace Cursor

variable {c : Cursor}

theorem verdict_skip (k : Nat) (place : Place) :
    (c.skip 1).verdict k place = c.verdict (k + 1) place := by
  simp only [verdict, skip, Nat.add_assoc, Nat.add_comm 1]

theorem verdict_ok_iff {k : Nat} {place : Place} : c.verdict k place = .ok () ↔
    ∃ v, c.row.get? (c.position + k) = some v ∧ place.verdict v = .ok () := by
  unfold verdict
  cases c.row.get? (c.position + k) <;> simp

theorem read_outcome (ps : List Place) :
    (c.read ps).2 = none ∧ (∀ k place, ps[k]? = some place → c.verdict k place = .ok ()) ∨
    ∃ k place why, StopsAt c ps k place why ∧
      (c.read ps).2 = some (scanError place.typeName place.field why) := by
  induction ps generalizing c with
  | nil => exact .inl ⟨rfl, nofun⟩
  | cons head ps ih =>
    have hstopped {why : ExtractionError} (h : c.verdict 0 head = .error why) :
        StopsAt c (head :: ps) 0 head why := ⟨rfl, h, nofun⟩
    cases hget : c.row.get? c.position with
    | none =>
      have hwhy : c.verdict 0 head = .error (.missingColumn c.position) := by
        simp only [verdict, Nat.add_zero, hget]
      exact .inr ⟨0, head, _, hstopped hwhy, by simp only [read, next_of_missing hget]⟩
    | some v =>
      have hv : c.verdict 0 head = head.verdict v := by simp only [verdict, Nat.add_zero, hget]
      simp only [read, next_of_get? hget]
      cases hsays : head.verdict v with
      | error why => exact .inr ⟨0, head, why, hstopped (hv.trans hsays), rfl⟩
      | ok =>
        have hhead : c.verdict 0 head = .ok () := hv.trans hsays
        rcases @ih (c.skip 1) with ⟨hdone, hall⟩ | ⟨k, place, why, hstop, herror⟩
        · refine .inl ⟨hdone, fun k place hplace => ?_⟩
          cases k with
          | zero =>
            cases hplace
            exact hhead
          | succ k => exact (verdict_skip k place).symm.trans (hall k place hplace)
        · refine .inr ⟨k + 1, place, why, ⟨hstop.here, ?_, fun j hj earlier hplace => ?_⟩, herror⟩
          · exact (verdict_skip k place).symm.trans hstop.reason
          · cases j with
            | zero =>
              cases hplace
              exact hhead
            | succ j =>
              exact (verdict_skip j earlier).symm.trans
                (hstop.first j (by omega) earlier hplace)

theorem read_done_iff (ps : List Place) : (c.read ps).2 = none ↔
    ps.length ≤ c.remaining ∧ ∀ k place v, ps[k]? = some place →
      c.row.get? (c.position + k) = some v → place.verdict v = .ok () := by
  constructor
  · intro hdone
    rcases read_outcome ps with ⟨-, hall⟩ | ⟨k, place, why, -, herror⟩
    · have hvalue (k : Nat) (place : Place) (hplace : ps[k]? = some place) :=
        verdict_ok_iff.mp (hall k place hplace)
      refine ⟨?_, fun k place v hplace hget => ?_⟩
      · cases hlength : ps.length with
        | zero => exact Nat.zero_le _
        | succ n =>
          obtain ⟨v, hget, -⟩ := hvalue n _ (List.getElem?_eq_getElem (by omega))
          have hbound : c.position + n < c.row.values.length :=
            (List.getElem?_eq_some_iff.mp hget).1
          simp only [remaining]
          omega
      · obtain ⟨v', hget', haccepted⟩ := hvalue k place hplace
        obtain rfl : v = v' := Option.some.inj (hget.symm.trans hget')
        exact haccepted
    · rw [herror] at hdone
      cases hdone
  · rintro ⟨hlength, hall⟩
    rcases read_outcome ps with ⟨hdone, -⟩ | ⟨k, place, why, hstop, -⟩
    · exact hdone
    · obtain ⟨hk, -⟩ := List.getElem?_eq_some_iff.mp hstop.here
      have hbound : c.position + k < c.row.values.length := by
        simp only [remaining] at hlength
        omega
      have hget : c.row.get? (c.position + k) = some _ := List.getElem?_eq_getElem hbound
      have hok := verdict_ok_iff.mpr ⟨_, hget, hall k place _ hstop.here hget⟩
      rw [hstop.reason] at hok
      cases hok

end Cursor

end RowMap
