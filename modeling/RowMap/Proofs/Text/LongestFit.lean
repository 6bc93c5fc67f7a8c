import Mathlib.Data.List.Infix
import RowMap.Trace

/-!
# The longest part that fits

A text that is too long is cut to its longest prefix of whole characters within the limit. The cut
is found by stepping back to a boundary. A character takes four bytes at most, so the search takes
three steps at most.
-/

namespace RowMap.Text

/-! ## Lengths in bytes -/

@[simp]
theorem byteLength_nil : byteLength [] = 0 := rfl

@[simp]
theorem byteLength_cons (c : Char) (text : List Char) :
    byteLength (c :: text) = c.utf8Size + byteLength text := rfl

@[simp]
theorem byteLength_append (part rest : List Char) :
    byteLength (part ++ rest) = byteLength part + byteLength rest := by
  induction part with
  | nil => simp
  | cons c part ih => simp [ih, Nat.add_assoc]

theorem utf8ByteSize_ofList (text : List Char) :
    (String.ofList text).utf8ByteSize = byteLength text := by
  induction text with
  | nil => rfl
  | cons c text ih =>
    rw [← List.singleton_append, String.ofList_append, String.utf8ByteSize_append, ih,
      ← String.singleton_eq_ofList, String.utf8ByteSize_singleton]
    rfl

theorem byteLength_toList (s : String) : byteLength s.toList = s.utf8ByteSize := by
  rw [← utf8ByteSize_ofList, String.ofList_toList]

/-! ## Boundaries -/

@[simp]
theorem isBoundary_zero (text : List Char) : isBoundary text 0 = true := by
  cases text <;> rfl

theorem isBoundary_cons_succ (c : Char) (rest : List Char) (n : Nat) :
    isBoundary (c :: rest) (n + 1) =
      (decide (c.utf8Size ≤ n + 1) && isBoundary rest (n + 1 - c.utf8Size)) := rfl

theorem isBoundary_append (part rest : List Char) (n : Nat) :
    isBoundary (part ++ rest) (byteLength part + n) = isBoundary rest n := by
  induction part with
  | nil => simp
  | cons c part ih =>
    have hpos := c.utf8Size_pos
    obtain ⟨k, hk⟩ : ∃ k, byteLength (c :: part) + n = k + 1 :=
      ⟨c.utf8Size + byteLength part + n - 1, by rw [byteLength_cons]; omega⟩
    have hrest : k + 1 - c.utf8Size = byteLength part + n := by
      rw [byteLength_cons] at hk
      omega
    have hfits : c.utf8Size ≤ k + 1 := by
      rw [byteLength_cons] at hk
      omega
    rw [hk, List.cons_append, isBoundary_cons_succ, hrest, ih, decide_eq_true hfits, Bool.true_and]

theorem isBoundary_inside {c : Char} {n : Nat} (hpos : 0 < n) (hinside : n < c.utf8Size)
    (rest : List Char) : isBoundary (c :: rest) n = false := by
  obtain ⟨k, rfl⟩ := Nat.exists_eq_succ_of_ne_zero hpos.ne'
  rw [isBoundary_cons_succ, decide_eq_false (Nat.not_le.mpr hinside), Bool.false_and]

theorem isBoundary_iff {text : List Char} {n : Nat} :
    isBoundary text n = true ↔ ∃ part, part <+: text ∧ byteLength part = n := by
  constructor
  · intro h
    induction text generalizing n with
    | nil =>
      cases n with
      | zero => exact ⟨[], List.nil_prefix, rfl⟩
      | succ n => cases h
    | cons c text ih =>
      cases n with
      | zero => exact ⟨[], List.nil_prefix, rfl⟩
      | succ n =>
        rw [isBoundary_cons_succ, Bool.and_eq_true, decide_eq_true_eq] at h
        obtain ⟨part, hpart, hlength⟩ := ih h.2
        refine ⟨c :: part, List.prefix_cons_inj c |>.mpr hpart, ?_⟩
        rw [byteLength_cons, hlength]
        omega
  · rintro ⟨part, ⟨rest, rfl⟩, rfl⟩
    simpa using isBoundary_append part rest 0

theorem isBoundary_iff_isValid (s : String) (n : Nat) :
    isBoundary s.toList n = true ↔ String.Pos.Raw.IsValid s ⟨n⟩ := by
  rw [isBoundary_iff, String.Pos.Raw.isValid_iff_exists_take_toList]
  simp only [utf8ByteSize_ofList]
  constructor
  · rintro ⟨part, hpart, hlength⟩
    exact ⟨part.length, by rw [← List.prefix_iff_eq_take.mp hpart, hlength]⟩
  · rintro ⟨i, hi⟩
    exact ⟨s.toList.take i, List.take_prefix i _, hi.symm⟩

/-! ## The search for a boundary -/

/-- The search for a boundary from a position takes so many steps and stops there. A step is taken
from a positive position that is no boundary. -/
inductive StepsBack (text : List Char) : Nat → Nat → Nat → Prop
  | stop {n : Nat} (h : isBoundary text n = true) : StepsBack text n 0 n
  | step {n steps stop : Nat} (h : isBoundary text (n + 1) = false)
    (rest : StepsBack text n steps stop) : StepsBack text (n + 1) (steps + 1) stop

theorem StepsBack.boundaryBefore_eq {text : List Char} {n steps stop : Nat}
    (h : StepsBack text n steps stop) : boundaryBefore text n = stop := by
  induction h with
  | @stop n h =>
    cases n with
    | zero => rfl
    | succ n => exact if_pos h
  | step h _ ih =>
    rw [boundaryBefore, if_neg (by simp [h])]
    exact ih

theorem StepsBack.stop_add_steps {text : List Char} {n steps stop : Nat}
    (h : StepsBack text n steps stop) : stop + steps = n := by
  induction h with
  | stop _ => rfl
  | step _ _ ih => rw [← Nat.add_assoc, ih]

/-- A character that starts within the first `n` bytes of a text and ends behind them. -/
structure Straddles (text : List Char) (n : Nat) (part : List Char) (c : Char)
    (rest : List Char) : Prop where
  split : text = part ++ c :: rest
  starts : byteLength part ≤ n
  ends : n < byteLength part + c.utf8Size

theorem exists_straddles {text : List Char} {n : Nat} (h : n < byteLength text) :
    ∃ part c rest, Straddles text n part c rest := by
  induction text generalizing n with
  | nil => exact absurd h (Nat.not_lt_zero n)
  | cons c text ih =>
    rw [byteLength_cons] at h
    by_cases hc : n < c.utf8Size
    · exact ⟨[], c, text, rfl, Nat.zero_le n, by simpa using hc⟩
    · obtain ⟨part, c', rest, rfl, hstarts, hends⟩ := ih (n := n - c.utf8Size) (by omega)
      refine ⟨c :: part, c', rest, rfl, ?_, ?_⟩ <;> rw [byteLength_cons] <;> omega

namespace Straddles

variable {text part rest : List Char} {n : Nat} {c : Char}

theorem lt_byteLength (h : Straddles text n part c rest) : n < byteLength text := by
  have hends := h.ends
  rw [h.split, byteLength_append, byteLength_cons]
  omega

theorem stepsBack (h : Straddles text n part c rest) :
    StepsBack text n (n - byteLength part) (byteLength part) := by
  obtain ⟨k, rfl⟩ := Nat.exists_eq_add_of_le h.starts
  rw [Nat.add_sub_cancel_left]
  obtain ⟨rfl, -, hends⟩ := h
  induction k with
  | zero => exact .stop (isBoundary_iff.mpr ⟨part, List.prefix_append part _, rfl⟩)
  | succ k ih =>
    refine .step ?_ (ih (by omega))
    rw [Nat.add_eq, Nat.add_assoc, isBoundary_append]
    exact isBoundary_inside (Nat.succ_pos k) (by omega) rest

theorem steps_le_three (h : Straddles text n part c rest) : n - byteLength part ≤ 3 := by
  have hends := h.ends
  have hsize := c.utf8Size_le_four
  omega

theorem boundaryBefore_eq (h : Straddles text n part c rest) :
    boundaryBefore text n = byteLength part :=
  h.stepsBack.boundaryBefore_eq

end Straddles

/-! ## What is kept -/

theorem takeBytes_append (part rest : List Char) :
    takeBytes (part ++ rest) (byteLength part) = part := by
  induction part with
  | nil => cases rest <;> rfl
  | cons c part ih =>
    have hpos : c.utf8Size + byteLength part ≠ 0 := by
      have := c.utf8Size_pos
      omega
    rw [List.cons_append, byteLength_cons, takeBytes, if_neg hpos, Nat.add_sub_cancel_left, ih]

theorem truncated_of_fits {limit : Nat} {text : List Char} (h : byteLength text ≤ limit) :
    truncated limit text = text := if_pos h

theorem Straddles.truncated_eq {limit : Nat} {text part rest : List Char} {c : Char}
    (h : Straddles text limit part c rest) : truncated limit text = part := by
  rw [truncated, if_neg (Nat.not_le.mpr h.lt_byteLength), h.boundaryBefore_eq, h.split]
  exact takeBytes_append part (c :: rest)

/-- A prefix that fits, and the longest one. -/
structure IsLongestFit (limit : Nat) (text kept : List Char) : Prop where
  starts : kept <+: text
  fits : byteLength kept ≤ limit
  longest : ∀ part, part <+: text → byteLength part ≤ limit → part <+: kept

theorem isLongestFit_truncated (limit : Nat) (text : List Char) :
    IsLongestFit limit text (truncated limit text) := by
  rcases Nat.lt_or_ge limit (byteLength text) with hlong | hfits
  · obtain ⟨part, c, rest, h⟩ := exists_straddles hlong
    rw [h.truncated_eq]
    obtain ⟨rfl, hstarts, hends⟩ := h
    refine ⟨List.prefix_append part _, hstarts, fun other hother hlength => ?_⟩
    rcases List.prefix_or_prefix_of_prefix hother (List.prefix_append part (c :: rest)) with h | h
    · exact h
    · -- A prefix that goes on behind the part has the whole next character, which does not fit.
      obtain ⟨more, rfl⟩ := h
      cases more with
      | nil => simp
      | cons d more =>
        rw [List.prefix_append_right_inj, List.cons_prefix_cons] at hother
        rw [byteLength_append, byteLength_cons, hother.1] at hlength
        omega
  · rw [truncated_of_fits hfits]
    exact ⟨List.prefix_rfl, hfits, fun _ h _ => h⟩

example : truncated 4 ['a', 'é', '€'] = ['a', 'é'] := by decide

end RowMap.Text

namespace RowMap.Event

open RowMap.Text

/-- A span shows the longest part of a statement that fits 256 bytes: all of it, or as much as ends
before the first character that does not fit. The end is found three steps back at most, at a
position between the bytes of two characters. -/
theorem queryText_isLongestFit (sql : String) :
    IsLongestFit 256 sql.toList (queryText sql).toList ∧
      (∀ n, isBoundary sql.toList n = true ↔ String.Pos.Raw.IsValid sql ⟨n⟩) ∧
      (sql.utf8ByteSize ≤ 256 → queryText sql = sql) ∧
      (256 < sql.utf8ByteSize →
        (∃ c rest, Straddles sql.toList 256 (queryText sql).toList c rest) ∧
        ∃ steps, StepsBack sql.toList 256 steps (boundaryBefore sql.toList 256) ∧ steps ≤ 3 ∧
          (queryText sql).utf8ByteSize + steps = 256) := by
  refine ⟨?_, isBoundary_iff_isValid sql, fun hfits => ?_, fun hlong => ?_⟩
  · rw [queryText, String.toList_ofList]
    exact isLongestFit_truncated 256 sql.toList
  · rw [← byteLength_toList] at hfits
    exact (congrArg String.ofList (truncated_of_fits hfits)).trans String.ofList_toList
  · rw [← byteLength_toList] at hlong
    obtain ⟨part, c, rest, h⟩ := exists_straddles hlong
    have hkept : queryText sql = String.ofList part := congrArg String.ofList h.truncated_eq
    rw [hkept, String.toList_ofList, utf8ByteSize_ofList, h.boundaryBefore_eq]
    exact ⟨⟨c, rest, h⟩, _, h.stepsBack, h.steps_le_three, h.stepsBack.stop_add_steps⟩

end RowMap.Event
