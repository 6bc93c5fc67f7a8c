import RowMap.Statement.Marker
import Mathlib.Data.List.TakeWhile

/-!
# Reading markers back

A reader takes a dollar sign with all the digits behind it as one marker. `markersIn` is what such
a reader sees in a text.
-/

namespace RowMap

/-- The markers that a text shows, each with as many digits as follow its dollar sign. -/
def markersIn : List Char → List (List Char)
  | [] => []
  | c :: rest =>
    if c = '$' then
      match rest.takeWhile Char.isDigit with
      | [] => markersIn rest
      | digits => ('$' :: digits) :: markersIn rest
    else markersIn rest

/-- The markers `$1`, …, `$n`. -/
def markersUpTo (n : Nat) : List (List Char) := (List.range n).map fun i => marker (i + 1)

/-- No digit comes first, so that a marker before the text ends there. -/
def EndsMarker (text : List Char) : Prop := ∀ c ∈ text.head?, c.isDigit = false

/-! ## Digits -/

theorem isDigit_of_mem_natDigits {n : Nat} {c : Char} (h : c ∈ Decimal.natDigits n) :
    c.isDigit = true :=
  Nat.isDigit_of_mem_toDigits (by omega) (by omega) h

theorem natDigits_ne_nil (n : Nat) : Decimal.natDigits n ≠ [] := Nat.toDigits_ne_nil

theorem dollar_not_mem_natDigits (n : Nat) : '$' ∉ Decimal.natDigits n := by
  intro h
  have := isDigit_of_mem_natDigits h
  revert this
  decide

theorem takeWhile_append_stop {α : Type} {p : α → Bool} {run rest : List α}
    (hrun : ∀ x ∈ run, p x = true) (hrest : ∀ x ∈ rest.head?, p x = false) :
    (run ++ rest).takeWhile p = run := by
  rw [List.takeWhile_append_of_pos hrun]
  cases rest with
  | nil => simp
  | cons x rest => simp [hrest x rfl]

theorem takeWhile_natDigits (n : Nat) {rest : List Char} (h : EndsMarker rest) :
    (Decimal.natDigits n ++ rest).takeWhile Char.isDigit = Decimal.natDigits n :=
  takeWhile_append_stop (fun _ => isDigit_of_mem_natDigits) h

/-! ## Markers in a text -/

theorem markersIn_append_of_not_mem {text : List Char} (h : '$' ∉ text) (rest : List Char) :
    markersIn (text ++ rest) = markersIn rest := by
  induction text with
  | nil => rfl
  | cons c text ih =>
    simp only [List.mem_cons, not_or] at h
    simp only [List.cons_append, markersIn, if_neg (Ne.symm h.1)]
    exact ih h.2

theorem markersIn_marker_append (n : Nat) {rest : List Char} (h : EndsMarker rest) :
    markersIn (marker n ++ rest) = marker n :: markersIn rest := by
  simp only [marker, List.cons_append, markersIn, if_true, takeWhile_natDigits n h]
  rw [markersIn_append_of_not_mem (dollar_not_mem_natDigits n)]
  split
  · exact absurd ‹_› (natDigits_ne_nil n)
  · rfl

theorem endsMarker_marker_append (n : Nat) (rest : List Char) : EndsMarker (marker n ++ rest) := by
  intro c hc
  simp only [marker, List.cons_append, List.head?_cons, Option.mem_some_iff] at hc
  subst hc
  decide

end RowMap
