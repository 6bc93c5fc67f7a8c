import RowMap.Proofs.Statement.Marked

/-!
# Escaped question marks

A text of parameters and literal parts is written with one question mark for each parameter and two
for each question mark of a literal part. Numbering reads a run of question marks in pairs, from the
left, so what was written comes back just when no parameter stands directly before a question mark.
-/

namespace RowMap

namespace Escape

/-- A part of a text with parameters. -/
inductive Token
  | parameter
  | literal (text : List Char)

/-! ## Writing -/

/-- A character of a literal part as it is written. -/
def escapeChar (c : Char) : List Char := if c = '?' then ['?', '?'] else [c]

def escaped : List Token → List Char
  | [] => []
  | .parameter :: rest => '?' :: escaped rest
  | .literal text :: rest => text.flatMap escapeChar ++ escaped rest

/-- The text that is meant, with the parameters numbered from a number on. -/
def restoredFrom : Nat → List Token → List Char
  | _, [] => []
  | n, .parameter :: rest => marker n ++ restoredFrom (n + 1) rest
  | n, .literal text :: rest => text ++ restoredFrom n rest

def restored (ts : List Token) : List Char := restoredFrom 1 ts

/-- The text begins with a parameter, or with a question mark of a literal part. -/
def startsMark : List Token → Prop
  | [] => False
  | .parameter :: _ => True
  | .literal [] :: rest => startsMark rest
  | .literal (c :: _) :: _ => c = '?'

/-- No parameter stands directly before a parameter or a question mark. -/
def Separated : List Token → Prop
  | [] => True
  | .parameter :: rest => ¬ startsMark rest ∧ Separated rest
  | .literal _ :: rest => Separated rest

/-! ## Reading -/

theorem signs_escape_append (text rest : List Char) :
    signs (text.flatMap escapeChar ++ rest) = text.map .char ++ signs rest := by
  induction text with
  | nil => rfl
  | cons c text ih =>
    by_cases hc : c = '?'
    · subst hc
      exact congrArg (Sign.char '?' :: ·) ih
    · have hchar : escapeChar c = [c] := if_neg hc
      rw [List.flatMap_cons, hchar, List.singleton_append, List.cons_append, signs_cons hc, ih]
      rfl

theorem renumberFrom_escape_append (n : Nat) (text rest : List Char) :
    renumberFrom n (text.flatMap escapeChar ++ rest) = text ++ renumberFrom n rest := by
  rw [renumberFrom_eq, renumberFrom_eq, signs_escape_append, numbered_chars_append]

theorem head_escaped_iff (ts : List Token) :
    (∃ more, escaped ts = '?' :: more) ↔ startsMark ts := by
  fun_induction startsMark ts with
  | case1 => exact iff_of_false nofun id
  | case2 rest => exact iff_of_true ⟨_, rfl⟩ trivial
  | case3 rest ih => exact ih
  | case4 c text rest =>
    by_cases hc : c = '?'
    · subst hc
      exact iff_of_true ⟨_, rfl⟩ rfl
    · refine iff_of_false ?_ hc
      rintro ⟨more, hmore⟩
      simp only [escaped, List.flatMap_cons, escapeChar, if_neg hc, List.cons_append,
        List.cons.injEq] at hmore
      exact hc hmore.1

theorem renumberFrom_pair (n : Nat) (rest : List Char) :
    renumberFrom n ('?' :: '?' :: rest) = '?' :: renumberFrom n rest := rfl

theorem renumberFrom_lone (n : Nat) {rest : List Char} (h : ¬ ∃ more, rest = '?' :: more) :
    renumberFrom n ('?' :: rest) = marker n ++ renumberFrom (n + 1) rest :=
  renumberFrom.eq_3 n rest fun more hmore => h ⟨more, hmore⟩

theorem renumberFrom_escaped_iff (n : Nat) (ts : List Token) :
    renumberFrom n (escaped ts) = restoredFrom n ts ↔ Separated ts := by
  induction ts generalizing n with
  | nil => exact iff_of_true rfl trivial
  | cons t rest ih =>
    cases t with
    | literal text =>
      rw [escaped, renumberFrom_escape_append, restoredFrom, List.append_cancel_left_eq]
      exact ih n
    | parameter =>
      rw [escaped, restoredFrom, Separated, ← head_escaped_iff]
      by_cases hpair : ∃ more, escaped rest = '?' :: more
      · -- The two question marks are read as one, where a dollar sign is meant.
        obtain ⟨more, hmore⟩ := hpair
        rw [hmore, renumberFrom_pair]
        refine iff_of_false (fun h => ?_) fun h => h.1 ⟨more, rfl⟩
        have hhead : '?' = '$' := (List.cons.inj h).1
        exact absurd hhead (by decide)
      · rw [renumberFrom_lone n hpair, List.append_cancel_left_eq, ih (n + 1)]
        exact (and_iff_right hpair).symm

/-- What was written comes back, with the parameters numbered in their order, just when no parameter
stands directly before a parameter or a question mark of a literal part. -/
theorem renumber_escaped_iff (ts : List Token) :
    renumber (escaped ts) = restored ts ↔ Separated ts :=
  renumberFrom_escaped_iff 1 ts

/-- A parameter before a question mark, as in a test of a key. -/
def keyTest : List Token := [.parameter, .literal "?'isbn'".toList]

theorem keyTest_not_restored :
    escaped keyTest = "???'isbn'".toList ∧ restored keyTest = "$1?'isbn'".toList ∧
      renumber (escaped keyTest) = "?$1'isbn'".toList ∧
      renumber (escaped keyTest) ≠ restored keyTest := by
  decide

/-- Two parameters are written as one question mark of a literal part is, so no way to read them
could bring back both. -/
theorem no_reading_restores_all :
    ¬ ∃ read : List Char → List Char, ∀ ts, read (escaped ts) = restored ts := by
  rintro ⟨read, hread⟩
  have hsame : escaped [.parameter, .parameter] = escaped [.literal ['?']] := rfl
  have hrestored : restored [.parameter, .parameter] = restored [.literal ['?']] := by
    rw [← hread, ← hread, hsame]
  exact absurd hrestored (by decide)

end Escape

end RowMap
