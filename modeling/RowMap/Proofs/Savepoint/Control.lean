import RowMap.Proofs.Statement.Lexed
import RowMap.Transaction

/-!
# Control statements

A server tells by the first words of a text whether it controls the transaction. Comments and
semicolons are nothing but space between words. Here a text is read in that way, and what
transactions send is read as what they mean.
-/

namespace RowMap.Savepoint

/-! ## Words -/

/-- The comment that a reader is in. One kind ends with its line, the other one with its own mark,
and it may have others in it. -/
inductive Comment
  | none
  | line
  | nested (around : Nat)

/-- The text without comments. One that ends inside the text leaves a blank. -/
def uncommented : Comment → List Char → List Char
  | _, [] => []
  | .none, '-' :: '-' :: cs => uncommented .line cs
  | .none, '/' :: '*' :: cs => uncommented (.nested 0) cs
  | .none, c :: cs => c :: uncommented .none cs
  | .line, c :: cs =>
    if c = '\n' ∨ c = '\r' then ' ' :: uncommented .none cs else uncommented .line cs
  | .nested n, '/' :: '*' :: cs => uncommented (.nested (n + 1)) cs
  | .nested 0, '*' :: '/' :: cs => ' ' :: uncommented .none cs
  | .nested (n + 1), '*' :: '/' :: cs => uncommented (.nested n) cs
  | .nested n, _ :: cs => uncommented (.nested n) cs

def isGap (c : Char) : Bool := Sql.isBlank c || c = ';'

/-- Keywords and names may be written in any case. -/
def folded (cs : List Char) : String := String.ofList (cs.map Char.toLower)

def words (sql : List Char) : List String :=
  (((uncommented .none sql).splitOnP isGap).filter fun w => !w.isEmpty).map folded

/-! ## Controls -/

/-- What a control statement asks for. -/
inductive Control
  | begin
  | commit
  | rollback
  | savepoint (name : String)
  | rollbackTo (name : String)
  | release (name : String)
  /-- It starts like one and goes on in a way that is not understood. -/
  | unknown
deriving DecidableEq

namespace Control

/-- The words behind an optional one. -/
def skip (optional : List String) : List String → List String
  | [] => []
  | w :: ws => if w ∈ optional then ws else w :: ws

def named (control : String → Control) : List String → Control
  | [name] => if name.toList.all Sql.isWord then control name else unknown
  | _ => unknown

def ofWords : List String → Option Control
  | [] => none
  | w :: ws =>
    match w with
    | "begin" | "start" => some begin
    | "commit" | "end" => some (if skip ["work", "transaction"] ws = [] then commit else unknown)
    | "rollback" | "abort" =>
      match skip ["work", "transaction"] ws with
      | [] => some rollback
      | "to" :: ws => some (named rollbackTo (skip ["savepoint"] ws))
      | _ => some unknown
    | "savepoint" => some (named savepoint ws)
    | "release" => some (named release (skip ["savepoint"] ws))
    | "prepare" => if ws.head? = some "transaction" then some unknown else none
    | _ => none

/-- What a text controls. Most texts control nothing. -/
def ofText (sql : String) : Option Control := ofWords (words sql.toList)

/-- It is the end of the transaction. -/
def closes : Control → Bool
  | commit | rollback => true
  | _ => false

end Control

/-! ## Words of plain texts -/

theorem uncommented_name {w : List Char} (h : ∀ c ∈ w, Sql.isWord c = true) (cs : List Char) :
    uncommented .none (w ++ cs) = w ++ uncommented .none cs := by
  induction w with
  | nil => rfl
  | cons c w ih =>
    obtain ⟨hc, hw⟩ := List.forall_mem_cons.mp h
    have hdash : c ≠ '-' := by rintro rfl; revert hc; decide
    have hslash : c ≠ '/' := by rintro rfl; revert hc; decide
    rw [List.cons_append, uncommented.eq_4, ih hw, List.cons_append]
    · intro _ h
      exact absurd h hdash
    · intro _ h
      exact absurd h hslash

theorem isGap_of_isWord {c : Char} (h : Sql.isWord c = true) : isGap c = false := by
  have hsemicolon : c ≠ ';' := by rintro rfl; revert h; decide
  simp [isGap, Sql.not_blank_of_isWord h, hsemicolon]

theorem words_name {w : List Char} (h : IsName w) : words w = [folded w] := by
  have htext := uncommented_name h.2 []
  rw [List.append_nil] at htext
  rw [words, htext, uncommented, List.append_nil,
    List.splitOnP_eq_singleton fun c hc => isGap_of_isWord (h.2 c hc)]
  simp [h.1]

theorem words_name_append {w : List Char} (h : IsName w) (cs : List Char) :
    words (w ++ ' ' :: cs) = folded w :: words cs := by
  have hblank : uncommented .none (' ' :: cs) = ' ' :: uncommented .none cs :=
    uncommented.eq_4 ' ' cs (by intros; contradiction) (by intros; contradiction)
  have hgap : ∀ c ∈ w, isGap c = false := fun c hc => isGap_of_isWord (h.2 c hc)
  rw [words, uncommented_name h.2, hblank,
    List.splitOnP_append_cons_of_forall_mem hgap ' ' (by decide)]
  simp [h.1, words]

/-! ## What transactions send -/

open Transaction (savepoint savepointSql beginSql commitSql rollbackSql)

theorem toList_savepoint (depth : Nat) :
    (savepoint depth).toList = "sp_".toList ++ Decimal.natDigits depth := by
  simp [savepoint, Nat.toString_eq_repr, Nat.repr_eq_ofList_toDigits, Decimal.natDigits]

theorem savepoint_inj {d e : Nat} : savepoint d = savepoint e ↔ d = e := by
  refine ⟨fun h => ?_, fun h => h ▸ rfl⟩
  have hdigits : Decimal.natDigits d = Decimal.natDigits e := by
    simpa [toList_savepoint] using congrArg String.toList h
  calc d = Nat.ofDigitChars 10 (Decimal.natDigits d) 0 := Nat.ofDigitChars_ten_toDigits.symm
    _ = Nat.ofDigitChars 10 (Decimal.natDigits e) 0 := by rw [hdigits]
    _ = e := Nat.ofDigitChars_ten_toDigits

theorem isName_savepoint (depth : Nat) : IsName (savepoint depth).toList := by
  have hprefix : "sp_".toList.all Sql.isWord = true := by decide
  rw [toList_savepoint]
  refine ⟨by simp, fun c hc => ?_⟩
  rcases List.mem_append.mp hc with hc | hc
  · exact List.all_eq_true.mp hprefix c hc
  · simp [Sql.isWord, Char.isAlphanum, isDigit_of_mem_natDigits hc]

theorem toLower_of_isDigit {c : Char} (h : c.isDigit = true) : c.toLower = c := by
  simp only [Char.isDigit, Bool.and_eq_true, decide_eq_true_eq] at h
  have hupper : ¬(c.val ≥ 'A'.val ∧ c.val ≤ 'Z'.val) := fun hupper =>
    absurd (UInt32.le_trans hupper.1 h.2) (by decide)
  exact dif_neg hupper

theorem folded_savepoint (depth : Nat) : folded (savepoint depth).toList = savepoint depth := by
  have hdigits : (Decimal.natDigits depth).map Char.toLower = Decimal.natDigits depth :=
    (List.map_congr_left fun c hc => toLower_of_isDigit (isDigit_of_mem_natDigits hc)).trans
      (List.map_id _)
  have hname : ("sp_".toList ++ Decimal.natDigits depth).map Char.toLower =
      (savepoint depth).toList := by
    rw [List.map_append, hdigits, toList_savepoint]
    rfl
  rw [folded, toList_savepoint, hname, String.ofList_toList]

theorem words_savepoint (depth : Nat) : words (savepoint depth).toList = [savepoint depth] := by
  rw [words_name (isName_savepoint depth), folded_savepoint]

theorem named_savepoint (control : String → Control) (depth : Nat) :
    Control.named control [savepoint depth] = control (savepoint depth) :=
  if_pos (List.all_eq_true.mpr (isName_savepoint depth).2)

theorem ofText_beginSql (level : Option Isolation) :
    Control.ofText (beginSql level) = some .begin := by
  cases level with
  | none => decide
  | some level => cases level <;> decide

theorem words_savepointSql (depth : Nat) :
    words (savepointSql depth).toList = ["savepoint", savepoint depth] := by
  have hsql : (savepointSql depth).toList =
      "SAVEPOINT".toList ++ ' ' :: (savepoint depth).toList := by
    simp [savepointSql]
  rw [hsql, words_name_append (by decide), words_savepoint]
  rfl

theorem ofText_savepointSql (depth : Nat) :
    Control.ofText (savepointSql depth) = some (.savepoint (savepoint depth)) := by
  rw [Control.ofText, words_savepointSql]
  exact congrArg some (named_savepoint .savepoint depth)

theorem ofText_commitSql_zero : Control.ofText (commitSql 0) = some .commit := by decide

theorem ofText_commitSql_succ (depth : Nat) :
    Control.ofText (commitSql (depth + 1)) = some (.release (savepoint (depth + 1))) := by
  have hsql : (commitSql (depth + 1)).toList =
      "RELEASE".toList ++ ' ' :: (savepointSql (depth + 1)).toList := by
    simp [commitSql, savepointSql]
  rw [Control.ofText, hsql, words_name_append (by decide), words_savepointSql]
  exact congrArg some (named_savepoint .release (depth + 1))

theorem ofText_rollbackSql_zero : Control.ofText (rollbackSql 0) = some .rollback := by decide

theorem ofText_rollbackSql_succ (depth : Nat) :
    Control.ofText (rollbackSql (depth + 1)) = some (.rollbackTo (savepoint (depth + 1))) := by
  have hsql : (rollbackSql (depth + 1)).toList =
      "ROLLBACK".toList ++ ' ' :: ("TO".toList ++ ' ' :: (savepointSql (depth + 1)).toList) := by
    simp [rollbackSql, savepointSql]
  rw [Control.ofText, hsql, words_name_append (by decide), words_name_append (by decide),
    words_savepointSql]
  exact congrArg some (named_savepoint .rollbackTo (depth + 1))

end RowMap.Savepoint
