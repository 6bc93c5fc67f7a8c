import RowMap.Bookshelf.Plans
import RowMap.Proofs.Statement.Blanks
import RowMap.Proofs.Statement.Words

/-!
# Templates in lines

A template is written in lines. A line break ends a word, and no name goes beyond it, so the words
of a statement are those of its lines, one line after the other with the markers counted on.
-/

namespace RowMap

namespace Template

/-! ## Lines -/

/-- What stands before each line and behind the last one. -/
def margin (indent : Nat) : List Char := '\n' :: List.replicate indent ' '

/-- The tokens of the lines, each behind the margin. -/
def lineTokens (indent : Nat) : List String → List Token
  | [] => (margin indent).map .text
  | line :: rest => (margin indent).map .text ++ (tokens line.toList ++ lineTokens indent rest)

/-- The names in lines, one for each placeholder. -/
def lineNames (lines : List String) : List String :=
  lines.flatMap fun line => names (tokens line.toList)

/-- The words of the copies of lines, with markers from a number on. -/
def lineWords : Nat → List String → List (List Char)
  | _, [] => []
  | n, line :: rest =>
    Text.words (copiedFrom n (tokens line.toList)) ++
      lineWords (n + (names (tokens line.toList)).length) rest

variable (indent : Nat)

theorem toList_margin : ("\n" ++ "".pushn ' ' indent).toList = margin indent := by
  have hblanks : ("".pushn ' ' indent).toList = List.replicate indent ' ' := by
    induction indent with
    | zero => rfl
    | succ n ih =>
      rw [List.replicate_succ', ← ih]
      simp [String.pushn_eq_repeat_push, Nat.repeat]
  rw [String.toList_append, hblanks]
  rfl

theorem toList_template_nil : (Bookshelf.template indent []).toList = margin indent :=
  (congrArg String.toList String.empty_append).trans (toList_margin indent)

theorem toList_template_cons (line : String) (lines : List String) :
    (Bookshelf.template indent (line :: lines)).toList =
      margin indent ++ (line.toList ++ (Bookshelf.template indent lines).toList) := by
  rw [← toList_margin]
  simp [Bookshelf.template, String.append_assoc]

theorem not_mem_margin : ':' ∉ margin indent := by simp [margin]

theorem apart_template (lines : List String) : Apart (Bookshelf.template indent lines).toList := by
  have hmargin (rest : List Char) : Apart (margin indent ++ rest) := by
    intro c hc
    obtain rfl : '\n' = c := Option.some.inj hc
    decide
  cases lines with
  | nil =>
    rw [toList_template_nil, ← List.append_nil (margin indent)]
    exact hmargin []
  | cons line lines =>
    rw [toList_template_cons]
    exact hmargin _

theorem tokens_template (lines : List String) :
    tokens (Bookshelf.template indent lines).toList = lineTokens indent lines := by
  induction lines with
  | nil => rw [toList_template_nil, tokens_plain (not_mem_margin indent), lineTokens]
  | cons line lines ih =>
    rw [toList_template_cons, tokens_plain_append (not_mem_margin indent),
      tokens_append _ (apart_template indent lines), ih]
    rfl

theorem names_lineTokens (lines : List String) :
    names (lineTokens indent lines) = lineNames lines := by
  induction lines with
  | nil => exact names_plain _
  | cons line lines ih =>
    rw [lineTokens, names_append, names_append, names_plain, ih]
    rfl

theorem words_append_margin (text rest : List Char) :
    Text.words (text ++ (margin indent ++ rest)) = Text.words text ++ Text.words rest := by
  have hblanks : ∀ c ∈ List.replicate indent ' ', Text.isBlank c = true := by
    intro c hc
    rw [List.eq_of_mem_replicate hc]
    decide
  rw [margin, List.cons_append, Text.words_append_blank (by decide),
    Text.words_blank_append hblanks]

theorem copiedFrom_lineTokens (n : Nat) (lines : List String) :
    ∃ rest, copiedFrom n (lineTokens indent lines) = margin indent ++ rest ∧
      Text.words rest = lineWords n lines := by
  induction lines generalizing n with
  | nil => exact ⟨[], by rw [lineTokens, copiedFrom_plain, List.append_nil], rfl⟩
  | cons line lines ih =>
    obtain ⟨rest, hcopy, hwords⟩ := ih (n + (names (tokens line.toList)).length)
    refine ⟨copiedFrom n (tokens line.toList) ++ (margin indent ++ rest), ?_, ?_⟩
    · rw [lineTokens, copiedFrom_append, copiedFrom_append, copiedFrom_plain, names_plain,
        List.length_nil, Nat.add_zero, hcopy]
    · rw [words_append_margin, hwords, lineWords]

theorem words_numbered (lines : List String) :
    Text.words (numbered (Bookshelf.template indent lines)).toList = lineWords 1 lines := by
  obtain ⟨rest, hcopy, hwords⟩ := copiedFrom_lineTokens indent 1 lines
  rw [numbered, String.toList_ofList, copied_eq, tokens_template, hcopy, ← hwords]
  exact words_append_margin indent [] rest

theorem lineNames_append (lines more : List String) :
    lineNames (lines ++ more) = lineNames lines ++ lineNames more :=
  List.flatMap_append

theorem lineWords_append (n : Nat) (lines more : List String) :
    lineWords n (lines ++ more) =
      lineWords n lines ++ lineWords (n + (lineNames lines).length) more := by
  induction lines generalizing n with
  | nil => rfl
  | cons line lines ih =>
    have hlength : (lineNames (line :: lines)).length =
        (names (tokens line.toList)).length + (lineNames lines).length := List.length_append
    rw [List.cons_append, lineWords, lineWords, ih, hlength, List.append_assoc, Nat.add_assoc]

theorem statement_of_lines {p : Parameters} {lines : List String}
    (h : ∀ name ∈ lineNames lines, (p.get? name).isSome) :
    ∃ values, p.statement (Bookshelf.template indent lines) =
        .ok ⟨numbered (Bookshelf.template indent lines), values⟩ ∧
      values.map some = (lineNames lines).map p.get? := by
  have hnames : names (tokens (Bookshelf.template indent lines).toList) = lineNames lines := by
    rw [tokens_template, names_lineTokens]
  refine ⟨(lineNames lines).filterMap p.get?, ?_, map_some_filterMap h⟩
  rw [Parameters.statement, number_of_bound p 1 (hnames ▸ h), hnames, numbered, copied_eq]
  rfl

end Template

end RowMap
