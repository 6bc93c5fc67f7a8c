import RowMap.Proofs.Statement.Blanks
import RowMap.Proofs.Statement.Parts
import RowMap.Proofs.Statement.Words
import RowMap.Trace

/-!
# Statements on one line

Numbering markers, copying a template and reading markers all stop at a blank, so each of them is a
pass over the words of a text. The line that is logged has the markers of the statement that is
sent.
-/

namespace RowMap

/-! ## Blanks -/

theorem isBlank_of_isDigit {c : Char} (h : c.isDigit = true) : Text.isBlank c = false := by
  have hdigit : 48 ≤ c.toNat ∧ c.toNat ≤ 57 := by
    simpa [Char.isDigit, UInt32.le_iff_toNat_le] using h
  simp [Text.isBlank]
  omega

theorem Template.isBlank_of_isNameChar {c : Char} (h : isNameChar c = true) :
    Text.isBlank c = false := by
  have hname : (97 ≤ c.toNat ∧ c.toNat ≤ 122) ∨ (65 ≤ c.toNat ∧ c.toNat ≤ 90) ∨
      (48 ≤ c.toNat ∧ c.toNat ≤ 57) ∨ c.toNat = 95 := by
    simp only [isNameChar, Bool.or_eq_true, Bool.and_eq_true, decide_eq_true_eq, or_assoc] at h
    exact h.imp_right fun h => h.imp_right fun h => h.imp_right fun h => by rw [h]; rfl
  simp [Text.isBlank]
  omega

section
variable {c : Char} (h : Text.isBlank c = true)
include h

theorem ne_of_isBlank {d : Char} (hd : Text.isBlank d = false) : c ≠ d := by
  rintro rfl
  simp [h] at hd

theorem not_isDigit_of_isBlank : c.isDigit = false := by
  rw [Bool.eq_false_iff]
  intro hdigit
  simp [isBlank_of_isDigit hdigit] at h

theorem Template.not_isNameChar_of_isBlank : isNameChar c = false := by
  rw [Bool.eq_false_iff]
  intro hname
  simp [isBlank_of_isNameChar hname] at h

end

/-! ## Markers -/

theorem unbroken_marker (n : Nat) : Text.Unbroken (marker n) := by
  intro c hc
  rcases List.mem_cons.mp hc with rfl | hc
  · decide
  · exact isBlank_of_isDigit (isDigit_of_mem_natDigits hc)

theorem signs_append_blank (text : List Char) {c : Char} (rest : List Char)
    (h : Text.isBlank c = true) : signs (text ++ c :: rest) = signs text ++ .char c :: signs rest := by
  have hmark : c ≠ '?' := ne_of_isBlank h (by decide)
  rw [signs_append text (by simpa using hmark), signs_cons hmark]

theorem unbroken_numbered {ss : List Sign} (h : ∀ c, .char c ∈ ss → Text.isBlank c = false)
    (n : Nat) : Text.Unbroken (numbered n ss) := by
  induction ss generalizing n with
  | nil => exact Text.unbroken_nil
  | cons s ss ih =>
    have hrest (n : Nat) := ih (fun c hc => h c (List.mem_cons_of_mem _ hc)) n
    cases s with
    | char c => simp [numbered, h c, hrest]
    | marker => simp [numbered, unbroken_marker, hrest]

theorem numbered_signs_ne_nil (n : Nat) {text : List Char} (h : text ≠ []) :
    numbered n (signs text) ≠ [] := by
  induction text using signs.induct with
  | case1 => exact absurd rfl h
  | case2 rest _ => simp [signs, numbered]
  | case3 rest hpair _ => simp [signs.eq_3 _ hpair, numbered, marker]
  | case4 c rest _ hc _ => simp [signs_cons hc, numbered]

/-- Numbering, with the number of the next marker. -/
def numbering : Pass Nat where
  write := renumberFrom
  next n text := n + markerCount (signs text)
  next_nil _ := rfl
  next_blank n text c rest h := by
    simp [signs_append_blank text rest h, markerCount, Nat.add_assoc]
  write_nil _ := rfl
  write_blank n text c rest h := by
    simp only [renumberFrom_eq, signs_append_blank text rest h, numbered_append, numbered]
  write_word n word hne h := by
    rw [renumberFrom_eq]
    exact ⟨numbered_signs_ne_nil n hne,
      unbroken_numbered (fun c hc => h c (mem_of_char_mem_signs hc)) n⟩

theorem markersIn_append (text : List Char) {rest : List Char} (h : EndsMarker rest) :
    markersIn (text ++ rest) = markersIn text ++ markersIn rest := by
  induction text with
  | nil => rfl
  | cons c text ih =>
    have hstop : rest.takeWhile Char.isDigit = [] := by
      cases rest with
      | nil => rfl
      | cons d rest => simp [h d rfl]
    have hdigits : (text ++ rest).takeWhile Char.isDigit = text.takeWhile Char.isDigit := by
      rw [List.takeWhile_append, hstop, List.append_nil]
      split
      · exact ((List.takeWhile_prefix _).eq_of_length ‹_›).symm
      · rfl
    rw [List.cons_append, markersIn, markersIn, hdigits, ih]
    split
    · split <;> rfl
    · rfl

/-- Reading markers, with those that have been read. -/
def reading : Pass (List (List Char)) where
  write _ text := text
  next found text := found ++ markersIn text
  next_nil := List.append_nil
  next_blank found text c rest h := by
    have hends : EndsMarker (c :: rest) := by
      intro d hd
      obtain rfl : c = d := by simpa using hd
      exact not_isDigit_of_isBlank h
    have hdollar : '$' ∉ [c] := by
      simpa using (ne_of_isBlank h (by decide)).symm
    rw [markersIn_append text hends, ← List.singleton_append,
      markersIn_append_of_not_mem hdollar, List.append_assoc]
  write_nil _ := rfl
  write_blank _ _ _ _ _ := rfl
  write_word _ _ hne h := ⟨hne, h⟩

/-! ## Copies of a template -/

namespace Template

theorem apart_blank {c : Char} (h : Text.isBlank c = true) (rest : List Char) :
    Apart (c :: rest) := by
  intro d hd
  obtain rfl : c = d := by simpa using hd
  exact ⟨ne_of_isBlank h (by decide), not_isNameChar_of_isBlank h⟩

theorem tokens_append_blank (text : List Char) {c : Char} (rest : List Char)
    (h : Text.isBlank c = true) : tokens (text ++ c :: rest) = tokens text ++ .text c :: tokens rest := by
  rw [tokens_append text (apart_blank h rest),
    tokens_text fun hc => absurd hc (ne_of_isBlank h (by decide))]

theorem unbroken_copiedFrom {text : List Char} {ts : List Token} (h : Splits text ts)
    (htext : Text.Unbroken text) (n : Nat) : Text.Unbroken (copiedFrom n ts) := by
  induction h generalizing n with
  | nil => exact htext
  | cast _ ih =>
    simp only [Text.unbroken_cons] at htext
    simp [copiedFrom, Token.source, htext, ih htext.2.2]
  | placeholder _ _ _ _ ih =>
    simp only [Text.unbroken_cons, Text.unbroken_append] at htext
    simp [copiedFrom, unbroken_marker, ih htext.2.2]
  | text _ _ ih =>
    simp only [Text.unbroken_cons] at htext
    simp [copiedFrom, Token.source, htext, ih htext.2]

theorem copiedFrom_ne_nil {text : List Char} {ts : List Token} (h : Splits text ts)
    (hne : text ≠ []) (n : Nat) : copiedFrom n ts ≠ [] := by
  cases h with
  | nil => exact absurd rfl hne
  | cast _ => simp [copiedFrom, Token.source]
  | placeholder _ _ _ _ => simp [copiedFrom, marker]
  | text _ _ => simp [copiedFrom, Token.source]

/-- Copying a template, with the names that have been read. -/
def copying : Pass (List String) where
  write read text := copiedFrom (read.length + 1) (tokens text)
  next read text := read ++ names (tokens text)
  next_nil read := by simp [tokens, names]
  next_blank read text c rest h := by
    rw [tokens_append_blank text rest h, names_append, names_cons]
    simp [names, Token.name?]
  write_nil _ := by simp [tokens, copiedFrom]
  write_blank read text c rest h := by
    have hnone : names [.text c] = [] := rfl
    rw [tokens_append_blank text rest h, copiedFrom_append, copiedFrom_cons, hnone,
      List.length_append, Nat.add_right_comm]
    rfl
  write_word read word hne h :=
    ⟨copiedFrom_ne_nil (splits_tokens word) hne _, unbroken_copiedFrom (splits_tokens word) h _⟩

theorem names_minify (template : List Char) :
    names (tokens (minify template)) = names (tokens template) :=
  copying.next_minify [] template

theorem numbered_minify (template : String) :
    numbered (String.ofList (minify template.toList)) =
      String.ofList (minify (numbered template).toList) := by
  simp only [numbered, String.toList_ofList, copied_eq]
  exact congrArg String.ofList (copying.write_minify [] template.toList)

theorem missing?_minify (p : Parameters) (template : String) :
    missing? p (String.ofList (minify template.toList)) = missing? p template := by
  simp only [missing?, String.toList_ofList, names_minify]

end Template

/-! ## One line of a statement -/

theorem Parameters.statement_minify (p : Parameters) (template : String) :
    (∃ stmt, p.statement template = .ok stmt ∧
      p.statement (String.ofList (minify template.toList)) = .ok { stmt with sql := stmt.minified }) ∨
    ∃ name, p.statement template = .error (.missingParameter name) ∧
      p.statement (String.ofList (minify template.toList)) = .error (.missingParameter name) := by
  have hline := Template.missing?_minify p template
  cases hmissing : Template.missing? p template with
  | some name =>
    exact .inr ⟨name, Template.statement_of_missing hmissing,
      Template.statement_of_missing (hline.trans hmissing)⟩
  | none =>
    obtain ⟨values, hstmt, hvalues⟩ := Template.statement_of_bound hmissing
    obtain ⟨lineValues, hlineStmt, hlineValues⟩ :=
      Template.statement_of_bound (hline.trans hmissing)
    have hsame : lineValues = values := by
      rw [String.toList_ofList, Template.names_minify, ← hvalues] at hlineValues
      exact List.map_injective_iff.mpr (Option.some_injective _) hlineValues
    refine .inl ⟨_, hstmt, ?_⟩
    rw [hlineStmt, hsame, Template.numbered_minify]
    rfl

/-- Minifying commutes with filling a template and with numbering markers, and the line that is
logged for a statement shows the markers of the statement. -/
theorem minify_commutes :
    (∀ (p : Parameters) (template : String),
      (∃ stmt, p.statement template = .ok stmt ∧
        p.statement (String.ofList (minify template.toList)) =
          .ok { stmt with sql := stmt.minified }) ∨
      ∃ name, p.statement template = .error (.missingParameter name) ∧
        p.statement (String.ofList (minify template.toList)) = .error (.missingParameter name)) ∧
    (∀ text, renumber (minify text) = minify (renumber text)) ∧
    ∀ stmt : Statement, ∃ line, Event.ofStatement stmt = .log .info "shelfmap::sql" line ∧
      markersIn line.toList = markersIn stmt.sql.toList := by
  refine ⟨Parameters.statement_minify, numbering.write_minify 1, fun stmt => ⟨_, rfl, ?_⟩⟩
  rw [Statement.minified, String.toList_ofList]
  exact reading.next_minify [] stmt.sql.toList

end RowMap
