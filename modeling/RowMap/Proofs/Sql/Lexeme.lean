import RowMap.Proofs.Statement.Marked

/-!
# Lexemes of SQL

The pieces of a statement are read as words, operators, quoted texts, values and single marks. A
text with a comment or a dollar quote in it is not read.
-/

namespace RowMap.Sql

inductive Lexeme
  | word (cs : List Char)
  | operator (cs : List Char)
  | quoted (quote : Char) (cs : List Char)
  | value (v : Value)
  | mark (c : Char)

/-! ## Characters -/

def isBlank (c : Char) : Bool := [' ', '\t', '\n', '\r', '\x0c', '\x0b'].contains c

def isWord (c : Char) : Bool := c.isAlphanum || c = '_' || 0x80 ≤ c.toNat

def isOperator (c : Char) : Bool := "+-*/<>=~!@#%^&|`?".toList.contains c

def isQuote (c : Char) : Bool := c = '\'' || c = '"'

/-- A comment starts somewhere in the operator. -/
def hasComment (cs : List Char) : Bool :=
  (cs.zip cs.tail).any fun pair => [('-', '-'), ('/', '*')].contains pair

/-! ## The reader -/

/-- What the reader is in the middle of, and what it has read of it. -/
inductive Mode
  | idle
  | word (read : List Char)
  | operator (read : List Char)
  | quoted (quote : Char) (escapes : Bool) (read : List Char)
  | escaped (quote : Char) (read : List Char)

namespace Mode

/-- The lexeme that ends here. A quoted text cannot end without its quote. -/
def close : Mode → Option (List Lexeme)
  | idle => some []
  | word read => some [.word read]
  | operator read => if hasComment read then none else some [.operator read]
  | quoted _ _ _ => none
  | escaped _ _ => none

def start : Piece → Option (List Lexeme × Mode)
  | .char c =>
    if isBlank c then some ([], idle)
    else if isWord c then some ([], word [c])
    else if isOperator c then some ([], operator [c])
    else if isQuote c then some ([], quoted c false [])
    else if c = '$' then none
    else some ([.mark c], idle)
  | .value v => some ([.value v], idle)
  | .unbound => none

/-- Ends a lexeme before the piece. -/
def restart (m : Mode) (p : Piece) : Option (List Lexeme × Mode) :=
  m.close.bind fun ls => (start p).map fun (ms, next) => (ls ++ ms, next)

def step : Mode → Piece → Option (List Lexeme × Mode)
  | word read, .char c =>
    if isWord c || c = '$' then some ([], word (read ++ [c]))
    else if c = '\'' && (read = ['e'] || read = ['E']) then some ([], quoted c true [])
    else restart (word read) (.char c)
  -- The marker of the value would be a part of the word.
  | word _, .value _ => none
  | operator read, .char c =>
    if isOperator c then some ([], operator (read ++ [c])) else restart (operator read) (.char c)
  | quoted quote escapes read, .char c =>
    if c = quote then some ([.quoted quote read], idle)
    else if escapes && c = '\\' then some ([], escaped quote (read ++ [c]))
    else some ([], quoted quote escapes (read ++ [c]))
  | quoted _ _ _, _ => none
  | escaped quote read, .char c => some ([], quoted quote true (read ++ [c]))
  | escaped _ _, _ => none
  | m, p => restart m p

end Mode

def lexemesFrom : Mode → List Piece → Option (List Lexeme)
  | m, [] => m.close
  | m, p :: ps => (m.step p).bind fun (ls, next) => (lexemesFrom next ps).map (ls ++ ·)

def lexemes (ps : List Piece) : Option (List Lexeme) := lexemesFrom .idle ps

/-! ## Separators -/

/-- A character that ends what comes before it, and is a mark itself or nothing. -/
structure Separates (c : Char) (ls : List Lexeme) : Prop where
  start : Mode.start (.char c) = some (ls, .idle)
  notWord : (isWord c || c = '$') = false
  notOperator : isOperator c = false
  notQuote : c ≠ '\''

theorem separates_blank : Separates ' ' [] := ⟨rfl, rfl, rfl, by decide⟩

theorem separates_comma : Separates ',' [.mark ','] := ⟨rfl, rfl, rfl, by decide⟩

theorem Separates.step {c : Char} {ms : List Lexeme} (hc : Separates c ms) {m : Mode}
    {ls : List Lexeme} (h : m.close = some ls) : m.step (.char c) = some (ls ++ ms, .idle) := by
  have hrestart : m.restart (.char c) = some (ls ++ ms, .idle) := by
    simp only [Mode.restart, h, hc.start, Option.bind_some, Option.map_some]
  cases m with
  | idle => exact hrestart
  | word read =>
    rw [Mode.step, if_neg (by simp [hc.notWord]), if_neg (by simp [hc.notQuote])]
    exact hrestart
  | operator read =>
    rw [Mode.step, if_neg (by simp [hc.notOperator])]
    exact hrestart
  | quoted quote escapes read => simp [Mode.close] at h
  | escaped quote read => simp [Mode.close] at h

theorem lexemesFrom_append {c : Char} {ms : List Lexeme} (hc : Separates c ms) {m : Mode}
    {ps : List Piece} {ls : List Lexeme} (h : lexemesFrom m ps = some ls) (qs : List Piece) :
    lexemesFrom m (ps ++ .char c :: qs) = (lexemes qs).map fun ks => ls ++ (ms ++ ks) := by
  induction ps generalizing m ls with
  | nil =>
    simp only [List.nil_append, lexemesFrom, hc.step h, Option.bind_some, lexemes, List.append_assoc]
  | cons p ps ih =>
    rw [lexemesFrom, Option.bind_eq_some_iff] at h
    obtain ⟨⟨ns, next⟩, hstep, hrest⟩ := h
    obtain ⟨ls, hls, rfl⟩ := Option.map_eq_some_iff.mp hrest
    rw [List.cons_append, lexemesFrom, hstep]
    simp only [Option.bind_some, ih hls, Option.map_map]
    congr 1
    funext ks
    exact (List.append_assoc ns ls (ms ++ ks)).symm

theorem lexemes_append {c : Char} {ms : List Lexeme} (hc : Separates c ms) {ps : List Piece}
    {ls : List Lexeme} (h : lexemes ps = some ls) (qs : List Piece) :
    lexemes (ps ++ .char c :: qs) = (lexemes qs).map fun ks => ls ++ (ms ++ ks) :=
  lexemesFrom_append hc h qs

/-! ## Words -/

theorem lexemesFrom_word {read cs : List Char} (h : ∀ c ∈ cs, isWord c = true) :
    lexemesFrom (.word read) (cs.map .char) = some [.word (read ++ cs)] := by
  induction cs generalizing read with
  | nil => simp [lexemesFrom, Mode.close]
  | cons c cs ih =>
    obtain ⟨hc, hcs⟩ := List.forall_mem_cons.mp h
    rw [List.map_cons, lexemesFrom, Mode.step, if_pos (by simp [hc])]
    simp [ih hcs]

theorem not_blank_of_isWord {c : Char} (h : isWord c = true) : isBlank c = false := by
  refine Bool.eq_false_iff.mpr fun hb => ?_
  simp only [isBlank, List.contains_eq_mem, List.mem_cons, List.not_mem_nil, or_false,
    decide_eq_true_eq] at hb
  rcases hb with rfl | rfl | rfl | rfl | rfl | rfl <;> revert h <;> decide

theorem lexemes_word {cs : List Char} (hne : cs ≠ []) (h : ∀ c ∈ cs, isWord c = true) :
    lexemes (cs.map .char) = some [.word cs] := by
  obtain ⟨c, cs, rfl⟩ := List.exists_cons_of_ne_nil hne
  obtain ⟨hc, hcs⟩ := List.forall_mem_cons.mp h
  have hstart : Mode.idle.step (.char c) = some ([], .word [c]) := by
    simp [Mode.step, Mode.restart, Mode.close, Mode.start, hc, not_blank_of_isWord hc]
  rw [List.map_cons, lexemes, lexemesFrom, hstart]
  simp [lexemesFrom_word hcs]

end RowMap.Sql
