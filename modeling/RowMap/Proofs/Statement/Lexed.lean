import RowMap.Proofs.Sql.Lexeme

/-!
# Lexemes of marked texts

A marked text with its values is read as lexemes. Texts that are put together with separators
between them are read one after the other.
-/

namespace RowMap

open Sql

/-- A marked text has a value for every marker, and with them it is read as lexemes. -/
structure Lexed (text : List Char) (values : List Value) (ls : List Lexeme) : Prop where
  aligned : Aligned text values
  lexemes_eq : lexemes (fill text values) = some ls

/-- A name of letters, digits and underscores. -/
def IsName (cs : List Char) : Prop := cs ≠ [] ∧ ∀ c ∈ cs, isWord c = true

instance (cs : List Char) : Decidable (IsName cs) :=
  decidable_of_iff (cs ≠ [] ∧ cs.all isWord = true) (by rw [IsName, List.all_eq_true])

theorem IsName.not_mem {cs : List Char} (h : IsName cs) {c : Char} (hc : isWord c = false) :
    c ∉ cs := by
  intro hm
  rw [h.2 c hm] at hc
  cases hc

theorem lexed_name {cs : List Char} (h : IsName cs) : Lexed cs [] [.word cs] := by
  have hmark : '?' ∉ cs := h.not_mem (by decide)
  have hfill := fill_literal_append hmark [] []
  have haligned := aligned_nil.literal_append hmark (h.not_mem (by decide))
  rw [List.append_nil] at hfill haligned
  refine ⟨haligned, ?_⟩
  rw [hfill]
  simpa [fill, signs, filled] using lexemes_word h.1 h.2

theorem Sql.Separates.parts {c : Char} {ms : List Lexeme} (h : Separates c ms) (text : List Char) :
    Parts (c :: text) := by
  intro d hd
  obtain rfl : c = d := by simpa using hd
  refine ⟨?_, ?_⟩
  · rintro rfl
    exact absurd h.notOperator (by decide)
  · have hword := h.notWord
    simp only [isWord, Char.isAlphanum, Bool.or_eq_false_iff] at hword
    exact hword.1.1.1.2

theorem Lexed.append {c : Char} {ms : List Lexeme} (hc : Separates c ms) {text more : List Char}
    {vs ws : List Value} {ls ks : List Lexeme} (h : Lexed text vs ls) (hmore : Lexed more ws ks) :
    Lexed (text ++ c :: more) (vs ++ ws) (ls ++ (ms ++ ks)) := by
  have hmark : '?' ∉ [c] := by
    rw [List.mem_singleton]
    exact fun heq => (hc.parts [] c rfl).1 heq.symm
  have hdollar : '$' ∉ [c] := by
    rw [List.mem_singleton]
    rintro rfl
    exact absurd hc.notWord (by decide)
  have hfill : fill (text ++ c :: more) (vs ++ ws) = fill text vs ++ .char c :: fill more ws := by
    rw [fill_append h.aligned (hc.parts more), ← List.singleton_append, fill_literal_append hmark]
    rfl
  refine ⟨h.aligned.append (hmore.aligned.literal_append hmark hdollar) (hc.parts more), ?_⟩
  rw [hfill, lexemes_append hc h.lexemes_eq, hmore.lexemes_eq]
  rfl

theorem Lexed.unique {text : List Char} {values : List Value} {ls ms : List Lexeme}
    (h : Lexed text values ls) (h' : Lexed text values ms) : ls = ms :=
  Option.some.inj (h.lexemes_eq.symm.trans h'.lexemes_eq)

end RowMap
