import RowMap.Statement.Basic

/-!
# Words

A blank ends a word. A text is empty, a word, or two texts with a blank between them, and what does
not look across a blank is settled word by word.
-/

namespace RowMap

namespace Text

theorem wordsAfter_blank {c : Char} (h : isBlank c = true) (word rest : List Char) :
    wordsAfter word (c :: rest) = wordsAfter word [] ++ wordsAfter [] rest := by
  simp only [wordsAfter, if_pos h]
  split <;> rfl

theorem words_append_blank {c : Char} (h : isBlank c = true) (text rest : List Char) :
    words (text ++ c :: rest) = words text ++ words rest := by
  suffices hafter : ∀ word, wordsAfter word (text ++ c :: rest) =
      wordsAfter word text ++ wordsAfter [] rest from hafter []
  induction text with
  | nil => exact fun word => wordsAfter_blank h word rest
  | cons d text ih =>
    intro word
    rw [List.cons_append, wordsAfter, wordsAfter]
    by_cases hd : isBlank d = true
    · rw [if_pos hd, if_pos hd, ih]
      split <;> rfl
    · rw [if_neg hd, if_neg hd, ih]

theorem words_blank_append {blanks : List Char} (h : ∀ c ∈ blanks, isBlank c = true)
    (rest : List Char) : words (blanks ++ rest) = words rest := by
  induction blanks with
  | nil => rfl
  | cons c blanks ih =>
    obtain ⟨hc, hblanks⟩ := List.forall_mem_cons.mp h
    exact (words_append_blank hc [] (blanks ++ rest)).trans (ih hblanks)

/-! ## Unbroken texts -/

def Unbroken (text : List Char) : Prop := ∀ c ∈ text, isBlank c = false

@[simp]
theorem unbroken_nil : Unbroken [] := List.forall_mem_nil _

@[simp]
theorem unbroken_cons {c : Char} {text : List Char} :
    Unbroken (c :: text) ↔ isBlank c = false ∧ Unbroken text :=
  List.forall_mem_cons

@[simp]
theorem unbroken_append {text rest : List Char} :
    Unbroken (text ++ rest) ↔ Unbroken text ∧ Unbroken rest :=
  List.forall_mem_append

theorem words_word {word : List Char} (hne : word ≠ []) (h : Unbroken word) :
    words word = [word] := by
  suffices hafter : ∀ before, before.reverse ++ word ≠ [] →
      wordsAfter before word = [before.reverse ++ word] from hafter [] hne
  clear hne
  induction word with
  | nil =>
    intro before hne
    simpa [wordsAfter] using hne
  | cons c word ih =>
    intro before _
    obtain ⟨hc, hword⟩ := unbroken_cons.mp h
    rw [wordsAfter, if_neg (by simp [hc]), ih hword _ (by simp)]
    simp

theorem word_induction {motive : List Char → Prop} (nil : motive [])
    (word : ∀ word, word ≠ [] → Unbroken word → motive word)
    (blank : ∀ text c rest, isBlank c = true → motive text → motive rest →
      motive (text ++ c :: rest)) (text : List Char) : motive text := by
  have hunbroken (text : List Char) (h : Unbroken text) : motive text := by
    by_cases hnil : text = []
    · rwa [hnil]
    · exact word text hnil h
  -- The induction is on what is left, behind a word that has been read so far.
  suffices hbehind : ∀ before, Unbroken before → motive (before ++ text) from
    hbehind [] unbroken_nil
  induction text with
  | nil =>
    intro before hbefore
    rw [List.append_nil]
    exact hunbroken before hbefore
  | cons c text ih =>
    intro before hbefore
    by_cases hc : isBlank c = true
    · exact blank before c text hc (hunbroken before hbefore) (ih [] unbroken_nil)
    · have hmore : Unbroken (before ++ [c]) := by simp [hbefore, hc]
      simpa using ih (before ++ [c]) hmore

end Text

/-! ## Passes over a text -/

/-- A pass that writes a text anew from left to right. It keeps the blanks, writes a word for a
word, and knows of what comes before a blank only what it has seen. -/
structure Pass (σ : Type) where
  write : σ → List Char → List Char
  next : σ → List Char → σ
  next_nil (s : σ) : next s [] = s
  next_blank (s : σ) (text : List Char) {c : Char} (rest : List Char) : Text.isBlank c = true →
    next s (text ++ c :: rest) = next (next s text) rest
  write_nil (s : σ) : write s [] = []
  write_blank (s : σ) (text : List Char) {c : Char} (rest : List Char) : Text.isBlank c = true →
    write s (text ++ c :: rest) = write s text ++ c :: write (next s text) rest
  write_word (s : σ) {word : List Char} : word ≠ [] → Text.Unbroken word →
    write s word ≠ [] ∧ Text.Unbroken (write s word)

namespace Pass
variable {σ : Type} (p : Pass σ)

/-- The words that are written for words. -/
def rewrite : σ → List (List Char) → List (List Char)
  | _, [] => []
  | s, word :: rest => p.write s word :: rewrite (p.next s word) rest

theorem rewrite_append (s : σ) (ws vs : List (List Char)) :
    p.rewrite s (ws ++ vs) = p.rewrite s ws ++ p.rewrite (ws.foldl p.next s) vs := by
  induction ws generalizing s with
  | nil => rfl
  | cons word ws ih => simp only [List.cons_append, rewrite, ih, List.foldl_cons]

theorem next_words (s : σ) (text : List Char) : p.next s text = (Text.words text).foldl p.next s := by
  induction text using Text.word_induction generalizing s with
  | nil => exact p.next_nil s
  | word word hne h =>
    rw [Text.words_word hne h]
    rfl
  | blank text c rest hc ihtext ihrest =>
    rw [p.next_blank s text rest hc, Text.words_append_blank hc, List.foldl_append, ihrest, ihtext]

theorem words_write (s : σ) (text : List Char) :
    Text.words (p.write s text) = p.rewrite s (Text.words text) := by
  induction text using Text.word_induction generalizing s with
  | nil =>
    rw [p.write_nil]
    rfl
  | word word hne h =>
    obtain ⟨hwritten, hunbroken⟩ := p.write_word s hne h
    rw [Text.words_word hne h, Text.words_word hwritten hunbroken]
    rfl
  | blank text c rest hc ihtext ihrest =>
    rw [p.write_blank s text rest hc, Text.words_append_blank hc, Text.words_append_blank hc,
      rewrite_append, ihtext, ihrest, next_words]

theorem next_joined (s : σ) (ws : List (List Char)) :
    p.next s (joined [' '] ws) = ws.foldl p.next s := by
  induction ws using joined.induct generalizing s with
  | case1 => exact p.next_nil s
  | case2 word => rfl
  | case3 word rest hrest ih =>
    rw [joined.eq_3 _ _ _ hrest, List.append_assoc, List.singleton_append,
      p.next_blank s word _ (by decide), ih, List.foldl_cons]

theorem write_joined (s : σ) (ws : List (List Char)) :
    p.write s (joined [' '] ws) = joined [' '] (p.rewrite s ws) := by
  induction ws using joined.induct generalizing s with
  | case1 => exact p.write_nil s
  | case2 word => rfl
  | case3 word rest hrest ih =>
    have hrewritten : p.rewrite (p.next s word) rest = [] → False := by
      cases rest with
      | nil => exact fun _ => hrest rfl
      | cons word rest => exact List.cons_ne_nil _ _
    rw [joined.eq_3 _ _ _ hrest, List.append_assoc, List.singleton_append,
      p.write_blank s word _ (by decide), ih, rewrite, joined.eq_3 _ _ _ hrewritten,
      List.append_assoc, List.singleton_append]

/-- It does not matter whether a text is put on one line before the pass or after it. -/
theorem write_minify (s : σ) (text : List Char) :
    p.write s (minify text) = minify (p.write s text) := by
  rw [minify, write_joined, ← words_write, minify]

theorem next_minify (s : σ) (text : List Char) : p.next s (minify text) = p.next s text := by
  rw [minify, next_joined, next_words]

end Pass

end RowMap
