import RowMap.Proofs.Statement.Marker
import Mathlib.Data.List.Chain

/-!
# Marked texts and bound statements

A marked text is a list of signs, which takes the doubled question marks out of the way. A
statement is read as a list of pieces, which have the values in the places of their markers.
Numbering the markers of a text and reading the numbers back fills the signs with the values.
-/

namespace RowMap

/-! ## Signs -/

inductive Sign
  | char (c : Char)
  | marker
deriving DecidableEq

def signs : List Char → List Sign
  | [] => []
  | '?' :: '?' :: rest => .char '?' :: signs rest
  | '?' :: rest => .marker :: signs rest
  | c :: rest => .char c :: signs rest

/-- The text of signs with the markers numbered from a number on. -/
def numbered : Nat → List Sign → List Char
  | _, [] => []
  | n, .char c :: rest => c :: numbered n rest
  | n, .marker :: rest => marker n ++ numbered (n + 1) rest

/-- A digit behind a marker would be read as a part of its number. -/
def isFused : Sign → Sign → Bool
  | .marker, .char c => c.isDigit
  | _, _ => false

def Apart (ss : List Sign) : Prop := ss.IsChain fun s t => isFused s t = false

def markerCount (ss : List Sign) : Nat := ss.count .marker

theorem renumberFrom_eq (n : Nat) (text : List Char) :
    renumberFrom n text = numbered n (signs text) := by
  induction text using signs.induct generalizing n with
  | case1 => rfl
  | case2 rest ih => simp only [renumberFrom, signs, numbered, ih]
  | case3 rest h ih => rw [renumberFrom.eq_3 _ _ h, signs.eq_3 _ h, numbered, ih]
  | case4 c rest _ h ih => rw [renumberFrom.eq_4 _ _ _ ‹_› h, signs.eq_4 _ _ ‹_› h, numbered, ih]

theorem numbered_chars_append (n : Nat) (text : List Char) (ss : List Sign) :
    numbered n (text.map .char ++ ss) = text ++ numbered n ss := by
  induction text with
  | nil => rfl
  | cons c text ih => simp only [List.map_cons, List.cons_append, numbered, ih]

theorem signs_cons {c : Char} (h : c ≠ '?') (rest : List Char) :
    signs (c :: rest) = .char c :: signs rest :=
  signs.eq_4 c rest (fun _ hc _ => h hc) h

theorem signs_append (text : List Char) {rest : List Char} (h : rest.head? ≠ some '?') :
    signs (text ++ rest) = signs text ++ signs rest := by
  induction text using signs.induct with
  | case1 => rfl
  | case2 text ih => simp only [List.cons_append, signs, ih]
  | case3 text hpair ih =>
    have hpair' : ∀ more, text ++ rest = '?' :: more → False := by
      intro more hm
      cases text with
      | nil => exact h (by rw [← List.nil_append rest, hm]; rfl)
      | cons c text =>
        simp only [List.cons_append, List.cons.injEq] at hm
        exact hpair text (by rw [hm.1])
    rw [List.cons_append, signs.eq_3 _ hpair', signs.eq_3 _ hpair, ih, List.cons_append]
  | case4 c text _ hc ih => rw [List.cons_append, signs_cons hc, signs_cons hc, ih, List.cons_append]

theorem signs_literal_append {text : List Char} (h : '?' ∉ text) (rest : List Char) :
    signs (text ++ rest) = text.map .char ++ signs rest := by
  induction text with
  | nil => rfl
  | cons c text ih =>
    simp only [List.mem_cons, not_or] at h
    rw [List.cons_append, signs_cons (Ne.symm h.1), ih h.2, List.map_cons, List.cons_append]

/-! ## Pieces -/

/-- A piece of a bound statement. A marker may have no value. -/
inductive Piece
  | char (c : Char)
  | value (v : Value)
  | unbound

/-- The piece for the marker of a number. The numbers start with one. -/
def Piece.ofNumber (values : List Value) : Nat → Piece
  | 0 => .unbound
  | k + 1 => (values[k]?).elim .unbound .value

/-- The pieces of a text behind a number of characters. -/
def piecesFrom (values : List Value) : Nat → List Char → List Piece
  | _, [] => []
  | skipped + 1, _ :: rest => piecesFrom values skipped rest
  | 0, c :: rest =>
    if c = '$' then
      match rest.takeWhile Char.isDigit with
      | [] => .char c :: piecesFrom values 0 rest
      | digits =>
        .ofNumber values (Nat.ofDigitChars 10 digits 0) :: piecesFrom values digits.length rest
    else .char c :: piecesFrom values 0 rest

def Statement.pieces (s : Statement) : List Piece := piecesFrom s.values 0 s.sql.toList

/-- The signs with the values for the markers, one after the other. -/
def filled : List Sign → List Value → List Piece
  | [], _ => []
  | .char c :: rest, vs => .char c :: filled rest vs
  | .marker :: rest, [] => .unbound :: filled rest []
  | .marker :: rest, v :: vs => .value v :: filled rest vs

theorem filled_append {ss : List Sign} {vs : List Value} (h : markerCount ss = vs.length)
    (ts : List Sign) (ws : List Value) :
    filled (ss ++ ts) (vs ++ ws) = filled ss vs ++ filled ts ws := by
  induction ss generalizing vs with
  | nil =>
    obtain rfl : vs = [] := by simpa [markerCount] using h.symm
    rfl
  | cons s ss ih =>
    cases s with
    | char c =>
      have h : markerCount ss = vs.length := by simpa [markerCount] using h
      simp only [List.cons_append, filled, ih h]
    | marker =>
      cases vs with
      | nil => simp [markerCount] at h
      | cons v vs =>
        have h : markerCount ss = vs.length := by simpa [markerCount] using h
        simp only [List.cons_append, filled, ih h]

theorem filled_chars_append (text : List Char) (ss : List Sign) (vs : List Value) :
    filled (text.map .char ++ ss) vs = text.map .char ++ filled ss vs := by
  induction text with
  | nil => rfl
  | cons c text ih => simp only [List.map_cons, List.cons_append, filled, ih]

/-! ## Reading the numbers back -/

theorem piecesFrom_append (values : List Value) (skipped rest : List Char) :
    piecesFrom values skipped.length (skipped ++ rest) = piecesFrom values 0 rest := by
  induction skipped with
  | nil => rfl
  | cons c skipped ih => exact ih

theorem piecesFrom_marker_append (values : List Value) (n : Nat) {rest : List Char}
    (h : EndsMarker rest) :
    piecesFrom values 0 (marker n ++ rest) = .ofNumber values n :: piecesFrom values 0 rest := by
  have hn : Nat.ofDigitChars 10 (Decimal.natDigits n) 0 = n := Nat.ofDigitChars_ten_toDigits
  simp only [marker, List.cons_append, piecesFrom, if_true, takeWhile_natDigits n h]
  split
  · exact absurd ‹_› (natDigits_ne_nil n)
  · rw [hn, piecesFrom_append]

theorem endsMarker_numbered {ss : List Sign} (h : Apart (.marker :: ss)) (n : Nat) :
    EndsMarker (numbered n ss) := by
  cases ss with
  | nil => intro c hc; simp [numbered] at hc
  | cons t ss =>
    cases t with
    | marker => exact endsMarker_marker_append n _
    | char d =>
      intro c hc
      obtain rfl : d = c := by simpa [numbered] using hc
      exact (List.isChain_cons_cons.mp h).1

theorem pieces_numbered (values : List Value) {ss : List Sign} (hapart : Apart ss)
    (hdollar : .char '$' ∉ ss) (k : Nat) :
    piecesFrom values 0 (numbered (k + 1) ss) = filled ss (values.drop k) := by
  induction ss generalizing k with
  | nil => rfl
  | cons s ss ih =>
    have hrest := ih hapart.tail fun h => hdollar (List.mem_cons_of_mem _ h)
    cases s with
    | char c =>
      have hc : c ≠ '$' := by rintro rfl; exact hdollar List.mem_cons_self
      simp only [numbered, piecesFrom, if_neg hc, filled, hrest]
    | marker =>
      rw [numbered, piecesFrom_marker_append values _ (endsMarker_numbered hapart _), hrest]
      cases hv : values.drop k with
      | nil =>
        have hk : values.length ≤ k := List.drop_eq_nil_iff.mp hv
        simp [filled, Piece.ofNumber, hk, List.drop_eq_nil_of_le (Nat.le_succ_of_le hk)]
      | cons v vs =>
        have hk : values[k]? = some v := by rw [← List.head?_drop, hv]; rfl
        have hvs : values.drop (k + 1) = vs := by rw [← List.tail_drop, hv]; rfl
        simp [filled, Piece.ofNumber, hk, hvs]

/-! ## Texts with as many markers as values -/

def fill (text : List Char) (values : List Value) : List Piece := filled (signs text) values

/-- Every marker of the text has its own value, and nothing else looks like a numbered marker. -/
structure Aligned (text : List Char) (values : List Value) : Prop where
  count : markerCount (signs text) = values.length
  apart : Apart (signs text)
  noDollar : .char '$' ∉ signs text

instance (text : List Char) (values : List Value) : Decidable (Aligned text values) :=
  decidable_of_iff (markerCount (signs text) = values.length ∧
      (signs text).IsChain (fun s t => isFused s t = false) ∧ .char '$' ∉ signs text)
    ⟨fun ⟨count, apart, noDollar⟩ => ⟨count, apart, noDollar⟩,
      fun h => ⟨h.count, h.apart, h.noDollar⟩⟩

/-- A marker before the text ends there, and so does a question mark. -/
def Parts (text : List Char) : Prop := ∀ c ∈ text.head?, c ≠ '?' ∧ c.isDigit = false

/-- The built statement, read back, is the marked text filled with its values. -/
theorem pieces_ofMarked {sql : String} {values : List Value} (h : Aligned sql.toList values) :
    (Statement.ofMarked sql values).pieces = fill sql.toList values := by
  rw [Statement.pieces, Statement.ofMarked, String.toList_ofList, renumber, renumberFrom_eq]
  exact pieces_numbered values h.apart h.noDollar 0

theorem aligned_nil : Aligned [] [] := by decide

theorem Aligned.of_length {text : List Char} {vs ws : List Value} (h : Aligned text vs)
    (hlength : vs.length = ws.length) : Aligned text ws :=
  ⟨h.count.trans hlength, h.apart, h.noDollar⟩

theorem Parts.head_ne {text : List Char} (h : Parts text) : text.head? ≠ some '?' :=
  fun hc => (h '?' hc).1 rfl

theorem Parts.apart_append {text : List Char} (h : Parts text) {ss : List Sign} (hs : Apart ss)
    (ht : Apart (signs text)) : Apart (ss ++ signs text) := by
  refine List.isChain_append.mpr ⟨hs, ht, fun s _ t hc => ?_⟩
  cases text with
  | nil => simp [signs] at hc
  | cons d text =>
    obtain ⟨hd, hdigit⟩ := h d rfl
    rw [signs_cons hd, List.head?_cons, Option.mem_some_iff] at hc
    subst hc
    cases s with
    | char c => rfl
    | marker => exact hdigit

theorem Aligned.append {text rest : List Char} {vs ws : List Value} (h : Aligned text vs)
    (hrest : Aligned rest ws) (hparts : Parts rest) : Aligned (text ++ rest) (vs ++ ws) := by
  have hsigns := signs_append text hparts.head_ne
  refine ⟨?_, ?_, ?_⟩
  · rw [hsigns, markerCount, List.count_append, List.length_append, ← h.count, ← hrest.count]
    rfl
  · rw [hsigns]
    exact hparts.apart_append h.apart hrest.apart
  · rw [hsigns, List.mem_append]
    exact fun hm => hm.elim h.noDollar hrest.noDollar

theorem fill_append {text rest : List Char} {vs : List Value} (h : Aligned text vs)
    (hparts : Parts rest) (ws : List Value) :
    fill (text ++ rest) (vs ++ ws) = fill text vs ++ fill rest ws := by
  rw [fill, signs_append text hparts.head_ne, filled_append h.count]
  rfl

theorem fill_literal_append {text : List Char} (h : '?' ∉ text) (rest : List Char)
    (vs : List Value) : fill (text ++ rest) vs = text.map .char ++ fill rest vs := by
  rw [fill, signs_literal_append h, filled_chars_append]
  rfl

theorem Aligned.literal_append {text rest : List Char} {vs : List Value} (hmark : '?' ∉ text)
    (hdollar : '$' ∉ text) (h : Aligned rest vs) : Aligned (text ++ rest) vs := by
  have hsigns := signs_literal_append hmark rest
  refine ⟨?_, ?_, ?_⟩
  · have hnone : (text.map Sign.char).count .marker = 0 := by simp [List.count_eq_zero]
    rw [hsigns, markerCount, List.count_append, hnone, Nat.zero_add]
    exact h.count
  · rw [hsigns]
    refine List.isChain_append.mpr ⟨?_, h.apart, fun s hs t _ => ?_⟩
    · exact (List.isChain_map Sign.char).mpr (List.pairwise_of_forall fun _ _ => rfl).isChain
    · obtain ⟨c, _, rfl⟩ := List.mem_map.mp (List.mem_of_mem_getLast? hs)
      rfl
  · rw [hsigns, List.mem_append]
    rintro (hm | hm)
    · simp [hdollar] at hm
    · exact h.noDollar hm

end RowMap
