import RowMap.Proofs.Statement.Template

/-!
# Copying between matches

A template can be searched for casts and placeholders from left to right, and copied from one match
to the next. `AllMatches` says what such a search finds, by offsets into the template, and
`copyBetween` writes a statement out of it. That is the statement that the tokens give.
-/

namespace RowMap.Template

/-! ## Matches -/

/-- A cast or a placeholder, with its offsets in the template. Only a placeholder has a name. -/
structure Match where
  start : Nat
  stop : Nat
  name? : Option String

/-- Two colons, or a colon with the longest name behind it. -/
inductive Matches (text : List Char) : Match → Prop
  | cast {i : Nat} {rest : List Char} : text.drop i = ':' :: ':' :: rest →
      Matches text ⟨i, i + 2, none⟩
  | placeholder {i : Nat} {name rest : List Char} : text.drop i = ':' :: (name ++ rest) →
      name ≠ [] → (∀ c ∈ name, isNameChar c = true) → (∀ c ∈ rest.head?, isNameChar c = false) →
      Matches text ⟨i, i + (name.length + 1), some (String.ofList name)⟩

/-- The matches from an offset on: each is the next one after the end of the one before. -/
inductive AllMatches (text : List Char) : Nat → List Match → Prop
  | nil {i : Nat} : (∀ m, Matches text m → m.start < i) → AllMatches text i []
  | cons {i : Nat} {m : Match} {ms : List Match} : Matches text m → i ≤ m.start →
      (∀ m', Matches text m' → i ≤ m'.start → m.start ≤ m'.start) → AllMatches text m.stop ms →
      AllMatches text i (m :: ms)

/-- Copies the text from the end of the last placeholder up to each of them, with a marker in its
place, and at last what is left. -/
def copyBetween (p : Parameters) (text : List Char) :
    List Match → List Char → List Value → Nat → Except StoreError Statement
  | [], sql, values, copied => .ok ⟨String.ofList (sql ++ text.drop copied), values⟩
  | ⟨_, _, none⟩ :: ms, sql, values, copied => copyBetween p text ms sql values copied
  | ⟨start, stop, some name⟩ :: ms, sql, values, copied =>
    match p.get? name with
    | none => .error (.missingParameter name)
    | some v =>
      copyBetween p text ms
        (sql ++ (text.take start).drop copied ++ marker (values.length + 1)) (values ++ [v]) stop

/-! ## One search -/

variable {text : List Char}

theorem Matches.start_lt {m : Match} (h : Matches text m) : m.start < text.length := by
  have hne : text.drop m.start ≠ [] := by
    cases h with
    | cast h | placeholder h => simp [h]
  simpa using hne

theorem Matches.eq_of_start {m m' : Match} (h : Matches text m) (h' : Matches text m')
    (hstart : m.start = m'.start) : m = m' := by
  have hcolon {name rest more : List Char} (hne : name ≠ [])
      (hname : ∀ c ∈ name, isNameChar c = true) : ':' :: more ≠ name ++ rest := by
    obtain ⟨c, name, rfl⟩ := List.exists_cons_of_ne_nil hne
    intro heq
    have hc := hname c List.mem_cons_self
    rw [← (List.cons.inj heq).1] at hc
    revert hc
    decide
  cases h with
  | cast h =>
    cases h' with
    | cast h' =>
      obtain rfl := hstart
      rfl
    | placeholder h' hne hname _ =>
      obtain rfl := hstart
      exact absurd (List.cons.inj (h.symm.trans h')).2 (hcolon hne hname)
  | placeholder h hne hname hrest =>
    cases h' with
    | cast h' =>
      obtain rfl := hstart
      exact absurd (List.cons.inj (h'.symm.trans h)).2 (hcolon hne hname)
    | placeholder h' _ hname' hrest' =>
      obtain rfl := hstart
      -- Both names are the longest run of name characters behind the colon.
      have hruns := congrArg (List.takeWhile isNameChar) (List.cons.inj (h.symm.trans h')).2
      rw [takeWhile_append_stop hname hrest, takeWhile_append_stop hname' hrest'] at hruns
      rw [hruns]

theorem AllMatches.unique {i : Nat} {ms ms' : List Match} (h : AllMatches text i ms)
    (h' : AllMatches text i ms') : ms' = ms := by
  induction h generalizing ms' with
  | nil hnone =>
    cases h' with
    | nil => rfl
    | cons hm hi => exact absurd (hnone _ hm) (by omega)
  | cons hm hi hfirst _ ih =>
    cases h' with
    | nil hnone => exact absurd (hnone _ hm) (by omega)
    | cons hm' hi' hfirst' hrest' =>
      obtain rfl := hm.eq_of_start hm' (Nat.le_antisymm (hfirst _ hm' hi') (hfirst' _ hm hi))
      rw [ih hrest']

theorem AllMatches.earlier {i : Nat} {ms : List Match} (h : AllMatches text (i + 1) ms)
    (hnone : ∀ m, Matches text m → m.start ≠ i) : AllMatches text i ms := by
  cases h with
  | nil hall =>
    refine .nil fun m hm => ?_
    have hne := hnone m hm
    have hlt := hall m hm
    omega
  | cons hm hi hfirst hrest =>
    refine .cons hm (by omega) (fun m' hm' hi' => hfirst m' hm' ?_) hrest
    have hne := hnone m' hm'
    omega

/-! ## The search finds the tokens -/

/-- The casts and placeholders among tokens that start at an offset. -/
def placed : Nat → List Token → List Match
  | _, [] => []
  | i, .cast :: ts => ⟨i, i + 2, none⟩ :: placed (i + 2) ts
  | i, .placeholder name :: ts =>
    ⟨i, i + (name.length + 1), some (String.ofList name)⟩ :: placed (i + (name.length + 1)) ts
  | i, .text _ :: ts => placed (i + 1) ts

theorem drop_of_drop {i : Nat} (run : List Char) {rest : List Char} (h : text.drop i = run ++ rest) :
    text.drop (i + run.length) = rest := by
  rw [← List.drop_drop, h, List.drop_left]

theorem allMatches_placed {i : Nat} {rest : List Char} {ts : List Token} (h : Splits rest ts)
    (hrest : text.drop i = rest) : AllMatches text i (placed i ts) := by
  induction h generalizing i with
  | nil =>
    refine .nil fun m hm => ?_
    have hlength := List.drop_eq_nil_iff.mp hrest
    exact hm.start_lt.trans_le hlength
  | @cast rest ts _ ih =>
    exact .cons (.cast hrest) le_rfl (fun _ _ hi => hi) (ih (drop_of_drop [':', ':'] hrest))
  | @placeholder name rest ts hne hname hstop _ ih =>
    exact .cons (.placeholder hrest hne hname hstop) le_rfl (fun _ _ hi => hi)
      (ih (drop_of_drop (':' :: name) hrest))
  | @text c rest ts hplain _ ih =>
    refine (ih (drop_of_drop [c] hrest)).earlier fun m hm hstart => ?_
    cases hm with
    | cast hm =>
      obtain rfl := hstart
      obtain ⟨rfl, rfl⟩ := List.cons.inj (hrest.symm.trans hm)
      exact (hplain rfl ':' rfl).1 rfl
    | @placeholder _ name more hm hne hname _ =>
      obtain rfl := hstart
      obtain ⟨rfl, rfl⟩ := List.cons.inj (hrest.symm.trans hm)
      obtain ⟨d, name, rfl⟩ := List.exists_cons_of_ne_nil hne
      exact absurd (hname d List.mem_cons_self) (by simp [(hplain rfl d rfl).2])

/-! ## The copy -/

theorem Splits.sources {rest : List Char} {ts : List Token} (h : Splits rest ts) :
    ts.flatMap Token.source = rest := by
  induction h with
  | nil => rfl
  | cast _ ih => exact congrArg (':' :: ':' :: ·) ih
  | @placeholder name _ _ _ _ _ _ ih => exact congrArg (fun rest => ':' :: (name ++ rest)) ih
  | @text c _ _ _ _ ih => exact congrArg (c :: ·) ih

/-- What was passed since the last placeholder has still to be copied. -/
theorem copyBetween_placed (p : Parameters) {passed : List Char} {ts : List Token}
    (htext : text = passed ++ ts.flatMap Token.source) {copied : Nat}
    (hcopied : copied ≤ passed.length) (sql : List Char) (values : List Value) :
    copyBetween p text (placed passed.length ts) sql values copied =
      (number p (values.length + 1) ts).map fun (more, vs) =>
        ⟨String.ofList (sql ++ passed.drop copied ++ more), values ++ vs⟩ := by
  induction ts generalizing passed copied sql values with
  | nil =>
    obtain rfl : text = passed := htext.trans (List.append_nil passed)
    simp only [placed, copyBetween, number, Except.map, List.append_nil]
  | cons t ts ih =>
    have hnext : text = passed ++ t.source ++ ts.flatMap Token.source := by
      rw [htext, List.flatMap_cons, List.append_assoc]
    have hlength : copied ≤ (passed ++ t.source).length := by
      rw [List.length_append]
      omega
    have hdrop : (passed ++ t.source).drop copied = passed.drop copied ++ t.source :=
      List.drop_append_of_le_length hcopied
    cases t with
    | cast | text =>
      have h := ih hnext hlength sql values
      rw [List.length_append, hdrop] at h
      refine h.trans ?_
      rw [number]
      cases number p (values.length + 1) ts with
      | error e => rfl
      | ok found =>
        simp only [Except.map, List.append_assoc]
        rfl
    | placeholder name =>
      rw [placed, copyBetween, number]
      cases p.get? (String.ofList name) with
      | none => rfl
      | some v =>
        have htake : (text.take passed.length).drop copied = passed.drop copied := by
          rw [htext, List.take_left]
        have h := ih hnext le_rfl (sql ++ passed.drop copied ++ marker (values.length + 1))
          (values ++ [v])
        rw [List.length_append] at h
        simp only [htake]
        refine h.trans ?_
        rw [List.length_append, List.length_singleton]
        cases number p (values.length + 1 + 1) ts with
        | error e => rfl
        | ok found => simp [Except.map]

/-- The statement of a template is what copying between the matches of one search writes. -/
theorem statement_eq_copyBetween (p : Parameters) (template : String) :
    ∃ ms, AllMatches template.toList 0 ms ∧ (∀ ms', AllMatches template.toList 0 ms' → ms' = ms) ∧
      p.statement template = copyBetween p template.toList ms [] [] 0 := by
  have hsplits := splits_tokens template.toList
  have hall : AllMatches template.toList 0 (placed 0 (tokens template.toList)) :=
    allMatches_placed hsplits rfl
  refine ⟨_, hall, fun ms' h => hall.unique h, ?_⟩
  have htext : template.toList = [] ++ (tokens template.toList).flatMap Token.source :=
    hsplits.sources.symm
  exact (copyBetween_placed p htext le_rfl [] []).symm

end RowMap.Template
