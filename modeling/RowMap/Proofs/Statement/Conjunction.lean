import RowMap.Proofs.Statement.Clause
import RowMap.Writer

/-!
# What conditions say together

AND binds tighter than OR, so the OR of one condition splits the whole clause. Several conditions
combine as they were meant to exactly when none of them has an OR outside of brackets. The
conditions that the writer adds to an update then restrict every row, and else they do not.
-/

namespace RowMap

open Sql

/-- A complete condition with a number of ORs outside of brackets. -/
def Condition.HasOrs (c : Condition) (ors : Nat) : Prop := ∃ as, c.Reads as ∧ as.length = ors + 1

theorem exists_clauses {cs : List Condition} {ors : List Nat}
    (h : List.Forall₂ Condition.HasOrs cs ors) :
    ∃ clauses, List.Forall₂ Condition.Reads cs clauses ∧ clauses.map List.length = ors.map (· + 1) := by
  induction h with
  | nil => exact ⟨[], .nil, rfl⟩
  | cons hc _ ih =>
    obtain ⟨as, has, hlength⟩ := hc
    obtain ⟨clauses, hclauses, hlengths⟩ := ih
    exact ⟨as :: clauses, .cons has hclauses, by rw [List.map_cons, hlength, hlengths]; rfl⟩

theorem forall_keeps_iff {cs : List Condition} {clauses : List (List Alternative)}
    (h : List.Forall₂ Condition.Reads cs clauses) {holds : Factor → Prop} :
    (∀ c ∈ cs, c.Keeps holds) ↔ ∀ as ∈ clauses, Sql.Keeps holds as := by
  induction h with
  | nil => simp
  | cons hc _ ih => rw [List.forall_mem_cons, List.forall_mem_cons, hc.keeps_iff, ih]

/-! ## Where nothing is widened -/

theorem conjunction_keeps_iff {cs : List Condition} {ors : List Nat}
    {clauses : List (List Alternative)} (h : List.Forall₂ Condition.Reads cs clauses)
    (hlengths : clauses.map List.length = ors.map (· + 1))
    (hors : ors.length ≤ 1 ∨ ∀ n ∈ ors, n = 0) (holds : Factor → Prop) :
    cs = [] ∨ Sql.Keeps holds (conjunction clauses) ↔ ∀ c ∈ cs, c.Keeps holds := by
  rw [forall_keeps_iff h]
  have hlength : clauses.length = ors.length := by simpa using congrArg List.length hlengths
  match clauses, h with
  | [], .nil => simp
  | [as], .cons (a := c) hc .nil => simp [conjunction]
  | as :: bs :: clauses, h =>
    have hors : ∀ n ∈ ors, n = 0 := hors.resolve_left (by rw [← hlength]; simp)
    have hsingle : ∀ as' ∈ as :: bs :: clauses, as'.length = 1 := by
      intro as' has
      have hm : as'.length ∈ ors.map (· + 1) := hlengths ▸ List.mem_map_of_mem has
      obtain ⟨n, hn, heq⟩ := List.mem_map.mp hm
      rw [← heq, hors n hn]
    have hne : cs ≠ [] := by
      rintro rfl
      cases h
    rw [or_iff_right hne]
    exact keeps_conjunction_of_single hsingle (by simp)

/-! ## Where a row slips through -/

/-- One word, and the same word again behind a number of ORs. -/
def repeated (word : Char) : Nat → Condition
  | 0 => ⟨word.toString, []⟩
  | n + 1 => ⟨word.toString ++ (" OR " ++ (repeated word n).text), []⟩

theorem repeated_reads {word : Char} (h : Reads [word] [] [[[.word [word]]]]) (n : Nat) :
    (repeated word n).Reads (List.replicate (n + 1) [[.word [word]]]) := by
  have htext : word.toString.toList = [word] := by simp [Char.toString]
  induction n with
  | zero =>
    rw [Condition.Reads, repeated, htext]
    exact h
  | succ n ih =>
    have hor := h.join .or ih
    have hvalues : (repeated word n).values = [] := by cases n <;> rfl
    rw [hvalues] at hor
    rw [Condition.Reads, repeated, String.toList_append, String.toList_append, htext]
    exact hor

def repetitions (word : Char) (ors : List Nat) : List (List Alternative) :=
  ors.map fun n => List.replicate (n + 1) [[.word [word]]]

section
variable {word : Char} (h : Reads [word] [] [[[.word [word]]]]) (ors : List Nat)
include h

theorem repetitions_read :
    List.Forall₂ Condition.Reads (ors.map (repeated word)) (repetitions word ors) := by
  rw [repetitions, List.forall₂_map_left_iff, List.forall₂_map_right_iff, List.forall₂_same]
  exact fun n _ => repeated_reads h n

theorem repetitions_haveOrs : List.Forall₂ Condition.HasOrs (ors.map (repeated word)) ors := by
  rw [List.forall₂_map_left_iff, List.forall₂_same]
  exact fun n _ => ⟨_, repeated_reads h n, List.length_replicate⟩

end

theorem yes_reads : Reads ['t'] [] [[[.word ['t']]]] := ⟨_, ⟨by decide, rfl⟩, rfl⟩

theorem no_reads : Reads ['f'] [] [[[.word ['f']]]] := ⟨_, ⟨by decide, rfl⟩, rfl⟩

/-- The row on which only one word is true. -/
def IsYes (f : Factor) : Prop := f = [.word ['t']]

theorem yes_keeps (ors : List Nat) : ∀ as ∈ repetitions 't' ors, Sql.Keeps IsYes as := by
  intro as has
  obtain ⟨n, _, rfl⟩ := List.mem_map.mp has
  exact ⟨[[.word ['t']]], by simp, by simp [IsYes]⟩

theorem no_not_keeps (n : Nat) : ¬ (repeated 'f' n).Keeps IsYes := by
  rw [(repeated_reads no_reads n).keeps_iff]
  rintro ⟨a, ha, hall⟩
  obtain rfl := List.eq_of_mem_replicate ha
  simpa [IsYes] using hall [.word ['f']] (by simp)

theorem conjunction_repetitions (before after : List (List Alternative)) (n : Nat) :
    conjunction (before ++ List.replicate (n + 2) [[.word ['t']]] :: after) =
      conjunction (before ++ [[[[.word ['t']]]]]) ++
        conjunction (List.replicate (n + 1) [[.word ['t']]] :: after) := by
  rw [List.replicate_succ, List.replicate_succ, conjunction_split, conjunction_append]
  rfl

/-- Conditions that leave a row out, of which the whole clause keeps it. -/
theorem exists_widened {ors : List Nat} (h : ¬ (ors.length ≤ 1 ∨ ∀ n ∈ ors, n = 0)) :
    ∃ cs clauses, List.Forall₂ Condition.HasOrs cs ors ∧ List.Forall₂ Condition.Reads cs clauses ∧
      Sql.Keeps IsYes (conjunction clauses) ∧ ∃ c ∈ cs, ¬ c.Keeps IsYes := by
  push Not at h
  obtain ⟨hlength, n, hn, hpos⟩ := h
  obtain ⟨before, after, rfl⟩ := List.append_of_mem hn
  obtain ⟨k, rfl⟩ := Nat.exists_eq_succ_of_ne_zero hpos
  have hor := repeated_reads yes_reads (k + 1)
  have hors : (repeated 't' (k + 1)).HasOrs (k + 1) := ⟨_, hor, List.length_replicate⟩
  cases before with
  | nil =>
    -- The first alternative has only the first condition in it.
    obtain ⟨m, after, rfl⟩ := List.exists_cons_of_ne_nil (by rintro rfl; simp at hlength : after ≠ [])
    refine ⟨_, _, .cons hors (repetitions_haveOrs no_reads (m :: after)),
      .cons hor (repetitions_read no_reads (m :: after)), ?_, repeated 'f' m, by simp,
      no_not_keeps m⟩
    rw [← List.nil_append (List.replicate _ _ :: _), conjunction_repetitions, keeps_append]
    exact Or.inl ⟨[[.word ['t']]], by simp [conjunction], by simp [IsYes]⟩
  | cons m before =>
    -- The last alternative of the condition has nothing of those before it.
    refine ⟨_, _, List.rel_append (repetitions_haveOrs no_reads (m :: before))
        (.cons hors (repetitions_haveOrs yes_reads after)),
      List.rel_append (repetitions_read no_reads (m :: before))
        (.cons hor (repetitions_read yes_reads after)), ?_, repeated 'f' m, by simp, no_not_keeps m⟩
    rw [conjunction_repetitions, keeps_append]
    refine Or.inr (keeps_conjunction (by simp) ?_)
    exact yes_keeps (k :: after)

theorem exists_escaped {ors : List Nat} (h : ¬ ∀ n ∈ ors, n = 0) (more : List (List Alternative)) :
    Sql.Keeps IsYes (conjunction (repetitions 't' ors ++ more)) := by
  push Not at h
  obtain ⟨n, hn, hpos⟩ := h
  obtain ⟨before, after, rfl⟩ := List.append_of_mem hn
  obtain ⟨k, rfl⟩ := Nat.exists_eq_succ_of_ne_zero hpos
  have hsplit : repetitions 't' (before ++ (k + 1) :: after) ++ more = repetitions 't' before ++
      List.replicate (k + 2) [[.word ['t']]] :: (repetitions 't' after ++ more) := by
    simp [repetitions]
  rw [hsplit, conjunction_repetitions, keeps_append]
  refine Or.inl (keeps_conjunction (by simp) ?_)
  have hfirst := yes_keeps (before ++ [0])
  rwa [repetitions, List.map_append] at hfirst

theorem select_plain (cs : List Condition) :
    ({ table := "t", conditions := cs } : Select).Plain := by
  refine ⟨?_, aligned_nil⟩
  change Aligned ({ table := "t" } : Select).text.toList []
  decide

theorem update_plain (cs : List Condition) :
    ({ table := "t", conditions := cs } : Update).Plain := by
  refine ⟨?_, aligned_nil⟩
  change Aligned ({ table := "t" } : Update).text.toList []
  decide

/-! ## The conditions of the writer -/

/-- The conditions that the writer adds to an update. -/
def Writer.guards (keyColumn : String) (key : Value) (version : Int32) (owner : Option Ownership) :
    List Condition :=
  ⟨keyColumn ++ " = ?", [key]⟩ ::
    (Column.bare "version").compare .eq (ScalarType.int32.bind version) ::
    ⟨"deleted = false", []⟩ :: (owner.map Ownership.condition).toList

theorem versionedUpdate_conditions (q : Update) (keyColumn : String) (key : Value)
    (version : Int32) (owner : Option Ownership) :
    (Writer.versionedUpdate q keyColumn key version owner).conditions =
      q.conditions ++ Writer.guards keyColumn key version owner := by
  cases owner <;>
    simp [Writer.versionedUpdate, Writer.guards, Update.filter, Update.setRaw, Update.withReturning]

theorem deleted_reads : (⟨"deleted = false", []⟩ : Condition).Reads
    [[[.word "deleted".toList, .operator ['='], .word "false".toList]]] :=
  ⟨_, ⟨by decide, rfl⟩, rfl⟩

theorem deleted_not_keeps : ¬ (⟨"deleted = false", []⟩ : Condition).Keeps IsYes := by
  rw [deleted_reads.keeps_iff]
  simp [Sql.Keeps, IsYes]

theorem aligned_commaList_append {before : String} {texts more : List String} {vs : List Value}
    (h : Aligned (before ++ commaList texts).toList vs) (hmore : Aligned (commaList more).toList [])
    (hparts : Parts (commaList more).toList) (hne : more ≠ []) :
    Aligned (before ++ commaList (texts ++ more)).toList vs := by
  by_cases htexts : texts = []
  · subst htexts
    rw [String.toList_append, List.nil_append]
    have hbefore : Aligned before.toList vs := by simpa [commaList] using h
    simpa using hbefore.append hmore hparts
  · have hcomma : Parts (", ".toList ++ (commaList more).toList) := by
      intro c hc
      obtain rfl : ',' = c := by simpa using hc
      decide
    have hall := h.append (.literal_append (by decide) (by decide) hmore) hcomma
    rw [commaList, String.intercalate_append_of_ne_nil htexts hne]
    simpa [commaList, List.append_assoc] using hall

theorem aligned_returningClause_append {columns : List String} (column : String)
    (h : Aligned (returningClause columns).toList []) (hcolumn : Aligned column.toList [])
    (hparts : Parts column.toList) : Aligned (returningClause (columns ++ [column])).toList [] := by
  have hempty : (columns ++ [column]).isEmpty = false := by simp
  have hone : commaList [column] = column := by simp [commaList]
  rw [returningClause, hempty]
  refine aligned_commaList_append ?_ (hone ▸ hcolumn) (hone ▸ hparts) (by simp)
  unfold returningClause at h
  split at h
  · next hnil =>
    rw [List.isEmpty_iff.mp hnil]
    decide
  · exact h

theorem versionedUpdate_plain {q : Update} (h : q.Plain) (keyColumn : String) (key : Value)
    (version : Int32) (owner : Option Ownership) :
    (Writer.versionedUpdate q keyColumn key version owner).Plain := by
  let setters := ["version = version + 1", "updated_at = now()"]
  have htext (setters : List String) : ({ q.source with setters } : Update).text =
      "UPDATE " ++ q.table ++ " SET " ++ commaList setters := by
    simp [Update.text, Update.source, whereClause, returningClause]
  have hsource : (Writer.versionedUpdate q keyColumn key version owner).source =
      { q.source with setters := q.setters ++ setters } := by
    cases owner <;> simp [Writer.versionedUpdate, Update.source, Update.filter, Update.setRaw,
      Update.withReturning, setters]
  have hvalues : (Writer.versionedUpdate q keyColumn key version owner).values = q.values := by
    cases owner <;> rfl
  have hreturning : (Writer.versionedUpdate q keyColumn key version owner).returning =
      q.returning ++ ["version"] := by
    cases owner <;> rfl
  refine ⟨?_, ?_⟩
  · have hold := h.source
    rw [show q.source.text = _ from htext q.setters] at hold
    rw [hsource, htext, hvalues]
    refine aligned_commaList_append hold (by decide) ?_ (by simp [setters])
    intro c hc
    obtain rfl : 'v' = c := by simpa [setters, commaList] using hc
    decide
  · rw [hreturning]
    refine aligned_returningClause_append "version" h.returning (by decide) ?_
    intro c hc
    obtain rfl : 'v' = c := by simpa using hc
    decide

theorem guards_haveOrs {keyColumn : String} {key : Value} {version : Int32}
    {owner : Option Ownership}
    (h : ∀ g ∈ Writer.guards keyColumn key version owner, g.HasOrs 0) :
    List.Forall₂ Condition.HasOrs (Writer.guards keyColumn key version owner)
      ((Writer.guards keyColumn key version owner).map fun _ => 0) := by
  rw [List.forall₂_map_right_iff, List.forall₂_same]
  exact h

theorem guards_restrict_iff {keyColumn : String} {key : Value} {version : Int32}
    {owner : Option Ownership} (hguards : ∀ g ∈ Writer.guards keyColumn key version owner, g.HasOrs 0)
    (ors : List Nat) :
    (∀ (q : Update) (holds : Factor → Prop), q.Plain →
        List.Forall₂ Condition.HasOrs q.conditions ors →
        (Writer.versionedUpdate q keyColumn key version owner).Keeps holds →
        ∀ g ∈ Writer.guards keyColumn key version owner, g.Keeps holds) ↔
      ∀ n ∈ ors, n = 0 := by
  constructor
  · intro h
    by_contra hors
    let q : Update := { table := "t", conditions := ors.map (repeated 't') }
    have hplain : q.Plain := update_plain _
    obtain ⟨clauses, hclauses, _⟩ := exists_clauses (guards_haveOrs hguards)
    have hall : List.Forall₂ Condition.Reads
        (Writer.versionedUpdate q keyColumn key version owner).conditions
        (repetitions 't' ors ++ clauses) := by
      rw [versionedUpdate_conditions]
      exact List.rel_append (repetitions_read yes_reads ors) hclauses
    have hkeeps := (Update.keeps_iff (versionedUpdate_plain hplain keyColumn key version owner)
      hall IsYes).mpr (Or.inr (exists_escaped hors clauses))
    refine deleted_not_keeps (h q IsYes hplain (repetitions_haveOrs yes_reads ors) hkeeps _ ?_)
    simp [Writer.guards]
  · intro hors q holds hplain hq hkeeps g hg
    have hall : List.Forall₂ Condition.HasOrs
        (Writer.versionedUpdate q keyColumn key version owner).conditions
        (ors ++ (Writer.guards keyColumn key version owner).map fun _ => 0) := by
      rw [versionedUpdate_conditions]
      exact List.rel_append hq (guards_haveOrs hguards)
    have hnone : ∀ n ∈ ors ++ (Writer.guards keyColumn key version owner).map fun _ => 0, n = 0 := by
      intro n hn
      rcases List.mem_append.mp hn with hn | hn
      · exact hors n hn
      · obtain ⟨_, _, rfl⟩ := List.mem_map.mp hn
        rfl
    obtain ⟨clauses, hclauses, hlengths⟩ := exists_clauses hall
    rw [Update.keeps_iff (versionedUpdate_plain hplain keyColumn key version owner) hclauses,
      conjunction_keeps_iff hclauses hlengths (Or.inr hnone)] at hkeeps
    refine hkeeps g ?_
    rw [versionedUpdate_conditions]
    exact List.mem_append_right _ hg

/-- A plain column and a plain owner leave the writer's conditions without an OR. -/
example : ∀ g ∈ Writer.guards "id" (.of (.bigInt 7)) 3 (some ⟨"user_id", .of (.bigInt 1)⟩),
    g.HasOrs 0 := by
  simp only [Writer.guards, Option.map_some, Option.toList_some, List.forall_mem_cons]
  exact ⟨⟨_, ⟨_, ⟨by decide, rfl⟩, rfl⟩, rfl⟩, ⟨_, ⟨_, ⟨by decide, rfl⟩, rfl⟩, rfl⟩, ⟨_, deleted_reads, rfl⟩,
    ⟨_, ⟨_, ⟨by decide, rfl⟩, rfl⟩, rfl⟩, by simp⟩

/-! ## The exact condition -/

theorem builders_conjoin_iff (ors : List Nat) :
    ((∀ (q : Select) (holds : Factor → Prop), q.Plain →
        List.Forall₂ Condition.HasOrs q.conditions ors →
        (q.Keeps holds ↔ ∀ c ∈ q.conditions, c.Keeps holds)) ↔
      ors.length ≤ 1 ∨ ∀ n ∈ ors, n = 0) ∧
    ((∀ (q : Update) (holds : Factor → Prop), q.Plain →
        List.Forall₂ Condition.HasOrs q.conditions ors →
        (q.Keeps holds ↔ ∀ c ∈ q.conditions, c.Keeps holds)) ↔
      ors.length ≤ 1 ∨ ∀ n ∈ ors, n = 0) ∧
    ∀ (keyColumn : String) (key : Value) (version : Int32) (owner : Option Ownership),
      (∀ g ∈ Writer.guards keyColumn key version owner, g.HasOrs 0) →
      ((∀ (q : Update) (holds : Factor → Prop), q.Plain →
          List.Forall₂ Condition.HasOrs q.conditions ors →
          (Writer.versionedUpdate q keyColumn key version owner).Keeps holds →
          ∀ g ∈ Writer.guards keyColumn key version owner, g.Keeps holds) ↔
        ∀ n ∈ ors, n = 0) := by
  refine ⟨⟨fun h => ?_, fun hors q holds hplain hq => ?_⟩,
    ⟨fun h => ?_, fun hors q holds hplain hq => ?_⟩,
    fun keyColumn key version owner hguards => guards_restrict_iff hguards ors⟩
  · by_contra hors
    obtain ⟨cs, clauses, hcs, hclauses, hkeeps, c, hc, hnot⟩ := exists_widened hors
    have hq := (Select.keeps_iff (select_plain cs) hclauses IsYes).mpr (Or.inr hkeeps)
    exact hnot ((h _ IsYes (select_plain cs) hcs).mp hq c hc)
  · obtain ⟨clauses, hclauses, hlengths⟩ := exists_clauses hq
    rw [Select.keeps_iff hplain hclauses]
    exact conjunction_keeps_iff hclauses hlengths hors holds
  · by_contra hors
    obtain ⟨cs, clauses, hcs, hclauses, hkeeps, c, hc, hnot⟩ := exists_widened hors
    have hq := (Update.keeps_iff (update_plain cs) hclauses IsYes).mpr (Or.inr hkeeps)
    exact hnot ((h _ IsYes (update_plain cs) hcs).mp hq c hc)
  · obtain ⟨clauses, hclauses, hlengths⟩ := exists_clauses hq
    rw [Update.keeps_iff hplain hclauses]
    exact conjunction_keeps_iff hclauses hlengths hors holds

def recentBooks : Select :=
  { table := "books"
    conditions := [⟨"year BETWEEN ? AND ?", [.of (.int 1990), .of (.int 1999)]⟩,
      ⟨"deleted = false", []⟩] }

theorem recentBooks_conjoin :
    recentBooks.Plain ∧ List.Forall₂ Condition.HasOrs recentBooks.conditions [0, 0] ∧
      (recentBooks.Keeps IsYes ↔ ∀ c ∈ recentBooks.conditions, c.Keeps IsYes) := by
  have hplain : recentBooks.Plain := ⟨by decide, by decide⟩
  have hors : List.Forall₂ Condition.HasOrs recentBooks.conditions [0, 0] :=
    .cons ⟨_, ⟨_, ⟨by decide, rfl⟩, rfl⟩, rfl⟩ (.cons ⟨_, ⟨_, ⟨by decide, rfl⟩, rfl⟩, rfl⟩ .nil)
  exact ⟨hplain, hors, (builders_conjoin_iff [0, 0]).1.mpr (by decide) _ _ hplain hors⟩

/-- The first condition has an OR, and the second one is about all rows. -/
def longBooks : Select :=
  { table := "books"
    conditions := [⟨"pages > 100 OR pages IS NULL", []⟩, ⟨"deleted = false", []⟩] }

/-- A row of more than a hundred pages is kept although it is deleted. -/
theorem longBooks_not_conjoin :
    ∃ holds, longBooks.Keeps holds ∧ ¬ ∀ c ∈ longBooks.conditions, c.Keeps holds := by
  let isLong : Factor := [.word "pages".toList, .operator ['>'], .word "100".toList]
  let isUnknown : Factor := [.word "pages".toList, .word "IS".toList, .word "NULL".toList]
  have hplain : longBooks.Plain := ⟨by decide, by decide⟩
  have hlong : (⟨"pages > 100 OR pages IS NULL", []⟩ : Condition).Reads [[isLong], [isUnknown]] :=
    ⟨_, ⟨by decide, rfl⟩, rfl⟩
  refine ⟨(· = isLong), ?_, fun hall => ?_⟩
  · rw [Select.keeps_iff hplain (.cons hlong (.cons deleted_reads .nil))]
    exact Or.inr ⟨[isLong], by simp [conjunction, glue], by simp⟩
  · have hfalse := deleted_reads.keeps_iff.mp (hall ⟨"deleted = false", []⟩ (by simp [longBooks]))
    simp [Sql.Keeps, isLong] at hfalse

end RowMap
