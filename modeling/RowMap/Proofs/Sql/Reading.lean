import RowMap.Proofs.Sql.Lexeme

/-!
# What a clause says

A clause is read as alternatives, the parts between the words OR, and each of them as factors, the
parts between the words AND. Brackets and CASE keep their words to themselves, and the AND of a
BETWEEN belongs to it. What a factor says on a row is left open: in SQL's logic of three values a
clause is true when all factors of one alternative are.
-/

namespace RowMap.Sql

/-! ## Roles -/

inductive Bracket
  | round | square | case
deriving DecidableEq

inductive Connective
  | and | or
deriving DecidableEq

/-- What a lexeme does for the shape of a clause. -/
inductive Role
  | opens (b : Bracket)
  | closes (b : Bracket)
  | connects (c : Connective)
  | between
  | plain
deriving DecidableEq

/-- Keywords may be written in any case. -/
def roleOfWord (cs : List Char) : Role :=
  match String.ofList (cs.map Char.toLower) with
  | "case" => .opens .case
  | "end" => .closes .case
  | "between" => .between
  | "and" => .connects .and
  | "or" => .connects .or
  | _ => .plain

def Lexeme.role : Lexeme → Role
  | .word cs => roleOfWord cs
  | .mark '(' => .opens .round
  | .mark ')' => .closes .round
  | .mark '[' => .opens .square
  | .mark ']' => .closes .square
  | _ => .plain

/-! ## Alternatives -/

abbrev Factor := List Lexeme

abbrev Alternative := List Factor

/-- The last alternative of one list and the first of the other become one. -/
def glue : List Alternative → List Alternative → List Alternative
  | [], bs => bs
  | [a], [] => [a]
  | [a], b :: bs => (a ++ b) :: bs
  | a :: a' :: as, bs => a :: glue (a' :: as) bs

/-- What a reader has open: brackets, and a BETWEEN that waits for its AND. -/
structure Nesting where
  brackets : List Bracket := []
  between : Bool := false
deriving DecidableEq

/-- What comes behind a lexeme. -/
inductive Next
  | same (n : Nesting)
  | cut (c : Connective)
  | stuck

def Nesting.next : Nesting → Role → Next
  | n, .opens b => .same { n with brackets := b :: n.brackets }
  | ⟨top :: brackets, between⟩, .closes b =>
    if top = b then .same ⟨brackets, between⟩ else .stuck
  | ⟨[], _⟩, .closes _ => .stuck
  | ⟨[], false⟩, .connects c => .cut c
  | ⟨[], true⟩, .connects .and => .same {}
  | ⟨[], true⟩, .connects .or => .stuck
  | ⟨[], false⟩, .between => .same { between := true }
  | ⟨[], true⟩, .between => .stuck
  | n, _ => .same n

/-- The alternatives of two clauses with a connective between them. -/
def Connective.join : Connective → List Alternative → List Alternative → List Alternative
  | .and, as, bs => glue as bs
  | .or, as, bs => as ++ bs

/-- The alternatives of a clause behind the start of a factor. -/
def alternativesFrom (n : Nesting) (read : Factor) : List Lexeme → Option (List Alternative)
  | [] => if n = {} ∧ read ≠ [] then some [[read]] else none
  | l :: ls =>
    match n.next l.role with
    | .same n => alternativesFrom n (read ++ [l]) ls
    | .cut c => if read = [] then none else (alternativesFrom {} [] ls).map (c.join [[read]])
    | .stuck => none

/-- The alternatives of a complete clause. -/
def alternatives (ls : List Lexeme) : Option (List Alternative) := alternativesFrom {} [] ls

/-- The clause is true when the factors that hold are given. -/
def Keeps (holds : Factor → Prop) (as : List Alternative) : Prop := ∃ a ∈ as, ∀ f ∈ a, holds f

/-! ## Glue -/

@[simp] theorem glue_nil (as : List Alternative) : glue as [] = as := by
  induction as with
  | nil => rfl
  | cons a as ih =>
    cases as with
    | nil => rfl
    | cons b as => rw [glue, ih]

theorem glue_cons (as : List Alternative) (b : Alternative) (bs : List Alternative) :
    glue as (b :: bs) = glue as [b] ++ bs := by
  induction as with
  | nil => rfl
  | cons a as ih =>
    cases as with
    | nil => rfl
    | cons a' as => rw [glue, glue, ih, List.cons_append]

theorem glue_assoc (as bs cs : List Alternative) : glue (glue as bs) cs = glue as (glue bs cs) := by
  induction as with
  | nil => rfl
  | cons a as ih =>
    cases as with
    | cons a' as =>
      -- The first alternative stays in front whatever is glued behind it.
      have hne : glue (a' :: as) bs ≠ [] := by
        cases as <;> cases bs <;> simp [glue]
      obtain ⟨d, ds, hd⟩ := List.exists_cons_of_ne_nil hne
      rw [glue, glue, ← ih, hd, glue]
    | nil =>
      match bs with
      | [] => rfl
      | [b] =>
        cases cs with
        | nil => rfl
        | cons c cs => simp [glue]
      | b :: b' :: bs => simp [glue]

theorem glue_cons_left (a : Alternative) {as : List Alternative} (h : as ≠ [])
    (bs : List Alternative) : glue (a :: as) bs = a :: glue as bs := by
  obtain ⟨a', as, rfl⟩ := List.exists_cons_of_ne_nil h
  rfl

theorem Connective.join_ne_nil (c : Connective) (a : Alternative) {as : List Alternative}
    (h : as ≠ []) : c.join [a] as ≠ [] := by
  obtain ⟨b, bs, rfl⟩ := List.exists_cons_of_ne_nil h
  cases c <;> simp [join, glue]

theorem Connective.join_join (c d : Connective) (a : Alternative) {as : List Alternative}
    (h : as ≠ []) (bs : List Alternative) :
    d.join (c.join [a] as) bs = c.join [a] (d.join as bs) := by
  obtain ⟨b, as, rfl⟩ := List.exists_cons_of_ne_nil h
  cases c with
  | and =>
    cases d with
    | and => exact glue_assoc [a] (b :: as) bs
    | or => simp [join, glue]
  | or =>
    cases d with
    | and => exact glue_cons_left a h bs
    | or => exact List.append_assoc [a] (b :: as) bs

theorem alternativesFrom_ne_nil {n : Nesting} {read : Factor} {ls : List Lexeme}
    {as : List Alternative} (h : alternativesFrom n read ls = some as) : as ≠ [] := by
  induction ls generalizing n read as with
  | nil =>
    rw [alternativesFrom] at h
    split at h
    · cases h
      simp
    · cases h
  | cons l ls ih =>
    rw [alternativesFrom] at h
    split at h
    · exact ih h
    · next c _ =>
      split at h
      · cases h
      · obtain ⟨bs, hbs, rfl⟩ := Option.map_eq_some_iff.mp h
        exact c.join_ne_nil _ (ih hbs)
    · cases h

theorem alternativesFrom_join {n : Nesting} {read : Factor} {ls ms : List Lexeme} {l : Lexeme}
    {as bs : List Alternative} {d : Connective} (hl : l.role = .connects d)
    (h : alternativesFrom n read ls = some as) (hms : alternatives ms = some bs) :
    alternativesFrom n read (ls ++ l :: ms) = some (d.join as bs) := by
  induction ls generalizing n read as with
  | nil =>
    rw [alternativesFrom] at h
    split at h
    · next hdone =>
      cases h
      rw [alternatives] at hms
      rw [hdone.1, List.nil_append, alternativesFrom, hl]
      simp only [Nesting.next, if_neg hdone.2, hms, Option.map_some]
    · cases h
  | cons k ls ih =>
    rw [alternativesFrom] at h
    rw [List.cons_append, alternativesFrom]
    split at h
    · exact ih h
    · next c _ =>
      split at h
      · cases h
      · next hread =>
        obtain ⟨cs, hcs, rfl⟩ := Option.map_eq_some_iff.mp h
        simp only [if_neg hread, ih hcs, Option.map_some,
          c.join_join d _ (alternativesFrom_ne_nil hcs)]
    · cases h

/-! ## Truth -/

/-- Clauses with the word AND between them. -/
def conjunction (clauses : List (List Alternative)) : List Alternative := clauses.foldr glue []

theorem conjunction_cons (as : List Alternative) (clauses : List (List Alternative)) :
    conjunction (as :: clauses) = glue as (conjunction clauses) := rfl

theorem conjunction_append (clauses more : List (List Alternative)) :
    conjunction (clauses ++ more) = glue (conjunction clauses) (conjunction more) := by
  induction clauses with
  | nil => rfl
  | cons as clauses ih => rw [List.cons_append, conjunction_cons, ih, conjunction_cons, glue_assoc]

variable {holds : Factor → Prop}

theorem keeps_cons {a : Alternative} {as : List Alternative} :
    Keeps holds (a :: as) ↔ (∀ f ∈ a, holds f) ∨ Keeps holds as :=
  List.exists_mem_cons_iff _ _ _

theorem keeps_append {as bs : List Alternative} :
    Keeps holds (as ++ bs) ↔ Keeps holds as ∨ Keeps holds bs := by
  simp only [Keeps, List.mem_append, or_and_right, exists_or]

/-- A conjunction is never less than what was meant: all clauses true make it true. -/
theorem keeps_glue {as bs : List Alternative} (ha : Keeps holds as) (hb : Keeps holds bs) :
    Keeps holds (glue as bs) := by
  induction as with
  | nil => exact hb
  | cons a as ih =>
    cases as with
    | nil =>
      obtain ⟨b, bs, rfl⟩ := List.exists_cons_of_ne_nil (by rintro rfl; simp [Keeps] at hb : bs ≠ [])
      have ha : ∀ f ∈ a, holds f := by simpa [Keeps] using ha
      rw [glue, keeps_cons]
      refine (keeps_cons.mp hb).imp (fun hb f hf => ?_) id
      exact (List.mem_append.mp hf).elim (ha f) (hb f)
    | cons a' as =>
      rw [glue, keeps_cons]
      exact (keeps_cons.mp ha).imp id ih

theorem keeps_conjunction {clauses : List (List Alternative)} (hne : clauses ≠ [])
    (h : ∀ as ∈ clauses, Keeps holds as) : Keeps holds (conjunction clauses) := by
  induction clauses with
  | nil => exact absurd rfl hne
  | cons as clauses ih =>
    obtain ⟨has, hrest⟩ := List.forall_mem_cons.mp h
    cases clauses with
    | nil => simpa [conjunction] using has
    | cons bs clauses => exact keeps_glue has (ih (by simp) hrest)

theorem conjunction_of_single {clauses : List (List Alternative)}
    (h : ∀ as ∈ clauses, as.length = 1) (hne : clauses ≠ []) :
    conjunction clauses = [clauses.flatten.flatten] := by
  induction clauses with
  | nil => exact absurd rfl hne
  | cons as clauses ih =>
    obtain ⟨has, hrest⟩ := List.forall_mem_cons.mp h
    obtain ⟨a, rfl⟩ := List.length_eq_one_iff.mp has
    cases clauses with
    | nil => simp [conjunction]
    | cons bs clauses =>
      rw [conjunction_cons, ih hrest (by simp)]
      simp [glue]

theorem keeps_single {as : List Alternative} (h : as.length = 1) :
    Keeps holds as ↔ ∀ f ∈ as.flatten, holds f := by
  obtain ⟨a, rfl⟩ := List.length_eq_one_iff.mp h
  simp [Keeps]

theorem keeps_conjunction_of_single {clauses : List (List Alternative)}
    (h : ∀ as ∈ clauses, as.length = 1) (hne : clauses ≠ []) :
    Keeps holds (conjunction clauses) ↔ ∀ as ∈ clauses, Keeps holds as := by
  rw [conjunction_of_single h hne, keeps_single rfl]
  simp only [List.flatten_singleton, List.mem_flatten]
  constructor
  · intro hall as has
    exact (keeps_single (h as has)).mpr fun f hf => by
      obtain ⟨a, ha, hf⟩ := List.mem_flatten.mp hf
      exact hall f ⟨a, ⟨as, has, ha⟩, hf⟩
  · rintro hall f ⟨a, ⟨as, has, ha⟩, hf⟩
    exact (keeps_single (h as has)).mp (hall as has) f (List.mem_flatten.mpr ⟨a, ha, hf⟩)

/-- An OR in a clause splits the conjunction in two. -/
theorem conjunction_split (before after : List (List Alternative)) (a b : Alternative)
    (as : List Alternative) :
    conjunction (before ++ (a :: b :: as) :: after) =
      glue (conjunction before) [a] ++ glue (b :: as) (conjunction after) := by
  rw [conjunction_append, conjunction_cons, glue, glue_cons]

end RowMap.Sql
