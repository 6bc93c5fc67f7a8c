import RowMap.Proofs.Statement.SelectParts
import RowMap.Proofs.Statement.WriteParts

/-!
# The order of calls

A builder keeps a list for every clause and puts the clauses together at the end. Calls on different
clauses can change places, so a statement depends on the order of the calls on each clause and not
on how they were mixed.
-/

namespace RowMap

/-! ## Sequences of calls -/

section
variable {κ ι : Type} {kind : κ → ι} {β : Type} {apply : β → κ → β}

theorem foldl_past (hcomm : ∀ b c d, kind c ≠ kind d → apply (apply b c) d = apply (apply b d) c)
    {c : κ} {before : List κ} (h : ∀ d ∈ before, kind d ≠ kind c) (b : β) :
    apply (before.foldl apply b) c = before.foldl apply (apply b c) := by
  induction before generalizing b with
  | nil => rfl
  | cons d before ih =>
    obtain ⟨hd, hbefore⟩ := List.forall_mem_cons.mp h
    rw [List.foldl_cons, List.foldl_cons, ih hbefore, hcomm b d c hd]

variable [DecidableEq ι]

/-- The same calls, those of each kind in the same order. -/
def SameOrder (kind : κ → ι) (calls calls' : List κ) : Prop :=
  ∀ k, calls.filter (fun c => kind c = k) = calls'.filter fun c => kind c = k

theorem SameOrder.nil_left {calls : List κ} (h : SameOrder kind [] calls) : calls = [] := by
  rw [List.eq_nil_iff_forall_not_mem]
  intro c hc
  have hkind := List.filter_eq_nil_iff.mp (h (kind c)).symm c hc
  simp at hkind

theorem SameOrder.cons_left {c : κ} {calls calls' : List κ} (h : SameOrder kind (c :: calls) calls') :
    ∃ before after, calls' = before ++ c :: after ∧ (∀ d ∈ before, kind d ≠ kind c) ∧
      SameOrder kind calls (before ++ after) := by
  have hc := h (kind c)
  rw [List.filter_cons_of_pos (by simp), eq_comm, List.filter_eq_cons_iff] at hc
  obtain ⟨before, after, rfl, hbefore, -, hafter⟩ := hc
  have hother : ∀ d ∈ before, kind d ≠ kind c := by simpa using hbefore
  refine ⟨before, after, rfl, hother, fun k => ?_⟩
  by_cases hk : kind c = k
  · subst hk
    have hnone : before.filter (fun d => kind d = kind c) = [] := by
      simpa [List.filter_eq_nil_iff] using hother
    rw [List.filter_append, hnone, List.nil_append, hafter]
  · have hrest := h k
    simp only [List.filter_append, List.filter_cons, hk, decide_false] at hrest ⊢
    simpa using hrest

/-- When calls of different kinds commute, it does not matter how the kinds are mixed. -/
theorem SameOrder.foldl_eq
    (hcomm : ∀ b c d, kind c ≠ kind d → apply (apply b c) d = apply (apply b d) c)
    {calls calls' : List κ} (h : SameOrder kind calls calls') (b : β) :
    calls.foldl apply b = calls'.foldl apply b := by
  induction calls generalizing calls' b with
  | nil => rw [h.nil_left]
  | cons c calls ih =>
    obtain ⟨before, after, rfl, hbefore, hrest⟩ := h.cons_left
    rw [List.foldl_cons, ih hrest, List.foldl_append, List.foldl_append, List.foldl_cons,
      foldl_past hcomm hbefore]

end

/-! ## Queries -/

namespace Select

/-- What a call is about. The columns of a shape are written under the name that the table has by
then, so names and columns are of one kind. -/
inductive Call.Kind
  | source | join | condition | order | limit | offset
deriving DecidableEq

def Call.kind : Call → Kind
  | .named _ | .columns _ | .columnsOf _ | .aliasedColumnsOf _ _ | .selectAll => .source
  | .join _ => .join
  | .filter _ => .condition
  | .orderBy _ _ => .order
  | .limit _ => .limit
  | .offset _ => .offset

theorem apply_comm (q : Select) (c d : Call) (h : c.kind ≠ d.kind) :
    d.apply (c.apply q) = c.apply (d.apply q) := by
  cases c <;> cases d <;> first | rfl | exact absurd rfl h

end Select

/-! ## Writes -/

inductive Update.Call.Kind
  | setter | condition | returning
deriving DecidableEq

def Update.Call.kind : Update.Call → Kind
  | .set _ _ | .setRaw _ => .setter
  | .filter _ => .condition
  | .returning _ => .returning

theorem Update.apply_comm (q : Update) (c d : Call) (h : c.kind ≠ d.kind) :
    d.apply (c.apply q) = c.apply (d.apply q) := by
  cases c <;> cases d <;> first | rfl | exact absurd rfl h

inductive Insert.Call.Kind
  | value | returning
deriving DecidableEq

def Insert.Call.kind : Insert.Call → Kind
  | .value _ _ => .value
  | .returning _ => .returning

theorem Insert.apply_comm (q : Insert) (c d : Call) (h : c.kind ≠ d.kind) :
    d.apply (c.apply q) = c.apply (d.apply q) := by
  cases c <;> cases d <;> first | rfl | exact absurd rfl h

/-! ## Statements -/

/-- The statement of a builder does not depend on how calls on different clauses are mixed. -/
theorem build_of_sameOrder :
    (∀ (q : Select) (calls calls' : List Select.Call), SameOrder Select.Call.kind calls calls' →
      (q.run calls).build = (q.run calls').build) ∧
    (∀ (q : Update) (calls calls' : List Update.Call), SameOrder Update.Call.kind calls calls' →
      (q.run calls).build = (q.run calls').build) ∧
    ∀ (q : Insert) (calls calls' : List Insert.Call), SameOrder Insert.Call.kind calls calls' →
      (q.run calls).build = (q.run calls').build := by
  refine ⟨fun q calls calls' h => ?_, fun q calls calls' h => ?_, fun q calls calls' h => ?_⟩
  · exact congrArg Select.build (h.foldl_eq Select.apply_comm q)
  · exact congrArg Update.build (h.foldl_eq Update.apply_comm q)
  · exact congrArg Insert.build (h.foldl_eq Insert.apply_comm q)

theorem mixed_calls_build :
    ((Select.ofTable "books").run [.filter ⟨"b.year > ?", [.of (.int 2000)]⟩, .named "b", .limit 5,
        .filter ⟨"b.id = ?", [.of (.int 1)]⟩, .columns ["b.title"]]).build =
      ((Select.ofTable "books").run [.limit 5, .named "b", .columns ["b.title"],
        .filter ⟨"b.year > ?", [.of (.int 2000)]⟩, .filter ⟨"b.id = ?", [.of (.int 1)]⟩]).build ∧
    ((Update.ofTable "books").run [.filter ⟨"id = ?", [.of (.int 1)]⟩,
        .set "year" (.of (.int 1999)), .returning ["id"], .setRaw "seen = now()"]).build =
      ((Update.ofTable "books").run [.set "year" (.of (.int 1999)), .setRaw "seen = now()",
        .returning ["id"], .filter ⟨"id = ?", [.of (.int 1)]⟩]).build ∧
    (Insert.run { table := "books" } [.returning ["id"], .value "year" (.of (.int 1999))]).build =
      (Insert.run { table := "books" }
        [.value "year" (.of (.int 1999)), .returning ["id"]]).build := by
  refine ⟨build_of_sameOrder.1 _ _ _ fun k => ?_, build_of_sameOrder.2.1 _ _ _ fun k => ?_,
    build_of_sameOrder.2.2 _ _ _ fun k => ?_⟩
  all_goals cases k <;> rfl

end RowMap
