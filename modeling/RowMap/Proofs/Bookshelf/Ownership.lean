import RowMap.Proofs.Bookshelf.FailedWrites
import RowMap.Proofs.Session.ModelWrites
import RowMap.Proofs.Store.Cells

/-!
# Whose plans an update changes

A plan is given to the user who updates it before the statement is made. The statement asks for the
plans of that user and stores that user, so no update takes a plan from somebody or gives it to
somebody.
-/

namespace RowMap.Bookshelf

open Store (Assignment Guard Table Stored)

/-! ## The plan in memory -/

theorem owned_user (p : ReadingPlan) (userId : Int64) :
    (Plans.owned p userId).user.map User.id = some userId := by
  unfold Plans.owned
  split
  · assumption
  · rfl

theorem owned_of_owner {p : ReadingPlan} {userId : Int64} (h : p.user.map User.id = some userId) :
    Plans.owned p userId = p :=
  if_pos h

/-! ## The statement -/

def planAssignments (userId : Int64) (p : ReadingPlan) : List Assignment :=
  Store.recordAssignments (Mapped.toRecord p) ++
    [.set "updated_by" (int64 userId), .count, .touch]

def planGuards (userId : Int64) (p : ReadingPlan) : List Guard :=
  [.equals "id" (int64 p.id), .equals "version" (.of (.int p.version)), .notDeleted,
    .equals "user_id" (int64 userId)]

theorem planUpdate_eq (userId : Int64) (p : ReadingPlan) : planUpdate userId p =
    (Store.builder "reading_plans" (planAssignments userId p) (planGuards userId p) true).build := by
  rw [planUpdate, Store.ofRecord_set, Store.versionedUpdate_builder, List.append_assoc]
  rfl

theorem planAssignments_columns (userId : Int64) (p : ReadingPlan) :
    (planAssignments userId p).map Assignment.column =
      ["status", "start_date", "target_date", "priority", "pages_per_day", "minutes_per_day",
        "book_id", "user_id", "updated_by", "version", "updated_at"] := by
  obtain ⟨-, -, -, -, -, -, -, -, -, _ | book, _ | user⟩ := p <;> rfl

theorem user_set {userId : Int64} {p : ReadingPlan} (h : p.user.map User.id = some userId) :
    .set "user_id" (int64 userId) ∈ planAssignments userId p := by
  obtain ⟨id, status, start, target, priority, pages, minutes, created, version, book, user⟩ := p
  obtain ⟨user, rfl, rfl⟩ := Option.map_eq_some_iff.mp h
  rcases book with _ | book <;> exact List.mem_of_getElem? (i := 7) rfl

theorem planAssignments_plain (userId : Int64) (p : ReadingPlan) :
    ∀ a ∈ planAssignments userId p, a.IsPlain := by
  have hcolumns : ∀ c ∈ (planAssignments userId p).map Assignment.column, Store.IsColumn c := by
    rw [planAssignments_columns]
    decide
  intro a ha
  cases a with
  | set column v => exact hcolumns column (List.mem_map_of_mem ha)
  | _ => trivial

theorem planAssignments_nodup (userId : Int64) (p : ReadingPlan) :
    ((planAssignments userId p).map fun a => Store.lowered a.column).Nodup := by
  have hlowered : (planAssignments userId p).map (fun a => Store.lowered a.column) =
      ((planAssignments userId p).map Assignment.column).map Store.lowered := by
    rw [List.map_map]
    rfl
  rw [hlowered, planAssignments_columns]
  decide

theorem planGuards_plain (userId : Int64) (p : ReadingPlan) :
    ∀ g ∈ planGuards userId p, g.IsPlain := by
  have hcolumns : Store.IsColumn "id" ∧ Store.IsColumn "version" ∧ Store.IsColumn "user_id" := by
    decide
  simpa [planGuards, Guard.IsPlain] using hcolumns

theorem planUpdate_read (userId : Int64) (p : ReadingPlan) :
    Store.readCommand (planUpdate userId p) =
      some ⟨"reading_plans", planAssignments userId p, [planGuards userId p], true⟩ := by
  rw [planUpdate_eq]
  exact Store.readCommand_builder (by decide) (planAssignments_plain userId p)
    (by simp [planAssignments]) (planGuards_plain userId p) (by simp [planGuards]) true

theorem planUpdate_answer (userId : Int64) (p : ReadingPlan) (T : Table) (rows : List Stored) :
    T.answer (planUpdate userId p) rows =
      T.perform ⟨"reading_plans", planAssignments userId p, [planGuards userId p], true⟩ rows := by
  refine T.answer_of_read ?_ (planUpdate_read userId p) rows
  rw [planUpdate_eq]
  exact Store.isSetting_builder _ _ _ true

/-- The row stays as it was, or it belonged to the user before and does so afterwards. -/
def KeepsOwner (T : Table) (userId : Int64) (r r' : Stored) : Prop :=
  r' = r ∨ T.equal (T.cell r "user_id") (int64 userId) = true ∧ T.cell r' "user_id" = int64 userId

theorem planUpdate_keepsOwner {userId : Int64} {p : ReadingPlan}
    (h : p.user.map User.id = some userId) (T : Table) (rows : List Stored) :
    List.Forall₂ (KeepsOwner T userId) rows (T.answer (planUpdate userId p) rows).2 := by
  rw [planUpdate_answer]
  refine (Table.perform_changes _ rows).imp ?_
  rintro r r' (rfl | ⟨hsat, hnodup, hassign⟩)
  · exact .inl rfl
  · have howner : T.holds r (.equals "user_id" (int64 userId)) = true := by
      simp only [Table.satisfies, planGuards, List.any_cons, List.any_nil, Bool.or_false,
        List.all_cons, List.all_nil, Bool.and_true, Bool.and_eq_true] at hsat
      exact hsat.2.2.2
    exact .inr ⟨howner, Table.cell_assignAll hnodup (user_set h) hassign⟩

/-! ## The action -/

variable {σ : Type} [Server σ]

def planOwner (userId : Int64) : ModelWrite := .update (some ⟨"user_id", int64 userId⟩)

theorem plans_update_sends (w : Writer) (userId : Int64) (s : Session (Recorder σ) ReadingPlan) :
    let given := Plans.owned s.memory userId
    w.Sends (planUpdate userId given) ((planOwner userId).ask (planUpdate userId given))
      (ModelWrite.Ends w given (planOwner userId)) { s with memory := given }
      (Plans.update w userId s) :=
  ModelWrite.updateModelWith_sends w { s with memory := Plans.owned s.memory userId } _ _
    plan_keyColumn (plan_keyValue _)

theorem plans_update_memory {w : Writer} {userId : Int64} {s : Session (Recorder σ) ReadingPlan}
    (hok : (Plans.update w userId s).1 = .ok ()) :
    ∃ version, (Plans.update w userId s).2.memory =
      { Plans.owned s.memory userId with version := version } := by
  obtain ⟨answer, hends⟩ := (plans_update_sends w userId s).of_ok hok
  obtain ⟨v, hrenews⟩ := hends.renews
  exact ⟨v, hrenews.set⟩

/-- An update of a plan sends one statement behind the time limit. It stores the user as the plan's
user and as who has updated it, and asks for the key and the version of the plan and for the user's
plans, so in every table the rows it changes were the user's and stay the user's. The plan in memory
is the user's in the end, with the user's own record if that was there. -/
theorem plan_update_keeps_owner (w : Writer) (userId : Int64)
    (s : Session (Recorder σ) ReadingPlan) :
    let given := Plans.owned s.memory userId
    let stmt := planUpdate userId given
    let done := Plans.update w userId s
    w.Sends stmt ((planOwner userId).ask stmt) (ModelWrite.Ends w given (planOwner userId))
        { s with memory := given } done ∧
      (∃ assignments, Store.readCommand stmt = some ⟨"reading_plans", assignments,
          [[.equals "id" (int64 s.memory.id), .equals "version" (.of (.int s.memory.version)),
            .notDeleted, .equals "user_id" (int64 userId)]], true⟩ ∧
        .set "user_id" (int64 userId) ∈ assignments ∧
        .set "updated_by" (int64 userId) ∈ assignments ∧
        (assignments.map fun a => Store.lowered a.column).Nodup) ∧
      (∀ (T : Table) (rows : List Stored),
        List.Forall₂ (KeepsOwner T userId) rows (T.answer stmt rows).2) ∧
      (done.1 = .ok () → done.2.memory.user.map User.id = some userId ∧
        (s.memory.user.map User.id = some userId → done.2.memory.user = s.memory.user)) := by
  intro given stmt done
  have huser : given.user.map User.id = some userId := owned_user s.memory userId
  have hfields : given.storeFields = s.memory.storeFields := owned_storeFields userId s.memory
  have hid : given.id = s.memory.id := congrArg StoreFields.id hfields
  have hversion : given.version = s.memory.version := congrArg StoreFields.version hfields
  refine ⟨plans_update_sends w userId s, ⟨planAssignments userId given, ?_, user_set huser, ?_,
    planAssignments_nodup userId given⟩, planUpdate_keepsOwner huser, fun hok => ?_⟩
  · rw [planUpdate_read, planGuards, hid, hversion]
  · simp [planAssignments]
  · obtain ⟨version, hmemory⟩ := plans_update_memory hok
    rw [hmemory]
    refine ⟨huser, fun howner => ?_⟩
    rw [owned_of_owner howner]

theorem reader_keeps_record :
    let s : Session (Recorder ModelWrite.OneRow) ReadingPlan :=
      ⟨⟨⟨.ofValues [.of (.int 2)]⟩, []⟩, { id := 3, user := some ⟨7, "Ada", "ada@example.org"⟩ }, []⟩
    (Plans.update {} 7 s).1 = .ok () ∧
      (Plans.update {} 7 s).2.memory.user = some ⟨7, "Ada", "ada@example.org"⟩ := by
  intro s
  have hok : (Plans.update {} 7 s).1 = .ok () := rfl
  obtain ⟨-, -, -, hdone⟩ := plan_update_keeps_owner {} 7 s
  exact ⟨hok, (hdone hok).2 rfl⟩

end RowMap.Bookshelf
