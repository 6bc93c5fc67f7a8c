import RowMap.Proofs.Savepoint.Calls

/-!
# Marks as snapshots

Times grow, so a mark need not be looked into: the work before it is the entries that are older than
it. Every statement keeps that, in whatever order savepoints are set and used.
-/

namespace RowMap.Savepoint

namespace Work

variable {respond : Responder} {clock time : Nat} {known : List (String × Nat)} {w : Work}

def entriesBefore (time : Nat) (w : Work) : List Entry := w.entries.filter fun e => e.time < time

/-- The marks are snapshots of the work, the newest one first. Savepoints that were set are known by
their name and time. -/
structure Sound (clock : Nat) (known : List (String × Nat)) (w : Work) : Prop where
  entries_lt : ∀ e ∈ w.entries, e.time < clock
  marks_lt : ∀ m ∈ w.marks, m.time < clock
  entries_eq : ∀ m ∈ w.marks, m.entries = w.entriesBefore m.time
  newest : w.marks.Pairwise fun m n => n.time < m.time
  known : ∀ m ∈ w.marks, (m.name, m.time) ∈ known

theorem Sound.empty (clock : Nat) (known : List (String × Nat)) :
    ({} : Work).Sound clock known := by
  constructor <;> simp

theorem Sound.later (h : w.Sound clock known) {clock' : Nat} (hclock : clock ≤ clock')
    {known' : List (String × Nat)} (hknown : known ⊆ known') : w.Sound clock' known' where
  entries_lt e he := (h.entries_lt e he).trans_le hclock
  marks_lt m hm := (h.marks_lt m hm).trans_le hclock
  entries_eq := h.entries_eq
  newest := h.newest
  known m hm := hknown (h.known m hm)

theorem Sound.fail (h : w.Sound clock known) : w.fail.Sound clock known :=
  ⟨h.entries_lt, h.marks_lt, h.entries_eq, h.newest, h.known⟩

theorem Sound.forget (h : w.Sound clock known) {older : List Mark} (hold : older <:+ w.marks) :
    ({ w with marks := older } : Work).Sound clock known where
  entries_lt := h.entries_lt
  marks_lt m hm := h.marks_lt m (hold.subset hm)
  entries_eq m hm := h.entries_eq m (hold.subset hm)
  newest := h.newest.sublist hold.sublist
  known m hm := h.known m (hold.subset hm)

theorem entriesBefore_entriesBefore {n : Nat} (h : n ≤ time) (w : Work) :
    (w.entriesBefore time).filter (fun e => e.time < n) = w.entriesBefore n := by
  rw [entriesBefore, List.filter_filter]
  refine List.filter_congr fun e _ => ?_
  rw [Bool.eq_iff_iff]
  simp only [Bool.and_eq_true, decide_eq_true_eq]
  omega

theorem Sound.restore (h : w.Sound clock known) {m : Mark} {older : List Mark}
    (hmarks : m :: older <:+ w.marks) :
    (⟨w.entriesBefore m.time, m :: older, false⟩ : Work).Sound clock known where
  entries_lt e he := h.entries_lt e (List.mem_of_mem_filter he)
  marks_lt := (h.forget hmarks).marks_lt
  entries_eq n hn := by
    have hle : n.time ≤ m.time := by
      rcases List.mem_cons.mp hn with rfl | hn
      · exact le_rfl
      · exact ((List.pairwise_cons.mp (h.forget hmarks).newest).1 n hn).le
    rw [h.entries_eq n (hmarks.subset hn)]
    exact (entriesBefore_entriesBefore hle w).symm
  newest := (h.forget hmarks).newest
  known := (h.forget hmarks).known

theorem Sound.add (h : w.Sound clock known) (s : Statement) :
    ({ w with entries := w.entries ++ [⟨clock, s⟩] } : Work).Sound (clock + 1) known where
  entries_lt e he := by
    rcases List.mem_append.mp he with he | he
    · exact (h.entries_lt e he).trans (Nat.lt_succ_self clock)
    · obtain rfl := List.mem_singleton.mp he
      exact Nat.lt_succ_self clock
  marks_lt m hm := (h.marks_lt m hm).trans (Nat.lt_succ_self clock)
  entries_eq m hm := by
    -- The new entry is not older than any mark.
    have hnew : ¬clock < m.time := (h.marks_lt m hm).le.not_gt
    rw [h.entries_eq m hm, entriesBefore, entriesBefore, List.filter_append]
    simp [hnew]
  newest := h.newest
  known := h.known

theorem Sound.mark (h : w.Sound clock known) (name : String) :
    (w.marked name clock).Sound (clock + 1) (known ++ [(name, clock)]) where
  entries_lt e he := (h.entries_lt e he).trans (Nat.lt_succ_self clock)
  marks_lt m hm := by
    rcases List.mem_cons.mp hm with rfl | hm
    · exact Nat.lt_succ_self clock
    · exact (h.marks_lt m hm).trans (Nat.lt_succ_self clock)
  entries_eq m hm := by
    rcases List.mem_cons.mp hm with rfl | hm
    · exact (List.filter_eq_self.mpr fun e he => by simpa using h.entries_lt e he).symm
    · exact h.entries_eq m hm
  newest := List.pairwise_cons.mpr ⟨h.marks_lt, h.newest⟩
  known m hm := by
    rcases List.mem_cons.mp hm with rfl | hm
    · exact List.mem_append_right _ (List.mem_singleton_self _)
    · exact List.mem_append_left _ (h.known m hm)

theorem marksFrom_suffix (name : String) (w : Work) : w.marksFrom name <:+ w.marks :=
  List.dropWhile_suffix _

theorem name_of_marksFrom {name : String} {m : Mark} {older : List Mark}
    (h : w.marksFrom name = m :: older) : m.name = name := by
  have hne : w.marksFrom name ≠ [] := by simp [h]
  have hhead : decide (((w.marksFrom name).head hne).name ≠ name) = false :=
    List.head_dropWhile_not _ hne
  simpa [h] using hhead

theorem Sound.perform (h : w.Sound clock known) (durable : List Entry) (s : Statement) :
    (w.perform respond durable clock s).2.Sound (clock + 1) known := by
  rcases perform_cases respond durable clock s w with ⟨-, e, hw⟩ | ⟨-, reply, hw⟩
  · rw [hw]
    exact h.fail.later (Nat.le_succ clock) (List.Subset.refl known)
  · rw [hw]
    exact h.add s

theorem Sound.control (h : w.Sound clock known) {c : Control} (hc : ∀ name, c ≠ .savepoint name)
    {w' : Work} (hw' : w.control clock c = some w') : w'.Sound clock known := by
  cases c with
  | savepoint name => exact absurd rfl (hc name)
  | commit | rollback | unknown => cases hw'
  | begin =>
    rw [Work.control, Option.ite_none_left_eq_some] at hw'
    obtain rfl := Option.some.inj hw'.2
    exact h
  | rollbackTo name =>
    have hsuffix := marksFrom_suffix name w
    rw [Work.control] at hw'
    split at hw'
    · cases hw'
    · next m older hmarks =>
      rw [hmarks] at hsuffix
      obtain rfl := Option.some.inj hw'
      rw [h.entries_eq m (hsuffix.subset List.mem_cons_self)]
      exact h.restore hsuffix
  | release name =>
    have hsuffix := marksFrom_suffix name w
    rw [Work.control] at hw'
    split at hw'
    · cases hw'
    · next m older hmarks =>
      rw [hmarks] at hsuffix
      rw [Option.ite_none_left_eq_some] at hw'
      obtain rfl := Option.some.inj hw'.2
      exact h.forget ((List.suffix_cons m older).trans hsuffix)

end Work

/-! ## Databases -/

namespace Database

variable {respond : Responder} {known : List (String × Nat)} {db : Database respond}

/-- The open transaction, if there is one, has snapshots. -/
def Sound (known : List (String × Nat)) (db : Database respond) : Prop :=
  ∀ w, db.work? = some w → w.Sound db.clock known

theorem sound_of_idle (hwork : db.work? = none) (s : Statement) : (db.answer s).2.Sound known := by
  intro w' hw'
  rcases answer_idle hwork s with hidle | hbegun
  · rw [hidle] at hw'
    cases hw'
  · rw [hbegun] at hw'
    cases hw'
    exact .empty _ _

theorem Sound.answer (h : db.Sound known) {s : Statement}
    (hs : ∀ name, Control.ofText s.sql ≠ some (.savepoint name)) : (db.answer s).2.Sound known := by
  intro w' hw'
  cases hwork : db.work? with
  | none => exact sound_of_idle hwork s w' hw'
  | some w =>
    have hw := h w hwork
    cases hcontrol : Control.ofText s.sql with
    | none =>
      rw [answer_plain hwork hcontrol] at hw' ⊢
      cases hw'
      exact hw.perform db.durable s
    | some c =>
      have hc : ∀ name, c ≠ .savepoint name := by
        rintro name rfl
        exact hs name hcontrol
      cases hinner : c.closes with
      | true =>
        cases c with
        | commit =>
          rw [answer_commit hwork hcontrol] at hw'
          exact absurd ((commit_work w db).symm.trans hw') (by simp)
        | rollback =>
          rw [answer_rollback hwork hcontrol] at hw'
          cases hw'
        | begin | savepoint _ | rollbackTo _ | release _ | unknown => cases hinner
      | false =>
        cases hnext : w.control db.clock c with
        | none =>
          rw [answer_refused hwork hcontrol hinner hnext] at hw' ⊢
          cases hw'
          exact hw.fail.later (Nat.le_succ _) (List.Subset.refl known)
        | some w₁ =>
          rw [answer_followed hwork hcontrol hinner hnext] at hw' ⊢
          cases hw'
          exact (hw.control hc hnext).later (Nat.le_succ _) (List.Subset.refl known)

section
variable {depth : Nat} {db' : Database respond}

theorem Sound.mark (h : db.Sound known) {reply : Script.Reply}
    (hcommand : db.command (Transaction.savepointSql (depth + 1)) = (.ok reply, db')) :
    db'.Sound (known ++ [(Transaction.savepoint (depth + 1), db.clock)]) := by
  rcases command_savepoint_cases depth db with ⟨w, hwork, hmarked⟩ | hrefused
  · rw [hmarked] at hcommand
    obtain rfl := (Prod.mk.inj hcommand).2
    intro w' hw'
    cases hw'
    exact (h w hwork).mark _
  · rw [hrefused] at hcommand
    cases hcommand

theorem Sound.notMarked (h : db.Sound known) {e : StoreError}
    (hcommand : db.command (Transaction.savepointSql (depth + 1)) = (.error e, db')) :
    db'.Sound known := by
  rcases command_savepoint_cases depth db with ⟨w, hwork, hmarked⟩ | hrefused
  · rw [hmarked] at hcommand
    cases hcommand
  · rw [hrefused] at hcommand
    obtain rfl := (Prod.mk.inj hcommand).2
    intro w' hw'
    obtain ⟨w, hw, rfl⟩ := Option.map_eq_some_iff.mp hw'
    exact (h w hw).fail.later (Nat.le_succ _) (List.Subset.refl known)

end

theorem ofText_closing (depth : Nat) (name : String) :
    Control.ofText (Transaction.commitSql depth) ≠ some (.savepoint name) ∧
      Control.ofText (Transaction.rollbackSql depth) ≠ some (.savepoint name) := by
  cases depth with
  | zero =>
    rw [ofText_commitSql_zero, ofText_rollbackSql_zero]
    simp
  | succ depth =>
    rw [ofText_commitSql_succ, ofText_rollbackSql_succ]
    simp

theorem Sound.closed (h : db.Sound known) (depth : Nat) (ending : Transaction.Ending) :
    (db.closed depth ending).Sound known := by
  refine closed_keeps (fun db h => ?_) (fun db h => ?_) h ending
  · exact h.answer fun name => (ofText_closing depth name).1
  · exact h.answer fun name => (ofText_closing depth name).2

theorem clock_command (db : Database respond) (sql : String) :
    (db.command sql).2.clock = db.clock + 1 := rfl

theorem clock_le_closed (db : Database respond) (depth : Nat) (ending : Transaction.Ending) :
    db.clock ≤ (db.closed depth ending).clock := by
  have hlater (sql : String) (db' : Database respond) (h : db.clock ≤ db'.clock) :
      db.clock ≤ (db'.command sql).2.clock := h.trans (Nat.le_succ _)
  exact closed_keeps (P := fun db' => db.clock ≤ db'.clock) (hlater _) (hlater _) le_rfl ending

/-- The time of the newest savepoint with a name. -/
def newest? (name : String) (db : Database respond) : Option Nat :=
  db.work?.bind fun w => (w.marksFrom name).head?.map Mark.time

/-- What the open transaction has done. -/
def entries (db : Database respond) : List Entry := (db.work?.getD {}).entries

/-- A rollback to a savepoint restores the entries that are older than the newest one with the
name. -/
theorem entries_rollbackTo (h : db.Sound known) {depth : Nat} {reply : Script.Reply}
    (hok : (db.command (Transaction.rollbackSql (depth + 1))).1 = .ok reply) :
    ∃ time, db.newest? (Transaction.savepoint (depth + 1)) = some time ∧
      (Transaction.savepoint (depth + 1), time) ∈ known ∧
      (db.command (Transaction.rollbackSql (depth + 1))).2.entries =
        db.entries.filter fun e => e.time < time := by
  have hcontrol := ofText_rollbackSql_succ depth
  cases hwork : db.work? with
  | none =>
    rw [command_control hcontrol] at hok
    simp [control, hwork, refuse] at hok
  | some w =>
    cases hnext : w.control db.clock (.rollbackTo (Transaction.savepoint (depth + 1))) with
    | none =>
      rw [command_refused hwork hcontrol rfl hnext] at hok
      cases hok
    | some w' =>
      rw [command_followed hwork hcontrol rfl hnext]
      rw [Work.control] at hnext
      split at hnext
      · cases hnext
      · next m older hmarks =>
        cases hnext
        have hmem : m ∈ w.marks :=
          (Work.marksFrom_suffix _ w).subset (by rw [hmarks]; exact List.mem_cons_self)
        refine ⟨m.time, ?_, ?_, ?_⟩
        · simp [newest?, hwork, hmarks]
        · rw [← Work.name_of_marksFrom hmarks]
          exact (h w hwork).known m hmem
        · simp [entries, hwork, (h w hwork).entries_eq m hmem, Work.entriesBefore]

end Database

end RowMap.Savepoint
