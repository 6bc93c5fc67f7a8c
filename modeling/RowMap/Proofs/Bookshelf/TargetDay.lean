import RowMap.Proofs.Bookshelf.PagedListing

/-!
# The day of a target date

A listing of plans keeps those whose target is not after the end of a day. That end is a fixed span
after the target date that was asked for, so it is on the day itself only when the target date is in
its first second, and even then the last instants of the day are beyond it.
-/

namespace RowMap

/-! ## Instants by day, second and nanosecond -/

namespace Calendar

theorem Date.plus_eq_some {d e : Date} {days : Int} (h : d.plus days = some e) :
    e.day = d.day + days := by
  unfold plus ofDay? at h
  split at h
  · cases h
    rfl
  · cases h

theorem Date.plus_isSome_iff (d : Date) {days : Int} (hforward : 0 ≤ days) :
    (d.plus days).isSome ↔ d.day + days ≤ lastDay := by
  have hrange := d.inRange
  unfold plus ofDay?
  split
  · next h => exact iff_of_true rfl h.2
  · next h => exact iff_of_false nofun (by omega)

namespace Instant

/-- The day number in UTC. -/
def day (t : Instant) : Int := t.utc.date.day

/-- Seconds since the day began. -/
def second (t : Instant) : Nat := t.utc.time.second

/-- A leap second has a whole second of them and more. -/
def nano (t : Instant) : Nat := t.utc.time.nano

/-- The instant is another one or before it. -/
def UpTo (t bound : Instant) : Prop := bound.before t = false

theorem second_lt (t : Instant) : t.second < 86400 := t.utc.time.second.isLt

theorem nano_lt (t : Instant) : t.nano < 2000000000 := t.utc.time.nano.isLt

theorem before_iff (a b : Instant) : a.before b = true ↔ a.day < b.day ∨
    a.day = b.day ∧ (a.second < b.second ∨ a.second = b.second ∧ a.nano < b.nano) := by
  simp only [before, LocalDateTime.before, Fin.lt_def, day, second, nano]
  split_ifs with hday hsecond <;> simp only [decide_eq_true_eq] <;> omega

theorem upTo_iff (t b : Instant) : t.UpTo b ↔ t.day < b.day ∨
    t.day = b.day ∧ (t.second < b.second ∨ t.second = b.second ∧ t.nano ≤ b.nano) := by
  rw [UpTo, ← Bool.not_eq_true, before_iff]
  omega

/-- Days and seconds are counted on, and a leap second counts as the second that it extends. -/
theorem of_later {t b : Instant} {seconds : Nat} (hpos : seconds ≠ 0)
    (h : t.later seconds = some b) :
    b.day * 86400 + b.second = t.day * 86400 + t.second + seconds ∧
      b.nano = t.nano % 1000000000 := by
  obtain ⟨utc, hshift, rfl⟩ := Option.map_eq_some_iff.mp h
  obtain ⟨date, hplus, rfl⟩ := Option.map_eq_some_iff.mp hshift
  have hday : date.day = t.day + ((t.second : Int) + seconds) / 86400 := Date.plus_eq_some hplus
  have hnano : t.utc.time.nano.val < 2000000000 := t.nano_lt
  constructor
  · show date.day * 86400 + (((t.second : Int) + seconds) % 86400).toNat = _
    omega
  · show Fin.val (dite _ _ _) = _
    split
    · next hleap =>
      show t.utc.time.nano.val - 1000000000 = t.utc.time.nano.val % 1000000000
      omega
    · next hleap =>
      show t.utc.time.nano.val = t.utc.time.nano.val % 1000000000
      have : ¬ 1000000000 ≤ t.utc.time.nano.val := fun h => hleap ⟨hpos, h⟩
      omega

theorem later_isSome_iff (t : Instant) (seconds : Nat) :
    (t.later seconds).isSome ↔ t.day + (t.second + seconds : Nat) / 86400 ≤ lastDay := by
  unfold later LocalDateTime.shift
  simp only [Option.isSome_map]
  rw [Date.plus_isSome_iff _ (by omega)]
  exact Iff.rfl

end Instant

end Calendar

/-! ## What a listing compares the target date with -/

open Calendar (Instant lastDay)

/-- The statement compares the target date of a plan with a marker that has the value of the
bound. -/
def Statement.ComparesTargetDateWith (stmt : Statement) (bound : Instant) : Prop :=
  ∃ (front back : List (List Char)) (k : Nat),
    Text.words stmt.sql.toList = front ++ ["r.target_date".toList, "<=".toList,
      marker (k + 1) ++ "::timestamptz)".toList] ++ back ∧
    stmt.values[k]? = some (ScalarType.instant.bind bound)

namespace Bookshelf

open RowMap.Template

def targetLine : String :=
  "    AND (:targetDate::timestamptz IS NULL OR r.target_date <= :targetDate::timestamptz)"

theorem lineNames_cons (line : String) (lines : List String) :
    lineNames (line :: lines) = names (tokens line.toList) ++ lineNames lines := rfl

theorem names_targetLine :
    names (tokens targetLine.toList) = ["targetDate", "targetDate"] := by decide +kernel

theorem words_targetLine : Text.words (copiedFrom 5 (tokens targetLine.toList)) =
    ["AND", "($5::timestamptz", "IS", "NULL", "OR", "r.target_date", "<=",
      "$6::timestamptz)"].map String.toList := by decide +kernel

theorem names_after_targetLine :
    lineNames (planListing.front.drop 10) = ["userID", "bookID"] := by decide +kernel

theorem names_before_targetLine : lineNames (planListing.front.take 9) =
    ["status", "status", "startDate", "startDate"] := by
  have hlines : planListing.front =
      planListing.front.take 9 ++ targetLine :: planListing.front.drop 10 := rfl
  have hnames := planListing_sound.front.1
  rw [hlines, lineNames_append, lineNames_cons, names_targetLine, names_after_targetLine] at hnames
  exact List.append_cancel_right hnames

theorem endOfTargetDay_ok {d : Instant} {target : Option Instant}
    (h : Plans.endOfTargetDay (some d) = .ok target) :
    ∃ bound, d.later Plans.dayLength = some bound ∧ target = some bound := by
  simp only [Plans.endOfTargetDay] at h
  split at h
  · next bound hbound =>
    cases h
    exact ⟨bound, hbound, rfl⟩
  · cases h

theorem comparesTargetDateWith_of_statement {c : PlanCriteria} {f : Filters} {stmt : Statement}
    {d : Instant} (hd : c.targetDate = some d) (h : Plans.listStatement c f = .ok stmt) :
    ∃ bound, d.later Plans.dayLength = some bound ∧ stmt.ComparesTargetDateWith bound := by
  obtain ⟨column, -, h⟩ := bind_ok h
  obtain ⟨target, htarget, hstmt⟩ := bind_ok h
  rw [hd] at htarget
  obtain ⟨bound, hbound, rfl⟩ := endOfTargetDay_ok htarget
  rw [← template_planListing, Listing.template] at hstmt
  let before := planListing.front.take 9
  let after := planListing.front.drop 10 ++ planListing.orderLines column f.sortDirection
  have hlines : planListing.front ++ planListing.orderLines column f.sortDirection =
      before ++ targetLine :: after := rfl
  have hbefore : lineNames before = ["status", "status", "startDate", "startDate"] :=
    names_before_targetLine
  rw [hlines] at hstmt
  obtain ⟨hsql, hvalues⟩ := eq_of_statement hstmt
  refine ⟨bound, hbound, lineWords 1 before ++ ["AND", "($5::timestamptz", "IS", "NULL",
    "OR"].map String.toList, lineWords 7 after, 5, ?_, ?_⟩
  · rw [hsql, words_numbered, lineWords_append, hbefore, lineWords,
      names_targetLine]
    show _ ++ (Text.words (copiedFrom 5 _) ++ lineWords 7 after) = _
    rw [words_targetLine]
    simp only [List.append_assoc]
    rfl
  · rw [tokens_template, names_lineTokens, lineNames_append, hbefore, lineNames_cons,
      names_targetLine] at hvalues
    have hvalue : stmt.values[5]?.map some = some (some (ScalarType.instant.bind bound)) := by
      rw [← List.getElem?_map, hvalues]
      rfl
    simpa using hvalue

/-! ## Where the day and the bound part -/

/-- An instant in the last second of the day, when the date that was asked for is in the first
second of it and has a smaller fraction. -/
def LeftOut (d t : Instant) : Prop :=
  d.second = 0 ∧ t.day = d.day ∧ t.second = 86399 ∧ d.nano % 1000000000 < t.nano

/-- An instant on the next day, not later in it than a second before the time of day that was asked
for. -/
def LetIn (d t : Instant) : Prop :=
  t.day = d.day + 1 ∧ (t.second + 1 < d.second ∨
    t.second + 1 = d.second ∧ t.nano ≤ d.nano % 1000000000)

theorem upTo_end_iff {d bound : Instant} (h : d.later Plans.dayLength = some bound) (t : Instant) :
    (t.UpTo bound ↔ t.day ≤ d.day) ↔ ¬ LeftOut d t ∧ ¬ LetIn d t := by
  obtain ⟨hseconds, hnano⟩ := Instant.of_later (by decide) h
  have hd := d.second_lt
  have ht := t.second_lt
  have hb := bound.second_lt
  rw [Instant.upTo_iff, hnano, LeftOut, LetIn]
  simp only [Plans.dayLength] at hseconds
  by_cases hs : d.second = 0
  · have hday : bound.day = d.day := by omega
    have hsecond : bound.second = 86399 := by omega
    omega
  · have hday : bound.day = d.day + 1 := by omega
    have hsecond : bound.second + 1 = d.second := by omega
    omega

/-- The last nanosecond of the day is left out, or the beginning of the next day is let in. -/
theorem exists_parted {d bound : Instant} (h : d.later Plans.dayLength = some bound) :
    ∃ t, LeftOut d t ∨ LetIn d t := by
  obtain ⟨hseconds, hnano⟩ := Instant.of_later (by decide) h
  have hd := d.second_lt
  have hb := bound.second_lt
  simp only [Plans.dayLength] at hseconds
  by_cases hs : d.second = 0
  · refine ⟨⟨⟨d.utc.date, ⟨86399, 1999999999⟩⟩⟩, .inl ⟨hs, rfl, rfl, ?_⟩⟩
    show _ < 1999999999
    omega
  · have hday : bound.day = d.day + 1 := by omega
    refine ⟨⟨⟨bound.utc.date, .midnight⟩⟩, .inr ⟨hday, ?_⟩⟩
    show 0 + 1 < d.second ∨ 0 + 1 = d.second ∧ 0 ≤ _
    omega

theorem end_isSome_iff (d : Instant) :
    (d.later Plans.dayLength).isSome ↔ ¬ (d.day = lastDay ∧ d.second ≠ 0) := by
  have hrange := d.utc.date.inRange.2
  have hd := d.second_lt
  rw [Instant.later_isSome_iff, Plans.dayLength]
  change d.day ≤ lastDay at hrange
  omega

theorem listStatement_overflow {c : PlanCriteria} {d : Instant} (hd : c.targetDate = some d)
    {f : Filters} (hsort : f.sort ∈ Plans.safelist) (h : d.later Plans.dayLength = none) :
    Plans.listStatement c (planListing.filters f) = .error .calendarOverflow := by
  have hend : Plans.endOfTargetDay c.targetDate = .error .calendarOverflow := by
    simp only [Plans.endOfTargetDay, hd, h]
  rw [Plans.listStatement, planListing.sortColumn_filters hsort, hend]
  rfl

/-- A listing compares the target dates of plans with the end of a day. Of every instant it says
whether it is after the day of the date that was asked for, but for the instants that are left out
or let in, and there always are some of these. There is no statement when the calendar does not
reach the end. -/
theorem targetDate_filter_exact_iff {c : PlanCriteria} {d : Instant} (hd : c.targetDate = some d) :
    (∀ f : Filters, f.sort ∈ Plans.safelist →
      if d.day = lastDay ∧ d.second ≠ 0 then
        Plans.listStatement c (planListing.filters f) = .error .calendarOverflow
      else ∃ stmt, Plans.listStatement c (planListing.filters f) = .ok stmt) ∧
    ∀ f stmt, Plans.listStatement c f = .ok stmt → ∃ bound : Instant,
      stmt.ComparesTargetDateWith bound ∧
      (∀ t : Instant, (t.UpTo bound ↔ t.day ≤ d.day) ↔ ¬ LeftOut d t ∧ ¬ LetIn d t) ∧
      ∃ t, LeftOut d t ∨ LetIn d t := by
  refine ⟨fun f hsort => ?_, fun f stmt h => ?_⟩
  · have hend := end_isSome_iff d
    split
    · next hlast =>
      exact listStatement_overflow hd hsort
        (Option.not_isSome_iff_eq_none.mp fun h => hend.mp h hlast)
    · next hbefore =>
      have hdate : ∀ t, c.targetDate = some t → (t.later Plans.dayLength).isSome := by
        intro t ht
        obtain rfl : d = t := Option.some.inj (hd.symm.trans ht)
        exact hend.mpr hbefore
      obtain ⟨stmt, hstmt, -⟩ := plans_listStatement_paged hsort hdate
      exact ⟨stmt, hstmt⟩
  · obtain ⟨bound, hbound, hcompares⟩ := comparesTargetDateWith_of_statement hd h
    exact ⟨bound, hcompares, upTo_end_iff hbound, exists_parted hbound⟩

/-- 1970-01-01T23:59:59.5Z. -/
def lastHalfSecond : Instant := ⟨⟨.epoch, ⟨⟨86399, by decide⟩, ⟨500000000, by decide⟩⟩⟩⟩

theorem epoch_leaves_out_half_second :
    plansUntilEpoch.targetDate = some .epoch ∧ secondPage.sort ∈ Plans.safelist ∧
    ∃ stmt bound, Plans.listStatement plansUntilEpoch (planListing.filters secondPage) = .ok stmt ∧
      stmt.ComparesTargetDateWith bound ∧
      ¬ (lastHalfSecond.UpTo bound ↔ lastHalfSecond.day ≤ Instant.epoch.day) := by
  have hd : plansUntilEpoch.targetDate = some .epoch := rfl
  have hsort : secondPage.sort ∈ Plans.safelist := by decide
  obtain ⟨hstatement, hexact⟩ := targetDate_filter_exact_iff hd
  have hbefore : ¬ (Instant.epoch.day = lastDay ∧ Instant.epoch.second ≠ 0) := by decide
  obtain ⟨stmt, hstmt⟩ := (if_neg hbefore).mp (hstatement secondPage hsort)
  obtain ⟨bound, hcompares, hparted, -⟩ := hexact _ stmt hstmt
  have hout : LeftOut .epoch lastHalfSecond := by
    unfold LeftOut
    decide
  exact ⟨hd, hsort, stmt, bound, hstmt, hcompares, fun h => ((hparted _).mp h).1 hout⟩

/-- 2024-06-01T12:00:00Z. -/
def noon : Instant := ⟨⟨⟨19875, by decide⟩, ⟨⟨43200, by decide⟩, ⟨0, by decide⟩⟩⟩⟩

/-- 2024-06-02T00:00:00Z. -/
def nextMidnight : Instant := ⟨⟨⟨19876, by decide⟩, .midnight⟩⟩

/-- 2024-06-02T11:59:59Z. -/
def nextMorning : Instant := ⟨⟨⟨19876, by decide⟩, ⟨⟨43199, by decide⟩, ⟨0, by decide⟩⟩⟩⟩

def plansUntilNoon : PlanCriteria := { targetDate := some noon }

theorem noon_lets_in_next_day :
    ∃ stmt, Plans.listStatement plansUntilNoon (planListing.filters secondPage) = .ok stmt ∧
      stmt.ComparesTargetDateWith nextMorning ∧
      ¬ (nextMidnight.UpTo nextMorning ↔ nextMidnight.day ≤ noon.day) := by
  have hlater : noon.later Plans.dayLength = some nextMorning := by decide
  have hdate : ∀ t, plansUntilNoon.targetDate = some t → (t.later Plans.dayLength).isSome := by
    intro t ht
    cases ht
    rfl
  have hsort : secondPage.sort ∈ Plans.safelist := by decide
  obtain ⟨stmt, hstmt, -⟩ := plans_listStatement_paged hsort hdate
  obtain ⟨bound, hbound, hcompares⟩ :=
    comparesTargetDateWith_of_statement (d := noon) rfl hstmt
  obtain rfl : nextMorning = bound := Option.some.inj (hlater.symm.trans hbound)
  refine ⟨stmt, hstmt, hcompares, fun h => ?_⟩
  exact absurd (h.mp rfl) (by decide)

end Bookshelf

end RowMap
