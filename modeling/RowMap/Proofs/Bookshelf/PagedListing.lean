import RowMap.Bookshelf.Service
import RowMap.Proofs.Bookshelf.ListingText
import RowMap.Proofs.Paging.Complaints
import RowMap.Proofs.Paging.Walk
import RowMap.Proofs.Record.Scanning

/-!
# Listings in bounds

A listing of a service asks for a page only when the page, its size and the sort value are in their
bounds. Otherwise it complains about the fields that are not, and sends nothing. The sort value is
looked up in the service's own list, whatever list came with it.
-/

namespace RowMap

variable {σ μ α : Type}

/-! ## The errors of a page -/

theorem scan_error [Mapped α] {c : Cursor} {fresh : α} {e : StoreError}
    (h : c.scan fresh = .error e) : ∃ message, e = .parse message := by
  have hscans := (Mapped.toRecord fresh).scans_places.error c
  unfold Cursor.scan at h
  rcases Cursor.read_outcome (c := c) (Mapped.toRecord fresh).layout with
    ⟨hdone, -⟩ | ⟨k, place, why, -, hread⟩
  · simp only [hscans.trans hdone] at h
    cases h
  · simp only [hscans.trans hread] at h
    cases h
    exact ⟨_, rfl⟩

theorem counted_error [Mapped α] {row : Row} {fresh : α} {e : StoreError}
    (h : row.counted fresh = .error e) : ∃ message, e = .parse message := by
  unfold Row.counted at h
  rcases hnext : row.cursor.nextAs .int64 with ⟨why | total, c⟩
  · simp only [hnext] at h
    cases h
    exact ⟨why.message, rfl⟩
  · simp only [hnext] at h
    cases hscan : c.scan fresh with
    | error cause =>
      rw [hscan] at h
      cases h
      exact scan_error hscan
    | ok record =>
      rw [hscan] at h
      cases h

theorem readRows_error [Mapped α] {fresh : α} {total : Int64} {rows : List Row} {e : StoreError}
    (h : readRows fresh total rows = .error e) : ∃ message, e = .parse message := by
  induction rows generalizing total with
  | nil => cases h
  | cons row rows ih =>
    unfold readRows at h
    cases hrow : row.counted fresh with
    | error why =>
      simp only [hrow] at h
      cases h
      exact counted_error hrow
    | ok counted =>
      simp only [hrow] at h
      cases hrest : readRows fresh counted.1 rows with
      | error why =>
        rw [hrest] at h
        cases h
        exact ih hrest
      | ok read =>
        rw [hrest] at h
        cases h

variable [Server σ]

theorem page_error [Mapped α] {stmt : Statement} {f : Filters} {fresh : α} {s : Session σ μ}
    {e : StoreError} (h : (Action.page stmt f fresh s).1 = .error e) :
    (Server.query stmt s.server).1 = .error e ∨ ∃ message, e = .parse message := by
  have hquery := Action.query_apply stmt (s.logged (.ofStatement stmt))
  rw [Action.page, Action.bind_of_ok (Action.emit_apply (.ofStatement stmt) s)] at h
  rw [Session.logged_server] at hquery
  rcases hr : (Server.query stmt s.server).1 with cause | rows
  · rw [hr] at hquery
    rw [Action.bind_of_error hquery] at h
    cases h
    exact .inl rfl
  · rw [hr] at hquery
    rw [Action.bind_of_ok hquery] at h
    refine .inr ?_
    cases hrows : readRows fresh 0 rows with
    | error why =>
      simp only [hrows] at h
      cases h
      exact readRows_error hrows
    | ok read =>
      simp only [hrows] at h
      cases h

namespace Bookshelf

/-! ## What a listing checks -/

/-- The filters with the service's own sort values. -/
def Listing.filters (l : Listing) (f : Filters) : Filters := { f with safelist := l.safelist }

/-- A statement asks for one page: the page, its size and the sort value are in their bounds, and
the last clauses have what these say. -/
structure Listing.Requests (l : Listing) (maxPageSize : Int64) (f : Filters) (stmt : Statement) :
    Prop where
  page : 1 ≤ f.page.toInt ∧ f.page.toInt ≤ 10000000
  pageSize : 1 ≤ f.pageSize.toInt ∧ f.pageSize.toInt ≤ maxPageSize.toInt
  sort : f.sort ∈ l.safelist
  clauses : ∃ column d offset, stmt.PagedBy l.qualifier column d f.pageSize offset ∧
    Filters.Names f.sort column d ∧ column ∈ l.shape.columns.map Prod.snd ∧
    offset.toInt = min ((f.page.toInt - 1) * f.pageSize.toInt) (2 ^ 63 - 1) ∧ 0 ≤ offset.toInt

structure Listing.Checks (l : Listing) (maxPageSize : Int64) (f : Filters)
    (list : Action (Recorder σ) μ α) : Prop where
  /-- The fields out of their bounds are complained about, and nothing happens to the session. -/
  refuses : (l.filters f).offending maxPageSize ≠ [] → ∀ s, ∃ errors : ValidationErrors,
    list s = (.error (.validation errors), s) ∧
      errors.entries.map Prod.fst = (l.filters f).offending maxPageSize ∧
      errors.entries = (l.filters f).complaints maxPageSize
  sends : (l.filters f).offending maxPageSize = [] → ∀ s, ∃ stmt outcome,
    (list s).2.transcript = s.transcript ++ [⟨stmt, outcome⟩] ∧ l.Requests maxPageSize f stmt
  silent_iff : ∀ s, (∃ errors, (list s).1 = .error (.validation errors)) ∧
      (list s).2.transcript = s.transcript ↔ (l.filters f).offending maxPageSize ≠ []
  /-- Complaints about fields come from the checks, when the server has none itself. -/
  complains_iff : (∀ stmt (server : σ) errors, (Server.query stmt server).1 ≠
      .error (.validation errors)) → ∀ s, (∃ errors, (list s).1 = .error (.validation errors)) ↔
    (l.filters f).offending maxPageSize ≠ []

section
variable {l : Listing} {maxPageSize : Int64} {f : Filters}

theorem Listing.checks_of_page [Mapped α] (fresh : α)
    {list : Action (Recorder σ) μ (List α × Metadata)}
    (hrefused : (l.filters f).offending maxPageSize ≠ [] → ∀ s,
      list s = (.error (.validation ⟨(l.filters f).complaints maxPageSize⟩), s))
    (hsent : (l.filters f).offending maxPageSize = [] → ∃ stmt, l.Requests maxPageSize f stmt ∧
      ∀ s, list s = Action.page stmt (l.filters f) fresh s) : l.Checks maxPageSize f list where
  refuses h s := ⟨_, hrefused h s, (l.filters f).fields_complaints maxPageSize, rfl⟩
  sends h s := by
    obtain ⟨stmt, hrequests, hpage⟩ := hsent h
    exact ⟨stmt, _, hpage s ▸ Action.transcript_page stmt _ fresh s, hrequests⟩
  silent_iff s := by
    refine ⟨fun ⟨_, hsilent⟩ hnone => ?_, fun h => ⟨⟨_, congrArg Prod.fst (hrefused h s)⟩, ?_⟩⟩
    · obtain ⟨stmt, -, hpage⟩ := hsent hnone
      rw [hpage s, Action.transcript_page] at hsilent
      simpa using congrArg List.length hsilent
    · rw [hrefused h s]
  complains_iff hserver s := by
    refine ⟨fun ⟨errors, hfails⟩ hnone => ?_, fun h => ⟨_, congrArg Prod.fst (hrefused h s)⟩⟩
    obtain ⟨stmt, -, hpage⟩ := hsent hnone
    rw [hpage s] at hfails
    -- What is left is the server's error, or that of a row that cannot be read.
    rcases page_error hfails with hcause | ⟨message, hparse⟩
    · exact hserver stmt s.server.server errors hcause
    · cases hparse

theorem checkedFilters_eq (l : Listing) (maxPageSize : Int64) (f : Filters) :
    checkedFilters f l.safelist maxPageSize =
    if (l.filters f).offending maxPageSize = [] then .ok (l.filters f)
    else .error (.validation ⟨(l.filters f).complaints maxPageSize⟩) := by
  have hentries := (l.filters f).entries_validate maxPageSize
  have hfields := (l.filters f).fields_complaints maxPageSize
  have hempty : ((l.filters f).validate maxPageSize .empty).isEmpty =
      decide ((l.filters f).offending maxPageSize = []) := by
    rw [ValidationErrors.isEmpty, hentries, ← hfields, Bool.eq_iff_iff]
    simp
  have herrors : (l.filters f).validate maxPageSize .empty =
      ⟨(l.filters f).complaints maxPageSize⟩ := congrArg ValidationErrors.mk hentries
  show (ensureValid ((l.filters f).validate maxPageSize .empty)).bind
    (fun _ => .ok (l.filters f)) = _
  rw [ensureValid, hempty, herrors]
  by_cases h : (l.filters f).offending maxPageSize = []
  · rw [decide_eq_true h, if_pos rfl, if_pos h]
    rfl
  · rw [decide_eq_false h, if_neg nofun, if_neg h]
    rfl

theorem offset_bounds (hpage : 1 ≤ f.page.toInt) (hsize : 1 ≤ f.pageSize.toInt) :
    f.offset.toInt = min ((f.page.toInt - 1) * f.pageSize.toInt) (2 ^ 63 - 1) ∧
      0 ≤ f.offset.toInt := by
  have hskipped : (f.skipped : ℤ) = (f.page.toInt - 1) * f.pageSize.toInt := by
    rw [Filters.skipped, Filters.size, Nat.cast_mul, Int.toNat_of_nonneg (by omega),
      Int.toNat_of_nonneg (by omega)]
  have hoffset := Filters.toInt_offset hsize
  rw [hskipped] at hoffset
  refine ⟨hoffset, ?_⟩
  have hproduct : 0 ≤ (f.page.toInt - 1) * f.pageSize.toInt := hskipped ▸ Int.natCast_nonneg _
  omega

theorem Listing.requests_of_pagedBy {before : List String} (hl : l.Sound before)
    (h : (l.filters f).offending maxPageSize = []) {stmt : Statement}
    (hstmt : stmt.PagedBy l.qualifier (sortedColumn f.sort) (sortedDirection f.sort)
      f.limit f.offset) : l.Requests maxPageSize f stmt := by
  obtain ⟨hpage, hsize, hsort⟩ := ((l.filters f).offending_eq_nil_iff maxPageSize).mp h
  obtain ⟨hnames, hcolumn⟩ := hl.sorts f.sort hsort
  exact ⟨hpage, hsize, hsort, _, _, _, hstmt, hnames, hcolumn, offset_bounds hpage.1 hsize.1⟩

theorem Listing.sortColumn_filters (h : f.sort ∈ l.safelist) :
    (l.filters f).sortColumn = .ok (sortedColumn f.sort) :=
  if_pos (List.contains_iff_mem.mpr h)

end

/-! ## The services -/

theorem books_listStatement_paged (title author : String) (userId : Int64) {f : Filters}
    (h : f.sort ∈ Books.safelist) :
    ∃ stmt, Books.listStatement title author userId (bookListing.filters f) = .ok stmt ∧
      stmt.PagedBy "b" (sortedColumn f.sort) (sortedDirection f.sort)
        f.limit f.offset := by
  let p := Parameters.ofList [("title", text title), ("author", text author),
    ("userID", int64 userId), ("limit", int64 f.limit), ("offset", int64 f.offset)]
  have hbound : (["title", "title", "author", "author", "userID"].all
      fun name => (p.get? name).isSome) = true := rfl
  obtain ⟨stmt, hstmt, hpaged⟩ := bookListing_sound.pagedBy h (p := p) (List.all_eq_true.mp hbound)
    f.limit f.offset rfl rfl
  rw [template_bookListing] at hstmt
  refine ⟨stmt, ?_, hpaged⟩
  rw [Books.listStatement, bookListing.sortColumn_filters h]
  exact hstmt

theorem plans_listStatement_paged {c : PlanCriteria} {f : Filters} (h : f.sort ∈ Plans.safelist)
    (hdate : ∀ t, c.targetDate = some t → (t.later Plans.dayLength).isSome) :
    ∃ stmt, Plans.listStatement c (planListing.filters f) = .ok stmt ∧
      stmt.PagedBy "r" (sortedColumn f.sort) (sortedDirection f.sort)
        f.limit f.offset := by
  obtain ⟨targetDate, htarget⟩ : ∃ t, Plans.endOfTargetDay c.targetDate = .ok t := by
    unfold Plans.endOfTargetDay
    cases hc : c.targetDate with
    | none => exact ⟨none, rfl⟩
    | some t =>
      obtain ⟨later, hlater⟩ := Option.isSome_iff_exists.mp (hdate t hc)
      exact ⟨some later, by simp only [hlater]⟩
  let p := Parameters.ofList [("status", (ScalarType.coded statuses).bindOption c.status),
    ("startDate", ScalarType.instant.bindOption c.startDate),
    ("targetDate", ScalarType.instant.bindOption targetDate), ("userID", int64 c.userId),
    ("bookID", int64 c.bookId), ("limit", int64 f.limit), ("offset", int64 f.offset)]
  have hbound : (["status", "status", "startDate", "startDate", "targetDate", "targetDate",
      "userID", "bookID"].all fun name => (p.get? name).isSome) = true := rfl
  obtain ⟨stmt, hstmt, hpaged⟩ := planListing_sound.pagedBy h (p := p) (List.all_eq_true.mp hbound)
    f.limit f.offset rfl rfl
  rw [template_planListing] at hstmt
  refine ⟨stmt, ?_, hpaged⟩
  rw [Plans.listStatement, planListing.sortColumn_filters h, htarget]
  exact hstmt

theorem books_check (settings : Settings) (title author : String) (userId : Int64) (f : Filters) :
    bookListing.Checks settings.maxPageSize f
      (BookService.findAll settings title author userId f : Action (Recorder σ) μ _) := by
  have hchecked := checkedFilters_eq bookListing settings.maxPageSize f
  refine Listing.checks_of_page Books.fresh (fun h s => ?_) fun h => ?_
  · rw [if_neg h] at hchecked
    exact Action.lift_bind_error hchecked _ s
  · rw [if_pos h] at hchecked
    obtain ⟨-, -, hsort⟩ :=
      ((bookListing.filters f).offending_eq_nil_iff settings.maxPageSize).mp h
    obtain ⟨stmt, hstmt, hpaged⟩ := books_listStatement_paged title author userId hsort
    refine ⟨stmt, Listing.requests_of_pagedBy bookListing_sound h hpaged, fun s => ?_⟩
    exact (Action.lift_bind_ok hchecked _ s).trans (Action.lift_bind_ok hstmt _ s)

theorem plans_check (settings : Settings) {c : PlanCriteria} (f : Filters)
    (hdate : ∀ t, c.targetDate = some t → (t.later Plans.dayLength).isSome) :
    planListing.Checks settings.maxPageSize f
      (PlanService.findAll settings c f : Action (Recorder σ) μ _) := by
  have hchecked := checkedFilters_eq planListing settings.maxPageSize f
  refine Listing.checks_of_page Plans.fresh (fun h s => ?_) fun h => ?_
  · rw [if_neg h] at hchecked
    exact Action.lift_bind_error hchecked _ s
  · rw [if_pos h] at hchecked
    obtain ⟨-, -, hsort⟩ :=
      ((planListing.filters f).offending_eq_nil_iff settings.maxPageSize).mp h
    obtain ⟨stmt, hstmt, hpaged⟩ := plans_listStatement_paged hsort hdate
    refine ⟨stmt, Listing.requests_of_pagedBy planListing_sound h hpaged, fun s => ?_⟩
    exact (Action.lift_bind_ok hchecked _ s).trans (Action.lift_bind_ok hstmt _ s)

/-- No page, size or sort value out of its bounds gets into a statement of a service. -/
theorem listings_check_paging (settings : Settings) (f : Filters) :
    (∀ {σ μ : Type} [Server σ] (title author : String) (userId : Int64),
      bookListing.Checks settings.maxPageSize f
        (BookService.findAll settings title author userId f : Action (Recorder σ) μ _)) ∧
    ∀ {σ μ : Type} [Server σ] (c : PlanCriteria),
      (∀ t, c.targetDate = some t → (t.later Plans.dayLength).isSome) →
      planListing.Checks settings.maxPageSize f
        (PlanService.findAll settings c f : Action (Recorder σ) μ _) :=
  ⟨fun title author userId => books_check settings title author userId f,
    fun _ hdate => plans_check settings f hdate⟩

def plansUntilEpoch : PlanCriteria := { targetDate := some .epoch }

def secondPage : Filters := { page := 2, pageSize := 10, sort := "-priority" }

/-- The sort value is allowed by the caller alone. -/
def smuggled : Filters :=
  { page := 0, sort := "id; DROP TABLE books", safelist := ["id; DROP TABLE books"] }

theorem smuggled_refused :
    (∀ t, plansUntilEpoch.targetDate = some t → (t.later Plans.dayLength).isSome) ∧
    (∀ stmt (server : ModelWrite.OneRow) errors,
      (Server.query stmt server).1 ≠ .error (.validation errors)) ∧
    let s : Session (Recorder ModelWrite.OneRow) Unit :=
      ⟨ModelWrite.onlyRow [ScalarType.int64.bind (42 : Int64), .of (.instant .epoch)], (), []⟩
    (∃ stmt outcome, (PlanService.findAll {} plansUntilEpoch secondPage s).2.transcript =
        [⟨stmt, outcome⟩] ∧ planListing.Requests ({} : Settings).maxPageSize secondPage stmt) ∧
      (¬∃ errors, (PlanService.findAll {} plansUntilEpoch secondPage s).1 =
        .error (.validation errors)) ∧
      ∃ errors : ValidationErrors,
        BookService.findAll {} "" "" 7 smuggled s = (.error (.validation errors), s) ∧
          errors.entries.map Prod.fst = ["page", "sort"] := by
  have hdate : ∀ t, plansUntilEpoch.targetDate = some t → (t.later Plans.dayLength).isSome := by
    intro t ht
    cases ht
    rfl
  have hserver : ∀ stmt (server : ModelWrite.OneRow) errors,
      (Server.query stmt server).1 ≠ .error (.validation errors) := nofun
  have hinside : (planListing.filters secondPage).offending ({} : Settings).maxPageSize = [] := by
    decide
  have hfields : (bookListing.filters smuggled).offending ({} : Settings).maxPageSize =
      ["page", "sort"] := by decide
  refine ⟨hdate, hserver, ?_⟩
  intro s
  have hplans := (listings_check_paging {} secondPage).2 (σ := ModelWrite.OneRow) (μ := Unit)
    plansUntilEpoch hdate
  have hbooks := (listings_check_paging {} smuggled).1 (σ := ModelWrite.OneRow) (μ := Unit) "" "" 7
  obtain ⟨errors, hrefused, herrors, -⟩ := hbooks.refuses (hfields ▸ nofun) s
  refine ⟨hplans.sends hinside s, fun h => ?_, errors, hrefused, herrors.trans hfields⟩
  exact (hplans.complains_iff hserver s).mp h hinside

end Bookshelf

end RowMap
